import Mathlib.Data.Nat.Bitwise

namespace BoringOS.Library

/-!
# Volumes of bytes

A volume is a function from offsets to bytes.  Reading takes a stretch of it
as a list, and overwriting replaces a stretch by a list.  The rules say how a
stretch splits, and that two stretches that do not overlap do not interfere.
-/

/-- The bytes of a volume, by offset. -/
abbrev ByteVolume := Nat → UInt8

namespace ByteVolume

variable (volume : ByteVolume)

/-- The bytes of a stretch. -/
def read (offset length : Nat) : List UInt8 := (List.range' offset length).map volume

variable (offset : Nat)

/-- The volume with the bytes from an offset on replaced. -/
def overwrite (bytes : List UInt8) : ByteVolume :=
  fun position =>
    if offset ≤ position ∧ position < offset + bytes.length then bytes.getD (position - offset) 0
    else volume position

@[simp] theorem read_zero : volume.read offset 0 = [] := rfl

@[simp] theorem length_read (offset length : Nat) :
    (volume.read offset length).length = length := by
  rw [read, List.length_map, List.length_range']

theorem read_add (offset first second : Nat) :
    volume.read offset (first + second) =
      volume.read offset first ++ volume.read (offset + first) second := by
  rw [read, read, read, ← List.map_append, List.range'_append_1]

theorem getElem?_read {volume : ByteVolume} {offset length index : Nat} (inside : index < length) :
    (volume.read offset length)[index]? = some (volume (offset + index)) := by
  simp_all [read]

theorem getD_read {volume : ByteVolume} {offset length index : Nat} (inside : index < length) :
    (volume.read offset length).getD index 0 = volume (offset + index) := by
  rw [List.getD_eq_getElem?_getD, getElem?_read inside, Option.getD_some]

/-- Two stretches with the same bytes, position by position. -/
theorem read_congr {first second : ByteVolume} {offset offset' length : Nat}
    (agree : ∀ index, index < length → first (offset + index) = second (offset' + index)) :
    first.read offset length = second.read offset' length := by
  apply List.ext_getElem?
  intro index
  by_cases inside : index < length
  · rw [getElem?_read inside, getElem?_read inside, agree index inside]
  simp [*]

theorem overwrite_outside {volume : ByteVolume} {offset position : Nat} {bytes : List UInt8}
    (outside : position < offset ∨ offset + bytes.length ≤ position) :
    volume.overwrite offset bytes position = volume position := by
  grind [overwrite]

theorem overwrite_inside {volume : ByteVolume} {offset index : Nat} {bytes : List UInt8}
    (inside : index < bytes.length) :
    volume.overwrite offset bytes (offset + index) = bytes.getD index 0 := by
  simp_all [overwrite, Nat.add_sub_cancel_left]

@[simp] theorem overwrite_nil : volume.overwrite offset [] = volume := by
  funext position
  apply overwrite_outside
  exact Nat.lt_or_ge position offset

/-- Overwriting in two steps, the second right behind the first. -/
theorem overwrite_overwrite (first second : List UInt8) :
    (volume.overwrite offset first).overwrite (offset + first.length) second =
      volume.overwrite offset (first ++ second) := by
  funext position
  by_cases before : position < offset
  · grind [overwrite_outside]
  rcases Nat.exists_eq_add_of_le (Nat.not_lt.mp before) with ⟨index, rfl⟩
  by_cases inFirst : index < first.length
  · grind [overwrite_outside, overwrite_inside]
  rcases Nat.exists_eq_add_of_le (Nat.not_lt.mp inFirst) with ⟨rest, rfl⟩
  rw [← Nat.add_assoc]
  by_cases inSecond : rest < second.length
  · rw [overwrite_inside inSecond, Nat.add_assoc, overwrite_inside (by rw [List.length_append]; omega),
      List.getD_append_right _ _ _ _ (Nat.le_add_right _ _), Nat.add_sub_cancel_left]
  grind [overwrite_outside]

theorem read_overwrite_same (bytes : List UInt8) :
    (volume.overwrite offset bytes).read offset bytes.length = bytes := by
  apply List.ext_getElem?
  intro index
  by_cases inside : index < bytes.length
  · rw [getElem?_read inside, overwrite_inside inside, List.getD_eq_getElem?_getD,
      List.getElem?_eq_getElem inside, Option.getD_some]
  simp [*]

theorem read_overwrite_apart {volume : ByteVolume} {offset offset' length : Nat}
    {bytes : List UInt8} (apart : offset' + length ≤ offset ∨ offset + bytes.length ≤ offset') :
    (volume.overwrite offset bytes).read offset' length = volume.read offset' length := by
  apply read_congr
  intro index inside
  exact overwrite_outside (by omega)

end ByteVolume

end BoringOS.Library
