import Mathlib.Tactic.Ring

namespace BoringOS.Library

/-!
# Even splits

A span is cut into tiles that differ in length by at most one.  The first tiles
take the remainder, and a gap of fixed length lies between two tiles.  The
tiles and gaps fill the span together with the gaps exactly.
-/

/-- The length of a tile. -/
def tileLength (span count index : Nat) : Nat :=
  span / count + if index < span % count then 1 else 0

/-- Where a tile starts. -/
def tileStart (span count gap index : Nat) : Nat :=
  index * (span / count + gap) + min index (span % count)

variable {span count gap index other : Nat}

@[simp] theorem tileStart_zero : tileStart span count gap 0 = 0 := by
  unfold tileStart
  rw [Nat.zero_mul, Nat.zero_min]

theorem tileStart_succ (span count gap index : Nat) :
    tileStart span count gap (index + 1) =
      tileStart span count gap index + tileLength span count index + gap := by
  unfold tileStart tileLength
  rw [Nat.succ_mul]
  grind

theorem tile_before (earlier : index < other) :
    tileStart span count gap index + tileLength span count index + gap ≤
      tileStart span count gap other := by
  induction other with
  | zero => exact absurd earlier (Nat.not_lt_zero _)
  | succ other ih =>
    rw [tileStart_succ span count gap other]
    grind

/-- After the last tile comes the end of the span with its gaps. -/
theorem tileStart_count (positive : 0 < count) :
    tileStart span count gap count = span + gap * count := by
  unfold tileStart
  rw [Nat.min_eq_right (Nat.le_of_lt (Nat.mod_lt span positive)), Nat.mul_add,
    Nat.add_right_comm, Nat.div_add_mod, Nat.mul_comm count gap]

theorem tile_inside (isTile : index < count) :
    tileStart span count gap index + tileLength span count index ≤ span + gap * (count - 1) := by
  have positive : 0 < count := Nat.zero_lt_of_lt isTile
  have isEnd := @tileStart_count span count gap positive
  have split : gap * count = gap * (count - 1) + gap := by
    rw [← Nat.mul_succ, Nat.succ_eq_add_one, Nat.sub_add_cancel positive]
  have bound := @tile_before span count gap index count isTile
  omega

end BoringOS.Library
