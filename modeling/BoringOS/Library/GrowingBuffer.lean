import Mathlib.Data.List.Basic

namespace BoringOS.Library

/-!
# Files in growing buffers

A file is a list of bytes.  It can be written at any offset and resized, and
what lies between its end and a write behind it reads as zero.  An
implementation keeps the file at the beginning of a block, and the rest of the
block may hold anything.  The rules say that it is enough to clear the bytes
between the two ends when the file grows.
-/

variable (bytes : List UInt8)

/-- The file cut off, or continued with zeros. -/
def resize (size : Nat) : List UInt8 := bytes.take size ++ List.replicate (size - bytes.length) 0

/-- The file after a write.  Nothing happens without input. -/
def writeAt (offset : Nat) (input : List UInt8) : List UInt8 :=
  if input = [] then bytes
  else resize bytes offset ++ input ++ bytes.drop (offset + input.length)

/-- The bytes from an offset on, as far as there are any. -/
def readAt (offset length : Nat) : List UInt8 := (bytes.drop offset).take length

/-- The block with the bytes from an offset on replaced. -/
def copyInto (block : List UInt8) (offset : Nat) (source : List UInt8) : List UInt8 :=
  block.take offset ++ source ++ block.drop (offset + source.length)

theorem length_copyInto {block source : List UInt8} {offset : Nat}
    (inside : offset + source.length ≤ block.length) :
    (copyInto block offset source).length = block.length := by
  rw [copyInto, List.length_append, List.length_append, List.length_take, List.length_drop]
  omega

@[simp] theorem length_resize (size : Nat) : (resize bytes size).length = size := by
  rw [resize, List.length_append, List.length_take, List.length_replicate]
  omega

theorem resize_of_le {bytes : List UInt8} {size : Nat} (shorter : size ≤ bytes.length) :
    resize bytes size = bytes.take size := by
  rw [resize, Nat.sub_eq_zero_of_le shorter, List.replicate_zero, List.append_nil]

/-- Clearing the bytes up to the new end continues the file with zeros. -/
theorem take_clear {block : List UInt8} {size newSize : Nat} (grows : size ≤ newSize)
    (inside : newSize ≤ block.length) :
    (copyInto block size (List.replicate (newSize - size) 0)).take newSize =
      resize (block.take size) newSize := by
  have lengthTake : (block.take size).length = size := by
    rw [List.length_take]
    omega
  rw [copyInto, resize, lengthTake, List.take_take, Nat.min_eq_right grows]
  apply List.take_left'
  simp [*]

/-- A write that starts inside of the file. -/
theorem take_copyInto {block input : List UInt8} {offset size : Nat} (starts : offset ≤ size)
    (fits : offset + input.length ≤ block.length) :
    (copyInto block offset input).take (max size (offset + input.length)) =
      (block.take size).take offset ++ input ++ (block.take size).drop (offset + input.length) := by
  rw [List.take_take, Nat.min_eq_left starts, copyInto, List.take_append]
  have lengthFront : (block.take offset ++ input).length = offset + input.length := by
    rw [List.length_append, List.length_take]
    omega
  rw [lengthFront, List.take_of_length_le (by omega), List.drop_take]
  congr 2
  omega

/-- A write, after the bytes between the end of the file and the offset are cleared. -/
theorem take_write {block input : List UInt8} {offset size : Nat} (some' : input ≠ [])
    (inside : size ≤ block.length) (fits : offset + input.length ≤ block.length) :
    (copyInto (if size < offset then copyInto block size (List.replicate (offset - size) 0)
        else block) offset input).take (max size (offset + input.length)) =
      writeAt (block.take size) offset input := by
  have lengthTake : (block.take size).length = size := by
    rw [List.length_take]
    omega
  rw [writeAt, if_neg some']
  by_cases gap : size < offset
  · rw [if_pos gap]
    have zeros : size + (List.replicate (offset - size) (0 : UInt8)).length ≤ block.length := by
      rw [List.length_replicate]
      omega
    have cleared := length_copyInto zeros
    have fits' : offset + input.length ≤ (copyInto block size (List.replicate (offset - size) 0)).length := by
      rw [cleared]
      exact fits
    have whole := take_copyInto (Nat.le_refl offset) fits'
    have sameSize : max size (offset + input.length) = max offset (offset + input.length) := by
      omega
    rw [sameSize, whole, List.take_take, Nat.min_self, take_clear (by omega) (by omega),
      List.drop_eq_nil_of_le (by rw [length_resize]; omega),
      List.drop_eq_nil_of_le (by rw [lengthTake]; omega)]
  grind [take_copyInto, resize_of_le]

/-- Reading the file at the beginning of a block -/
theorem readAt_take {block : List UInt8} {offset size length : Nat} :
    readAt (block.take size) offset length =
      (block.drop offset).take (min length (size - offset)) := by
  rw [readAt, List.drop_take, List.take_take]

end BoringOS.Library
