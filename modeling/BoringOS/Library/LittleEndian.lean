import Mathlib.Tactic.Ring
import Mathlib.Data.Nat.Bitwise

namespace BoringOS.Library

/-!
# The bytes of a word

A word is a number, and its bytes are its digits to the base of 256, the least
significant one first.  Replacing one byte leaves the others as they are.
-/

variable (word position : Nat)

/-- A byte of a word -/
def byteAt : UInt8 := UInt8.ofNat (word / 256 ^ position)

/-- A word with one byte replaced -/
def setByte (byte : UInt8) : Nat :=
  word / (256 ^ position * 256) * (256 ^ position * 256) + byte.toNat * 256 ^ position + word % 256 ^ position

theorem setByte_below (byte : UInt8) :
    byte.toNat * 256 ^ position + word % 256 ^ position < 256 ^ position * 256 := by
  have small : byte.toNat ≤ 255 := Nat.le_of_lt_succ byte.toNat_lt
  have positive : 0 < 256 ^ position := Nat.pow_pos (by decide)
  have rest := Nat.mod_lt word positive
  calc byte.toNat * 256 ^ position + word % 256 ^ position < 255 * 256 ^ position + 256 ^ position :=
        Nat.add_lt_add_of_le_of_lt (Nat.mul_le_mul_right _ small) rest
    _ = 256 ^ position * 256 := by omega

theorem byteAt_setByte_self (byte : UInt8) :
    byteAt (setByte word position byte) position = byte := by
  have positive : 0 < 256 ^ position := Nat.pow_pos (by decide)
  have shape : setByte word position byte =
      (word / (256 ^ position * 256) * 256 + byte.toNat) * 256 ^ position +
        word % 256 ^ position := by
    rw [setByte, Nat.add_mul, Nat.mul_assoc, Nat.mul_comm 256]
  apply UInt8.toNat_inj.mp
  rw [byteAt, shape, Nat.add_comm, Nat.add_mul_div_right _ _ positive,
    Nat.div_eq_of_lt (Nat.mod_lt _ positive), Nat.zero_add, UInt8.toNat_ofNat']
  have small := byte.toNat_lt
  omega

theorem byteAt_setByte_of_ne (word : Nat) {position other : Nat} (byte : UInt8)
    (different : other ≠ position) :
    byteAt (setByte word position byte) other = byteAt word other := by
  apply UInt8.toNat_inj.mp
  rw [byteAt, byteAt, UInt8.toNat_ofNat', UInt8.toNat_ofNat']
  rcases Nat.lt_or_gt_of_ne different with below | above
  · rcases Nat.exists_eq_add_of_lt below with ⟨gap, rfl⟩
    have power : 256 ^ (other + gap + 1) = 256 ^ other * (256 * 256 ^ gap) := by
      rw [Nat.add_assoc, Nat.pow_add, Nat.pow_succ, Nat.mul_comm (256 ^ gap)]
    have shape : setByte word (other + gap + 1) byte =
        word % 256 ^ (other + gap + 1) + 256 ^ other * (256 *
          (256 ^ gap * (word / (256 ^ (other + gap + 1) * 256) * 256 + byte.toNat))) := by
      rw [setByte]
      ring
    rw [shape, Nat.add_mul_div_left _ _ (Nat.pow_pos (by decide)), power,
      Nat.mod_mul_right_div_self, show 2 ^ 8 = 256 from rfl, Nat.add_mul_mod_self_left, Nat.mod_mul_right_mod]
  · rcases Nat.exists_eq_add_of_lt above with ⟨gap, rfl⟩
    have power : 256 ^ (position + gap + 1) = 256 ^ position * 256 * 256 ^ gap := by
      rw [Nat.add_assoc, Nat.add_comm gap, Nat.pow_add, Nat.pow_add, Nat.pow_one, Nat.mul_assoc]
    have shape : setByte word position byte = (byte.toNat * 256 ^ position + word % 256 ^ position) +
          256 ^ position * 256 * (word / (256 ^ position * 256)) := by
      rw [setByte]
      ring
    have upper : setByte word position byte / (256 ^ position * 256) = word / (256 ^ position * 256) := by
      rw [shape, Nat.add_mul_div_left _ _ (Nat.mul_pos (Nat.pow_pos (by decide)) (by decide)),
        Nat.div_eq_of_lt (setByte_below word position byte), Nat.zero_add]
    rw [power, ← Nat.div_div_eq_div_mul, ← Nat.div_div_eq_div_mul word, upper]

/-!
## Little-endian numbers and fixed-width fields

A number of some width is stored with its lowest byte first.  A record is a
concatenation of fields of fixed widths, and a field is read back as a slice.
-/

/-- The number that some bytes hold, lowest byte first. -/
def loadLe : List UInt8 → Nat
  | [] => 0
  | byte :: rest => byte.toNat ||| (loadLe rest <<< 8)

/-- The lowest bytes of a number, lowest byte first. -/
def storeLe : (width : Nat) → Nat → List UInt8
  | 0, _ => []
  | width + 1, value => UInt8.ofNat (value &&& 0xff) :: storeLe width (value >>> 8)

variable (bytes : List UInt8)

/-- A stretch of a record. -/
def slice (offset width : Nat) : List UInt8 := (bytes.drop offset).take width

theorem loadLe_cons (byte : UInt8) (rest : List UInt8) :
    loadLe (byte :: rest) = byte.toNat + 256 * loadLe rest := by
  have small : byte.toNat < 2 ^ 8 := byte.toNat_lt
  rw [loadLe, Nat.lor_comm, ← Nat.shiftLeft_add_eq_or_of_lt small, Nat.shiftLeft_eq]
  omega

@[simp] theorem length_storeLe (width value : Nat) : (storeLe width value).length = width := by
  induction width generalizing value with
  | zero => rfl
  | succ width ih => rw [storeLe, List.length_cons, ih]

theorem loadLe_storeLe {width value : Nat} (fits : value < 256 ^ width) :
    loadLe (storeLe width value) = value := by
  induction width generalizing value with
  | zero =>
    exact (Nat.lt_one_iff.mp fits).symm
  | succ width ih =>
    have low : value &&& 0xff = value % 256 := Nat.and_two_pow_sub_one_eq_mod value 8
    have high : value >>> 8 = value / 256 := Nat.shiftRight_eq_div_pow value 8
    have fits' : value / 256 < 256 ^ width := by
      omega
    simp_all [storeLe, loadLe_cons, Nat.mod_add_div]

theorem loadLe_lt : loadLe bytes < 256 ^ bytes.length := by
  induction bytes with
  | nil => exact Nat.one_pos
  | cons byte rest ih =>
    have small : byte.toNat < 256 := byte.toNat_lt
    rw [loadLe_cons, List.length_cons, Nat.pow_succ]
    omega

/-- What does not fit into the bytes is lost. -/
theorem loadLe_storeLe_mod (width value : Nat) :
    loadLe (storeLe width value) = value % 256 ^ width := by
  induction width generalizing value with
  | zero =>
    rw [Nat.pow_zero, Nat.mod_one]
    rfl
  | succ width ih =>
    have low : value &&& 0xff = value % 256 := Nat.and_two_pow_sub_one_eq_mod value 8
    have high : value >>> 8 = value / 256 := Nat.shiftRight_eq_div_pow value 8
    have byte : (UInt8.ofNat (value % 256)).toNat = value % 256 := by
      rw [UInt8.toNat_ofNat']
      omega
    rw [storeLe, low, high, loadLe_cons, ih, byte, Nat.pow_succ', Nat.mod_mul]

/-- The bytes of a number in two parts, the low ones first -/
theorem storeLe_add (low high value : Nat) :
    storeLe (low + high) value = storeLe low value ++ storeLe high (value >>> (8 * low)) := by
  induction low generalizing value with
  | zero => rw [Nat.zero_add, Nat.mul_zero, Nat.shiftRight_zero]; rfl
  | succ low ih =>
    rw [Nat.succ_add, storeLe, storeLe, ih, ← Nat.shiftRight_add, Nat.mul_succ, Nat.add_comm 8 (8 * low)]
    rfl

variable {first second : List UInt8} {offset width : Nat}

theorem slice_append (behind : first.length ≤ offset) :
    slice (first ++ second) offset width = slice second (offset - first.length) width := by
  rw [slice, slice, List.drop_append, List.drop_eq_nil_of_le behind, List.nil_append]

/-- A field of the first part of a record -/
theorem slice_append_left (inside : offset + width ≤ first.length) :
    slice (first ++ second) offset width = slice first offset width := by
  rw [slice, slice, List.drop_append_of_le_length (by omega),
    List.take_append_of_le_length (by rw [List.length_drop]; omega)]

/-- The first field of a record -/
theorem slice_head {width : Nat} (wide : first.length = width) :
    slice (first ++ second) 0 width = first := by
  rw [slice, List.drop_zero, List.take_left' wide]

/-- A field of some width holds a number of this width. -/
theorem loadLe_slice_lt (offset width : Nat) : loadLe (slice bytes offset width) < 256 ^ width := by
  refine Nat.lt_of_lt_of_le (loadLe_lt _) (Nat.pow_le_pow_right (by decide) ?_)
  rw [slice, List.length_take]
  exact Nat.min_le_left _ _

/-- A stretch in two parts -/
theorem slice_add (offset first second : Nat) :
    slice bytes offset (first + second) =
      slice bytes offset first ++ slice bytes (offset + first) second := by
  rw [slice, slice, slice, List.take_add, List.drop_drop]

theorem slice_all : slice bytes 0 bytes.length = bytes := by
  rw [slice, List.drop_zero, List.take_length]

theorem length_slice {bytes : List UInt8}
    (inside : offset + width ≤ bytes.length) : (slice bytes offset width).length = width := by
  rw [slice, List.length_take, List.length_drop]
  omega

theorem slice_slice {bytes : List UInt8} {offset width inner count : Nat} (inside : inner + count ≤ width) :
    slice (slice bytes offset width) inner count = slice bytes (offset + inner) count := by
  rw [slice, slice, slice, List.drop_take, List.take_take, List.drop_drop,
    Nat.min_eq_left (Nat.le_sub_of_add_le' inside)]

/-- The number that some bytes hold is stored as these bytes. -/
theorem storeLe_loadLe : storeLe bytes.length (loadLe bytes) = bytes := by
  induction bytes with
  | nil => rfl
  | cons byte rest ih =>
    have small : byte.toNat < 256 := byte.toNat_lt
    have low : (byte.toNat + 256 * loadLe rest) &&& 0xff = byte.toNat := by
      have masked := Nat.and_two_pow_sub_one_eq_mod (byte.toNat + 256 * loadLe rest) 8
      have mod : (byte.toNat + 256 * loadLe rest) % 2 ^ 8 = byte.toNat := by omega
      exact masked.trans mod
    have high : (byte.toNat + 256 * loadLe rest) >>> 8 = loadLe rest := by
      omega
    rw [List.length_cons, loadLe_cons, storeLe, low, high, ih, UInt8.ofNat_toNat]

/-- A field that is read and stored again -/
theorem storeLe_slice {bytes : List UInt8} (inside : offset + width ≤ bytes.length) :
    storeLe width (loadLe (slice bytes offset width)) = slice bytes offset width := by
  grind [storeLe_loadLe, length_slice]

theorem length_flatMap_range {record : Nat → List UInt8} {width : Nat}
    (wide : ∀ index, (record index).length = width) (count : Nat) :
    ((List.range count).flatMap record).length = count * width := by
  induction count with
  | zero => rw [Nat.zero_mul]; rfl
  | succ count ih =>
    rw [List.range_succ, List.flatMap_append, List.length_append, ih, List.flatMap_singleton,
      wide, Nat.succ_mul]

theorem slice_flatMap_range {record : Nat → List UInt8} {width : Nat}
    (wide : ∀ index, (record index).length = width) {count index : Nat} (below : index < count) :
    slice ((List.range count).flatMap record) (index * width) width = record index := by
  induction count with
  | zero => exact absurd below (Nat.not_lt_zero _)
  | succ count ih =>
    have length := length_flatMap_range wide count
    rw [List.range_succ, List.flatMap_append, List.flatMap_singleton]
    rcases Nat.lt_succ_iff_lt_or_eq.mp below with earlier | rfl
    · have inside : index * width + width ≤ count * width := by
        rw [← Nat.succ_mul]
        exact Nat.mul_le_mul_right _ earlier
      rw [slice_append_left (by omega)]
      exact ih earlier
    · rw [slice_append (Nat.le_of_eq length), length, Nat.sub_self, slice, List.drop_zero,
        List.take_of_length_le (Nat.le_of_eq (wide _))]

/-- The records of a table make it up. -/
theorem flatMap_range_slice (offset width count : Nat) :
    ((List.range count).flatMap fun index => slice bytes (offset + index * width) width) =
      slice bytes offset (count * width) := by
  induction count with
  | zero =>
    rw [Nat.zero_mul, slice, List.take_zero]
    rfl
  | succ count ih =>
    rw [List.range_succ, List.flatMap_append, ih, List.flatMap_singleton, Nat.succ_mul, slice_add]

end BoringOS.Library
