import Mathlib.Data.Nat.Count

namespace BoringOS.Library

/-!
# Bitmaps kept in 64-bit words

A bitmap is an array of words.  Entry `index` is one bit of word
`index / 64`.  The masks of the usual C idiom are written out, and the
lemmas reduce them to reading and replacing one Boolean, which is all that
a client of the bitmap needs.
-/

/-- An array of words.  Bounds are the client's. -/
abbrev WordBitmap := Nat → BitVec 64

namespace WordBitmap

variable (index : Nat)

/-- The mask of one entry inside its word. -/
def mask : BitVec 64 := 1#64 <<< (index % 64)

variable (bitmap : WordBitmap)

/-- Is the entry set? -/
def isSet (index : Nat) : Bool := bitmap (index / 64) &&& mask index != 0#64

/-- Replace the word of an entry. -/
def setWord (word : Nat) (value : BitVec 64) : WordBitmap :=
  fun other => if other = word then value else bitmap other

def set (index : Nat) : WordBitmap :=
  bitmap.setWord (index / 64) (bitmap (index / 64) ||| mask index)

def clear (index : Nat) : WordBitmap :=
  bitmap.setWord (index / 64) (bitmap (index / 64) &&& ~~~mask index)

theorem mask_eq_twoPow : mask index = BitVec.twoPow 64 (index % 64) :=
  (BitVec.twoPow_eq 64 (index % 64)).symm

theorem getLsbD_mask (index bit : Nat) : (mask index).getLsbD bit = decide (bit = index % 64) := by
  rw [mask_eq_twoPow, BitVec.getLsbD_twoPow]
  grind

/-- The masked word is non-zero exactly when the addressed bit is. -/
theorem isSet_eq_getLsbD (index : Nat) :
    bitmap.isSet index = (bitmap (index / 64)).getLsbD (index % 64) := by
  have inWord : index % 64 < 64 := Nat.mod_lt _ (by decide)
  rw [isSet, mask_eq_twoPow, BitVec.and_twoPow]
  cases bit : (bitmap (index / 64)).getLsbD (index % 64) with
  | false => simp
  | true =>
    simp only [if_true, bne_iff_ne, ne_eq]
    intro zero
    have atBit := congrArg (fun word => word.getLsbD (index % 64)) zero
    simp [inWord] at atBit

private theorem same_entry {index other : Nat} (word : other / 64 = index / 64)
    (bit : other % 64 = index % 64) : other = index := by
  omega

theorem isSet_set (index other : Nat) :
    (bitmap.set index).isSet other = if other = index then true else bitmap.isSet other := by
  simp only [isSet_eq_getLsbD, set, setWord]
  by_cases word : other / 64 = index / 64
  · by_cases bit : other % 64 = index % 64
    · grind [getLsbD_mask]
    grind [getLsbD_mask]
  grind

theorem isSet_clear (index other : Nat) :
    (bitmap.clear index).isSet other = if other = index then false else bitmap.isSet other := by
  simp only [isSet_eq_getLsbD, clear, setWord]
  by_cases word : other / 64 = index / 64
  · by_cases bit : other % 64 = index % 64
    · simp [same_entry word bit, getLsbD_mask]
    grind [getLsbD_mask]
  grind

/-- The number of clear entries below a bound. -/
def clearCount (bound : Nat) : Nat := Nat.count (fun index => bitmap.isSet index = false) bound

/-- The number of set entries below a bound. -/
def setCount (bound : Nat) : Nat := Nat.count (fun index => bitmap.isSet index = true) bound

theorem clearCount_add_setCount (bound : Nat) :
    bitmap.clearCount bound + bitmap.setCount bound = bound := by
  induction bound with
  | zero => rfl
  | succ bound ih =>
    grind [clearCount, setCount]

theorem clearCount_pos {bitmap : WordBitmap} {index bound : Nat} (below : index < bound)
    (isClear : bitmap.isSet index = false) : 0 < bitmap.clearCount bound :=
  Nat.pos_of_ne_zero (Nat.count_ne_iff_exists.mpr ⟨index, below, isClear⟩)

/-- Two bitmaps that differ at one entry below the bound, which only the
first has clear, differ by one in the number of clear entries. -/
theorem clearCount_of_differ_at {first second : WordBitmap} {index : Nat}
    (firstClear : first.isSet index = false) (secondSet : second.isSet index = true)
    (elsewhere : ∀ other, other ≠ index → first.isSet other = second.isSet other) :
    ∀ bound, index < bound → first.clearCount bound = second.clearCount bound + 1 := by
  have agree_below : ∀ bound, bound ≤ index →
      first.clearCount bound = second.clearCount bound := by
    intro bound within
    induction bound with
    | zero => rfl
    | succ bound ih =>
      simp only [clearCount, Nat.count_succ] at ih ⊢
      grind
  intro bound below
  induction bound with
  | zero => omega
  | succ bound ih =>
    by_cases last : bound = index
    · simp_all [clearCount, Nat.count_succ]
    grind [clearCount]

theorem clearCount_set {bitmap : WordBitmap} {index bound : Nat} (below : index < bound)
    (isClear : bitmap.isSet index = false) :
    bitmap.clearCount bound = (bitmap.set index).clearCount bound + 1 :=
  clearCount_of_differ_at isClear (by simp [isSet_set])
    (fun other different => by simp [isSet_set, different]) bound below

theorem clearCount_clear {bitmap : WordBitmap} {index bound : Nat} (below : index < bound)
    (isSet : bitmap.isSet index = true) :
    (bitmap.clear index).clearCount bound = bitmap.clearCount bound + 1 :=
  clearCount_of_differ_at (by simp [isSet_clear]) isSet
    (fun other different => by simp [isSet_clear, different]) bound below

end WordBitmap

end BoringOS.Library
