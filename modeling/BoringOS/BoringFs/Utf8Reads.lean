import BoringOS.BoringFs.Utf8

namespace BoringOS.BoringFs

/-!
# The loop over a name in memory

`boringfs_utf8_valid` gets a pointer and a length, and it reads the bytes by an
index of type `size_t`.  Here the loop is followed read by read: a read at the
length or behind it has an outcome of its own, and the index wraps as a `size_t`
does.  The loop never has that outcome, and it returns what the description of
`boringfsUtf8Valid` by sequences says.
-/

def sizeMax : Nat := 2 ^ 64
def ptrdiffMax : Nat := 2 ^ 63 - 1

/-- An object of bytes in memory.  No object has more than `PTRDIFF_MAX` bytes. -/
structure ByteObject where
  bytes : List UInt8
  fits : bytes.length ≤ ptrdiffMax

/-- What one round of the loop does. -/
inductive Utf8Round where
  | returns (valid : Bool)
  | continues (index : Nat)
  | readsPast
deriving DecidableEq, Repr

/-- `bytes[place]`, of which only the first `length` bytes may be read. -/
def readByte (bytes : List UInt8) (place : Nat) (next : UInt8 → Utf8Round) : Utf8Round :=
  match bytes[place]? with
  | some byte => next byte
  | none => .readsPast

/-- The sum of two values of type `size_t`. -/
def sizeAdd (index step : Nat) : Nat := (index + step) % sizeMax

/-- One round of the loop of `boringfs_utf8_valid`. -/
def utf8Round (bytes : List UInt8) (length index : Nat) : Utf8Round :=
  if index < length then
    readByte bytes index fun first =>
      if first ≤ 0x7f then .continues (sizeAdd index 1)
      else if 0xc2 ≤ first ∧ first ≤ 0xdf then
        if length ≤ sizeAdd index 1 then .returns false
        else
          readByte bytes (sizeAdd index 1) fun second =>
            if byteBetween 0x80 0xbf second = false then .returns false
            else .continues (sizeAdd index 2)
      else if 0xe0 ≤ first ∧ first ≤ 0xef then
        if length ≤ sizeAdd index 2 then .returns false
        else
          readByte bytes (sizeAdd index 1) fun second =>
            readByte bytes (sizeAdd index 2) fun third =>
              if byteBetween 0x80 0xbf third = false then .returns false
              else if first = 0xe0 then
                if byteBetween 0xa0 0xbf second = false then .returns false
                else .continues (sizeAdd index 3)
              else if first = 0xed then
                if byteBetween 0x80 0x9f second = false then .returns false
                else .continues (sizeAdd index 3)
              else if byteBetween 0x80 0xbf second = false then .returns false
              else .continues (sizeAdd index 3)
      else if 0xf0 ≤ first ∧ first ≤ 0xf4 then
        if length ≤ sizeAdd index 3 then .returns false
        else
          readByte bytes (sizeAdd index 1) fun second =>
            readByte bytes (sizeAdd index 2) fun third =>
              readByte bytes (sizeAdd index 3) fun fourth =>
                if byteBetween 0x80 0xbf third = false ∨ byteBetween 0x80 0xbf fourth = false then
                  .returns false
                else if first = 0xf0 then
                  if byteBetween 0x90 0xbf second = false then .returns false
                  else .continues (sizeAdd index 4)
                else if first = 0xf4 then
                  if byteBetween 0x80 0x8f second = false then .returns false
                  else .continues (sizeAdd index 4)
                else if byteBetween 0x80 0xbf second = false then .returns false
                else .continues (sizeAdd index 4)
      else .returns false
  else .returns true

/-- As many rounds of the loop as are allowed, from an index on. -/
def utf8Rounds (bytes : List UInt8) (length : Nat) : Nat → Nat → Utf8Round
  | 0, index => .continues index
  | rounds + 1, index =>
    match utf8Round bytes length index with
    | .continues next => utf8Rounds bytes length rounds next
    | stopped => stopped

/-- `boringfs_utf8_valid` on a pointer, which is null where there is no object.
Every round advances the index, so one round more than there are bytes is enough. -/
def utf8ValidPointer (pointer : Option ByteObject) (length : Nat) : Utf8Round :=
  match pointer with
  | none => if length ≠ 0 then .returns false else utf8Rounds [] length (length + 1) 0
  | some object => utf8Rounds (object.bytes.take length) length (length + 1) 0

variable {bytes : List UInt8}

theorem sizeAdd_small (fits : bytes.length ≤ ptrdiffMax) {index step : Nat}
    (inside : index < bytes.length) (short : step ≤ 4) : sizeAdd index step = index + step := by
  rw [sizeAdd, sizeMax]
  rw [ptrdiffMax] at fits
  omega

/-- A read inside the string gives the byte that heads the rest of it. -/
theorem drop_read {place : Nat} (inside : place < bytes.length) :
    ∃ byte, bytes.drop place = byte :: bytes.drop (place + 1) ∧
      ∀ next, readByte bytes place next = next byte := by
  refine ⟨bytes[place], List.drop_eq_getElem_cons inside, fun next => ?_⟩
  rw [readByte, List.getElem?_eq_getElem inside]

/-- What a round says about the rest of the string: it is refused, or the round
takes at least one byte of it and changes nothing about its validity. -/
inductive RoundSound (bytes : List UInt8) (index : Nat) : Utf8Round → Prop where
  | refused (invalid : boringfsUtf8Valid (bytes.drop index) = false) :
      RoundSound bytes index (.returns false)
  | advanced {next : Nat} (further : index < next) (inside : next ≤ bytes.length)
      (same : boringfsUtf8Valid (bytes.drop index) = boringfsUtf8Valid (bytes.drop next)) :
      RoundSound bytes index (.continues next)

theorem roundSound_second {index next : Nat} {low high second : UInt8}
    (further : index < next) (inside : next ≤ bytes.length)
    (same : boringfsUtf8Valid (bytes.drop index) = if byteBetween low high second = false then false
      else boringfsUtf8Valid (bytes.drop next)) :
    RoundSound bytes index (if byteBetween low high second = false then .returns false
      else .continues next) := by
  by_cases outside : byteBetween low high second = false
  · rw [if_pos outside] at same ⊢
    exact .refused same
  · rw [if_neg outside] at same ⊢
    exact .advanced further inside same

theorem roundSound_choice {index : Nat} {chosen other : Prop}
    [Decidable chosen] [Decidable other] {first second third : Utf8Round}
    {valid valid' valid'' : Bool} (same : boringfsUtf8Valid (bytes.drop index) =
      if chosen then valid else if other then valid' else valid'')
    (atFirst : boringfsUtf8Valid (bytes.drop index) = valid → RoundSound bytes index first)
    (atSecond : boringfsUtf8Valid (bytes.drop index) = valid' → RoundSound bytes index second)
    (atThird : boringfsUtf8Valid (bytes.drop index) = valid'' → RoundSound bytes index third) :
    RoundSound bytes index (if chosen then first else if other then second else third) := by
  by_cases isChosen : chosen
  · simp [*]
  grind

/-- A string of fewer bytes than the first one asks for -/
theorem drop_short {place count : Nat} (short : bytes.length ≤ place + count) :
    (bytes.drop place).length ≤ count := by
  rw [List.length_drop]
  omega

theorem utf8Round_sound (fits : bytes.length ≤ ptrdiffMax) {index : Nat} (inside : index < bytes.length) :
    RoundSound bytes index (utf8Round bytes bytes.length index) := by
  have step : ∀ count, count ≤ 4 → sizeAdd index count = index + count :=
    fun count short => sizeAdd_small fits inside short
  rcases drop_read inside with ⟨first, isFirst, readFirst⟩
  have valid := congrArg boringfsUtf8Valid isFirst
  rw [boringfsUtf8Valid.eq_def (first :: bytes.drop (index + 1))] at valid
  rw [utf8Round, if_pos inside, readFirst, step 1 (by omega), step 2 (by omega),
    step 3 (by omega), step 4 (by omega)]
  by_cases one : first ≤ 0x7f
  · rw [if_pos one]
    simp only [if_pos one] at valid
    exact .advanced (Nat.lt_succ_self index) inside valid
  by_cases two : 0xc2 ≤ first ∧ first ≤ 0xdf
  · rw [if_neg one, if_pos two]
    simp only [if_neg one, if_pos two] at valid
    by_cases short : bytes.length ≤ index + 1
    · rw [if_pos short]
      rw [List.drop_eq_nil_of_le short] at valid
      exact .refused valid
    rw [if_neg short]
    rcases drop_read (Nat.lt_of_not_le short) with ⟨second, isSecond, readSecond⟩
    rw [readSecond]
    rw [isSecond] at valid
    exact roundSound_second (by omega) (by omega) valid
  · by_cases three : 0xe0 ≤ first ∧ first ≤ 0xef
    · rw [if_neg one, if_neg two, if_pos three]
      simp only [if_neg one, if_neg two, if_pos three] at valid
      by_cases short : bytes.length ≤ index + 2
      · rw [if_pos short]
        refine .refused (valid.trans ?_)
        have few : (bytes.drop (index + 1)).length ≤ 1 := drop_short short
        grind
      · rw [if_neg short]
        rcases drop_read (show index + 1 < bytes.length by omega) with
          ⟨second, isSecond, readSecond⟩
        rcases drop_read (show index + 2 < bytes.length by omega) with
          ⟨third, isThird, readThird⟩
        rw [readSecond, readThird]
        rw [isSecond, isThird] at valid
        by_cases outside : byteBetween 0x80 0xbf third = false
        · rw [if_pos outside]
          simp only [if_pos outside] at valid
          exact .refused valid
        · rw [if_neg outside]
          simp only [if_neg outside] at valid
          exact roundSound_choice valid (roundSound_second (by omega) (by omega))
            (roundSound_second (by omega) (by omega)) (roundSound_second (by omega) (by omega))
    · by_cases four : 0xf0 ≤ first ∧ first ≤ 0xf4
      · rw [if_neg one, if_neg two, if_neg three, if_pos four]
        simp only [if_neg one, if_neg two, if_neg three, if_pos four] at valid
        by_cases short : bytes.length ≤ index + 3
        · rw [if_pos short]
          refine .refused (valid.trans ?_)
          have few : (bytes.drop (index + 1)).length ≤ 2 := drop_short short
          grind
        · rw [if_neg short]
          rcases drop_read (show index + 1 < bytes.length by omega) with
            ⟨second, isSecond, readSecond⟩
          rcases drop_read (show index + 2 < bytes.length by omega) with
            ⟨third, isThird, readThird⟩
          rcases drop_read (show index + 3 < bytes.length by omega) with
            ⟨fourth, isFourth, readFourth⟩
          rw [readSecond, readThird, readFourth]
          rw [isSecond, isThird, isFourth] at valid
          by_cases outside : byteBetween 0x80 0xbf third = false ∨ byteBetween 0x80 0xbf fourth = false
          · rw [if_pos outside]
            simp only [if_pos outside] at valid
            exact .refused valid
          · rw [if_neg outside]
            simp only [if_neg outside] at valid
            exact roundSound_choice valid (roundSound_second (by omega) (by omega))
              (roundSound_second (by omega) (by omega)) (roundSound_second (by omega) (by omega))
      · rw [if_neg one, if_neg two, if_neg three, if_neg four]
        simp only [if_neg one, if_neg two, if_neg three, if_neg four] at valid
        exact .refused valid

theorem utf8Rounds_eq (fits : bytes.length ≤ ptrdiffMax) {rounds index : Nat}
    (inside : index ≤ bytes.length) (enough : bytes.length - index < rounds) :
    utf8Rounds bytes bytes.length rounds index =
      .returns (boringfsUtf8Valid (bytes.drop index)) := by
  induction rounds generalizing index with
  | zero => exact absurd enough (Nat.not_lt_zero _)
  | succ rounds ih =>
    rw [utf8Rounds]
    by_cases atEnd : index < bytes.length
    · have sound := utf8Round_sound fits atEnd
      generalize utf8Round bytes bytes.length index = round at sound
      cases sound with
      | refused invalid => rw [invalid]
      | advanced further inside same =>
        grind
    · have nothing : bytes.drop index = [] := List.drop_eq_nil_of_le (Nat.le_of_not_lt atEnd)
      have stops : utf8Round bytes bytes.length index = .returns true := by
        exact if_neg atEnd
      rw [stops, nothing]
      rfl

/-- On the first bytes of an object the loop answers, so it reads nothing at the
length or behind it, and the answer tells whether they encode a text. -/
theorem utf8ValidPointer_exact (object : ByteObject) (length : Nat) (given : length ≤ object.bytes.length) :
    ∃ valid, utf8ValidPointer (some object) length = .returns valid ∧
      (valid = true ↔ ∃ text, object.bytes.take length = utf8Bytes text) := by
  have isLength : (object.bytes.take length).length = length := List.length_take_of_le given
  have fits : (object.bytes.take length).length ≤ ptrdiffMax := by
    rw [isLength]
    exact Nat.le_trans given object.fits
  have answer := utf8Rounds_eq fits (Nat.zero_le _) (Nat.lt_succ_self _)
  rw [isLength] at answer
  exact ⟨_, answer, boringfsUtf8Valid_iff _⟩

/-- A name of two bytes in an object of three, of which the third is no UTF-8. -/
theorem utf8ValidPointer_exact_umlaut :
    2 ≤ [(0xc3 : UInt8), 0xa9, 0xff].length ∧
      ∃ valid, utf8ValidPointer (some ⟨[0xc3, 0xa9, 0xff], by decide⟩) 2 = .returns valid ∧
        (valid = true ↔ ∃ text, [(0xc3 : UInt8), 0xa9, 0xff].take 2 = utf8Bytes text) :=
  ⟨by decide, utf8ValidPointer_exact ⟨[0xc3, 0xa9, 0xff], by decide⟩ 2 (by decide)⟩

end BoringOS.BoringFs
