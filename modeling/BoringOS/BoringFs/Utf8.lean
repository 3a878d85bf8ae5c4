import BoringOS.BoringFs.Format

namespace BoringOS.BoringFs

/-!
# Names are UTF-8

`boringfs_utf8_valid` walks over a name and admits one sequence of bytes after
another.  It accepts exactly the encodings of texts.
-/

/-- A byte between two bounds. -/
def byteBetween (low high byte : UInt8) : Bool := low ≤ byte && byte ≤ high

/-- `boringfs_utf8_valid` -/
def boringfsUtf8Valid : List UInt8 → Bool
  | [] => true
  | first :: rest =>
    if first ≤ 0x7f then boringfsUtf8Valid rest
    else if 0xc2 ≤ first ∧ first ≤ 0xdf then
      match rest with
      | second :: rest =>
        if byteBetween 0x80 0xbf second = false then false else boringfsUtf8Valid rest
      | [] => false
    else if 0xe0 ≤ first ∧ first ≤ 0xef then
      match rest with
      | second :: third :: rest =>
        if byteBetween 0x80 0xbf third = false then false
        else if first = 0xe0 then
          if byteBetween 0xa0 0xbf second = false then false else boringfsUtf8Valid rest
        else if first = 0xed then
          if byteBetween 0x80 0x9f second = false then false else boringfsUtf8Valid rest
        else if byteBetween 0x80 0xbf second = false then false
        else boringfsUtf8Valid rest
      | _ => false
    else if 0xf0 ≤ first ∧ first ≤ 0xf4 then
      match rest with
      | second :: third :: fourth :: rest =>
        if byteBetween 0x80 0xbf third = false ∨ byteBetween 0x80 0xbf fourth = false then
          false
        else if first = 0xf0 then
          if byteBetween 0x90 0xbf second = false then false else boringfsUtf8Valid rest
        else if first = 0xf4 then
          if byteBetween 0x80 0x8f second = false then false else boringfsUtf8Valid rest
        else if byteBetween 0x80 0xbf second = false then false
        else boringfsUtf8Valid rest
      | _ => false
    else false

/-- The bytes of a text. -/
def utf8Bytes (text : List Char) : List UInt8 := text.flatMap String.utf8EncodeChar

theorem byteBetween_iff (low high byte : UInt8) :
    byteBetween low high byte = true ↔ low.toNat ≤ byte.toNat ∧ byte.toNat ≤ high.toNat := by
  simp [byteBetween, Bool.and_eq_true, UInt8.le_iff_toNat_le]

theorem toNat_ofNat_small {value : Nat} (small : value < 256) :
    (UInt8.ofNat value).toNat = value := by
  simp [*]

/-- The sequences that the four branches of the loop admit. -/
inductive Utf8Sequence : List UInt8 → Prop where
  | one {first : UInt8} (bound : first.toNat ≤ 0x7f) : Utf8Sequence [first]
  | two {first second : UInt8} (lead : 0xc2 ≤ first.toNat ∧ first.toNat ≤ 0xdf)
      (tail : 0x80 ≤ second.toNat ∧ second.toNat ≤ 0xbf) : Utf8Sequence [first, second]
  | three {first second third : UInt8} (lead : 0xe0 ≤ first.toNat ∧ first.toNat ≤ 0xef)
      (tail : 0x80 ≤ second.toNat ∧ second.toNat ≤ 0xbf)
      (last : 0x80 ≤ third.toNat ∧ third.toNat ≤ 0xbf)
      (long : first.toNat = 0xe0 → 0xa0 ≤ second.toNat)
      (surrogate : first.toNat = 0xed → second.toNat ≤ 0x9f) :
      Utf8Sequence [first, second, third]
  | four {first second third fourth : UInt8} (lead : 0xf0 ≤ first.toNat ∧ first.toNat ≤ 0xf4)
      (tail : 0x80 ≤ second.toNat ∧ second.toNat ≤ 0xbf)
      (middle : 0x80 ≤ third.toNat ∧ third.toNat ≤ 0xbf)
      (last : 0x80 ≤ fourth.toNat ∧ fourth.toNat ≤ 0xbf)
      (long : first.toNat = 0xf0 → 0x90 ≤ second.toNat)
      (high : first.toNat = 0xf4 → second.toNat ≤ 0x8f) :
      Utf8Sequence [first, second, third, fourth]

theorem byte_eq_iff {first second : UInt8} : first = second ↔ first.toNat = second.toNat :=
  UInt8.toNat_inj.symm

/-- A sequence in front of a name is accepted. -/
theorem utf8Valid_sequence {sequence : List UInt8} (admitted : Utf8Sequence sequence)
    (rest : List UInt8) : boringfsUtf8Valid (sequence ++ rest) = boringfsUtf8Valid rest := by
  cases admitted with
  | one bound =>
    rw [List.singleton_append, boringfsUtf8Valid.eq_def]
    simp only [UInt8.le_iff_toNat_le, UInt8.reduceToNat, if_pos bound]
  | @two first second lead tail =>
    rw [List.cons_append, List.singleton_append, boringfsUtf8Valid.eq_def]
    have notOne : ¬ first.toNat ≤ 0x7f := by omega
    have inside := (byteBetween_iff 0x80 0xbf second).mpr tail
    simp_all [UInt8.le_iff_toNat_le, UInt8.reduceToNat, Bool.true_eq_false]
  | @three first second third lead tail last long surrogate =>
    rw [List.cons_append, List.cons_append, List.singleton_append, boringfsUtf8Valid.eq_def]
    have notOne : ¬ first.toNat ≤ 0x7f := by omega
    have notTwo : ¬ (0xc2 ≤ first.toNat ∧ first.toNat ≤ 0xdf) := by omega
    have lastInside := (byteBetween_iff 0x80 0xbf third).mpr last
    simp only [UInt8.le_iff_toNat_le, UInt8.reduceToNat, if_neg notOne, if_neg notTwo,
      if_pos lead, lastInside, Bool.true_eq_false, if_false, byte_eq_iff]
    split
    · simp_all [byteBetween_iff]
    split
    · simp_all [byteBetween_iff]
    simp_all [byteBetween_iff]
  | @four first second third fourth lead tail middle last long high =>
    rw [List.cons_append, List.cons_append, List.cons_append, List.singleton_append,
      boringfsUtf8Valid.eq_def]
    have notOne : ¬ first.toNat ≤ 0x7f := by omega
    have notTwo : ¬ (0xc2 ≤ first.toNat ∧ first.toNat ≤ 0xdf) := by omega
    have notThree : ¬ (0xe0 ≤ first.toNat ∧ first.toNat ≤ 0xef) := by omega
    have middleInside := (byteBetween_iff 0x80 0xbf third).mpr middle
    have lastInside := (byteBetween_iff 0x80 0xbf fourth).mpr last
    simp only [UInt8.le_iff_toNat_le, UInt8.reduceToNat, if_neg notOne, if_neg notTwo,
      if_neg notThree, if_pos lead, middleInside, lastInside, Bool.true_eq_false, or_self,
      if_false, byte_eq_iff]
    split
    · simp_all [byteBetween_iff]
    split
    · simp_all [byteBetween_iff]
    simp_all [byteBetween_iff]

/-- An accepted name starts with a sequence, and what follows is accepted. -/
theorem utf8Valid_cons {first : UInt8} {rest : List UInt8}
    (accepted : boringfsUtf8Valid (first :: rest) = true) :
    ∃ sequence others, first :: rest = sequence ++ others ∧ Utf8Sequence sequence ∧
      boringfsUtf8Valid others = true := by
  rw [boringfsUtf8Valid.eq_def] at accepted
  simp only [UInt8.le_iff_toNat_le, UInt8.reduceToNat] at accepted
  split at accepted
  · rename_i bound
    exact ⟨[first], rest, rfl, .one bound, accepted⟩
  split at accepted
  · rename_i lead
    split at accepted
    · rename_i second others
      split at accepted
      · cases accepted
      rename_i inside
      rw [Bool.not_eq_false, byteBetween_iff] at inside
      exact ⟨[first, second], others, rfl, .two lead inside, accepted⟩
    · cases accepted
  · split at accepted
    · rename_i lead
      split at accepted
      · rename_i second third others
        split at accepted
        · cases accepted
        rename_i lastInside
        rw [Bool.not_eq_false, byteBetween_iff] at lastInside
        have found : ∀ low high, byteBetween low high second = true →
            boringfsUtf8Valid others = true → 0x80 ≤ low.toNat → high.toNat ≤ 0xbf →
            (first.toNat = 0xe0 → 0xa0 ≤ low.toNat) → (first.toNat = 0xed → high.toNat ≤ 0x9f) →
            ∃ sequence others', first :: second :: third :: others = sequence ++ others' ∧
              Utf8Sequence sequence ∧ boringfsUtf8Valid others' = true := by
          intro low high inside valid aboveTail belowTail long surrogate
          rw [byteBetween_iff] at inside
          exact ⟨[first, second, third], others, rfl, .three lead ⟨by omega, by omega⟩ lastInside
              (fun isLow => Nat.le_trans (long isLow) inside.1)
              (fun isHigh => Nat.le_trans inside.2 (surrogate isHigh)), valid⟩
        simp only [byte_eq_iff, UInt8.reduceToNat] at accepted
        grind
      · cases accepted
    · split at accepted
      · rename_i lead
        split at accepted
        · rename_i second third fourth others
          split at accepted
          · cases accepted
          rename_i tailsInside
          simp only [not_or, Bool.not_eq_false, byteBetween_iff] at tailsInside
          have found : ∀ low high, byteBetween low high second = true →
              boringfsUtf8Valid others = true → 0x80 ≤ low.toNat → high.toNat ≤ 0xbf →
              (first.toNat = 0xf0 → 0x90 ≤ low.toNat) → (first.toNat = 0xf4 → high.toNat ≤ 0x8f) →
              ∃ sequence others',
                first :: second :: third :: fourth :: others = sequence ++ others' ∧
                  Utf8Sequence sequence ∧ boringfsUtf8Valid others' = true := by
            intro low high inside valid aboveTail belowTail long top
            rw [byteBetween_iff] at inside
            exact ⟨[first, second, third, fourth], others, rfl,
              .four lead ⟨by omega, by omega⟩ tailsInside.1 tailsInside.2
                (fun isLow => Nat.le_trans (long isLow) inside.1)
                (fun isHigh => Nat.le_trans inside.2 (top isHigh)), valid⟩
          simp only [byte_eq_iff, UInt8.reduceToNat] at accepted
          grind
        · cases accepted
      · cases accepted

/-- A code point of a text is not a surrogate. -/
theorem char_range (character : Char) :
    character.val.toNat < 0xd800 ∨ 0xdfff < character.val.toNat ∧ character.val.toNat < 0x110000 :=
  character.valid

theorem utf8Sequence_encodeChar (character : Char) :
    Utf8Sequence (String.utf8EncodeChar character) := by
  have range := char_range character
  rw [String.utf8EncodeChar]
  generalize character.val.toNat = value at range
  split
  · exact .one (by rw [toNat_ofNat_small] <;> omega)
  split
  · refine .two ?_ ?_ <;> rw [toNat_ofNat_small] <;> omega
  split
  · have first := toNat_ofNat_small (show value / 4096 % 0x10 + 0xe0 < 256 by omega)
    have second := toNat_ofNat_small (show value / 64 % 0x40 + 0x80 < 256 by omega)
    have third := toNat_ofNat_small (show value % 0x40 + 0x80 < 256 by omega)
    refine .three ?_ ?_ ?_ ?_ ?_ <;> simp only [first, second, third] <;> omega
  · have first := toNat_ofNat_small (show value / 262144 % 0x08 + 0xf0 < 256 by omega)
    have second := toNat_ofNat_small (show value / 4096 % 0x40 + 0x80 < 256 by omega)
    have third := toNat_ofNat_small (show value / 64 % 0x40 + 0x80 < 256 by omega)
    have fourth := toNat_ofNat_small (show value % 0x40 + 0x80 < 256 by omega)
    refine .four ?_ ?_ ?_ ?_ ?_ ?_ <;> simp only [first, second, third, fourth] <;> omega

/-- The character with a code point. -/
theorem exists_char {value : Nat} (valid : value < 0xd800 ∨ 0xdfff < value ∧ value < 0x110000) :
    ∃ character : Char, character.val.toNat = value := by
  have small : (UInt32.ofNat value).toNat = value := by
    rw [UInt32.toNat_ofNat']
    omega
  have isValid : (UInt32.ofNat value).isValidChar := by
    rw [UInt32.isValidChar, small]
    exact valid
  exact ⟨⟨UInt32.ofNat value, isValid⟩, small⟩

theorem ofNat_eq_byte {value : Nat} {byte : UInt8} (same : value = byte.toNat) :
    UInt8.ofNat value = byte := by
  rw [same, UInt8.ofNat_toNat]

theorem encodeChar_sequence {sequence : List UInt8} (admitted : Utf8Sequence sequence) :
    ∃ character, String.utf8EncodeChar character = sequence := by
  cases admitted with
  | @one first bound =>
    have valid : first.toNat < 0xd800 ∨ 0xdfff < first.toNat ∧ first.toNat < 0x110000 := by
      omega
    rcases exists_char valid with ⟨character, code⟩
    refine ⟨character, ?_⟩
    rw [String.utf8EncodeChar, code, if_pos bound, UInt8.ofNat_toNat]
  | @two first second lead tail =>
    generalize isValue : (first.toNat - 0xc0) * 64 + (second.toNat - 0x80) = value
    rcases exists_char (Or.inl (by omega : value < 0xd800)) with ⟨character, code⟩
    refine ⟨character, ?_⟩
    grind [String.utf8EncodeChar, ofNat_eq_byte]
  | @three first second third lead tail last long surrogate =>
    generalize isValue : (first.toNat - 0xe0) * 4096 + (second.toNat - 0x80) * 64 +
      (third.toNat - 0x80) = value
    have valid : value < 0xd800 ∨ 0xdfff < value ∧ value < 0x110000 := by omega
    rcases exists_char valid with ⟨character, code⟩
    refine ⟨character, ?_⟩
    grind [String.utf8EncodeChar, ofNat_eq_byte]
  | @four first second third fourth lead tail middle last long high =>
    generalize isValue : (first.toNat - 0xf0) * 262144 + (second.toNat - 0x80) * 4096 +
      (third.toNat - 0x80) * 64 + (fourth.toNat - 0x80) = value
    have bounds : 0x10000 ≤ value ∧ value < 0x110000 := by omega
    have valid : value < 0xd800 ∨ 0xdfff < value ∧ value < 0x110000 := by omega
    rcases exists_char valid with ⟨character, code⟩
    refine ⟨character, ?_⟩
    have notOne : ¬ value ≤ 0x7f := by omega
    have notTwo : ¬ value ≤ 0x7ff := by omega
    have notThree : ¬ value ≤ 0xffff := by omega
    rw [String.utf8EncodeChar, code, if_neg notOne, if_neg notTwo, if_neg notThree,
      ofNat_eq_byte (show value / 262144 % 0x08 + 0xf0 = first.toNat by omega),
      ofNat_eq_byte (show value / 4096 % 0x40 + 0x80 = second.toNat by omega),
      ofNat_eq_byte (show value / 64 % 0x40 + 0x80 = third.toNat by omega),
      ofNat_eq_byte (show value % 0x40 + 0x80 = fourth.toNat by omega)]

/-- The accepted names are the encodings of texts. -/
theorem boringfsUtf8Valid_iff (bytes : List UInt8) :
    boringfsUtf8Valid bytes = true ↔ ∃ text, bytes = utf8Bytes text := by
  constructor
  · generalize isLength : bytes.length = length
    induction length using Nat.strong_induction_on generalizing bytes with
    | _ length ih =>
      intro accepted
      cases bytes with
      | nil => exact ⟨[], rfl⟩
      | cons first rest =>
        rcases utf8Valid_cons accepted with ⟨sequence, others, split, admitted, accepted'⟩
        rcases encodeChar_sequence admitted with ⟨character, isSequence⟩
        have shorter : others.length < length := by
          have total := congrArg List.length split
          rw [List.length_append, isLength] at total
          have some' : 0 < sequence.length := by
            cases admitted <;> exact Nat.succ_pos _
          omega
        rcases ih others.length shorter others rfl accepted' with ⟨text, isText⟩
        refine ⟨character :: text, ?_⟩
        rw [split, isText, ← isSequence]
        rfl
  · rintro ⟨text, rfl⟩
    induction text with
    | nil => rfl
    | cons character text ih =>
      rw [utf8Bytes, List.flatMap_cons, utf8Valid_sequence (utf8Sequence_encodeChar character)]
      exact ih

end BoringOS.BoringFs
