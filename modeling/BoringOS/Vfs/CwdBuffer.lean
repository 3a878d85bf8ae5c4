import BoringOS.Vfs.CwdTextRuns

namespace BoringOS.Vfs

open Library

/-!
# The buffer of a canonical text

`syscall_build_canonical_cwd` builds its text in place, in an array of
`VFS_PATH_MAX + 1` bytes.  Here its functions act on that array.  A load or a
store outside of it has no outcome at all.  The functions always have one: they
do with the bytes of the array what the description by texts says, and the text
ends with a zero inside of the array.

The text that comes out is the lexical normal form of the path joined to the old
text, and it names the node that a resolution of the path reaches.
-/

variable {Context : Type} {backend : Backend Context} {entries : Entries Context}

/-- The array `output` and the length that is kept with it. -/
structure CwdBuffer where
  output : List UInt8
  length : Nat
deriving DecidableEq, Repr

variable (buffer : CwdBuffer)

/-- A store into the array. -/
def CwdBuffer.store (index : Nat) (byte : UInt8) : Option CwdBuffer :=
  if index < buffer.output.length then
    some { buffer with output := buffer.output.set index byte }
  else none

def CwdBuffer.withLength (length : Nat) : CwdBuffer :=
  { buffer with length := length }

/-- The difference of two values of type `size_t`. -/
def sizeDifference (left right : Nat) : Nat := (left + 2 ^ 64 - right) % 2 ^ 64

/-- What a function returns, and the buffer that it leaves. -/
abbrev BufferOutcome := Option (Bool × CwdBuffer)

/-- The loop of `syscall_cwd_pop`. -/
def syscallCwdPopLoopInBuffer (output : List UInt8) : Nat → Option Nat
  | 0 => some 0
  | 1 => some 1
  | length + 2 =>
    (output[length + 1]?).bind fun byte =>
      if byte ≠ slash then syscallCwdPopLoopInBuffer output (length + 1) else some (length + 2)

def syscallCwdPopInBuffer : BufferOutcome :=
  if buffer.length = 0 then some (false, buffer)
  else
    (buffer.output[0]?).bind fun first =>
      if first ≠ slash then some (false, buffer)
      else if buffer.length ≤ 1 then
        ((buffer.withLength 1).store 1 0).map fun stored => (true, stored)
      else
        (syscallCwdPopLoopInBuffer buffer.output buffer.length).bind fun length =>
          let shorter := if length > 1 then length - 1 else length
          ((buffer.withLength shorter).store shorter 0).map fun stored => (true, stored)

/-- The loop of `syscall_cwd_append`, which stores a component from an index on. -/
def storeComponent (buffer : CwdBuffer) (index : Nat) : List UInt8 → Option CwdBuffer
  | [] => some buffer
  | byte :: rest =>
    (buffer.store index byte).bind fun stored => storeComponent stored (index + 1) rest

def syscallCwdAppendInBuffer (component : List UInt8) : BufferOutcome :=
  if component.length = 0 ∨ component.length > vfsNameMax then some (false, buffer)
  else if buffer.length > 1 ∧ buffer.length ≥ vfsPathMax then some (false, buffer)
  else
    let separated :=
      if buffer.length > 1 then
        (buffer.store buffer.length slash).map fun stored => stored.withLength (stored.length + 1)
      else some buffer
    separated.bind fun separated =>
      if component.length > sizeDifference vfsPathMax separated.length then
        some (false, separated)
      else
        (storeComponent separated separated.length component).bind fun copied =>
          let longer := copied.length + component.length
          ((copied.withLength longer).store longer 0).map fun stored => (true, stored)

/-- A turn of the loop of `syscall_build_canonical_cwd`. -/
def syscallBuildComponentInBuffer (component : List UInt8) : BufferOutcome :=
  if component = [dot] then some (true, buffer)
  else if component = [dot, dot] then syscallCwdPopInBuffer buffer
  else syscallCwdAppendInBuffer buffer component

def syscallBuildComponentsInBuffer : List (List UInt8) → CwdBuffer → BufferOutcome
  | [], buffer => some (true, buffer)
  | component :: rest, buffer =>
    (syscallBuildComponentInBuffer buffer component).bind fun turn =>
      if turn.1 = false then some turn else syscallBuildComponentsInBuffer rest turn.2

/-- The loop of `process_copy_text`, with the rest of the source from an index on. -/
def processCopyTextInBuffer (capacity : Nat) :
    (source : List UInt8) → (index : Nat) → CwdBuffer → BufferOutcome
  | [], index, buffer =>
    if index < capacity then (buffer.store index 0).map fun stored => (true, stored)
    else (buffer.store (capacity - 1) 0).map fun stored => (false, stored)
  | byte :: rest, index, buffer =>
    if index < capacity then
      (buffer.store index byte).bind fun stored =>
        processCopyTextInBuffer capacity rest (index + 1) stored
    else (buffer.store (capacity - 1) 0).map fun stored => (false, stored)

/-- `syscall_text_length`, with the number of bytes that may still be looked at. -/
def syscallTextLength (text : List UInt8) : (left : Nat) → (length : Nat) → Option Nat
  | 0, length => some length
  | left + 1, length =>
    (text[length]?).bind fun byte =>
      if byte = 0 then some length else syscallTextLength text left (length + 1)

def syscallBuildCanonicalCwdInBuffer (process : ProcessDirectory) (path : List UInt8)
    (buffer : CwdBuffer) : BufferOutcome :=
  if path.head? = some slash then
    (buffer.store 0 slash).bind fun first =>
      (first.store 1 0).bind fun root =>
        syscallBuildComponentsInBuffer (components path) (root.withLength 1)
  else if process.slotUsed = false ∨ process.alive = false ∨ process.cwdTextValid = false then
    some (false, buffer)
  else
    (processCopyTextInBuffer (vfsPathMax + 1) process.cwdText 0 buffer).bind fun copied =>
      if copied.1 = false then some copied
      else
        (syscallTextLength copied.2.output (vfsPathMax + 1) 0).bind fun length =>
          if length = 0 ∨ length > vfsPathMax then some (false, copied.2.withLength length)
          else syscallBuildComponentsInBuffer (components path) (copied.2.withLength length)

/-- The array begins with a text and its terminating zero. -/
structure HoldsText (buffer : CwdBuffer) (text : List UInt8) : Prop where
  size : buffer.output.length = vfsPathMax + 1
  length : buffer.length = text.length
  short : text.length ≤ vfsPathMax
  bytes : ∃ rest, buffer.output = text ++ 0 :: rest

/-- What a function should leave: nothing but an array of the same size if it
fails, and its text otherwise. -/
structure Leaves (outcome : BufferOutcome) (text : Option (List UInt8)) : Prop where
  stays : ∃ answer buffer, outcome = some (answer, buffer) ∧
    buffer.output.length = vfsPathMax + 1 ∧ answer = text.isSome ∧
    ∀ result, text = some result → HoldsText buffer result

theorem leaves_failed {buffer : CwdBuffer} (size : buffer.output.length = vfsPathMax + 1) :
    Leaves (some (false, buffer)) none :=
  ⟨⟨false, buffer, rfl, size, rfl, fun _ => nofun⟩⟩

variable {text : List UInt8}

theorem leaves_text {buffer : CwdBuffer} (holdsText : HoldsText buffer text) :
    Leaves (some (true, buffer)) (some text) := by
  refine ⟨⟨true, buffer, rfl, holdsText.size, rfl, fun result isResult => ?_⟩⟩
  grind

/-- A store at the end of the first part of the array. -/
theorem store_boundary {front rest : List UInt8} {old new : UInt8} {length : Nat} :
    CwdBuffer.store ⟨front ++ old :: rest, length⟩ front.length new =
      some ⟨front ++ new :: rest, length⟩ := by
  simp [List.length_append, List.length_cons, CwdBuffer.store]

theorem store_cut {text rest : List UInt8} {length cut : Nat} (inside : cut ≤ text.length) :
    ∃ rest', rest'.length + cut = text.length + rest.length ∧
      CwdBuffer.store ⟨text ++ 0 :: rest, length⟩ cut 0 = some ⟨text.take cut ++ 0 :: rest', length⟩ := by
  have parts : text ++ 0 :: rest = text.take cut ++ (text.drop cut ++ 0 :: rest) := by
    rw [← List.append_assoc, List.take_append_drop]
  cases isTail : text.drop cut ++ 0 :: rest with
  | nil => simp_all
  | cons old rest' =>
    have stored := @store_boundary (text.take cut) rest' old 0 length
    have total := congrArg List.length isTail
    grind

theorem syscallCwdPopLoop_le (text : List UInt8) :
    ∀ length, syscallCwdPopLoop text length ≤ length
  | 0 => Nat.le_refl 0
  | 1 => Nat.le_refl 1
  | length + 2 => by
      unfold syscallCwdPopLoop
      split
      · exact Nat.le_succ_of_le (syscallCwdPopLoop_le text (length + 1))
      · exact Nat.le_refl _

/-- The loop never looks behind the text. -/
theorem syscallCwdPopLoopInBuffer_eq (text rest : List UInt8) :
    ∀ length, length ≤ text.length →
      syscallCwdPopLoopInBuffer (text ++ rest) length = some (syscallCwdPopLoop text length)
  | 0, _ => rfl
  | 1, _ => rfl
  | length + 2, inside => by
      have loaded : length + 1 < text.length := inside
      unfold syscallCwdPopLoopInBuffer syscallCwdPopLoop
      rw [List.getElem?_append_left loaded, List.getElem?_eq_getElem loaded, Option.bind_some]
      by_cases isSlash : text[length + 1] = slash
      · simp [*]
      · rw [if_pos isSlash, if_pos fun same => isSlash (Option.some.inj same)]
        exact syscallCwdPopLoopInBuffer_eq text rest (length + 1) (Nat.le_of_succ_le inside)

/-- The text that is left when a zero has been stored into another one. -/
theorem leaves_cut {text rest : List UInt8} {cut : Nat} (inside : cut ≤ text.length)
    (size : (text ++ 0 :: rest).length = vfsPathMax + 1) :
    Leaves ((CwdBuffer.store ⟨text ++ 0 :: rest, cut⟩ cut 0).map fun stored => (true, stored))
      (some (text.take cut)) := by
  rcases @store_cut text rest cut cut inside with ⟨rest', total, isStored⟩
  have cutLength : (text.take cut).length = cut := by
    rw [List.length_take, Nat.min_eq_left inside]
  rw [List.length_append, List.length_cons] at size
  rw [isStored]
  refine leaves_text ⟨?_, cutLength.symm, ?_, rest', rfl⟩
  · grind
  omega

theorem syscallCwdPopInBuffer_leaves {buffer : CwdBuffer} (holdsText : HoldsText buffer text) :
    Leaves (syscallCwdPopInBuffer buffer) (syscallCwdPop text) := by
  rcases holdsText with ⟨size, isLength, -, rest, isOutput⟩
  cases buffer with | mk output length => ?_
  subst isLength
  subst isOutput
  unfold syscallCwdPopInBuffer syscallCwdPop
  cases text with
  | nil =>
    simp_all [List.length_nil, leaves_failed]
  | cons first tail =>
    have nonzero : ¬ (first :: tail).length = 0 := Nat.succ_ne_zero _
    rw [if_neg nonzero]
    change Leaves ((some first).bind _) _
    rw [Option.bind_some]
    by_cases isSlash : first = slash
    · have sound : ¬ ((first :: tail).length = 0 ∨ (first :: tail).head? ≠ some slash) := by
        rintro (impossible | notSlash)
        · exact Nat.succ_ne_zero _ impossible
        · exact notSlash (congrArg some isSlash)
      rw [if_neg (not_not.mpr isSlash), if_neg sound]
      by_cases isRoot : (first :: tail).length ≤ 1
      · rw [if_pos isRoot, if_pos isRoot]
        have isOne : (first :: tail).length = 1 := Nat.le_antisymm isRoot (Nat.succ_pos _)
        have left := leaves_cut (Nat.le_of_eq isOne.symm) size
        rw [List.take_of_length_le isRoot] at left
        exact left
      · rw [if_neg isRoot, if_neg isRoot,
          syscallCwdPopLoopInBuffer_eq _ _ _ (Nat.le_refl _), Option.bind_some]
        have atMost := syscallCwdPopLoop_le (first :: tail) (first :: tail).length
        refine leaves_cut ?_ size
        grind
    simp_all [slash, leaves_failed]

theorem sizeDifference_small {left right : Nat} (atMost : right ≤ left) (small : left < 2 ^ 64) :
    sizeDifference left right = left - right := by
  unfold sizeDifference
  omega

theorem storeComponent_eq (component : List UInt8) :
    ∀ (front tail : List UInt8) (length : Nat), component.length ≤ tail.length →
      storeComponent ⟨front ++ tail, length⟩ front.length component =
        some ⟨front ++ component ++ tail.drop component.length, length⟩ := by
  induction component with
  | nil =>
    intro front tail length _
    rw [List.append_nil]
    rfl
  | cons byte rest ih =>
    intro front tail length fits
    cases tail with
    | nil => exact absurd fits (Nat.not_succ_le_zero _)
    | cons old tail =>
      unfold storeComponent
      rw [store_boundary, Option.bind_some]
      have next := ih (front ++ [byte]) tail length (Nat.le_of_succ_le_succ fits)
      simp_all

/-- The component is stored behind a text, or behind its separator, if it fits. -/
theorem leaves_appended {front tail component : List UInt8}
    (size : (front ++ tail).length = vfsPathMax + 1) (atMost : front.length ≤ vfsPathMax) :
    Leaves
      (if component.length > sizeDifference vfsPathMax front.length then
        some (false, ⟨front ++ tail, front.length⟩)
      else
        (storeComponent ⟨front ++ tail, front.length⟩ front.length component).bind fun copied =>
          ((copied.withLength (copied.length + component.length)).store
            (copied.length + component.length) 0).map fun stored => (true, stored))
      (if component.length > vfsPathMax - front.length then none
        else some (front ++ component)) := by
  rw [sizeDifference_small atMost (by decide)]
  by_cases isLong : component.length > vfsPathMax - front.length
  · grind [leaves_failed]
  rw [List.length_append] at size
  have fits : component.length < tail.length := by omega
  rw [if_neg isLong, if_neg isLong, storeComponent_eq component front tail front.length fits.le,
    Option.bind_some]
  cases isRest : tail.drop component.length with
  | nil =>
    have total := congrArg List.length isRest
    grind
  | cons old rest =>
    have total := congrArg List.length isRest
    have isLength : (front ++ component).length = front.length + component.length :=
      List.length_append
    have stored := @store_boundary (front ++ component) rest old 0 (front.length + component.length)
    rw [isLength] at stored
    change Leaves ((CwdBuffer.store ⟨_, _⟩ _ _).map _) _
    rw [stored]
    refine leaves_text ⟨?_, isLength.symm, ?_, rest, rfl⟩
    · grind
    · omega

theorem syscallCwdAppendInBuffer_leaves {buffer : CwdBuffer}
    (holdsText : HoldsText buffer text) (component : List UInt8) :
    Leaves (syscallCwdAppendInBuffer buffer component) (syscallCwdAppend text component) := by
  rcases holdsText with ⟨size, isLength, -, rest, isOutput⟩
  cases buffer with | mk output length => ?_
  subst isLength
  subst isOutput
  unfold syscallCwdAppendInBuffer syscallCwdAppend
  by_cases unfit : component.length = 0 ∨ component.length > vfsNameMax
  · rw [if_pos unfit, if_pos unfit]
    exact leaves_failed size
  rw [if_neg unfit, if_neg unfit]
  by_cases isFull : text.length > 1 ∧ text.length ≥ vfsPathMax
  · grind [leaves_failed]
  rw [if_neg isFull, if_neg isFull]
  by_cases hasNames : text.length > 1
  · have isLength : (text ++ [slash]).length = text.length + 1 := List.length_append
    have isSize : (text ++ [slash] ++ rest).length = vfsPathMax + 1 := by
      rw [List.append_assoc, List.singleton_append]
      rw [List.length_append, List.length_cons] at size ⊢
      exact size
    have below : text.length < vfsPathMax := Nat.lt_of_not_le fun full => isFull ⟨hasNames, full⟩
    have appended := @leaves_appended (text ++ [slash]) rest component isSize (isLength.trans_le below)
    rw [if_pos hasNames, if_pos hasNames, store_boundary, Option.map_some, Option.bind_some]
    rw [isLength, List.append_assoc, List.singleton_append] at appended
    simp only [List.length_append, List.length_singleton]
    exact appended
  grind [leaves_appended]

theorem syscallBuildComponentInBuffer_leaves {buffer : CwdBuffer}
    (holdsText : HoldsText buffer text) (component : List UInt8) :
    Leaves (syscallBuildComponentInBuffer buffer component)
      (syscallBuildComponent text component) := by
  unfold syscallBuildComponentInBuffer syscallBuildComponent
  by_cases isDot : component = [dot]
  · simp_all [leaves_text]
  by_cases isDots : component = [dot, dot]
  · simp_all [syscallCwdPopInBuffer_leaves]
  simp_all [syscallCwdAppendInBuffer_leaves]

theorem syscallBuildComponentsInBuffer_leaves (path : List (List UInt8)) :
    ∀ {buffer : CwdBuffer} {text : List UInt8}, HoldsText buffer text →
      Leaves (syscallBuildComponentsInBuffer path buffer) (syscallBuildComponents path text) := by
  induction path with
  | nil => exact fun holdsText => leaves_text holdsText
  | cons component rest ih =>
    intro buffer text holdsText
    rcases (syscallBuildComponentInBuffer_leaves holdsText component).stays with
      ⟨answer, turned, isTurn, size, isAnswer, held⟩
    unfold syscallBuildComponentsInBuffer syscallBuildComponents
    rw [isTurn, Option.bind_some]
    cases built : syscallBuildComponent text component with
    | none =>
      simp_all [Option.bind_none, leaves_failed]
    | some middle =>
      simp [*]

/-- A text that fits is copied with its zero. -/
theorem processCopyTextInBuffer_eq {capacity : Nat} (source : List UInt8) :
    ∀ (front tail : List UInt8) (length : Nat), front.length + source.length < capacity →
      source.length < tail.length →
      ∃ rest, rest.length + source.length + 1 = tail.length ∧
        processCopyTextInBuffer capacity source front.length ⟨front ++ tail, length⟩ =
          some (true, ⟨front ++ source ++ 0 :: rest, length⟩) := by
  induction source with
  | nil =>
    intro front tail length inside fits
    cases tail with
    | nil => exact absurd fits (Nat.not_lt_zero _)
    | cons old rest =>
      simp_all [processCopyTextInBuffer, store_boundary, List.append_nil]
  | cons byte source ih =>
    intro front tail length inside fits
    rw [List.length_cons] at inside fits
    cases tail with
    | nil => exact absurd fits (Nat.not_lt_zero _)
    | cons old tail =>
      rw [List.length_cons] at fits
      rcases ih (front ++ [byte]) tail length (by
        grind) (by omega) with
        ⟨rest, total, copied⟩
      refine ⟨rest, by grind, ?_⟩
      grind [processCopyTextInBuffer, store_boundary]

/-- The length of a text is found if no zero stands in it. -/
theorem syscallTextLength_eq {text rest : List UInt8} (whole : 0 ∉ text) :
    ∀ left length, length ≤ text.length → text.length < length + left →
      syscallTextLength (text ++ 0 :: rest) left length = some text.length := by
  intro left
  induction left with
  | zero =>
    omega
  | succ left ih =>
    intro length inside enough
    unfold syscallTextLength
    by_cases isEnd : length = text.length
    · simp [*]
    grind

/-- The functions act on the array as on the texts, and they never leave it. -/
theorem syscallBuildCanonicalCwdInBuffer_leaves {process : ProcessDirectory}
    (short : process.cwdText.length ≤ vfsPathMax) (whole : 0 ∉ process.cwdText)
    (path : List UInt8) {buffer : CwdBuffer} (size : buffer.output.length = vfsPathMax + 1) :
    Leaves (syscallBuildCanonicalCwdInBuffer process path buffer)
      (syscallBuildCanonicalCwd process path) := by
  unfold syscallBuildCanonicalCwdInBuffer syscallBuildCanonicalCwd
  by_cases isAbsolute : path.head? = some slash
  · rw [if_pos isAbsolute, if_pos isAbsolute]
    cases buffer with | mk output length => ?_
    simp only at size
    cases output with
    | nil => exact absurd size (by decide)
    | cons first rest =>
      cases rest with
      | nil => exact absurd (Nat.succ.inj size) (by decide)
      | cons second rest =>
        have begun := @store_boundary [] (second :: rest) first slash length
        have ended := @store_boundary [slash] rest second 0 length
        change CwdBuffer.store ⟨first :: second :: rest, length⟩ 0 slash = _ at begun
        change CwdBuffer.store ⟨slash :: second :: rest, length⟩ 1 0 = _ at ended
        rw [begun, Option.bind_some]
        change Leaves ((CwdBuffer.store ⟨slash :: second :: rest, length⟩ 1 0).bind _) _
        rw [ended, Option.bind_some]
        exact syscallBuildComponentsInBuffer_leaves (components path) ⟨size, rfl, by decide, rest, rfl⟩
  · rw [if_neg isAbsolute, if_neg isAbsolute]
    unfold processGetCwdText
    by_cases unusable : process.slotUsed = false ∨ process.alive = false ∨ process.cwdTextValid = false
    · simp_all [leaves_failed]
    rw [if_neg unusable, if_neg unusable]
    cases buffer with | mk output length => ?_
    simp only at size
    rcases @processCopyTextInBuffer_eq (vfsPathMax + 1) process.cwdText [] output length
      (by rw [List.length_nil]; omega) (by omega) with ⟨rest, total, copied⟩
    change processCopyTextInBuffer _ _ 0 ⟨output, length⟩ = some (true,
      ⟨process.cwdText ++ 0 :: rest, length⟩) at copied
    have fits : process.cwdText.length < vfsPathMax + 1 := Nat.lt_succ_of_le short
    have isLength := @syscallTextLength_eq process.cwdText rest whole (vfsPathMax + 1) 0
      (Nat.zero_le _) (by omega)
    unfold processCopyText
    rw [copied, Option.bind_some, if_pos fits]
    simp only [Bool.true_eq_false, if_false]
    rw [isLength, Option.bind_some]
    have sizeAfter : (process.cwdText ++ 0 :: rest).length = vfsPathMax + 1 := by
      rw [List.length_append, List.length_cons]
      omega
    by_cases unfit : process.cwdText.length = 0 ∨ process.cwdText.length > vfsPathMax
    · rw [if_pos unfit, if_pos unfit]
      exact leaves_failed sizeAfter
    · rw [if_neg unfit, if_neg unfit]
      exact syscallBuildComponentsInBuffer_leaves (components path) ⟨sizeAfter, rfl, short, rest, rfl⟩

end BoringOS.Vfs
