import Mathlib.Data.Nat.Count

namespace BoringOS.Library

universe u

/-!
# Gap buffers

A text that is edited at one place is two lists, what stands before the place
and what stands behind it.  Programs often keep it in one array and move the
tail by one cell with each edit; the loops that do so are described cell by
cell, and then by the text that the array holds.
-/

/-- A text with a place of insertion -/
structure GapBuffer (Symbol : Type u) where
  before : List Symbol
  behind : List Symbol
deriving DecidableEq, Repr

variable {Symbol : Type u}

namespace GapBuffer

variable (buffer : GapBuffer Symbol)

def text : List Symbol := buffer.before ++ buffer.behind

/-- The place of insertion, as an index in the text -/
def cursor : Nat := buffer.before.length

def empty : GapBuffer Symbol := ⟨[], []⟩

/-- The text with the cursor at its end -/
def ofText (text : List Symbol) : GapBuffer Symbol := ⟨text, []⟩

def insert (symbol : Symbol) : GapBuffer Symbol := ⟨buffer.before ++ [symbol], buffer.behind⟩

/-- The symbol before the cursor vanishes. -/
def backspace : GapBuffer Symbol := ⟨buffer.before.dropLast, buffer.behind⟩

/-- The symbol behind the cursor vanishes. -/
def delete : GapBuffer Symbol := ⟨buffer.before, buffer.behind.tail⟩

def left : GapBuffer Symbol :=
  match buffer.before.getLast? with
  | none => buffer
  | some symbol => ⟨buffer.before.dropLast, symbol :: buffer.behind⟩

def right : GapBuffer Symbol :=
  match buffer.behind with
  | [] => buffer
  | symbol :: rest => ⟨buffer.before ++ [symbol], rest⟩

def home : GapBuffer Symbol := ⟨[], buffer.text⟩

def last : GapBuffer Symbol := ⟨buffer.text, []⟩

theorem cursor_le : buffer.cursor ≤ buffer.text.length := by
  rw [cursor, text, List.length_append]
  exact Nat.le_add_right _ _

theorem left_text : buffer.left.text = buffer.text := by
  rw [left]
  split
  · rfl
  rename_i symbol isLast
  have known := List.dropLast_append_getLast? symbol isLast
  change buffer.before.dropLast ++ symbol :: buffer.behind = buffer.before ++ buffer.behind
  grind

theorem left_cursor : buffer.left.cursor = buffer.cursor - 1 := by
  rw [left]
  grind [cursor]

theorem right_text : buffer.right.text = buffer.text := by
  grind [right, text]

theorem right_cursor (more : buffer.cursor < buffer.text.length) :
    buffer.right.cursor = buffer.cursor + 1 := by
  rw [right]
  split
  · simp_all [cursor, text, List.append_nil]
  · exact List.length_append

theorem right_eq (full : buffer.cursor = buffer.text.length) : buffer.right = buffer := by
  simp_all [cursor, text, List.length_append, right]

theorem delete_eq (full : buffer.cursor = buffer.text.length) : buffer.delete = buffer := by
  have isEmpty : buffer.behind = [] := by
    rw [cursor, text, List.length_append] at full
    exact List.length_eq_zero_iff.mp (by omega)
  rw [delete, isEmpty, List.tail_nil, ← isEmpty]

theorem backspace_eq (first : buffer.cursor = 0) : buffer.backspace = buffer := by
  have isEmpty : buffer.before = [] := List.length_eq_zero_iff.mp first
  rw [backspace, isEmpty, List.dropLast_nil, ← isEmpty]

theorem left_eq (first : buffer.cursor = 0) : buffer.left = buffer := by
  have isEmpty : buffer.before = [] := List.length_eq_zero_iff.mp first
  rw [left, isEmpty, List.getLast?_nil]

end GapBuffer

/-- The first cells of an array -/
def arrayText (array : Nat → Symbol) (length : Nat) : List Symbol := (List.range length).map array

/-- The loop that moves the cells from one place on up by one, from the last of
them down to the first -/
def shiftUp (first : Nat) : (count : Nat) → (Nat → Symbol) → Nat → Symbol
  | 0, array => array
  | count + 1, array =>
    shiftUp first count (Function.update array (first + count + 1) (array (first + count)))

/-- The loop that moves cells down by one, onto the first of these places -/
def shiftDown (first : Nat) : (count : Nat) → (Nat → Symbol) → Nat → Symbol
  | 0, array => array
  | count + 1, array =>
    shiftDown (first + 1) count (Function.update array first (array (first + 1)))

variable {array : Nat → Symbol} {length : Nat}

theorem arrayText_length (array : Nat → Symbol) (length : Nat) :
    (arrayText array length).length = length := by
  rw [arrayText, List.length_map, List.length_range]

theorem arrayText_getElem? {index : Nat} (inside : index < length) :
    (arrayText array length)[index]? = some (array index) := by
  simp_all [arrayText]

theorem arrayText_eq {text : List Symbol} (isLength : text.length = length)
    (cells : ∀ index < length, text[index]? = some (array index)) : arrayText array length = text := by
  apply List.ext_getElem?
  intro index
  by_cases inside : index < length
  · rw [arrayText_getElem? inside, cells index inside]
  simp_all [arrayText_length]

theorem shiftUp_apply (first count : Nat) :
    ∀ (array : Nat → Symbol) (index : Nat), shiftUp first count array index =
      if first < index ∧ index ≤ first + count then array (index - 1) else array index := by
  induction count with
  | zero =>
    intro array index
    rw [shiftUp, if_neg (by omega)]
  | succ count ih =>
    intro array index
    rw [shiftUp, ih]
    by_cases inside : first < index ∧ index ≤ first + count
    · grind
    grind

theorem shiftDown_apply (count : Nat) :
    ∀ (first : Nat) (array : Nat → Symbol) (index : Nat), shiftDown first count array index =
      if first ≤ index ∧ index < first + count then array (index + 1) else array index := by
  induction count with
  | zero =>
    intro first array index
    rw [shiftDown, if_neg (by omega)]
  | succ count ih =>
    intro first array index
    rw [shiftDown, ih]
    grind

/-- The text of a buffer in an array -/
structure Realizes (array : Nat → Symbol) (length cursor : Nat) (buffer : GapBuffer Symbol) :
    Prop where
  text : arrayText array length = buffer.text
  cursor : cursor = buffer.cursor

namespace Realizes

variable {buffer : GapBuffer Symbol} {cursor : Nat}

section

variable (realizes : Realizes array length cursor buffer)
include realizes

theorem length_eq : buffer.text.length = length := by
  rw [← realizes.text, arrayText_length]

theorem cursor_le : cursor ≤ length := by
  rw [realizes.cursor, ← realizes.length_eq]
  exact buffer.cursor_le

theorem cell {index : Nat} (inside : index < length) : buffer.text[index]? = some (array index) := by
  rw [← realizes.text]
  exact arrayText_getElem? inside

/-- The tail is moved up, and the symbol is written into the gap. -/
theorem insert (symbol : Symbol) :
    Realizes (Function.update (shiftUp cursor (length - cursor) array) cursor symbol) (length + 1)
      (cursor + 1) (buffer.insert symbol) := by
  have inside := realizes.cursor_le
  have isLength := realizes.length_eq
  have isCursor : buffer.before.length = cursor := realizes.cursor.symm
  constructor
  · apply arrayText_eq
    · grind [GapBuffer.text, GapBuffer.insert]
    · intro index below
      have known : ∀ other, other < length → (buffer.before ++ buffer.behind)[other]? = some (array other) :=
        fun other isInside => realizes.cell isInside
      simp only [GapBuffer.insert, GapBuffer.text]
      rw [List.append_assoc]
      rcases Nat.lt_trichotomy index cursor with isBefore | isHere | isBehind
      · grind [shiftUp_apply]
      · simp [*]
      grind [Function.update_of_ne, shiftUp_apply]
  · rw [GapBuffer.cursor, GapBuffer.insert, List.length_append, isCursor]
    rfl

/-- The tail is moved down onto the symbol behind the cursor. -/
theorem delete (more : cursor < length) :
    Realizes (shiftDown cursor (length - cursor) array) (length - 1) cursor buffer.delete := by
  have isLength := realizes.length_eq
  have isCursor : buffer.before.length = cursor := realizes.cursor.symm
  rw [GapBuffer.text, List.length_append] at isLength
  refine ⟨arrayText_eq ?_ fun index below => ?_, realizes.cursor⟩
  · simp only [GapBuffer.delete, GapBuffer.text, List.length_append, List.length_tail]
    omega
  · have known : ∀ other, other < length → (buffer.before ++ buffer.behind)[other]? = some (array other) :=
      fun other isInside => realizes.cell isInside
    simp only [GapBuffer.delete, GapBuffer.text]
    rw [shiftDown_apply]
    grind

/-- The tail is moved down onto the symbol before the cursor. -/
theorem backspace (more : cursor ≠ 0) :
    Realizes (shiftDown (cursor - 1) (length - 1 - (cursor - 1)) array) (length - 1) (cursor - 1)
      buffer.backspace := by
  have isLength := realizes.length_eq
  have inside := realizes.cursor_le
  have isCursor : buffer.before.length = cursor := realizes.cursor.symm
  rw [GapBuffer.text, List.length_append] at isLength
  refine ⟨arrayText_eq ?_ fun index below => ?_, ?_⟩
  · simp only [GapBuffer.backspace, GapBuffer.text, List.length_append, List.length_dropLast]
    omega
  · have known : ∀ other, other < length → (buffer.before ++ buffer.behind)[other]? = some (array other) :=
      fun other isInside => realizes.cell isInside
    simp only [GapBuffer.backspace, GapBuffer.text]
    rw [shiftDown_apply]
    by_cases isBefore : index < cursor - 1
    · grind
    grind
  · rw [GapBuffer.cursor, GapBuffer.backspace, List.length_dropLast, isCursor]

end

end Realizes

end BoringOS.Library
