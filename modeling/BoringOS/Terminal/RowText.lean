import Mathlib.Data.Nat.Bitwise
import BoringOS.Terminal.TerminalRuns

namespace BoringOS.Terminal

open Library
open BoringTerminal

/-!
# What programs write on one row

A program that edits a line writes printable characters, carriage returns and a
few control sequences.  As long as the text is shorter than the row, all of them
stay on the row of the cursor, and the rules below say what the row shows.
-/

/-- The cursor stands on a row with these cells, outside of any sequence. -/
structure OnRow (t : BoringTerminal) (cols row : Nat) (cells : Nat → UInt8) (cursor : Nat) :
    Prop where
  valid : dimensionsValid t.cols t.rows
  isText : t.parserState = .text
  isCols : t.cols = cols
  isRow : t.cursorRow = row
  isCursor : t.cursorCol = cursor
  inside : cursor < cols
  isCells : ∀ col < cols, t.cells row col = cells col

/-- The row shows a text and nothing behind it. -/
def ShowsRow (t : BoringTerminal) (cols row : Nat) (text : List UInt8) (cursor : Nat) : Prop :=
  OnRow t cols row (fun col => text.getD col blank) cursor

def feedBytes (t : BoringTerminal) (bytes : List UInt8) : BoringTerminal := bytes.foldl feedByte t

theorem feedBytes_append (t : BoringTerminal) (first second : List UInt8) :
    feedBytes t (first ++ second) = feedBytes (feedBytes t first) second :=
  List.foldl_append

theorem boringTerminalFeed_eq {t : BoringTerminal} (valid : dimensionsValid t.cols t.rows)
    (bytes : List UInt8) : t.boringTerminalFeed bytes = feedBytes t bytes :=
  if_pos valid

namespace OnRow

variable {t : BoringTerminal} {cols row cursor : Nat} {cells : Nat → UInt8}

section

variable (on : OnRow t cols row cells cursor)
include on

theorem congr {cells' : Nat → UInt8}
    (same : ∀ col < cols, cells' col = cells col) : OnRow t cols row cells' cursor :=
  { on with isCells := fun col inside => (on.isCells col inside).trans (same col inside).symm }

theorem feedByte_eq (byte : UInt8) : t.feedByte byte = t.feedText byte := by
  rw [feedByte, on.isText]

theorem carriageReturn : OnRow (feedBytes t [13]) cols row cells 0 := by
  change OnRow (t.feedByte 13) cols row cells 0
  rw [on.feedByte_eq]
  exact
    { on with
      isCursor := rfl
      inside := Nat.lt_of_le_of_lt (Nat.zero_le cursor) on.inside }

theorem bell : OnRow (feedBytes t [7]) cols row cells cursor := by
  change OnRow (t.feedByte 7) cols row cells cursor
  rw [on.feedByte_eq]
  exact on

end

theorem feedText_printable (t : BoringTerminal) {byte : UInt8} (isCharacter : isPrintable byte) :
    t.feedText byte = t.putPrintable byte := by
  rcases isCharacter with ⟨low, high⟩
  have control : ∀ other : UInt8, other < 32 → byte ≠ other := by
    rintro other below rfl
    exact absurd low (UInt8.not_le.mpr below)
  rw [feedText, if_neg (control 27 (by decide)), if_neg (control 10 (by decide)),
    if_neg (control 13 (by decide)), if_neg (control 8 (by decide)),
    if_neg (control 9 (by decide)), if_pos ⟨low, high⟩]

theorem printable (on : OnRow t cols row cells cursor) {byte : UInt8}
    (isCharacter : isPrintable byte) (room : cursor + 1 < cols) :
    OnRow (t.feedByte byte) cols row (Function.update cells cursor byte) (cursor + 1) := by
  rw [on.feedByte_eq, feedText_printable t isCharacter, putPrintable]
  have notLast : ¬ (t.setCell t.cursorRow t.cursorCol byte).cols ≤
      (t.setCell t.cursorRow t.cursorCol byte).cursorCol + 1 := by
    change ¬ t.cols ≤ t.cursorCol + 1
    rw [on.isCols, on.isCursor]
    exact Nat.not_le.mpr room
  rw [if_neg notLast]
  refine ⟨on.valid, on.isText, on.isCols, on.isRow, ?_, room, fun col inside => ?_⟩
  · change t.cursorCol + 1 = cursor + 1
    rw [on.isCursor]
  · change (if row = t.cursorRow ∧ col = t.cursorCol then byte else t.cells row col) = _
    rw [on.isRow, on.isCursor, on.isCells col inside, Function.update_apply]
    simp only [true_and]

theorem text (bytes : List UInt8) :
    ∀ {t : BoringTerminal} {cells : Nat → UInt8} {cursor : Nat}, OnRow t cols row cells cursor →
      (∀ byte ∈ bytes, isPrintable byte) → cursor + bytes.length < cols →
      OnRow (feedBytes t bytes) cols row
        (fun col => if cursor ≤ col ∧ col < cursor + bytes.length then
          bytes.getD (col - cursor) blank else cells col) (cursor + bytes.length) := by
  induction bytes with
  | nil =>
    intro t cells cursor on isText room
    refine on.congr fun col inside => if_neg ?_
    rw [List.length_nil]
    omega
  | cons byte rest ih =>
    intro t cells cursor on isText room
    rw [List.length_cons] at room ⊢
    have here := on.printable (isText byte List.mem_cons_self) (by omega)
    have after := ih here (fun other isOther => isText other (List.mem_cons_of_mem byte isOther)) (by omega)
    rw [show cursor + (rest.length + 1) = cursor + 1 + rest.length from by omega]
    refine after.congr fun col inside => ?_
    by_cases isHere : col = cursor
    · grind
    grind

/-- The terminal inside of a sequence, with the number that it has read -/
def inSequence (t : BoringTerminal) (value : Nat) (hasValue : Bool) : BoringTerminal :=
  { t with
    parserState := .csi
    csiValue := value
    csiHasValue := hasValue }

theorem introduced (on : OnRow t cols row cells cursor) :
    feedBytes t [27, 91] = inSequence t 0 false := by
  change (t.feedByte 27).feedByte 91 = _
  rw [on.feedByte_eq]
  rfl

theorem digit_read (t : BoringTerminal) {value digit : Nat} (small : value ≤ 999)
    (isDigit : digit < 10) (hasValue : Bool) :
    (inSequence t value hasValue).feedByte (48 + digit).toUInt8 =
      inSequence t (value * 10 + digit) true := by
  have byte : ∀ digit < 10, (48 ≤ (48 + digit).toUInt8 ∧ (48 + digit).toUInt8 ≤ 57) ∧
      (48 + digit).toUInt8.toNat - 48 = digit := by decide
  change (inSequence t value hasValue).feedCsi _ = _
  simp_all [feedCsi, inSequence]

/-- The last byte of a sequence acts, and text follows. -/
theorem finished {value : Nat} {hasValue : Bool}
    {final : UInt8} (isFinal : 64 ≤ final ∧ final ≤ 126) {cells' : Nat → UInt8} {cursor' : Nat}
    (acts : OnRow { (inSequence t value hasValue).csiAction final with parserState := .text } cols
      row cells' cursor') :
    OnRow ((inSequence t value hasValue).feedByte final) cols row cells' cursor' := by
  have notDigit : ¬ (48 ≤ final ∧ final ≤ 57) := by
    rintro ⟨-, isLow⟩
    exact absurd (UInt8.le_trans isFinal.1 isLow) (by decide)
  change OnRow ((inSequence t value hasValue).feedCsi final) cols row cells' cursor'
  rw [feedCsi, if_neg notDigit, if_pos isFinal, csiFinish]
  exact ⟨acts.valid, rfl, acts.isCols, acts.isRow, acts.isCursor, acts.inside, acts.isCells⟩

section

variable (on : OnRow t cols row cells cursor)
include on

/-- `ESC [ D` with a number -/
theorem cursorLeft {value count : Nat} {hasValue : Bool}
    (isCount : (inSequence t value hasValue).csiCount = count) :
    OnRow ((inSequence t value hasValue).feedByte 68) cols row cells (cursor - count) := by
  apply finished (by decide)
  rw [csiAction, if_pos rfl]
  refine ⟨on.valid, rfl, on.isCols, on.isRow, ?_, ?_, on.isCells⟩
  · change t.cursorCol - min (inSequence t value hasValue).csiCount t.cursorCol = cursor - count
    rw [isCount, on.isCursor]
    omega
  · exact Nat.lt_of_le_of_lt (Nat.sub_le _ _) on.inside

/-- `ESC [ C` -/
theorem cursorRight (room : cursor + 1 < cols) :
    OnRow (feedBytes t [27, 91, 67]) cols row cells (cursor + 1) := by
  change OnRow ((feedBytes t [27, 91]).feedByte 67) cols row cells (cursor + 1)
  rw [on.introduced]
  apply finished (by decide)
  rw [csiAction, if_neg (by decide), if_pos rfl]
  refine ⟨on.valid, rfl, on.isCols, on.isRow, ?_, room, on.isCells⟩
  change t.cursorCol + min 1 (t.cols - t.cursorCol - 1) = cursor + 1
  rw [on.isCursor, on.isCols]
  omega

/-- `ESC [ K` -/
theorem eraseTail :
    OnRow (feedBytes t [27, 91, 75]) cols row
      (fun col => if cursor ≤ col then blank else cells col) cursor := by
  change OnRow ((feedBytes t [27, 91]).feedByte 75) cols row _ cursor
  rw [on.introduced]
  apply finished (by decide)
  rcases clearCells_same (inSequence t 0 false) t.cursorRow t.cursorCol (t.cols - t.cursorCol) with
    ⟨erased, touched, same⟩
  have cell := clearCells_cells (inSequence t 0 false) t.cursorRow t.cursorCol (t.cols - t.cursorCol) row
  change OnRow { (inSequence t 0 false).clearCells t.cursorRow t.cursorCol (t.cols - t.cursorCol)
    with parserState := .text } cols row _ cursor
  rw [same] at cell ⊢
  refine ⟨on.valid, rfl, on.isCols, on.isRow, on.isCursor, on.inside, fun col inside => ?_⟩
  change erased row col = _
  rw [show erased row col = _ from cell col, on.isRow, on.isCursor, on.isCols]
  by_cases behind : cursor ≤ col
  · grind
  · rw [if_neg fun all => behind all.2.1, if_neg behind]
    exact on.isCells col inside

/-- The row is written anew, and what stood behind the text is erased. -/
theorem rewritten {bytes : List UInt8}
    (isText : ∀ byte ∈ bytes, isPrintable byte) (short : bytes.length < cols) :
    ShowsRow (feedBytes t ([13] ++ bytes ++ [27, 91, 75])) cols row bytes bytes.length := by
  rw [feedBytes_append, feedBytes_append]
  have put := on.carriageReturn.text bytes isText (by omega)
  rw [Nat.zero_add] at put
  refine put.eraseTail.congr fun col inside => ?_
  grind

end

end OnRow

theorem ShowsRow.appended {t : BoringTerminal} {cols row : Nat} {text : List UInt8}
    (shows : ShowsRow t cols row text text.length) {byte : UInt8} (isCharacter : isPrintable byte)
    (room : text.length + 1 < cols) :
    ShowsRow (feedBytes t [byte]) cols row (text ++ [byte]) (text.length + 1) := by
  refine (OnRow.printable shows isCharacter room).congr fun col inside => ?_
  rcases Nat.lt_trichotomy col text.length with isBefore | isHere | isBehind
  · grind
  · simp [*]
  grind

end BoringOS.Terminal
