import BoringOS.Library.Run

namespace BoringOS.Terminal

open Library

/-!
# The terminal emulator

`user/boring-terminal/terminal.c`: a grid of cells, a cursor, and a parser whose
state survives from one feed to the next.  The cells form one array of the
largest size, of which the top left corner is visible, so a terminal that was
shrunk still has its old content outside.

The terminal records which cells have been read or written.  The calls are
given a terminal and a buffer; those with a null pointer do nothing.
-/

def boringTerminalMaxCols : Nat := 160
def boringTerminalMaxRows : Nat := 96
def boringTerminalTabWidth : Nat := 4

/-- The character of an empty cell -/
def blank : UInt8 := 32

def isPrintable (byte : UInt8) : Prop := 32 ≤ byte ∧ byte ≤ 126

instance (byte : UInt8) : Decidable (isPrintable byte) := inferInstanceAs (Decidable (_ ∧ _))

inductive ParserState where
  | text
  | esc
  | csi
deriving DecidableEq, Repr

structure BoringTerminal where
  /-- The cells, by row and column -/
  cells : Nat → Nat → UInt8
  cols : Nat
  rows : Nat
  cursorCol : Nat
  cursorRow : Nat
  csiValue : Nat
  parserState : ParserState
  csiHasValue : Bool
  /-- The cells that have been read or written, by row and column, the last one first -/
  touched : List (Nat × Nat)

namespace BoringTerminal

variable (t : BoringTerminal)

/-- `cells[row][col] = character` -/
def setCell (row col : Nat) (character : UInt8) : BoringTerminal :=
  { t with
    cells := fun r c => if r = row ∧ c = col then character else t.cells r c
    touched := (row, col) :: t.touched }

/-- `cells[row - 1][col] = cells[row][col]` -/
def raiseCell (row col : Nat) : BoringTerminal :=
  { t with
    cells := fun r c => if r = row - 1 ∧ c = col then t.cells row col else t.cells r c
    touched := (row - 1, col) :: (row, col) :: t.touched }

/-- The loop that clears the cells of a row from one column up to another -/
def clearCells (row first count : Nat) : BoringTerminal :=
  (List.range' first count).foldl (fun terminal col => terminal.setCell row col blank) t

def clearRow (row : Nat) : BoringTerminal := t.clearCells row 0 t.cols

/-- The loop that clears rows -/
def clearRows (first count : Nat) : BoringTerminal := (List.range' first count).foldl clearRow t

/-- The inner loop of `scroll` -/
def raiseRow (row : Nat) : BoringTerminal :=
  (List.range t.cols).foldl (fun terminal col => terminal.raiseCell row col) t

def scroll : BoringTerminal :=
  let raised := (List.range' 1 (t.rows - 1)).foldl raiseRow t
  { raised.clearRow (raised.rows - 1) with cursorRow := raised.rows - 1 }

def linefeed : BoringTerminal :=
  if t.cursorRow + 1 < t.rows then { t with cursorRow := t.cursorRow + 1 } else t.scroll

def putPrintable (character : UInt8) : BoringTerminal :=
  let put := t.setCell t.cursorRow t.cursorCol character
  if put.cols ≤ put.cursorCol + 1 then linefeed { put with cursorCol := 0 }
  else { put with cursorCol := put.cursorCol + 1 }

def eraseLineTail : BoringTerminal := t.clearCells t.cursorRow t.cursorCol (t.cols - t.cursorCol)

def dimensionsValid (cols rows : Nat) : Prop :=
  cols ≠ 0 ∧ rows ≠ 0 ∧ cols ≤ boringTerminalMaxCols ∧ rows ≤ boringTerminalMaxRows

instance (cols rows : Nat) : Decidable (dimensionsValid cols rows) :=
  inferInstanceAs (Decidable (_ ∧ _))

def boringTerminalClear : BoringTerminal :=
  if dimensionsValid t.cols t.rows then
    { t.clearRows 0 t.rows with
      cursorCol := 0
      cursorRow := 0 }
  else t

def csiCount : Nat :=
  if t.csiHasValue = true ∧ t.csiValue ≠ 0 then t.csiValue else 1

/-- What the final byte of a sequence does to the cursor and the cells -/
def csiAction (final : UInt8) : BoringTerminal :=
  if final = 68 then
    { t with cursorCol := t.cursorCol - min t.csiCount t.cursorCol }
  else if final = 67 then
    { t with cursorCol := t.cursorCol + min t.csiCount (t.cols - t.cursorCol - 1) }
  else if final = 75 then t.eraseLineTail
  else if final = 74 then
    if t.csiHasValue = true ∧ t.csiValue = 2 then t.boringTerminalClear else t
  else if final = 72 then
    { t with
      cursorCol := 0
      cursorRow := 0 }
  else t

def csiFinish (final : UInt8) : BoringTerminal :=
  { t.csiAction final with
    parserState := .text
    csiValue := 0
    csiHasValue := false }

/-- `feed_byte` after an escape -/
def feedEsc (byte : UInt8) : BoringTerminal :=
  if byte = 91 then
    { t with
      parserState := .csi
      csiValue := 0
      csiHasValue := false }
  else { t with parserState := .text }

/-- `feed_byte` inside a sequence -/
def feedCsi (byte : UInt8) : BoringTerminal :=
  if 48 ≤ byte ∧ byte ≤ 57 then
    { t with
      csiHasValue := true
      csiValue :=
        if t.csiValue ≤ 999 then t.csiValue * 10 + (byte.toNat - 48) else t.csiValue }
  else if 64 ≤ byte ∧ byte ≤ 126 then t.csiFinish byte
  else if byte = 59 ∨ byte = 63 then t
  else { t with parserState := .text }

/-- `feed_byte` outside of any sequence -/
def feedText (byte : UInt8) : BoringTerminal :=
  if byte = 27 then { t with parserState := .esc }
  else if byte = 10 then t.linefeed
  else if byte = 13 then { t with cursorCol := 0 }
  else if byte = 8 then
    if t.cursorCol ≠ 0 then { t with cursorCol := t.cursorCol - 1 } else t
  else if byte = 9 then
    let target := (t.cursorCol / boringTerminalTabWidth + 1) * boringTerminalTabWidth
    if t.cols ≤ target then linefeed { t with cursorCol := 0 }
    else { t with cursorCol := target }
  else if isPrintable byte then t.putPrintable byte
  else t

def feedByte (byte : UInt8) : BoringTerminal :=
  match t.parserState with
  | .esc => t.feedEsc byte
  | .csi => t.feedCsi byte
  | .text => t.feedText byte

/-- A terminal that has been started, in memory with any content -/
def boringTerminalInit (memory : BoringTerminal) (cols rows : Nat) : Option BoringTerminal :=
  if dimensionsValid cols rows then
    let started :=
      { memory with
        cols := cols
        rows := rows
        cursorCol := 0
        cursorRow := 0
        csiValue := 0
        parserState := .text
        csiHasValue := false }
    some ((List.range boringTerminalMaxRows).foldl
      (fun terminal row => terminal.clearCells row 0 boringTerminalMaxCols) started)
  else none

/-- The loop of a resize that clears the new columns of the old rows -/
def clearColumns (count oldCols newCols : Nat) : BoringTerminal :=
  (List.range count).foldl (fun terminal row => terminal.clearCells row oldCols (newCols - oldCols)) t

/-- The result says whether the new size has been taken. -/
def boringTerminalResize (cols rows : Nat) : Bool × BoringTerminal :=
  if ¬ dimensionsValid cols rows ∨ ¬ dimensionsValid t.cols t.rows then (false, t)
  else
    let sized :=
      { t with
        cols := cols
        rows := rows }
    let widened := if t.cols < cols then sized.clearColumns (min rows t.rows) t.cols cols else sized
    let heightened := if t.rows < rows then widened.clearRows t.rows (rows - t.rows) else widened
    (true,
      { heightened with
        cursorCol := if cols ≤ t.cursorCol then cols - 1 else t.cursorCol
        cursorRow := if rows ≤ t.cursorRow then rows - 1 else t.cursorRow })

def boringTerminalFeed (bytes : List UInt8) : BoringTerminal :=
  if dimensionsValid t.cols t.rows then bytes.foldl feedByte t else t

/-- The character of a visible cell -/
def boringTerminalCell (col row : Nat) : UInt8 :=
  if t.cols ≤ col ∨ t.rows ≤ row then 0 else t.cells row col

end BoringTerminal

/-- The calls that change a terminal -/
inductive TerminalCall where
  | feed (bytes : List UInt8)
  | resize (cols rows : Nat)
  | clear
deriving DecidableEq, Repr

def BoringTerminal.step (t : BoringTerminal) : TerminalCall → BoringTerminal
  | .feed bytes => t.boringTerminalFeed bytes
  | .resize cols rows => (t.boringTerminalResize cols rows).2
  | .clear => t.boringTerminalClear

end BoringOS.Terminal
