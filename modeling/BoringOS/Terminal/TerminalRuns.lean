import BoringOS.Terminal.Emulator

namespace BoringOS.Terminal

open Library
open BoringTerminal

/-!
# Runs of the terminal emulator

The loops of the emulator work inside the visible grid (`WorksInside`), and so
does every byte it is fed.  A resize is the only call that touches cells outside;
it clears every cell that it makes visible, whatever an earlier size has left
there.
-/

variable {t u v : BoringTerminal}

/-! ## The visible grid -/

/-- From one state to another, only visible cells are read or written. -/
structure StaysInside (t u : BoringTerminal) : Prop where
  cols : u.cols = t.cols
  rows : u.rows = t.rows
  touched : ∃ new, u.touched = new ++ t.touched ∧ ∀ cell ∈ new, cell.1 < t.rows ∧ cell.2 < t.cols

theorem StaysInside.refl (t : BoringTerminal) : StaysInside t t where
  cols := rfl
  rows := rfl
  touched := ⟨[], rfl, fun _ inNil => absurd inNil List.not_mem_nil⟩

theorem StaysInside.trans (first : StaysInside t u) (second : StaysInside u v) :
    StaysInside t v where
  cols := second.cols.trans first.cols
  rows := second.rows.trans first.rows
  touched := by
    rcases first.touched with ⟨early, isEarly, earlyInside⟩
    rcases second.touched with ⟨late, isLate, lateInside⟩
    refine ⟨late ++ early, ?_, fun cell touched => ?_⟩
    · rw [isLate, isEarly, List.append_assoc]
    · rcases List.mem_append.mp touched with isLate | isEarly
      · have inside := lateInside cell isLate
        rw [first.rows, first.cols] at inside
        exact inside
      · exact earlyInside cell isEarly

/-- All visible cells are printable. -/
def Printable (t : BoringTerminal) : Prop :=
  ∀ row col, row < t.rows → col < t.cols → isPrintable (t.cells row col)

theorem blank_printable : isPrintable blank := by decide

/-- Between two states, cells of the visible grid change and nothing else does. -/
structure WorksInside (t u : BoringTerminal) : Prop where
  stays : StaysInside t u
  cursorCol : u.cursorCol = t.cursorCol
  cursorRow : u.cursorRow = t.cursorRow
  csiValue : u.csiValue = t.csiValue
  printable : Printable t → Printable u

theorem WorksInside.refl (t : BoringTerminal) : WorksInside t t := ⟨.refl t, rfl, rfl, rfl, id⟩

theorem WorksInside.trans (first : WorksInside t u) (second : WorksInside u v) :
    WorksInside t v where
  stays := first.stays.trans second.stays
  cursorCol := second.cursorCol.trans first.cursorCol
  cursorRow := second.cursorRow.trans first.cursorRow
  csiValue := second.csiValue.trans first.csiValue
  printable := second.printable ∘ first.printable

theorem setCell_works {row col : Nat} {character : UInt8} (rowInside : row < t.rows)
    (colInside : col < t.cols) (isCharacter : isPrintable character) :
    WorksInside t (t.setCell row col character) where
  stays := by
    refine ⟨rfl, rfl, [(row, col)], rfl, fun cell isCell => ?_⟩
    simp_all
  cursorCol := rfl
  cursorRow := rfl
  csiValue := rfl
  printable := by
    intro printable r c rInside cInside
    change isPrintable (if r = row ∧ c = col then character else t.cells r c)
    split
    · exact isCharacter
    · exact printable r c rInside cInside

theorem raiseCell_works {row col : Nat} (rowInside : row < t.rows) (colInside : col < t.cols) :
    WorksInside t (t.raiseCell row col) where
  stays := by
    refine ⟨rfl, rfl, [(row - 1, col), (row, col)], rfl, fun cell isCell => ?_⟩
    grind
  cursorCol := rfl
  cursorRow := rfl
  csiValue := rfl
  printable := by
    intro printable r c rInside cInside
    change isPrintable (if r = row - 1 ∧ c = col then t.cells row col else t.cells r c)
    split
    · exact printable row col rowInside colInside
    · exact printable r c rInside cInside

/-- A loop works inside the grid when each of its steps does. -/
theorem foldl_works {body : BoringTerminal → Nat → BoringTerminal} {indices : List Nat}
    (each : ∀ u, u.cols = t.cols → u.rows = t.rows → ∀ index ∈ indices,
      WorksInside u (body u index)) : WorksInside t (indices.foldl body t) := by
  induction indices generalizing t with
  | nil => exact .refl t
  | cons first rest ih =>
    have now := each t rfl rfl first List.mem_cons_self
    refine now.trans (ih fun u sameCols sameRows index inRest => ?_)
    exact each u (sameCols.trans now.stays.cols) (sameRows.trans now.stays.rows) index
      (List.mem_cons_of_mem first inRest)

theorem clearCells_works {row first count : Nat} (rowInside : row < t.rows)
    (colsInside : first + count ≤ t.cols) : WorksInside t (t.clearCells row first count) := by
  apply foldl_works
  grind [setCell_works, blank_printable]

theorem clearRow_works {row : Nat} (rowInside : row < t.rows) : WorksInside t (t.clearRow row) :=
  clearCells_works rowInside (Nat.le_of_eq (Nat.zero_add _))

theorem clearRows_works {first count : Nat} (rowsInside : first + count ≤ t.rows) :
    WorksInside t (t.clearRows first count) := by
  apply foldl_works
  grind [clearRow_works]

theorem raiseRow_works {row : Nat} (rowInside : row < t.rows) : WorksInside t (t.raiseRow row) := by
  apply foldl_works
  simp_all [raiseCell_works]

theorem raiseRows_works (t : BoringTerminal) :
    WorksInside t ((List.range' 1 (t.rows - 1)).foldl raiseRow t) := by
  grind [foldl_works, raiseRow_works]

/-! ## Bytes -/

/-- The cursor is inside a grid of an allowed size, in which all cells are
printable.  The parameter of a sequence is far from overflow. -/
structure Sound (t : BoringTerminal) : Prop where
  dimensions : dimensionsValid t.cols t.rows
  cursorCol : t.cursorCol < t.cols
  cursorRow : t.cursorRow < t.rows
  csiValue : t.csiValue < 10000
  printable : Printable t

/-- What every byte does -/
structure Fed (t u : BoringTerminal) : Prop where
  sound : Sound u
  stays : StaysInside t u

theorem Sound.colsPositive (sound : Sound t) : 0 < t.cols := Nat.pos_of_ne_zero sound.dimensions.1

theorem Sound.rowsPositive (sound : Sound t) : 0 < t.rows := Nat.pos_of_ne_zero sound.dimensions.2.1

theorem Sound.fed (sound : Sound t) : Fed t t := ⟨sound, .refl t⟩

theorem Fed.trans (first : Fed t u) (second : Fed u v) : Fed t v :=
  ⟨second.sound, first.stays.trans second.stays⟩

theorem Sound.works (sound : Sound t) (works : WorksInside t u) : Fed t u := by
  refine ⟨⟨?_, ?_, ?_, ?_, works.printable sound.printable⟩, works.stays⟩
  · rw [works.stays.cols, works.stays.rows]
    exact sound.dimensions
  · rw [works.cursorCol, works.stays.cols]
    exact sound.cursorCol
  · rw [works.cursorRow, works.stays.rows]
    exact sound.cursorRow
  · rw [works.csiValue]
    exact sound.csiValue

theorem Sound.moved (sound : Sound t) {col row value : Nat} (state : ParserState) (hasValue : Bool)
    (colInside : col < t.cols) (rowInside : row < t.rows) (small : value < 10000) :
    Fed t
      { t with
        cursorCol := col
        cursorRow := row
        csiValue := value
        parserState := state
        csiHasValue := hasValue } where
  sound := ⟨sound.dimensions, colInside, rowInside, small, sound.printable⟩
  stays := ⟨rfl, rfl, [], rfl, fun _ inNil => absurd inNil List.not_mem_nil⟩

theorem scroll_fed (sound : Sound t) : Fed t t.scroll := by
  have raised := sound.works (raiseRows_works t)
  have rows := raised.stays.rows
  have positive := sound.rowsPositive
  have cleared := raised.trans (raised.sound.works (@clearRow_works _
    (((List.range' 1 (t.rows - 1)).foldl raiseRow t).rows - 1) (by omega)))
  refine cleared.trans (cleared.sound.moved _ _ cleared.sound.cursorCol ?_ cleared.sound.csiValue)
  rw [cleared.stays.rows]
  omega

theorem linefeed_fed (sound : Sound t) : Fed t t.linefeed := by
  unfold linefeed
  split
  · rename_i below
    exact sound.moved _ _ sound.cursorCol below sound.csiValue
  · exact scroll_fed sound

/-- A line feed with a carriage return -/
theorem newline_fed (sound : Sound t) : Fed t (linefeed { t with cursorCol := 0 }) := by
  have returned := sound.moved t.parserState t.csiHasValue sound.colsPositive sound.cursorRow sound.csiValue
  exact returned.trans (linefeed_fed returned.sound)

theorem putPrintable_fed (sound : Sound t) {character : UInt8} (isCharacter : isPrintable character) :
    Fed t (t.putPrintable character) := by
  have put := sound.works (setCell_works sound.cursorRow sound.cursorCol isCharacter)
  unfold putPrintable
  simp only
  split
  · exact put.trans (newline_fed put.sound)
  refine put.trans (put.sound.moved _ _ ?_ put.sound.cursorRow put.sound.csiValue)
  omega

theorem boringTerminalClear_fed (sound : Sound t) : Fed t t.boringTerminalClear := by
  unfold boringTerminalClear
  rw [if_pos sound.dimensions]
  have cleared := sound.works (@clearRows_works t 0 t.rows (Nat.le_of_eq (Nat.zero_add _)))
  exact cleared.trans (cleared.sound.moved _ _ cleared.sound.colsPositive
    cleared.sound.rowsPositive cleared.sound.csiValue)

theorem csiAction_fed (sound : Sound t) (final : UInt8) : Fed t (t.csiAction final) := by
  have colInside := sound.cursorCol
  unfold csiAction
  split
  · exact sound.moved _ _ (by omega) sound.cursorRow sound.csiValue
  split
  · exact sound.moved _ _ (by omega) sound.cursorRow sound.csiValue
  split
  · exact sound.works (clearCells_works sound.cursorRow (by omega))
  split
  · split
    · exact boringTerminalClear_fed sound
    · exact sound.fed
  split
  · exact sound.moved _ _ sound.colsPositive sound.rowsPositive sound.csiValue
  · exact sound.fed

theorem csiFinish_fed (sound : Sound t) (final : UInt8) : Fed t (t.csiFinish final) := by
  have acted := csiAction_fed sound final
  exact acted.trans (acted.sound.moved _ _ acted.sound.cursorCol acted.sound.cursorRow (Nat.zero_lt_succ _))

theorem feedEsc_fed (sound : Sound t) (byte : UInt8) : Fed t (t.feedEsc byte) := by
  unfold feedEsc
  split
  · exact sound.moved _ _ sound.cursorCol sound.cursorRow (Nat.zero_lt_succ _)
  · exact sound.moved _ _ sound.cursorCol sound.cursorRow sound.csiValue

theorem feedCsi_fed (sound : Sound t) (byte : UInt8) : Fed t (t.feedCsi byte) := by
  have small := sound.csiValue
  unfold feedCsi
  split
  · rename_i digit
    have low : byte.toNat ≤ 57 := UInt8.le_iff_toNat_le.mp digit.2
    apply sound.moved _ _ sound.cursorCol sound.cursorRow
    split
    · omega
    · exact small
  split
  · exact csiFinish_fed sound byte
  split
  · exact sound.fed
  · exact sound.moved _ _ sound.cursorCol sound.cursorRow small

theorem feedText_fed (sound : Sound t) (byte : UInt8) : Fed t (t.feedText byte) := by
  have colInside := sound.cursorCol
  unfold feedText
  split
  · exact sound.moved _ _ sound.cursorCol sound.cursorRow sound.csiValue
  split
  · exact linefeed_fed sound
  split
  · exact sound.moved _ _ sound.colsPositive sound.cursorRow sound.csiValue
  split
  · split
    · exact sound.moved _ _ (by omega) sound.cursorRow sound.csiValue
    · exact sound.fed
  split
  · simp only
    split
    · exact newline_fed sound
    · exact sound.moved _ _ (by omega) sound.cursorRow sound.csiValue
  split
  · grind [putPrintable_fed]
  · exact sound.fed

theorem feedByte_fed (sound : Sound t) (byte : UInt8) : Fed t (t.feedByte byte) := by
  grind [feedByte, feedEsc_fed, feedCsi_fed, feedText_fed]

theorem boringTerminalFeed_fed (sound : Sound t) (bytes : List UInt8) :
    Fed t (t.boringTerminalFeed bytes) := by
  unfold boringTerminalFeed
  rw [if_pos sound.dimensions]
  induction bytes generalizing t with
  | nil => exact sound.fed
  | cons byte rest ih =>
    have now := feedByte_fed sound byte
    exact now.trans (ih now.sound)

/-! ## Cleared cells -/

/-- Two states differ at most in their cells and in what has been touched. -/
def SameButCells (t u : BoringTerminal) : Prop :=
  ∃ cells touched, u =
    { t with
      cells := cells
      touched := touched }

theorem SameButCells.trans (first : SameButCells t u) (second : SameButCells u v) :
    SameButCells t v := by
  rcases first with ⟨_, _, isFirst⟩
  rcases second with ⟨cells, touched, isSecond⟩
  refine ⟨cells, touched, ?_⟩
  rw [isSecond, isFirst]

theorem foldl_same {body : BoringTerminal → Nat → BoringTerminal}
    (each : ∀ u index, SameButCells u (body u index)) (indices : List Nat) :
    SameButCells t (indices.foldl body t) := by
  induction indices generalizing t with
  | nil => exact ⟨t.cells, t.touched, rfl⟩
  | cons first rest ih => exact (each t first).trans ih

theorem clearCells_same (t : BoringTerminal) (row first count : Nat) :
    SameButCells t (t.clearCells row first count) :=
  foldl_same (fun _ _ => ⟨_, _, rfl⟩) _

theorem clearCells_cells (t : BoringTerminal) (row first count r c : Nat) :
    (t.clearCells row first count).cells r c =
      if r = row ∧ first ≤ c ∧ c < first + count then blank else t.cells r c := by
  induction count generalizing t first with
  | zero =>
    rw [if_neg fun impossible => by omega]
    rfl
  | succ count ih =>
    change ((t.setCell row first blank).clearCells row (first + 1) count).cells r c = _
    rw [ih]
    change (if _ then blank else if r = row ∧ c = first then blank else t.cells r c) = _
    grind

/-- A loop that clears the same columns of several rows -/
theorem clearEach_cells (t : BoringTerminal) (start width first count r c : Nat) :
    ((List.range' start count).foldl
      (fun terminal row => terminal.clearCells row first width) t).cells r c =
      if start ≤ r ∧ r < start + count ∧ first ≤ c ∧ c < first + width then blank
      else t.cells r c := by
  induction count generalizing t start with
  | zero =>
    grind
  | succ count ih =>
    rw [List.range'_succ, List.foldl_cons, ih, clearCells_cells]
    grind

theorem clearEach_same (t : BoringTerminal) (start width first count : Nat) :
    SameButCells t ((List.range' start count).foldl
      (fun terminal row => terminal.clearCells row first width) t) :=
  foldl_same (fun u row => clearCells_same u row first width) _

theorem clearRows_eq (t : BoringTerminal) (start count : Nat) :
    t.clearRows start count = (List.range' start count).foldl
      (fun terminal row => terminal.clearCells row 0 t.cols) t := by
  unfold clearRows
  generalize List.range' start count = rows
  generalize isCols : t.cols = cols
  induction rows generalizing t with
  | nil => rfl
  | cons row rest ih =>
    rw [List.foldl_cons, List.foldl_cons, ← ih]
    · rw [clearRow, isCols]
    · rcases clearCells_same t row 0 cols with ⟨_, _, isSame⟩
      rw [isSame]
      exact isCols

theorem clearRows_cells (t : BoringTerminal) (start count r c : Nat) :
    (t.clearRows start count).cells r c =
      if start ≤ r ∧ r < start + count ∧ c < t.cols then blank else t.cells r c := by
  rw [clearRows_eq, clearEach_cells]
  simp

theorem clearRows_same (t : BoringTerminal) (start count : Nat) :
    SameButCells t (t.clearRows start count) := by
  rw [clearRows_eq]
  exact clearEach_same t start t.cols 0 count

/-! ## Other calls -/

variable {cols rows : Nat}

theorem boringTerminalInit_sound {memory : BoringTerminal}
    (started : boringTerminalInit memory cols rows = some t) : Sound t := by
  unfold boringTerminalInit at started
  split at started
  case isFalse => cases started
  case isTrue valid =>
    rw [← Option.some.inj started, List.range_eq_range']
    rcases clearEach_same _ 0 boringTerminalMaxCols 0 boringTerminalMaxRows with ⟨_, touched, isSame⟩
    refine ⟨?_, ?_, ?_, ?_, fun r c rInside cInside => ?_⟩
    · rw [isSame]
      exact valid
    · rw [isSame]
      exact Nat.pos_of_ne_zero valid.1
    · rw [isSame]
      exact Nat.pos_of_ne_zero valid.2.1
    · rw [isSame]
      exact Nat.zero_lt_succ _
    · have rSmall : r < rows := by
        rw [isSame] at rInside
        exact rInside
      have cSmall : c < cols := by
        rw [isSame] at cInside
        exact cInside
      have bounds := valid.2.2
      rw [clearEach_cells, if_pos (by omega)]
      exact blank_printable

/-- The new size has been taken, and what is visible now was visible before or is blank. -/
structure Resized (t u : BoringTerminal) (cols rows : Nat) : Prop where
  takenCols : u.cols = cols
  takenRows : u.rows = rows
  cell : ∀ row col, row < rows → col < cols →
    u.boringTerminalCell col row =
      if row < t.rows ∧ col < t.cols then t.boringTerminalCell col row else blank

theorem boringTerminalCell_visible {row col : Nat} (rowInside : row < t.rows)
    (colInside : col < t.cols) : t.boringTerminalCell col row = t.cells row col := by
  exact if_neg (by omega)

section Resize

variable (t : BoringTerminal) (cols rows : Nat)

/-- The terminal with its new size -/
def sized : BoringTerminal :=
  { t with
    cols := cols
    rows := rows }

/-- The new columns of the old rows are cleared. -/
def widened : BoringTerminal :=
  if t.cols < cols then (sized t cols rows).clearColumns (min rows t.rows) t.cols cols
  else sized t cols rows

/-- The new rows are cleared. -/
def heightened : BoringTerminal :=
  if t.rows < rows then (widened t cols rows).clearRows t.rows (rows - t.rows)
  else widened t cols rows

theorem sized_same : SameButCells (sized t cols rows) (sized t cols rows) := ⟨_, _, rfl⟩

theorem widened_same : SameButCells (sized t cols rows) (widened t cols rows) := by
  unfold widened
  split
  · unfold clearColumns
    rw [List.range_eq_range']
    exact clearEach_same ..
  · exact sized_same t cols rows

theorem heightened_same : SameButCells (sized t cols rows) (heightened t cols rows) := by
  unfold heightened
  split
  · exact (widened_same t cols rows).trans (clearRows_same ..)
  · exact widened_same t cols rows

theorem widened_cells {row col : Nat} (rowInside : row < rows) (colInside : col < cols) :
    (widened t cols rows).cells row col =
      if row < t.rows ∧ t.cols ≤ col then blank else t.cells row col := by
  unfold widened
  split
  · unfold clearColumns
    rw [List.range_eq_range', clearEach_cells]
    by_cases isNew : row < t.rows ∧ t.cols ≤ col
    · rw [if_pos isNew, if_pos (by omega)]
    · rw [if_neg isNew, if_neg (by omega)]
      rfl
  · rw [if_neg (by omega)]
    rfl

theorem heightened_cells {row col : Nat} (rowInside : row < rows) (colInside : col < cols) :
    (heightened t cols rows).cells row col =
      if row < t.rows ∧ col < t.cols then t.cells row col else blank := by
  have hasCols : (widened t cols rows).cols = cols := by
    rcases widened_same t cols rows with ⟨_, _, isSame⟩
    rw [isSame]
    rfl
  grind [widened_cells, heightened, clearRows_cells]

/-- The size that is asked for is taken if it is allowed. -/
theorem boringTerminalResize_eq (sound : Sound t) :
    t.boringTerminalResize cols rows =
      if dimensionsValid cols rows then
        (true,
          { heightened t cols rows with
            cursorCol := if cols ≤ t.cursorCol then cols - 1 else t.cursorCol
            cursorRow := if rows ≤ t.cursorRow then rows - 1 else t.cursorRow })
      else (false, t) := by
  unfold boringTerminalResize
  by_cases valid : dimensionsValid cols rows
  · rw [if_neg (not_or.mpr ⟨not_not_intro valid, not_not_intro sound.dimensions⟩), if_pos valid]
    rfl
  · rw [if_pos (.inl valid), if_neg valid]

end Resize

theorem boringTerminalResize_accepted (sound : Sound t) :
    (t.boringTerminalResize cols rows).1 = true ↔ dimensionsValid cols rows := by
  rw [boringTerminalResize_eq t cols rows sound]
  by_cases valid : dimensionsValid cols rows
  · rw [if_pos valid]
    exact iff_of_true rfl valid
  · rw [if_neg valid]
    exact iff_of_false Bool.false_ne_true valid

theorem boringTerminalResize_sound (sound : Sound t)
    (accepted : (t.boringTerminalResize cols rows).1 = true) :
    Resized t (t.boringTerminalResize cols rows).2 cols rows ∧
      Sound (t.boringTerminalResize cols rows).2 := by
  rw [boringTerminalResize_eq t cols rows sound] at accepted ⊢
  split
  case isFalse invalid =>
    grind
  case isTrue valid =>
    rcases heightened_same t cols rows with ⟨_, _, isSame⟩
    have hasCols : (heightened t cols rows).cols = cols := by
      rw [isSame]
      rfl
    have hasRows : (heightened t cols rows).rows = rows := by
      rw [isSame]
      rfl
    have hasValue : (heightened t cols rows).csiValue = t.csiValue := by
      rw [isSame]
      rfl
    have colsPositive := Nat.pos_of_ne_zero valid.1
    have rowsPositive := Nat.pos_of_ne_zero valid.2.1
    have visible : ∀ row col, row < rows → col < cols → (heightened t cols rows).cells row col =
        if row < t.rows ∧ col < t.cols then t.boringTerminalCell col row else blank := by
      intro row col rowInside colInside
      rw [heightened_cells t cols rows rowInside colInside]
      split
      · simp_all [boringTerminalCell_visible]
      · rfl
    refine ⟨⟨hasCols, hasRows, fun row col rowInside colInside => ?_⟩, ?_, ?_, ?_, ?_, ?_⟩
    · simp_all [boringTerminalCell_visible]
    · simp_all
    · grind
    · grind
    · rw [hasValue]
      exact sound.csiValue
    · intro row col rowInside colInside
      rw [hasRows] at rowInside
      rw [hasCols] at colInside
      rw [heightened_cells t cols rows rowInside colInside]
      split
      · rename_i wasInside
        exact sound.printable row col wasInside.1 wasInside.2
      · exact blank_printable

theorem boringTerminalResize_refused (sound : Sound t)
    (refused : (t.boringTerminalResize cols rows).1 ≠ true) :
    (t.boringTerminalResize cols rows).2 = t := by
  rw [boringTerminalResize_eq t cols rows sound] at refused ⊢
  grind

/-! ## Runs -/

theorem step_sound (sound : Sound t) (call : TerminalCall) : Sound (t.step call) := by
  cases call with
  | feed bytes => exact (boringTerminalFeed_fed sound bytes).sound
  | clear => exact (boringTerminalClear_fed sound).sound
  | resize cols rows =>
    change Sound (t.boringTerminalResize cols rows).2
    grind [boringTerminalResize_sound, boringTerminalResize_refused]

theorem run_sound {memory : BoringTerminal}
    (started : boringTerminalInit memory cols rows = some t) (calls : List TerminalCall) :
    Sound (run BoringTerminal.step t calls) :=
  @run_invariant _ _ BoringTerminal.step Sound (fun _ call sound => step_sound sound call) calls t
    (boringTerminalInit_sound started)

/-- In every state of every run, the cursor is inside the visible grid, and all
visible cells are printable.  Feeds and clears touch visible cells only, and a
resize to valid dimensions, which is accepted, keeps what stays visible and
clears what becomes visible. -/
theorem terminal_runs_sound {memory : BoringTerminal} {startCols startRows : Nat}
    (started : boringTerminalInit memory startCols startRows = some t) (calls : List TerminalCall) :
    let s := run BoringTerminal.step t calls
    s.cursorCol < s.cols ∧ s.cursorRow < s.rows ∧
      (∀ row col, row < s.rows → col < s.cols → isPrintable (s.boringTerminalCell col row)) ∧
      (∀ bytes, StaysInside s (s.step (.feed bytes))) ∧ StaysInside s (s.step .clear) ∧ ∀ cols rows,
        ((s.boringTerminalResize cols rows).1 = true ↔ dimensionsValid cols rows) ∧
        ((s.boringTerminalResize cols rows).1 = true → Resized s (s.step (.resize cols rows)) cols rows) ∧
        ((s.boringTerminalResize cols rows).1 ≠ true → s.step (.resize cols rows) = s) := by
  intro s
  have sound : Sound s := run_sound started calls
  refine ⟨sound.cursorCol, sound.cursorRow, fun row col rowInside colInside => ?_,
    fun bytes => (boringTerminalFeed_fed sound bytes).stays, (boringTerminalClear_fed sound).stays,
    fun cols rows => ?_⟩
  · rw [boringTerminalCell_visible rowInside colInside]
    exact sound.printable row col rowInside colInside
  · exact ⟨boringTerminalResize_accepted sound,
      fun accepted => (boringTerminalResize_sound sound accepted).1, boringTerminalResize_refused sound⟩

/-- A terminal whose memory was never written before -/
def zeroed : BoringTerminal where
  cells _ _ := 0
  cols := 0
  rows := 0
  cursorCol := 0
  cursorRow := 0
  csiValue := 0
  parserState := .text
  csiHasValue := false
  touched := []

/-- A small terminal that has just been started -/
def smallTerminal : BoringTerminal := (boringTerminalInit zeroed 4 2).get rfl

theorem smallTerminal_started : boringTerminalInit zeroed 4 2 = some smallTerminal :=
  (Option.some_get _).symm

/-- A resize brings back the columns that an earlier one has hidden. -/
theorem terminal_runs_sound_shrunk :
    let s := run BoringTerminal.step smallTerminal [.feed [97, 98, 99], .resize 2 2]
    s.cursorCol < s.cols ∧ StaysInside s (s.step .clear) ∧ Resized s (s.step (.resize 4 2)) 4 2 := by
  intro s
  have sound := terminal_runs_sound smallTerminal_started [.feed [97, 98, 99], .resize 2 2]
  have isSound : Sound s := run_sound smallTerminal_started [.feed [97, 98, 99], .resize 2 2]
  have accepted : (s.boringTerminalResize 4 2).1 = true :=
    (boringTerminalResize_accepted isSound).mpr (by decide)
  exact ⟨sound.1, sound.2.2.2.2.1, (sound.2.2.2.2.2 4 2).2.1 accepted⟩

end BoringOS.Terminal
