import BoringOS.Shell.LineEditor
import BoringOS.Terminal.RowText

namespace BoringOS.Shell

open Library Terminal

/-!
# What one key does to the line and the screen

The array of the editor realizes the gap buffer, and the row of the terminal shows
the prompt and the text.  An edit in the middle leaves the row behind the array
until the line is redrawn, so the invariant comes in two parts: what holds of the
line (`Held`), and that the row shows it (`Shown`).  A redraw leads from the one
to the other.
-/

def PrintableText (text : List UInt8) : Prop := ∀ byte ∈ text, isPrintable byte

instance (text : List UInt8) : Decidable (PrintableText text) :=
  inferInstanceAs (Decidable (∀ byte ∈ text, isPrintable byte))

/-- The history of the editor is the list of lines of the session. -/
structure Recalls (editor : LineEditor) (session : Session) : Prop where
  entries : session.entries =
    (List.range editor.historyCount).map fun index => editor.lines (editor.shellHistorySlot index)
  position : editor.historyIndex = session.position
  inside : session.position ≤ session.entries.length
  draft : editor.draft = session.draft
  printable : ∀ entry ∈ session.entries, PrintableText entry
  printableDraft : session.position ≠ session.entries.length → PrintableText session.draft

/-- The editor has the line of the session, and its output has stayed on a row. -/
structure Held (prompt : List UInt8) (t : BoringTerminal) (cols row : Nat) (editor : LineEditor)
    (session : Session) : Prop where
  isReading : editor.outcome = .reading
  line : Realizes editor.line editor.length editor.cursor session.gap
  terminated : editor.line editor.length = 0
  noOverflow : editor.overflow = false
  recalls : Recalls editor session
  printable : PrintableText session.gap.text
  short : prompt.length + session.gap.text.length < cols
  onRow : ∃ cells cursor, OnRow (feedBytes t editor.written) cols row cells cursor

/-- The row shows the line, with the cursor at the place of insertion. -/
structure Shown (prompt : List UInt8) (t : BoringTerminal) (cols row : Nat) (editor : LineEditor)
    (session : Session) : Prop extends Held prompt t cols row editor session where
  shows : ShowsRow (feedBytes t editor.written) cols row (prompt ++ session.gap.text)
    (prompt.length + session.gap.cursor)

/-- The editor waits for a character as before. -/
def Waits (editor next : LineEditor) : Prop :=
  next.awaiting = editor.awaiting ∧ next.skipLfAfterCr = editor.skipLfAfterCr

section

variable {prompt : List UInt8} {t : BoringTerminal} {cols row : Nat} {editor : LineEditor}
  {session : Session}

theorem Recalls.edited (recalls : Recalls editor session) {next : LineEditor}
    (gap : GapBuffer UInt8) (lines : next.lines = editor.lines)
    (start : next.historyStart = editor.historyStart)
    (count : next.historyCount = editor.historyCount) (draft : next.draft = editor.draft)
    (index : next.historyIndex = editor.historyIndex) :
    Recalls next { session with gap := gap } where
  entries := by
    simp only [LineEditor.shellHistorySlot, lines, start, count]
    exact recalls.entries
  position := index.trans recalls.position
  inside := recalls.inside
  draft := draft.trans recalls.draft
  printable := recalls.printable
  printableDraft := recalls.printableDraft

/-! ## Arrays and texts -/

theorem PrintableText.append {first second : List UInt8} (isFirst : PrintableText first)
    (isSecond : PrintableText second) : PrintableText (first ++ second) := by
  intro byte isByte
  exact (List.mem_append.mp isByte).elim (isFirst byte) (isSecond byte)

theorem nonzero_of_printable {byte : UInt8} (isCharacter : isPrintable byte) : byte ≠ 0 := by
  rintro rfl
  exact absurd isCharacter.1 (by decide)

/-- The text of an array is found up to its zero. -/
theorem shellCopyText_of_text (source : Nat → UInt8) (text : List UInt8) :
    ∀ capacity index, text.length < capacity → PrintableText text →
      (∀ position < text.length, text[position]? = some (source (index + position))) →
      source (index + text.length) = 0 → shellCopyText source capacity index = some text := by
  induction text with
  | nil =>
    intro capacity index room isText cells zero
    cases capacity with
    | zero => exact absurd room (Nat.lt_irrefl 0)
    | succ capacity => exact if_pos zero
  | cons byte rest ih =>
    intro capacity index room isText cells zero
    cases capacity with
    | zero => exact absurd room (Nat.not_lt_zero _)
    | succ capacity =>
      rw [List.length_cons] at room zero
      have isByte : byte = source index := Option.some.inj (cells 0 (Nat.succ_pos rest.length))
      rw [shellCopyText, if_neg, ih capacity (index + 1) (by omega), Option.map_some, isByte]
      · exact fun other isOther => isText other (List.mem_cons_of_mem byte isOther)
      · intro position inside
        have known := cells (position + 1) (Nat.succ_lt_succ inside)
        grind
      · grind
      · rw [← isByte]
        exact nonzero_of_printable (isText byte List.mem_cons_self)

theorem Held.copied (held : Held prompt t cols row editor session) (narrow : cols ≤ 160) :
    shellCopyText editor.line lineCapacity 0 = some session.gap.text := by
  have isLength := held.line.length_eq
  have short := held.short
  apply shellCopyText_of_text
  · simp only [lineCapacity, boringShellLineMax]
    omega
  · exact held.printable
  · intro position inside
    rw [Nat.zero_add]
    exact held.line.cell (by omega)
  · rw [Nat.zero_add, isLength]
    exact held.terminated

theorem placeText_realizes (text : List UInt8) (line : Nat → UInt8) :
    Realizes (placeText text line) text.length text.length (.ofText text) := by
  constructor
  · rw [GapBuffer.ofText, GapBuffer.text, List.append_nil]
    grind [arrayText_eq, placeText]
  · rfl

theorem placeText_terminated (text : List UInt8) (line : Nat → UInt8) :
    placeText text line text.length = 0 := by
  rw [placeText, if_neg (Nat.lt_irrefl _), if_pos rfl]

/-- Cells behind the text do not matter. -/
theorem realizes_update {array : Nat → UInt8} {length cursor : Nat} {buffer : GapBuffer UInt8}
    (realizes : Realizes array length cursor buffer) (value : UInt8) :
    Realizes (Function.update array length value) length cursor buffer := by
  refine ⟨arrayText_eq realizes.length_eq fun index inside => ?_, realizes.cursor⟩
  rw [Function.update_of_ne (Nat.ne_of_lt inside)]
  exact realizes.cell inside

/-! ## Redrawing -/

theorem digits_read (t : BoringTerminal) (left : Nat) :
    ∀ count hasValue, 0 < left → count < 10 ^ left → count ≤ 9999 →
      feedBytes (OnRow.inSequence t 0 hasValue) (cursorDigits left count).reverse =
        OnRow.inSequence t count true := by
  induction left with
  | zero => nofun
  | succ left ih =>
    intro count hasValue _ room small
    rw [cursorDigits, List.reverse_cons, feedBytes_append]
    have isDigit : count % 10 < 10 := Nat.mod_lt _ (by decide)
    split
    · have read := OnRow.digit_read t (Nat.zero_le 999) isDigit hasValue
      rw [show 0 * 10 + count % 10 = count from by omega] at read
      exact read
    · rw [Nat.pow_succ] at room
      have positive : 0 < left := by
        rcases Nat.eq_zero_or_pos left with isZero | positive
        · grind
        · exact positive
      rw [ih (count / 10) hasValue positive (by omega) (by omega)]
      have read := OnRow.digit_read t (show count / 10 ≤ 999 by omega) isDigit true
      rw [show count / 10 * 10 + count % 10 = count from by omega] at read
      exact read

/-- The cursor moves left by the number that is written. -/
theorem cursorLeft_onRow {cells : Nat → UInt8} {cursor : Nat}
    (on : OnRow t cols row cells cursor) (count : Nat) (small : count ≤ 9999) :
    OnRow (feedBytes t (shellCursorLeft count)) cols row cells (cursor - count) := by
  rw [shellCursorLeft]
  split
  · rename_i isZero
    rw [isZero]
    exact on
  rename_i nonzero
  rw [feedBytes_append, feedBytes_append, on.introduced,
    digits_read t 21 count false (by decide) (by omega) small]
  apply on.cursorLeft
  exact if_pos ⟨rfl, nonzero⟩

section

variable (held : Held prompt t cols row editor session)
include held

theorem Held.redrawn (isPrompt : PrintableText prompt) (narrow : cols ≤ 160) :
    Shown prompt t cols row (editor.shellRedrawLine prompt) session ∧
      Waits editor (editor.shellRedrawLine prompt) := by
  have inside := held.line.cursor_le
  have short := held.short
  have isLength := held.line.length_eq
  rcases held.onRow with ⟨cells, cursor, on⟩
  have row' : ShowsRow (feedBytes t (editor.shellRedrawLine prompt).written) cols row
      (prompt ++ session.gap.text) (prompt.length + session.gap.cursor) := by
    rw [LineEditor.shellRedrawLine, if_neg (Nat.not_lt.mpr inside), held.line.text]
    change ShowsRow (feedBytes t (editor.written ++ ([13] ++ prompt ++ session.gap.text ++
      [27, 91, 75] ++ shellCursorLeft (editor.length - editor.cursor)))) cols row _ _
    rw [feedBytes_append, feedBytes_append, List.append_assoc [13] prompt]
    have drawn := on.rewritten (isPrompt.append held.printable) (by rw [List.length_append]; exact short)
    have moved := cursorLeft_onRow drawn (editor.length - editor.cursor) (by omega)
    rw [List.length_append, isLength, show prompt.length + editor.length -
      (editor.length - editor.cursor) = prompt.length + session.gap.cursor from by
        rw [← held.line.cursor]
        omega] at moved
    exact moved
  have same : editor.shellRedrawLine prompt = editor.write ([13] ++ prompt ++
      arrayText editor.line editor.length ++ [27, 91, 75] ++
      shellCursorLeft (editor.length - editor.cursor)) :=
    if_neg (Nat.not_lt.mpr inside)
  rw [same] at row' ⊢
  refine ⟨⟨⟨held.isReading, held.line, held.terminated, held.noOverflow, ?_, held.printable,
    short, _, _, row'⟩, row'⟩, rfl, rfl⟩
  exact held.recalls.edited session.gap rfl rfl rfl rfl rfl

/-! ## Keys that move the cursor -/

/-- The cursor is somewhere else in the same line. -/
theorem Held.moved (gap : GapBuffer UInt8)
    {cursor : Nat} (sameText : gap.text = session.gap.text) (isCursor : cursor = gap.cursor) :
    Held prompt t cols row { editor with cursor := cursor } { session with gap := gap } where
  isReading := held.isReading
  line := ⟨held.line.text.trans sameText.symm, isCursor⟩
  terminated := held.terminated
  noOverflow := held.noOverflow
  recalls := held.recalls.edited gap rfl rfl rfl rfl rfl
  printable := by
    rw [sameText]
    exact held.printable
  short := by
    rw [sameText]
    exact held.short
  onRow := held.onRow

theorem homePressed (isPrompt : PrintableText prompt) (narrow : cols ≤ 160) :
    Shown prompt t cols row (({ editor with cursor := 0 } : LineEditor).shellRedrawLine prompt)
        (session.press .home) ∧
      Waits editor (({ editor with cursor := 0 } : LineEditor).shellRedrawLine prompt) :=
  (held.moved session.gap.home rfl rfl).redrawn isPrompt narrow

theorem lastPressed (isPrompt : PrintableText prompt) (narrow : cols ≤ 160) :
    Shown prompt t cols row
        (({ editor with cursor := editor.length } : LineEditor).shellRedrawLine prompt)
        (session.press .last) ∧
      Waits editor (({ editor with cursor := editor.length } : LineEditor).shellRedrawLine prompt) :=
  (held.moved session.gap.last (List.append_nil _) held.line.length_eq.symm).redrawn isPrompt narrow

end

section

variable (shown : Shown prompt t cols row editor session)
include shown

theorem Shown.moved (gap : GapBuffer UInt8)
    {cursor : Nat} (sameText : gap.text = session.gap.text) (isCursor : cursor = gap.cursor)
    {bytes : List UInt8} (moves : ShowsRow (feedBytes (feedBytes t editor.written) bytes) cols row
      (prompt ++ session.gap.text) (prompt.length + cursor)) :
    Shown prompt t cols row (({ editor with cursor := cursor } : LineEditor).write bytes)
      { session with gap := gap } := by
  have held := shown.toHeld.moved gap sameText isCursor
  have row' : ShowsRow (feedBytes t (editor.written ++ bytes)) cols row (prompt ++ gap.text)
      (prompt.length + gap.cursor) := by
    rw [feedBytes_append, sameText, ← isCursor]
    exact moves
  exact { held with
    recalls := held.recalls.edited gap rfl rfl rfl rfl rfl
    onRow := ⟨_, _, row'⟩
    shows := row' }

theorem leftPressed :
    Shown prompt t cols row (if editor.cursor ≠ 0 then
        ({ editor with cursor := editor.cursor - 1 } : LineEditor).write [27, 91, 68] else editor)
      (session.press .left) := by
  split
  · rename_i notFirst
    refine shown.moved session.gap.left session.gap.left_text ?_ ?_
    · rw [session.gap.left_cursor, shown.line.cursor]
    · change ShowsRow ((feedBytes (feedBytes t editor.written) [27, 91]).feedByte 68) cols row _ _
      rw [shown.shows.introduced]
      have left := shown.shows.cursorLeft (show BoringTerminal.csiCount
        (OnRow.inSequence (feedBytes t editor.written) 0 false) = 1 from rfl)
      rw [← shown.line.cursor, Nat.add_sub_assoc (Nat.one_le_iff_ne_zero.mpr notFirst)] at left
      exact left
  · rename_i isFirst
    rw [ne_eq, not_not, shown.line.cursor] at isFirst
    rw [Session.press, session.gap.left_eq isFirst]
    exact shown

theorem rightPressed :
    Shown prompt t cols row (if editor.cursor < editor.length then
        ({ editor with cursor := editor.cursor + 1 } : LineEditor).write [27, 91, 67] else editor)
      (session.press .right) := by
  have isLength := shown.line.length_eq
  have isCursor := shown.line.cursor
  have inside := session.gap.cursor_le
  have short := shown.short
  split
  · rename_i notLast
    rw [← isLength, isCursor] at notLast
    refine shown.moved session.gap.right session.gap.right_text ?_ ?_
    · rw [session.gap.right_cursor notLast, isCursor]
    · have right := shown.shows.cursorRight (by omega)
      rw [isCursor]
      exact right
  · rw [Session.press, session.gap.right_eq (by omega)]
    exact shown

end

/-! ## Keys that change the text -/

/-- Another line is in the array, and the history is the same. -/
theorem Held.edited (held : Held prompt t cols row editor session) (gap : GapBuffer UInt8)
    {line : Nat → UInt8} {length cursor : Nat} (realizes : Realizes line length cursor gap)
    (terminated : line length = 0) (printable : PrintableText gap.text)
    (short : prompt.length + gap.text.length < cols) :
    Held prompt t cols row
      { editor with
        line := line
        length := length
        cursor := cursor } { session with gap := gap } where
  isReading := held.isReading
  line := realizes
  terminated := terminated
  noOverflow := held.noOverflow
  recalls := held.recalls.edited gap rfl rfl rfl rfl rfl
  printable := printable
  short := short
  onRow := held.onRow

section

variable (shown : Shown prompt t cols row editor session)
include shown

theorem deletePressed (isPrompt : PrintableText prompt) (narrow : cols ≤ 160)
    (fits : prompt.length + (session.press .delete).gap.text.length < cols) :
    ∀ next, next = (if editor.length ≤ editor.cursor then editor
        else LineEditor.shellRedrawLine prompt
          { editor with
            line := shiftDown editor.cursor (editor.length - editor.cursor) editor.line
            length := editor.length - 1 }) →
      Shown prompt t cols row next (session.press .delete) ∧ Waits editor next := by
  rintro next rfl
  have isLength := shown.line.length_eq
  have isCursor := shown.line.cursor
  have inside := session.gap.cursor_le
  split
  · rw [Session.press, session.gap.delete_eq (by omega)]
    exact ⟨shown, rfl, rfl⟩
  rename_i notLast
  rw [Nat.not_le] at notLast
  refine (shown.toHeld.edited session.gap.delete (shown.line.delete notLast) ?_ ?_ fits).redrawn
    isPrompt narrow
  · rw [shiftDown_apply, if_pos (by omega), Nat.sub_add_cancel (by omega)]
    exact shown.terminated
  · intro byte isByte
    apply shown.printable byte
    rcases List.mem_append.mp isByte with before | behind
    · exact List.mem_append_left _ before
    · exact List.mem_append_right _ (List.mem_of_mem_tail behind)

theorem backspacePressed (isPrompt : PrintableText prompt) (narrow : cols ≤ 160)
    (fits : prompt.length + (session.press .backspace).gap.text.length < cols) :
    Shown prompt t cols row (editor.backspace prompt) (session.press .backspace) ∧
      Waits editor (editor.backspace prompt) := by
  have isCursor := shown.line.cursor
  rw [LineEditor.backspace]
  split
  · rename_i notFirst
    refine (shown.toHeld.edited session.gap.backspace
      (realizes_update (shown.line.backspace notFirst.2) 0) (Function.update_self ..) ?_
      fits).redrawn isPrompt narrow
    intro byte isByte
    apply shown.printable byte
    rcases List.mem_append.mp isByte with before | behind
    · exact List.mem_append_left _ ((List.dropLast_sublist _).mem before)
    · exact List.mem_append_right _ behind
  · rename_i isFirst
    have atStart : session.gap.cursor = 0 := by
      rw [← isCursor]
      by_contra notFirst
      exact isFirst ⟨shown.noOverflow, notFirst⟩
    rw [Session.press, session.gap.backspace_eq atStart]
    exact ⟨shown, rfl, rfl⟩

theorem characterPressed (isPrompt : PrintableText prompt) (narrow : cols ≤ 160) {character : UInt8}
    (isCharacter : isPrintable character)
    (fits : prompt.length + (session.press (.character character)).gap.text.length < cols) :
    Shown prompt t cols row (editor.insert prompt character)
        (session.press (.character character)) ∧
      Waits editor (editor.insert prompt character) := by
  have isLength := shown.line.length_eq
  have isCursor := shown.line.cursor
  have short := shown.short
  have realizes := realizes_update (shown.line.insert character) 0
  have printable : PrintableText (session.gap.insert character).text := by
    intro byte isByte
    rcases List.mem_append.mp isByte with before | behind
    · rcases List.mem_append.mp before with old | new
      · exact shown.printable byte (List.mem_append_left _ old)
      simp_all
    · exact shown.printable byte (List.mem_append_right _ behind)
  have held := shown.toHeld.edited (session.gap.insert character) realizes
    (Function.update_self ..) printable fits
  have room : ¬ lineCapacity - 1 ≤ editor.length := by
    simp only [lineCapacity, boringShellLineMax]
    omega
  rw [LineEditor.insert, if_neg (by rw [shown.noOverflow]; decide), if_neg room]
  dsimp only
  split
  · rename_i atEnd
    have noTail : session.gap.behind = [] := by
      rw [← isLength, isCursor, Nat.add_right_cancel_iff, GapBuffer.cursor, GapBuffer.text,
        List.length_append] at atEnd
      exact List.length_eq_zero_iff.mp (by omega)
    have row' : ShowsRow (feedBytes t (editor.written ++ [character])) cols row
        (prompt ++ (session.gap.insert character).text)
        (prompt.length + (session.gap.insert character).cursor) := by
      have before := shown.shows
      have all : session.gap.text = session.gap.before := by
        rw [GapBuffer.text, noTail, List.append_nil]
      rw [GapBuffer.cursor, ← all, ← List.length_append] at before
      have room : (prompt ++ session.gap.text).length + 1 < cols := by
        have grown : (session.gap.insert character).text.length = session.gap.text.length + 1 := by
          rw [isLength]
          exact realizes.length_eq
        rw [Session.press, grown] at fits
        rw [List.length_append]
        omega
      have appended := before.appended isCharacter room
      rw [feedBytes_append]
      simp only [GapBuffer.insert, GapBuffer.text, GapBuffer.cursor, noTail, List.append_nil,
        List.length_append, List.length_singleton] at appended ⊢
      rw [List.append_assoc, Nat.add_assoc] at appended
      exact appended
    exact ⟨{ held with
      recalls := held.recalls.edited _ rfl rfl rfl rfl rfl
      onRow := ⟨_, _, row'⟩
      shows := row' }, rfl, rfl⟩
  · exact held.redrawn isPrompt narrow

end

/-! ## Keys for the history -/

theorem Recalls.count_eq (recalls : Recalls editor session) :
    session.entries.length = editor.historyCount := by
  rw [recalls.entries, List.length_map, List.length_range]

theorem Recalls.entry (recalls : Recalls editor session) {index : Nat}
    (inside : index < editor.historyCount) :
    session.entries.getD index [] = editor.lines (editor.shellHistorySlot index) := by
  rw [recalls.entries, List.getD_eq_getElem _ _ (by simp [*]), List.getElem_map, List.getElem_range]

section

variable (held : Held prompt t cols row editor session)
include held

/-- The line that is typed is kept as the draft. -/
theorem Held.drafted :
    Held prompt t cols row { editor with draft := session.gap.text }
      { session with draft := session.gap.text } :=
  { held with
    recalls :=
      { held.recalls with
        draft := rfl
        printableDraft := fun _ => held.printable } }

/-- Another line of the history is the one that is shown. -/
theorem Held.turned {index : Nat}
    (inside : index ≤ session.entries.length) (isDraft : PrintableText session.draft) :
    Held prompt t cols row { editor with historyIndex := index }
      { session with position := index } :=
  { held with
    recalls :=
      { held.recalls with
        position := rfl
        inside := inside
        printableDraft := fun _ => isDraft } }

/-- The replacement is put in place of the line. -/
theorem Held.replaced (isPrompt : PrintableText prompt) (narrow : cols ≤ 160) {text : List UInt8}
    (isText : PrintableText text) (fits : prompt.length + text.length < cols) :
    Shown prompt t cols row (editor.showHistory prompt text) { session with gap := .ofText text } ∧
      Waits editor (editor.showHistory prompt text) := by
  have short : ¬ lineCapacity ≤ text.length := by
    simp only [lineCapacity, boringShellLineMax]
    omega
  have whole : (GapBuffer.ofText text).text = text := List.append_nil text
  rw [LineEditor.showHistory, if_neg short, LineEditor.shellReplaceLine, if_neg short]
  apply (held.edited (.ofText text) (placeText_realizes text editor.line)
    (placeText_terminated text editor.line) ?_ ?_).redrawn isPrompt narrow
  · rw [whole]
    exact isText
  · rw [whole]
    exact fits

theorem Held.entryShown (isPrompt : PrintableText prompt) (narrow : cols ≤ 160) {index : Nat}
    (inside : index < editor.historyCount) (isDraft : PrintableText session.draft)
    (fits : prompt.length + (session.showLine index).gap.text.length < cols) :
    Shown prompt t cols row (editor.showEntry prompt index) (session.showLine index) ∧
      Waits editor (editor.showEntry prompt index) := by
  have isCount := held.recalls.count_eq
  have isEntry := held.recalls.entry inside
  have isText : PrintableText (session.entries.getD index []) := by
    rw [List.getD_eq_getElem _ _ (isCount ▸ inside)]
    exact held.recalls.printable _ (List.getElem_mem _)
  rw [Session.showLine, GapBuffer.ofText, GapBuffer.text, List.append_nil] at fits
  have before : index ≤ session.entries.length := by omega
  have shown := (held.turned before isDraft).replaced isPrompt narrow isText fits
  rw [isEntry] at shown
  rw [Session.showLine, isEntry]
  exact shown

end

section

variable (shown : Shown prompt t cols row editor session)
include shown

theorem Shown.rung :
    Shown prompt t cols row editor.shellBell session ∧ Waits editor editor.shellBell := by
  have row' : ShowsRow (feedBytes t (editor.written ++ [7])) cols row
      (prompt ++ session.gap.text) (prompt.length + session.gap.cursor) := by
    rw [feedBytes_append]
    exact shown.shows.bell
  exact ⟨{ shown with
    recalls := shown.recalls.edited _ rfl rfl rfl rfl rfl
    onRow := ⟨_, _, row'⟩
    shows := row' }, rfl, rfl⟩

theorem olderPressed (isPrompt : PrintableText prompt) (narrow : cols ≤ 160)
    (fits : prompt.length + (session.press .older).gap.text.length < cols) :
    Shown prompt t cols row (editor.shellHistoryNavigate prompt true) (session.press .older) ∧
      Waits editor (editor.shellHistoryNavigate prompt true) := by
  have isCount := shown.recalls.count_eq
  have isIndex := shown.recalls.position
  have inside := shown.recalls.inside
  rw [Session.press, Session.older] at fits ⊢
  rw [LineEditor.shellHistoryNavigate, if_neg (by omega)]
  by_cases isEmpty : editor.historyCount = 0
  · rw [if_pos isEmpty, if_pos (by omega)]
    exact shown.rung
  rw [if_neg isEmpty, if_pos rfl]
  by_cases isOldest : session.position = 0
  · rw [if_pos isOldest, if_neg (by omega), if_neg (by omega)]
    exact shown.rung
  rw [if_neg isOldest] at fits ⊢
  by_cases isNewest : session.position = session.entries.length
  · rw [if_pos isNewest] at fits ⊢
    rw [if_pos (by omega), shown.toHeld.copied narrow, show editor.historyCount - 1 =
      session.position - 1 from by omega]
    exact shown.toHeld.drafted.entryShown isPrompt narrow
      (show session.position - 1 < editor.historyCount from by omega) shown.printable fits
  · rw [if_neg isNewest] at fits ⊢
    rw [if_neg (by omega), if_pos (by omega), isIndex]
    exact shown.toHeld.entryShown isPrompt narrow (by omega) (shown.recalls.printableDraft isNewest) fits

theorem newerPressed (isPrompt : PrintableText prompt) (narrow : cols ≤ 160)
    (fits : prompt.length + (session.press .newer).gap.text.length < cols) :
    Shown prompt t cols row (editor.shellHistoryNavigate prompt false) (session.press .newer) ∧
      Waits editor (editor.shellHistoryNavigate prompt false) := by
  have isCount := shown.recalls.count_eq
  have isIndex := shown.recalls.position
  have inside := shown.recalls.inside
  rw [Session.press, Session.newer] at fits ⊢
  rw [LineEditor.shellHistoryNavigate, if_neg (by omega)]
  by_cases isNewest : session.position = session.entries.length
  · rw [if_pos isNewest]
    by_cases isEmpty : editor.historyCount = 0
    · rw [if_pos isEmpty]
      exact shown.rung
    · rw [if_neg isEmpty, if_neg Bool.false_ne_true, if_pos (by omega)]
      exact shown.rung
  · have isDraft := shown.recalls.printableDraft isNewest
    rw [if_neg isNewest] at fits ⊢
    rw [if_neg (by omega), if_neg Bool.false_ne_true, if_neg (by omega), isIndex, ← isCount]
    by_cases more : session.position + 1 < session.entries.length
    · rw [if_pos more] at fits ⊢
      rw [if_pos more]
      exact shown.toHeld.entryShown isPrompt narrow (isCount ▸ more) isDraft fits
    rw [if_neg more] at fits ⊢
    rw [if_neg more, shown.recalls.draft]
    dsimp only [GapBuffer.ofText, GapBuffer.text] at fits
    rw [List.append_nil] at fits
    have typed := (shown.toHeld.turned (Nat.le_refl _) isDraft).replaced isPrompt narrow isDraft fits
    rw [shown.recalls.draft, ← isCount] at typed
    exact typed

end

end

end BoringOS.Shell
