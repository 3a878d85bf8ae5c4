import BoringOS.BoringFs.Utf8
import BoringOS.Shell.KeySteps

namespace BoringOS.Shell

open Library Terminal

/-!
# The line editor of the shell meets its purpose

Whatever is typed, the row of the terminal shows the prompt and the line, and the
line that is returned is the one that was typed.  The shell stores the first bytes
of a long sequence only, and the decoder all of them, but no key has a sequence
that is longer than two.
-/

/-- What the shell has stored where the decoder has read these bytes -/
def storedOf : Awaiting → Awaiting
  | .sequence read => .sequence (read.take boringShellEscapeMax)
  | awaiting => awaiting

/-- The editor has read the same bytes of a key as the decoder. -/
structure Follows (editor : LineEditor) (decoder : Decoder) : Prop where
  awaiting : editor.awaiting = storedOf decoder.awaiting
  skipLf : editor.skipLfAfterCr = decoder.skipLf

/-- Before Enter, the row shows what was typed, and after it the text was returned. -/
def Agrees (prompt : List UInt8) (t : BoringTerminal) (cols row : Nat) (editor : LineEditor)
    (typing : Typing) : Prop :=
  match typing.entered with
  | none => Shown prompt t cols row editor typing.session ∧ Follows editor typing.decoder
  | some text => editor.outcome = .returned text

/-- The session after a key, if there is one -/
def Session.pressed (session : Session) (key : Option Key) : Session :=
  key.elim session session.press

section

variable {prompt : List UInt8} {t : BoringTerminal} {cols row : Nat} {editor : LineEditor}
  {session : Session} {typing : Typing}

/-- Where the editor waits does not concern the line. -/
theorem Shown.waiting (shown : Shown prompt t cols row editor session) (awaiting : Awaiting) (skip : Bool) :
    Shown prompt t cols row
      { editor with
        awaiting := awaiting
        skipLfAfterCr := skip } session :=
  { shown with recalls := shown.recalls.edited session.gap rfl rfl rfl rfl rfl }

/-! ## Sequences -/

theorem sequenceKey_long {sequence : List UInt8} (long : 2 < sequence.length) :
    sequenceKey sequence = none := by
  have other : ∀ known : List UInt8, known.length ≤ 2 → sequence ≠ known := by
    rintro known short rfl
    exact absurd long (Nat.not_lt.mpr short)
  simp_all [sequenceKey, or_self]

theorem sequenceKey_ne_enter (sequence : List UInt8) : sequenceKey sequence ≠ some .enter := by
  rw [sequenceKey]
  split_ifs <;> nofun

theorem finalKey_ne_enter (final : UInt8) : finalKey final ≠ some .enter := by
  rw [finalKey]
  split_ifs <;> nofun

theorem sequenceKey_stored (sequence : List UInt8) :
    sequenceKey (sequence.take boringShellEscapeMax) = sequenceKey sequence := by
  by_cases short : sequence.length ≤ boringShellEscapeMax
  · rw [List.take_of_length_le short]
  grind [boringShellEscapeMax, sequenceKey_long]

/-- The next byte is stored, if there is room. -/
theorem take_stored (sequence : List UInt8) (byte : UInt8) :
    (if (sequence.take boringShellEscapeMax).length < boringShellEscapeMax then
        sequence.take boringShellEscapeMax ++ [byte]
      else sequence.take boringShellEscapeMax) = (sequence ++ [byte]).take boringShellEscapeMax := by
  by_cases room : sequence.length < boringShellEscapeMax
  · grind [List.take_of_length_le]
  simp_all

section

variable (shown : Shown prompt t cols row editor session)
include shown

theorem handleSequence_shown (isPrompt : PrintableText prompt) (narrow : cols ≤ 160) (sequence : List UInt8)
    (fits : prompt.length + (session.pressed (sequenceKey sequence)).gap.text.length < cols) :
    Shown prompt t cols row (editor.handleSequence prompt sequence)
        (session.pressed (sequenceKey sequence)) ∧
      Waits editor.nextCharacter (editor.handleSequence prompt sequence) := by
  have waiting : Shown prompt t cols row editor.nextCharacter session :=
    shown.waiting .line editor.skipLfAfterCr
  simp only [LineEditor.handleSequence, sequenceKey] at fits ⊢
  by_cases isLeft : sequence = [68]
  · simp only [if_pos isLeft] at fits ⊢
    refine ⟨leftPressed waiting, ?_⟩
    split <;> exact ⟨rfl, rfl⟩
  simp only [if_neg isLeft] at fits ⊢
  by_cases isRight : sequence = [67]
  · simp only [if_pos isRight] at fits ⊢
    refine ⟨rightPressed waiting, ?_⟩
    split <;> exact ⟨rfl, rfl⟩
  simp only [if_neg isRight] at fits ⊢
  by_cases isHome : sequence = [72] ∨ sequence = [49, 126] ∨ sequence = [55, 126]
  · simp only [if_pos isHome] at fits ⊢
    exact homePressed waiting.toHeld isPrompt narrow
  simp only [if_neg isHome] at fits ⊢
  by_cases isLast : sequence = [70] ∨ sequence = [52, 126] ∨ sequence = [56, 126]
  · simp only [if_pos isLast] at fits ⊢
    exact lastPressed waiting.toHeld isPrompt narrow
  simp only [if_neg isLast] at fits ⊢
  by_cases isOlder : sequence = [65]
  · simp only [if_pos isOlder] at fits ⊢
    exact olderPressed waiting isPrompt narrow fits
  simp only [if_neg isOlder] at fits ⊢
  by_cases isNewer : sequence = [66]
  · simp only [if_pos isNewer] at fits ⊢
    exact newerPressed waiting isPrompt narrow fits
  simp only [if_neg isNewer] at fits ⊢
  by_cases isDelete : sequence = [51, 126]
  · simp only [if_pos isDelete] at fits ⊢
    exact deletePressed waiting isPrompt narrow fits _ rfl
  · simp only [if_neg isDelete]
    exact ⟨waiting, rfl, rfl⟩

theorem escapeFinal_shown (isPrompt : PrintableText prompt) (narrow : cols ≤ 160) (final : UInt8)
    (fits : prompt.length + (session.pressed (finalKey final)).gap.text.length < cols) :
    Shown prompt t cols row (editor.escapeFinal prompt final)
        (session.pressed (finalKey final)) ∧
      Waits editor.nextCharacter (editor.escapeFinal prompt final) := by
  have waiting : Shown prompt t cols row editor.nextCharacter session :=
    shown.waiting .line editor.skipLfAfterCr
  simp only [LineEditor.escapeFinal, finalKey] at fits ⊢
  by_cases isHome : final = 72
  · simp only [if_pos isHome] at fits ⊢
    exact homePressed waiting.toHeld isPrompt narrow
  simp only [if_neg isHome] at fits ⊢
  by_cases isLast : final = 70
  · simp only [if_pos isLast] at fits ⊢
    exact lastPressed waiting.toHeld isPrompt narrow
  simp only [if_neg isLast] at fits ⊢
  by_cases isOlder : final = 65
  · simp only [if_pos isOlder] at fits ⊢
    exact olderPressed waiting isPrompt narrow fits
  simp only [if_neg isOlder] at fits ⊢
  by_cases isNewer : final = 66
  · simp only [if_pos isNewer] at fits ⊢
    exact newerPressed waiting isPrompt narrow fits
  · simp only [if_neg isNewer]
    exact ⟨waiting, rfl, rfl⟩

/-! ## Characters of the line -/

theorem enter_returned (narrow : cols ≤ 160)
    (character : UInt8) : (editor.enter character).outcome = .returned session.gap.text := by
  have copied := (shown.toHeld.edited session.gap (realizes_update shown.line 0)
    (Function.update_self ..) shown.printable shown.short).copied narrow
  have noOverflow : ¬ editor.overflow = true := by
    rw [shown.noOverflow]
    exact Bool.false_ne_true
  exact (congrArg LineEditor.outcome (if_neg noOverflow)).trans
    (congrArg (fun text : Option (List UInt8) => Outcome.returned (text.getD [])) copied)

end

/-- What a key makes of a line that has not been entered -/
def Typing.pressed (typing : Typing) (decoder : Decoder) : Option Key → Typing
  | some .enter =>
    { typing with
      decoder := decoder
      entered := some typing.session.gap.text }
  | key =>
    { typing with
      decoder := decoder
      session := typing.session.pressed key }

theorem Typing.type_eq (isOpen : typing.entered = none) (byte : UInt8) :
    typing.type byte =
      typing.pressed (typing.decoder.read byte).2 (typing.decoder.read byte).1 := by
  rw [Typing.type, if_neg (not_not.mpr isOpen)]
  rcases typing.decoder.read byte with ⟨key, decoder⟩
  cases key with
  | none => rfl
  | some key => cases key <;> rfl

theorem Typing.pressed_session (typing : Typing) (decoder : Decoder) (key : Option Key) :
    (typing.pressed decoder key).session = typing.session.pressed key := by
  cases key with
  | none => rfl
  | some key => cases key <;> rfl

theorem agrees_pressed (isOpen : typing.entered = none) (key : Option Key)
    (notEnter : key ≠ some .enter) {decoder : Decoder}
    (shown : Shown prompt t cols row editor (typing.session.pressed key)) (follows : Follows editor decoder) :
    Agrees prompt t cols row editor (typing.pressed decoder key) := by
  have isPressed : typing.pressed decoder key =
      { typing with
        decoder := decoder
        session := typing.session.pressed key } := by
    rw [Typing.pressed]
    rintro rfl
    exact notEnter rfl
  simp_all [Agrees]

variable (complete : LineEditor → LineEditor)

theorem lineCharacter_agrees
    (shown : Shown prompt t cols row editor typing.session) (waits : editor.awaiting = .line)
    (noSkip : editor.skipLfAfterCr = false) (isOpen : typing.entered = none)
    (isPrompt : PrintableText prompt) (narrow : cols ≤ 160) {byte : UInt8} (notEscape : byte ≠ 27)
    (notTab : byte ≠ 9) (fits : prompt.length + (typing.pressed ⟨.line, decide (byte = 13)⟩
      (byteKey byte)).session.gap.text.length < cols) :
    Agrees prompt t cols row (editor.lineCharacter complete prompt byte)
      (typing.pressed ⟨.line, decide (byte = 13)⟩ (byteKey byte)) := by
  rw [LineEditor.lineCharacter, if_neg notEscape, if_neg notTab]
  rw [byteKey] at fits ⊢
  by_cases isEnter : byte = 10 ∨ byte = 13
  · rw [if_pos isEnter, if_pos isEnter]
    exact enter_returned shown narrow byte
  have noReturn : decide (byte = 13) = false := decide_eq_false fun isReturn => isEnter (.inr isReturn)
  have follows : ∀ next, Waits editor next → Follows next ⟨.line, decide (byte = 13)⟩ :=
    fun next still => ⟨still.1.trans waits, still.2.trans (noSkip.trans noReturn.symm)⟩
  rw [if_neg isEnter] at fits
  rw [if_neg isEnter, if_neg isEnter]
  by_cases isBackspace : byte = 8 ∨ byte = 127
  · rw [if_pos isBackspace] at fits
    rw [if_pos isBackspace, if_pos isBackspace]
    have pressed := backspacePressed shown isPrompt narrow fits
    exact agrees_pressed isOpen (some .backspace) nofun pressed.1 (follows _ pressed.2)
  rw [if_neg isBackspace] at fits
  rw [if_neg isBackspace, if_neg isBackspace]
  by_cases isCharacter : 32 ≤ byte ∧ byte ≤ 126
  · rw [if_pos isCharacter] at fits
    rw [if_pos isCharacter, if_pos isCharacter]
    have pressed := characterPressed shown isPrompt narrow isCharacter fits
    exact agrees_pressed isOpen (some (.character byte)) nofun pressed.1 (follows _ pressed.2)
  · rw [if_neg isCharacter, if_neg isCharacter]
    exact agrees_pressed isOpen none nofun shown (follows _ ⟨rfl, rfl⟩)

/-! ## Single bytes -/

section

variable (complete : LineEditor → LineEditor) (isReading : editor.outcome = .reading) (byte : UInt8)

include isReading

theorem readCharacter_line (awaiting : editor.awaiting = .line) :
    editor.readCharacter complete prompt byte =
      if editor.skipLfAfterCr = true then
        if byte = 10 then { editor with skipLfAfterCr := false }
        else ({ editor with skipLfAfterCr := false } : LineEditor).lineCharacter complete prompt byte
      else editor.lineCharacter complete prompt byte := by
  rw [LineEditor.readCharacter, isReading, awaiting]

theorem readCharacter_escape (awaiting : editor.awaiting = .escape) :
    editor.readCharacter complete prompt byte = editor.escapeFirst byte := by
  rw [LineEditor.readCharacter, isReading, awaiting]

theorem readCharacter_final (awaiting : editor.awaiting = .final) :
    editor.readCharacter complete prompt byte = editor.escapeFinal prompt byte := by
  rw [LineEditor.readCharacter, isReading, awaiting]

theorem readCharacter_sequence {stored : List UInt8} (awaiting : editor.awaiting = .sequence stored) :
    editor.readCharacter complete prompt byte = editor.escapeSequence prompt stored byte := by
  rw [LineEditor.readCharacter, isReading, awaiting]

end

theorem lineRead_agrees (shown : Shown prompt t cols row editor typing.session)
    (waits : typing.decoder.awaiting = .line) (follows : Follows editor typing.decoder)
    (isOpen : typing.entered = none) (isPrompt : PrintableText prompt) (narrow : cols ≤ 160)
    {byte : UInt8} (notTab : byte ≠ 9)
    (fits : prompt.length + (typing.type byte).session.gap.text.length < cols) :
    Agrees prompt t cols row (editor.readCharacter complete prompt byte) (typing.type byte) := by
  have isAwaiting : editor.awaiting = .line := by
    rw [follows.awaiting, waits, storedOf]
    nofun
  have noSkip : Shown prompt t cols row { editor with skipLfAfterCr := false } typing.session :=
    shown.waiting editor.awaiting false
  -- The flag is cleared by any character, so only a skipped line feed needs it.
  have cleared : editor.readCharacter complete prompt byte =
      if editor.skipLfAfterCr = true ∧ byte = 10 then { editor with skipLfAfterCr := false }
      else ({ editor with skipLfAfterCr := false } : LineEditor).lineCharacter complete prompt
        byte := by
    rw [readCharacter_line complete shown.isReading byte isAwaiting]
    by_cases skips : editor.skipLfAfterCr = true
    · simp [*]
    · grind [LineEditor]
  rw [cleared]
  rw [Typing.type_eq isOpen, Decoder.read, waits] at fits ⊢
  rw [follows.skipLf]
  dsimp only at fits ⊢
  by_cases isEscape : byte = 27
  · rw [if_pos isEscape] at fits ⊢
    rw [if_neg fun both => absurd (isEscape ▸ both.2) (by decide), LineEditor.lineCharacter,
      if_pos isEscape, LineEditor.handleEscape, if_neg (Nat.not_lt.mpr shown.line.cursor_le)]
    exact agrees_pressed isOpen none nofun (shown.waiting .escape false) ⟨rfl, rfl⟩
  rw [if_neg isEscape] at fits ⊢
  by_cases skipped : typing.decoder.skipLf = true ∧ byte = 10
  · rw [if_pos skipped, if_pos skipped]
    exact agrees_pressed isOpen none nofun noSkip ⟨isAwaiting, rfl⟩
  grind [lineCharacter_agrees]

/-! ## Runs -/

/-- One more byte keeps the editor and the screen in step with what is typed. -/
theorem readCharacter_agrees
    (agrees : Agrees prompt t cols row editor typing) (isPrompt : PrintableText prompt)
    (narrow : cols ≤ 160) {byte : UInt8} (notTab : byte ≠ 9)
    (fits : prompt.length + (typing.type byte).session.gap.text.length < cols) :
    Agrees prompt t cols row (editor.readCharacter complete prompt byte) (typing.type byte) := by
  cases entered : typing.entered with
  | some text =>
    have stays : typing.type byte = typing := if_pos (by rw [entered]; nofun)
    simp_all [LineEditor.readCharacter, Agrees]
  | none =>
    rw [Agrees, entered] at agrees
    rcases agrees with ⟨shown, follows⟩
    have isAwaiting := follows.awaiting
    cases awaiting : typing.decoder.awaiting with
    | line =>
      simp_all [lineRead_agrees]
    | escape =>
      rw [awaiting] at isAwaiting
      rw [Typing.type_eq entered, Decoder.read, awaiting,
        readCharacter_escape complete shown.isReading byte isAwaiting, LineEditor.escapeFirst]
      by_cases isFinal : byte = 79
      · rw [if_pos isFinal, if_pos isFinal]
        exact agrees_pressed entered none nofun (shown.waiting _ _) ⟨rfl, follows.skipLf⟩
      rw [if_neg isFinal, if_neg isFinal]
      by_cases isSequence : byte = 91
      · rw [if_pos isSequence, if_pos isSequence]
        exact agrees_pressed entered none nofun (shown.waiting _ _) ⟨rfl, follows.skipLf⟩
      · rw [if_neg isSequence, if_neg isSequence]
        exact agrees_pressed entered none nofun (shown.waiting _ _) ⟨rfl, follows.skipLf⟩
    | final =>
      rw [awaiting] at isAwaiting
      rw [Typing.type_eq entered, Decoder.read, awaiting] at fits ⊢
      rw [readCharacter_final complete shown.isReading byte isAwaiting]
      rw [Typing.pressed_session] at fits
      have pressed := escapeFinal_shown shown isPrompt narrow byte fits
      exact agrees_pressed entered (finalKey byte) (finalKey_ne_enter byte) pressed.1
        ⟨pressed.2.1, pressed.2.2.trans follows.skipLf⟩
    | sequence read =>
      rw [awaiting] at isAwaiting
      rw [Typing.type_eq entered, Decoder.read, awaiting] at fits ⊢
      rw [readCharacter_sequence complete shown.isReading byte isAwaiting,
        LineEditor.escapeSequence, take_stored]
      dsimp only at fits ⊢
      by_cases isFinal : 64 ≤ byte ∧ byte ≤ 126
      · rw [if_pos isFinal] at fits ⊢
        rw [if_pos isFinal]
        rw [Typing.pressed_session] at fits
        dsimp only at fits ⊢
        rw [← sequenceKey_stored] at fits ⊢
        have pressed := handleSequence_shown shown isPrompt narrow _ fits
        exact agrees_pressed entered _ (sequenceKey_ne_enter _) pressed.1
          ⟨pressed.2.1, pressed.2.2.trans follows.skipLf⟩
      · rw [if_neg isFinal] at fits ⊢
        rw [if_neg isFinal]
        exact agrees_pressed entered none nofun (shown.waiting _ _) ⟨rfl, follows.skipLf⟩

theorem run_agrees (isPrompt : PrintableText prompt) (narrow : cols ≤ 160) (bytes : List UInt8) :
    ∀ {editor : LineEditor} {typing : Typing}, Agrees prompt t cols row editor typing →
      (∀ byte ∈ bytes, byte ≠ 9) →
      (∀ before, before <+: bytes →
        prompt.length + (run Typing.type typing before).session.gap.text.length < cols) →
      Agrees prompt t cols row (run (LineEditor.readCharacter complete prompt) editor bytes)
        (run Typing.type typing bytes) := by
  induction bytes with
  | nil => exact fun agrees _ _ => agrees
  | cons byte rest ih =>
    intro editor typing agrees noTab fits
    have first := readCharacter_agrees complete agrees isPrompt narrow (noTab byte List.mem_cons_self)
      (fits [byte] (List.prefix_append [byte] rest))
    refine ih first (fun other isOther => noTab other (List.mem_cons_of_mem byte isOther))
      fun before isBefore => ?_
    exact fits (byte :: before) (List.cons_prefix_cons.mpr ⟨rfl, isBefore⟩)

/-- The lines of the history, the oldest one first -/
def historyEntries (memory : LineEditor) : List (List UInt8) :=
  (List.range memory.historyCount).map fun index => memory.lines (memory.shellHistorySlot index)

theorem startLine_shown {memory : LineEditor} (valid : BoringTerminal.dimensionsValid t.cols t.rows)
    (isText : t.parserState = .text) (atStart : t.cursorCol = 0)
    (isEmpty : ∀ col < t.cols, t.cells t.cursorRow col = blank) (isPrompt : PrintableText prompt)
    (history : ∀ entry ∈ historyEntries memory, PrintableText entry) (fits : prompt.length < t.cols) :
    Agrees prompt t t.cols t.cursorRow (memory.startLine prompt)
      (.start (historyEntries memory) memory.draft memory.skipLfAfterCr) := by
  have on : OnRow t t.cols t.cursorRow (fun _ => blank) 0 :=
    ⟨valid, isText, rfl, rfl, atStart, by omega, isEmpty⟩
  have row : ShowsRow (feedBytes t prompt) t.cols t.cursorRow (prompt ++ []) prompt.length := by
    have written := on.text prompt isPrompt (by omega)
    rw [Nat.zero_add] at written
    rw [List.append_nil]
    refine written.congr fun col inside => ?_
    by_cases behind : prompt.length ≤ col
    · simp [*]
    · rw [if_pos (by omega), Nat.sub_zero]
  have recalls : Recalls (memory.startLine prompt)
      ⟨.empty, historyEntries memory, (historyEntries memory).length, memory.draft⟩ :=
    { entries := rfl
      position := by rw [historyEntries, List.length_map, List.length_range, LineEditor.startLine]
      inside := Nat.le_refl _
      draft := rfl
      printable := history
      printableDraft := fun moved => absurd rfl moved }
  have terminated : Function.update memory.line 0 0 0 = 0 := Function.update_self ..
  exact ⟨⟨⟨rfl, ⟨rfl, rfl⟩, terminated, rfl, recalls, nofun, fits, _, _, row⟩, row⟩, rfl, rfl⟩

end

/-- Before Enter, the row shows exactly the prompt and the line, with the cursor at
the place of insertion.  Enter returns the line that was typed. -/
theorem shellReadLine_shown (complete : LineEditor → LineEditor) (memory : LineEditor)
    {t : BoringTerminal} (valid : BoringTerminal.dimensionsValid t.cols t.rows)
    (isText : t.parserState = .text) (atStart : t.cursorCol = 0)
    (isEmpty : ∀ col < t.cols, t.cells t.cursorRow col = blank) {username hostname cwd : List UInt8}
    (isPrompt : PrintableText (shellBuildPrompt username hostname cwd))
    (history : ∀ entry ∈ historyEntries memory, PrintableText entry)
    {bytes : List UInt8} (noTab : ∀ byte ∈ bytes, byte ≠ 9) (fits : ∀ before, before <+: bytes →
      (shellBuildPrompt username hostname cwd).length + (run Typing.type
        (.start (historyEntries memory) memory.draft memory.skipLfAfterCr)
          before).session.gap.text.length < t.cols) :
    let prompt := shellBuildPrompt username hostname cwd
    let editor := run (LineEditor.readCharacter complete prompt) (memory.startLine prompt) bytes
    let typing := run Typing.type (.start (historyEntries memory) memory.draft memory.skipLfAfterCr) bytes
    (typing.entered = none → editor.outcome = .reading ∧
      ShowsRow (t.boringTerminalFeed editor.written) t.cols t.cursorRow
        (prompt ++ typing.session.gap.text) (prompt.length + typing.session.gap.cursor)) ∧
    ∀ text, typing.entered = some text → editor.outcome = .returned text := by
  intro prompt editor typing
  have short : prompt.length < t.cols := fits [] (List.nil_prefix)
  have started := startLine_shown valid isText atStart isEmpty isPrompt history short
  have agrees : Agrees prompt t t.cols t.cursorRow editor typing :=
    run_agrees complete isPrompt valid.2.2.1 bytes started noTab fits
  rw [Agrees] at agrees
  constructor
  · intro isOpen
    rw [isOpen] at agrees
    rw [boringTerminalFeed_eq valid]
    exact ⟨agrees.1.isReading, agrees.1.shows⟩
  grind

/-- A terminal with an empty row -/
def emptyTerminal : BoringTerminal :=
  { zeroed with
    cells := fun _ _ => blank
    cols := 40
    rows := 2 }

/-- The shell after the command `ls` -/
def afterLs : LineEditor where
  lines _ := [108, 115]
  draft := []
  historyStart := 0
  historyCount := 1
  skipLfAfterCr := false
  line _ := 0
  length := 0
  cursor := 0
  historyIndex := 0
  overflow := false
  awaiting := .line
  written := []
  outcome := .reading

/-- `boring` -/
def username : List UInt8 := [98, 111, 114, 105, 110, 103]

/-- `boringos` -/
def hostname : List UInt8 := username ++ [111, 115]

/-- A character is typed before another one. -/
theorem shellReadLine_shown_insert :
    let prompt := shellBuildPrompt username hostname [47]
    let editor := run (LineEditor.readCharacter id prompt) (afterLs.startLine prompt) [97, 27, 91, 68, 98]
    ShowsRow (emptyTerminal.boringTerminalFeed editor.written) 40 0 (prompt ++ [98, 97])
      (prompt.length + 1) := by
  have fits : ∀ before ∈ [97, 27, 91, 68, 98].inits,
      (shellBuildPrompt username hostname [47]).length + (run Typing.type
        (.start (historyEntries afterLs) afterLs.draft afterLs.skipLfAfterCr)
          before).session.gap.text.length < 40 := by decide
  exact ((shellReadLine_shown id afterLs (t := emptyTerminal) (by decide) rfl rfl (fun _ _ => rfl)
    (by decide +kernel) (by decide +kernel) (by decide +kernel) fun before isPrefix =>
      fits before ((List.mem_inits _ _).mpr isPrefix)).1 rfl).2

/-- In a directory with the name `ü`, the terminal ignores the two bytes of the name. -/
theorem umlautPrompt_not_shown :
    let prompt := shellBuildPrompt username hostname [47, 195, 188]
    BoringFs.boringfsUtf8Valid [195, 188] = true ∧
      ¬ ShowsRow (emptyTerminal.boringTerminalFeed (afterLs.startLine prompt).written) 40 0
        (prompt ++ []) prompt.length := by
  intro prompt
  refine ⟨by decide, fun shows => ?_⟩
  have isCursor := shows.isCursor
  exact absurd isCursor (by decide)

end BoringOS.Shell
