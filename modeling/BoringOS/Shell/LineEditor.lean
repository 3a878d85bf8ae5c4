import Mathlib
import BoringOS.Library.GapBuffer

namespace BoringOS.Shell

open Library

/-!
# The line editor of the shell

`shell_read_line` of `user/boring-shell/main.c`, with the history and the helpers
that redraw the line.  The shell blocks in `shell_input_read`, in the loop of
`shell_read_line` or inside of `shell_handle_escape`, so its state names the place
where it waits for the next character, and one step takes one character.

The line is an array of characters with a zero behind them.  The lines of the
history are texts, each up to its zero.  What the shell writes to its output is
collected, and a write is taken to succeed.
-/

def boringShellLineMax : Nat := 512
def boringShellEscapeMax : Nat := 8
def boringShellHistoryCapacity : Nat := 16

/-- The size of the array that `boring_main` reads into -/
def lineCapacity : Nat := boringShellLineMax + 1

/-- Where the shell waits for a character -/
inductive Awaiting
  | line
  /-- The first character after an escape -/
  | escape
  /-- The character after an escape and `O` -/
  | final
  /-- The next character of a sequence, with those that were stored -/
  | sequence (stored : List UInt8)
deriving DecidableEq, Repr

inductive Outcome
  | reading
  | returned (text : List UInt8)
  | failed
deriving DecidableEq, Repr

structure LineEditor where
  /-- `shell_history`, by slot -/
  lines : Nat → List UInt8
  draft : List UInt8
  historyStart : Nat
  historyCount : Nat
  skipLfAfterCr : Bool
  line : Nat → UInt8
  length : Nat
  cursor : Nat
  historyIndex : Nat
  overflow : Bool
  awaiting : Awaiting
  written : List UInt8
  outcome : Outcome

/-- The text of an array up to its zero, which `shell_copy_text` looks for in
the first cells -/
def shellCopyText (source : Nat → UInt8) : (capacity index : Nat) → Option (List UInt8)
  | 0, _ => none
  | capacity + 1, index =>
    if source index = 0 then some []
    else (shellCopyText source capacity (index + 1)).map fun rest => source index :: rest

/-- The array after a text and its zero were copied to it -/
def placeText (text : List UInt8) (line : Nat → UInt8) (index : Nat) : UInt8 :=
  if index < text.length then text.getD index 0 else if index = text.length then 0 else line index

/-- The loop of `shell_cursor_left` over the digits, the last one first -/
def cursorDigits : (left count : Nat) → List UInt8
  | 0, _ => []
  | left + 1, count =>
    (48 + count % 10).toUInt8 :: if count / 10 = 0 then [] else cursorDigits left (count / 10)

/-- What `shell_cursor_left` writes.  Its array has room for 21 digits. -/
def shellCursorLeft (count : Nat) : List UInt8 :=
  if count = 0 then [] else [27, 91] ++ (cursorDigits 21 count).reverse ++ [68]

/-- `shell_build_prompt`.  Its array has room for the longest of the three texts. -/
def shellBuildPrompt (username hostname cwd : List UInt8) : List UInt8 :=
  username ++ [64] ++ hostname ++ [58] ++ cwd ++ [36, 32]

def lineTooLong : List UInt8 :=
  "shell: line too long\r\n".toList.map fun character => character.toNat.toUInt8

namespace LineEditor

variable (editor : LineEditor)

def write (bytes : List UInt8) : LineEditor :=
  { editor with written := editor.written ++ bytes }

def fail : LineEditor := { editor with outcome := .failed }

def shellBell : LineEditor := editor.write [7]

variable (prompt : List UInt8)

def shellRedrawLine (editor : LineEditor) : LineEditor :=
  if editor.length < editor.cursor then editor.fail
  else
    editor.write ([13] ++ prompt ++ arrayText editor.line editor.length ++ [27, 91, 75] ++
      shellCursorLeft (editor.length - editor.cursor))

def shellReplaceLine (prompt replacement : List UInt8) (editor : LineEditor) : LineEditor :=
  if lineCapacity ≤ replacement.length then editor.fail
  else
    shellRedrawLine prompt
      { editor with
        line := placeText replacement editor.line
        length := replacement.length
        cursor := replacement.length }

/-- `shell_history_slot` -/
def shellHistorySlot (logicalIndex : Nat) : Nat :=
  (editor.historyStart + logicalIndex) % boringShellHistoryCapacity

/-- The end of `shell_history_navigate`, which shows the replacement -/
def showHistory (prompt replacement : List UInt8) (editor : LineEditor) : LineEditor :=
  if lineCapacity ≤ replacement.length then editor.shellBell
  else shellReplaceLine prompt replacement editor

/-- The line of the history with this index is shown. -/
def showEntry (index : Nat) (editor : LineEditor) : LineEditor :=
  showHistory prompt (editor.lines (editor.shellHistorySlot index))
    { editor with historyIndex := index }

def shellHistoryNavigate (up : Bool) (editor : LineEditor) : LineEditor :=
  if editor.historyCount < editor.historyIndex then editor.fail
  else if editor.historyCount = 0 then editor.shellBell
  else if up then
    if editor.historyIndex = editor.historyCount then
      match shellCopyText editor.line lineCapacity 0 with
      | none => editor.fail
      | some draft => showEntry prompt (editor.historyCount - 1) { editor with draft := draft }
    else if editor.historyIndex ≠ 0 then showEntry prompt (editor.historyIndex - 1) editor
    else editor.shellBell
  else if editor.historyIndex = editor.historyCount then editor.shellBell
  else if editor.historyIndex + 1 < editor.historyCount then
    showEntry prompt (editor.historyIndex + 1) editor
  else
    showHistory prompt editor.draft { editor with historyIndex := editor.historyCount }

/-- The shell reads the next character in the loop of `shell_read_line`. -/
def nextCharacter : LineEditor := { editor with awaiting := .line }

/-- `shell_handle_escape`, before it reads -/
def handleEscape : LineEditor :=
  if editor.length < editor.cursor then editor.fail else { editor with awaiting := .escape }

/-- `shell_handle_escape`, with the first character -/
def escapeFirst (first : UInt8) : LineEditor :=
  if first = 79 then { editor with awaiting := .final }
  else if first = 91 then { editor with awaiting := .sequence [] }
  else editor.nextCharacter

/-- `shell_handle_escape`, with the character after an `O` -/
def escapeFinal (editor : LineEditor) (final : UInt8) : LineEditor :=
  let editor := editor.nextCharacter
  if final = 72 then shellRedrawLine prompt { editor with cursor := 0 }
  else if final = 70 then shellRedrawLine prompt { editor with cursor := editor.length }
  else if final = 65 then shellHistoryNavigate prompt true editor
  else if final = 66 then shellHistoryNavigate prompt false editor
  else editor

/-- `shell_handle_escape` after the loop, with what is stored of the sequence -/
def handleSequence (editor : LineEditor) (sequence : List UInt8) : LineEditor :=
  let editor := editor.nextCharacter
  if sequence = [68] then
    if editor.cursor ≠ 0 then { editor with cursor := editor.cursor - 1 }.write [27, 91, 68]
    else editor
  else if sequence = [67] then
    if editor.cursor < editor.length then
      { editor with cursor := editor.cursor + 1 }.write [27, 91, 67]
    else editor
  else if sequence = [72] ∨ sequence = [49, 126] ∨ sequence = [55, 126] then
    shellRedrawLine prompt { editor with cursor := 0 }
  else if sequence = [70] ∨ sequence = [52, 126] ∨ sequence = [56, 126] then
    shellRedrawLine prompt { editor with cursor := editor.length }
  else if sequence = [65] then shellHistoryNavigate prompt true editor
  else if sequence = [66] then shellHistoryNavigate prompt false editor
  else if sequence = [51, 126] then
    if editor.length ≤ editor.cursor then editor
    else
      shellRedrawLine prompt
        { editor with
          line := shiftDown editor.cursor (editor.length - editor.cursor) editor.line
          length := editor.length - 1 }
  else editor

/-- The loop of `shell_handle_escape`, with the next character of the sequence -/
def escapeSequence (editor : LineEditor) (stored : List UInt8) (byte : UInt8) : LineEditor :=
  let stored := if stored.length < boringShellEscapeMax then stored ++ [byte] else stored
  if 64 ≤ byte ∧ byte ≤ 126 then editor.handleSequence prompt stored
  else { editor with awaiting := .sequence stored }

/-- The line is finished by a carriage return or a line feed. -/
def enter (character : UInt8) : LineEditor :=
  let ended :=
    { editor with
      skipLfAfterCr := if character = 13 then true else editor.skipLfAfterCr }.write [13, 10]
  if ended.overflow = true then
    { ended.write lineTooLong with
      line := Function.update ended.line 0 0
      outcome := .returned [] }
  else
    let line := Function.update ended.line ended.length 0
    { ended with
      line := line
      outcome := .returned ((shellCopyText line lineCapacity 0).getD []) }

def backspace (editor : LineEditor) : LineEditor :=
  if editor.overflow = false ∧ editor.cursor ≠ 0 then
    shellRedrawLine prompt
      { editor with
        line := Function.update
          (shiftDown (editor.cursor - 1) (editor.length - 1 - (editor.cursor - 1)) editor.line)
          (editor.length - 1) 0
        length := editor.length - 1
        cursor := editor.cursor - 1 }
  else editor

def insert (editor : LineEditor) (character : UInt8) : LineEditor :=
  if editor.overflow = true then editor
  else if lineCapacity - 1 ≤ editor.length then { editor with overflow := true }
  else
    let inserted :=
      { editor with
        line := Function.update (Function.update
          (shiftUp editor.cursor (editor.length - editor.cursor) editor.line) editor.cursor
            character) (editor.length + 1) 0
        length := editor.length + 1
        cursor := editor.cursor + 1 }
    if inserted.cursor = inserted.length then inserted.write [character]
    else shellRedrawLine prompt inserted

/-- The loop of `shell_read_line`, with a character that is not skipped -/
def lineCharacter (complete : LineEditor → LineEditor) (prompt : List UInt8)
    (editor : LineEditor) (character : UInt8) : LineEditor :=
  if character = 27 then editor.handleEscape
  else if character = 9 then
    if editor.overflow = false then complete editor else editor
  else if character = 10 ∨ character = 13 then editor.enter character
  else if character = 8 ∨ character = 127 then editor.backspace prompt
  else if 32 ≤ character ∧ character ≤ 126 then editor.insert prompt character
  else editor

/-- One character for `shell_read_line`.  What `shell_complete` makes of a tab
depends on the directories, and is a parameter. -/
def readCharacter (complete : LineEditor → LineEditor) (prompt : List UInt8)
    (editor : LineEditor) (character : UInt8) : LineEditor :=
  match editor.outcome with
  | .reading =>
    match editor.awaiting with
    | .line =>
      if editor.skipLfAfterCr = true then
        let skipped := { editor with skipLfAfterCr := false }
        if character = 10 then skipped else lineCharacter complete prompt skipped character
      else lineCharacter complete prompt editor character
    | .escape => editor.escapeFirst character
    | .final => editor.escapeFinal prompt character
    | .sequence stored => editor.escapeSequence prompt stored character
  | _ => editor

/-- The start of `shell_read_line`, after `boring_main` has written the prompt -/
def startLine (memory : LineEditor) (prompt : List UInt8) : LineEditor :=
  { memory with
    line := Function.update memory.line 0 0
    length := 0
    cursor := 0
    historyIndex := memory.historyCount
    overflow := false
    awaiting := .line
    written := prompt
    outcome := .reading }

end LineEditor

/-!
## Typing a line

What a line editor is for, in its own terms.  The bytes of a keyboard are decoded
to keys, and the keys edit a gap buffer.  The keys for older and newer lines take
the text from a list of lines, and the text that was typed first waits as the
draft behind the newest of them.
-/

inductive Key
  | character (symbol : UInt8)
  | backspace
  | delete
  | left
  | right
  | home
  | last
  | older
  | newer
  | enter
deriving DecidableEq, Repr

/-- The bytes that have been read of a key, and whether a line feed is one with
the carriage return before it -/
structure Decoder where
  awaiting : Awaiting
  skipLf : Bool
deriving DecidableEq, Repr

/-- The key of a sequence of bytes after an escape and a bracket -/
def sequenceKey (sequence : List UInt8) : Option Key :=
  if sequence = [68] then some .left
  else if sequence = [67] then some .right
  else if sequence = [72] ∨ sequence = [49, 126] ∨ sequence = [55, 126] then some .home
  else if sequence = [70] ∨ sequence = [52, 126] ∨ sequence = [56, 126] then some .last
  else if sequence = [65] then some .older
  else if sequence = [66] then some .newer
  else if sequence = [51, 126] then some .delete
  else none

/-- The key of a byte after an escape and `O` -/
def finalKey (final : UInt8) : Option Key :=
  if final = 72 then some .home
  else if final = 70 then some .last
  else if final = 65 then some .older
  else if final = 66 then some .newer
  else none

/-- The key of a byte that stands for itself -/
def byteKey (byte : UInt8) : Option Key :=
  if byte = 10 ∨ byte = 13 then some .enter
  else if byte = 8 ∨ byte = 127 then some .backspace
  else if 32 ≤ byte ∧ byte ≤ 126 then some (.character byte)
  else none

/-- The key that is complete with this byte, and the decoder after it -/
def Decoder.read (decoder : Decoder) (byte : UInt8) : Option Key × Decoder :=
  match decoder.awaiting with
  | .line =>
    if byte = 27 then (none, ⟨.escape, false⟩)
    else if decoder.skipLf = true ∧ byte = 10 then (none, ⟨.line, false⟩)
    else (byteKey byte, ⟨.line, decide (byte = 13)⟩)
  | .escape =>
    (none,
      { decoder with
        awaiting := if byte = 79 then .final else if byte = 91 then .sequence [] else .line })
  | .final => (finalKey byte, { decoder with awaiting := .line })
  | .sequence read =>
    if 64 ≤ byte ∧ byte ≤ 126 then
      (sequenceKey (read ++ [byte]), { decoder with awaiting := .line })
    else (none, { decoder with awaiting := .sequence (read ++ [byte]) })

/-- The text, with the lines that came before it -/
structure Session where
  gap : GapBuffer UInt8
  entries : List (List UInt8)
  /-- The line that is shown, where the number of lines stands for the draft -/
  position : Nat
  draft : List UInt8
deriving DecidableEq, Repr

namespace Session

variable (session : Session)

/-- A line of the list is shown. -/
def showLine (position : Nat) : Session :=
  { session with
    gap := .ofText (session.entries.getD position [])
    position := position }

def older : Session :=
  if session.position = 0 then session
  else if session.position = session.entries.length then
    { session with draft := session.gap.text }.showLine (session.position - 1)
  else session.showLine (session.position - 1)

def newer : Session :=
  if session.position = session.entries.length then session
  else if session.position + 1 < session.entries.length then session.showLine (session.position + 1)
  else
    { session with
      gap := .ofText session.draft
      position := session.entries.length }

def press : Key → Session
  | .character symbol => { session with gap := session.gap.insert symbol }
  | .backspace => { session with gap := session.gap.backspace }
  | .delete => { session with gap := session.gap.delete }
  | .left => { session with gap := session.gap.left }
  | .right => { session with gap := session.gap.right }
  | .home => { session with gap := session.gap.home }
  | .last => { session with gap := session.gap.last }
  | .older => session.older
  | .newer => session.newer
  | .enter => session

end Session

/-- A line that is being typed, or the text that was entered -/
structure Typing where
  decoder : Decoder
  session : Session
  entered : Option (List UInt8)
deriving DecidableEq, Repr

/-- One byte is typed.  Nothing is read after the line was entered. -/
def Typing.type (typing : Typing) (byte : UInt8) : Typing :=
  if typing.entered ≠ none then typing
  else
    let (key, decoder) := typing.decoder.read byte
    match key with
    | none => { typing with decoder := decoder }
    | some .enter =>
      { typing with
        decoder := decoder
        entered := some typing.session.gap.text }
    | some key =>
      { typing with
        decoder := decoder
        session := typing.session.press key }

/-- An empty line, with older lines and a draft -/
def Typing.start (entries : List (List UInt8)) (draft : List UInt8) (skipLf : Bool) : Typing where
  decoder := ⟨.line, skipLf⟩
  session := ⟨.empty, entries, entries.length, draft⟩
  entered := none

end BoringOS.Shell
