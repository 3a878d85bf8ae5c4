import Mathlib.Data.Int.ModEq

namespace BoringOS.WindowManager

/-!
# The policy of the window manager

A transcription of `user/boringwm/core.c`.  The table of clients and the order
of their windows are functions of an index below the bound of the table.  The
numbers are small enough for 32 bits wherever the code adds or shifts them, as
the screen and the generations are bounded.
-/

def boringWmClientMax : Nat := 16
def boringWmVersion : Nat := 1
def boringWmOuter : Nat := 4
def boringWmInner : Nat := 8
def boringWmBorder : Nat := 3
def wmGenerationMax : Nat := 0x00ffffff
def boringDisplayMaxWidth : Nat := 1920
def boringDisplayMaxHeight : Nat := 1080

def boringModShift : Nat := 1
def boringModSuper : Nat := 8
def boringKeyE : Nat := 5
def boringKeyF : Nat := 6
def boringKeyH : Nat := 8
def boringKeyJ : Nat := 10
def boringKeyK : Nat := 11
def boringKeyL : Nat := 12
def boringKeyQ : Nat := 17
def boringKeyEnter : Nat := 39
def boringKeyLeft : Nat := 59
def boringKeyRight : Nat := 60
def boringKeyUp : Nat := 61
def boringKeyDown : Nat := 62
def boringKeyLeftSuper : Nat := 81
def boringKeyRightSuper : Nat := 82
def boringKeyDownValue : Int := 1

/-- The types of `struct boring_input_event` -/
inductive InputEventType where
  | key
  | mouseMove
  | mouseButton
deriving DecidableEq, Repr

/-- `struct boring_input_event` -/
structure InputEvent where
  type : InputEventType
  code : Nat
  value1 : Int
  value2 : Int
  modifiers : Nat
  flags : Nat
deriving DecidableEq, Repr

/-- `struct wm_rect` -/
structure WmRect where
  x : Nat
  y : Nat
  width : Nat
  height : Nat
  border : Nat
deriving DecidableEq, Repr

/-- `struct wm_client` -/
structure WmClient where
  endpoint : Nat
  surface : Nat
  token : Nat
  generation : Nat
  peerPid : Nat
  rect : WmRect
  active : Bool
  closing : Bool
deriving DecidableEq, Repr

def clearClient : WmClient := ⟨0, 0, 0, 0, 0, ⟨0, 0, 0, 0, 0⟩, false, false⟩

/-- `struct wm_core` -/
structure WmCore where
  width : Nat
  height : Nat
  count : Nat
  focus : Nat
  order : Nat → Nat
  clients : Nat → WmClient

variable (wm : WmCore)

def WmCore.setClient (index : Nat) (client : WmClient) : WmCore :=
  { wm with clients := Function.update wm.clients index client }

/-- What the calls of the policy answer -/
inductive WmStatus where
  | ok
  | invalid
  | access
  | noSpace
  | exists_
deriving DecidableEq, Repr

/-- `wm_init` -/
def wmInit (width height : Nat) : Option WmCore :=
  if width = 0 ∨ height = 0 ∨ boringDisplayMaxWidth < width ∨ boringDisplayMaxHeight < height then
    none
  else
    some
      { width := width
        height := height
        count := 0
        focus := 0
        order := fun _ => 0
        clients := fun _ => { clearClient with generation := 1 } }

/-- `wm_lookup`, with the slot of the client -/
def wmLookup (token : Nat) : Option Nat :=
  let low := token &&& 255
  if low = 0 ∨ boringWmClientMax < low then none
  else if (wm.clients (low - 1)).active = true ∧ (wm.clients (low - 1)).token = token then
    some (low - 1)
  else none

/-- `wm_authority` -/
def wmAuthority (endpoint token : Nat) : WmStatus :=
  match wmLookup wm token with
  | none => .invalid
  | some slot => if (wm.clients slot).endpoint = endpoint then .ok else .access

/-- `rectangle` -/
def rectangle (client : WmClient) (x y width height : Nat) : WmClient :=
  { client with
    rect := ⟨x, y, width, height,
      if min width height = 0 then 0 else min boringWmBorder ((min width height - 1) / 2)⟩ }

/-- The loop of `column`, from a tile on -/
def columnFrom (wm : WmCore) (first count x width span gap : Nat) :
    Nat → Nat → Nat → WmCore
  | _, _, 0 => wm
  | index, y, left + 1 =>
    let height := span / count + if index < span % count then 1 else 0
    let slot := wm.order (first + index)
    let wm := wm.setClient slot (rectangle (wm.clients slot) x y width height)
    columnFrom wm first count x width span gap (index + 1)
      (y + height + if index + 1 < count then gap else 0) left

/-- `column` -/
def column (first count x y width height : Nat) : WmCore :=
  if count = 0 then wm
  else
    let gap :=
      if 1 < count ∧ count ≤ height then min boringWmInner ((height - count) / (count - 1)) else 0
    columnFrom wm first count x width (height - gap * (count - 1)) gap 0 y count

/-- `wm_layout` -/
def wmLayout : WmCore :=
  if wm.count = 0 ∨ boringWmClientMax < wm.count then wm
  else
    let outer := min boringWmOuter ((min wm.width wm.height - 1) / 2)
    let width := wm.width - 2 * outer
    let height := wm.height - 2 * outer
    if wm.count = 1 ∨ width < 2 ∨ height < wm.count - 1 then
      column wm 0 wm.count outer outer width height
    else
      let gap := min boringWmInner (width - 2)
      let share := (width - gap) * 3 / 5
      let master := if share = 0 then 1 else share
      let slot := wm.order 0
      let placed := wm.setClient slot (rectangle (wm.clients slot) outer outer master height)
      column placed 1 (wm.count - 1) (outer + master + gap) outer (width - master - gap) height

/-- `wm_add`, with the token of the new client -/
def wmAdd (endpoint pid surface : Nat) : WmStatus × WmCore × Nat :=
  if endpoint = 0 ∨ pid = 0 ∨ surface = 0 then (.invalid, wm, 0)
  else if (List.range boringWmClientMax).any fun index =>
      (wm.clients index).active &&
        ((wm.clients index).endpoint == endpoint || (wm.clients index).surface == surface) then
    (.exists_, wm, 0)
  else if boringWmClientMax ≤ wm.count then (.noSpace, wm, 0)
  else
    match (List.range boringWmClientMax).find? fun index =>
        !(wm.clients index).active && (wm.clients index).generation != 0 with
    | none => (.noSpace, wm, 0)
    | some index =>
      let token := (wm.clients index).generation <<< 8 ||| (index + 1)
      let client : WmClient :=
        { wm.clients index with
          endpoint := endpoint
          peerPid := pid
          surface := surface
          token := token
          active := true
          closing := false }
      let added := wm.setClient index client
      (.ok, wmLayout
          { added with
            order := Function.update wm.order wm.count index
            count := wm.count + 1
            focus := token },
        token)

/-- The position of a token in the order of the windows, or their number -/
def positionOf (token : Nat) : Nat :=
  ((List.range wm.count).find? fun index =>
    (wm.clients (wm.order index)).token == token).getD wm.count

/-- `wm_remove` -/
def wmRemove (endpoint token : Nat) : WmStatus × WmCore :=
  match wmAuthority wm endpoint token with
  | .ok =>
    let slot := (token &&& 255) - 1
    let position := positionOf wm token
    let count := wm.count - 1
    let shifted := fun index =>
      if position ≤ index ∧ index + 1 < wm.count then wm.order (index + 1) else wm.order index
    let order := Function.update shifted count 0
    let focus :=
      if wm.focus = token then
        if count = 0 then 0 else (wm.clients (order (position % count))).token
      else wm.focus
    let generation := (wm.clients slot).generation
    let removed := wm.setClient slot
      { clearClient with
        generation := if generation = wmGenerationMax then 0 else generation + 1 }
    (.ok, wmLayout
        { removed with
          order := order
          count := count
          focus := focus })
  | status => (status, wm)

/-- The two directions of `wm_focus_step` and `wm_reorder` -/
inductive Direction where
  | backward
  | forward
deriving DecidableEq, Repr

/-- `focused_position` -/
def focusedPosition : Nat := positionOf wm wm.focus

/-- `wm_focus_step` -/
def wmFocusStep (direction : Direction) : Option WmCore :=
  let position := focusedPosition wm
  if wm.count = 0 ∨ wm.count ≤ position then none
  else
    let next :=
      match direction with
      | .forward => (position + 1) % wm.count
      | .backward => (position + wm.count - 1) % wm.count
    some { wm with focus := (wm.clients (wm.order next)).token }

/-- `wm_reorder` -/
def wmReorder (direction : Direction) : Option WmCore :=
  let position := focusedPosition wm
  if wm.count < 2 ∨ wm.count ≤ position ∨ (direction = .backward ∧ position = 0) ∨
      (direction = .forward ∧ position + 1 = wm.count) then none
  else
    let other :=
      match direction with
      | .forward => position + 1
      | .backward => position - 1
    some (wmLayout
      { wm with
        order := Function.update (Function.update wm.order position (wm.order other)) other
          (wm.order position) })

/-- `wm_pointer` -/
def wmPointer (x y : Nat) : Option WmCore :=
  let inside := (List.range wm.count).find? fun index =>
    let client := wm.clients (wm.order index)
    decide (client.rect.x ≤ x ∧ client.rect.y ≤ y ∧ x - client.rect.x < client.rect.width ∧
      y - client.rect.y < client.rect.height ∧ wm.focus ≠ client.token)
  inside.map fun index => { wm with focus := (wm.clients (wm.order index)).token }

/-- `enum wm_action` -/
inductive WmAction where
  | none
  | focus
  | reorder
  | close
  | noLauncher
deriving DecidableEq, Repr

/-- `wm_application_path` -/
def wmApplicationPath (key : Nat) : Option String :=
  if key = boringKeyEnter then some "/bin/boring-terminal"
  else if key = boringKeyE then some "/bin/boring-edit"
  else if key = boringKeyF then some "/bin/boring-files"
  else none

def keyDirection (code : Nat) : Option Direction :=
  if code = boringKeyH ∨ code = boringKeyK ∨ code = boringKeyLeft ∨ code = boringKeyUp then
    some .backward
  else if code = boringKeyJ ∨ code = boringKeyL ∨ code = boringKeyRight ∨ code = boringKeyDown then
    some .forward
  else none

/-- An action that is taken if the policy allows it -/
def actionOf (action : WmAction) : Option WmCore → WmAction × WmCore
  | some changed => (action, changed)
  | Option.none => (.none, wm)

/-- `wm_key` -/
def wmKey (event : InputEvent) : WmAction × WmCore :=
  if event.type ≠ .key ∨ event.value1 ≠ boringKeyDownValue ∨ event.flags ≠ 0 ∨
      (event.modifiers ≠ boringModSuper ∧ event.modifiers ≠ boringModSuper ||| boringModShift) then
    (.none, wm)
  else
    match keyDirection event.code with
    | some direction =>
      if event.modifiers &&& boringModShift ≠ 0 then
        actionOf wm .reorder (wmReorder wm direction)
      else actionOf wm .focus (wmFocusStep wm direction)
    | Option.none =>
      if event.modifiers ≠ boringModSuper then (.none, wm)
      else if (wmApplicationPath event.code).isSome then (.noLauncher, wm)
      else if event.code = boringKeyQ then
        match wmLookup wm wm.focus with
        | Option.none => (.none, wm)
        | some slot =>
          if (wm.clients slot).closing = true then (.none, wm)
          else (.close, wm.setClient slot { wm.clients slot with closing := true })
      else (.none, wm)

/-- The types of `struct boring_wm_message` -/
inductive WmMessageType where
  | register
  | query
  | unregister
  | reply
  | close
  | configure
  | key
deriving DecidableEq, Repr

/-- `struct boring_wm_message` -/
structure WmMessage where
  version : Nat
  type : WmMessageType
  token : Nat
  surface : Nat
  status : WmStatus
  x : Nat
  y : Nat
  width : Nat
  height : Nat
  border : Nat
  focused : Nat
  reserved : Nat
deriving DecidableEq, Repr

/-- A message that says nothing but its type -/
def wmMessage (type : WmMessageType) : WmMessage :=
  ⟨boringWmVersion, type, 0, 0, .ok, 0, 0, 0, 0, 0, 0, 0⟩

/-- `wm_validate_request`, on a message that has arrived whole or not -/
def wmValidateRequest (message : WmMessage) (whole : Bool) : WmStatus :=
  if whole = false ∨ message.version ≠ boringWmVersion ∨ message.status ≠ .ok ∨
      message.x ≠ 0 ∨ message.y ≠ 0 ∨ message.width ≠ 0 ∨ message.height ≠ 0 ∨
      message.border ≠ 0 ∨ message.focused ≠ 0 ∨ message.reserved ≠ 0 then .invalid
  else
    match message.type with
    | .register => if message.token = 0 ∧ message.surface ≠ 0 then .ok else .invalid
    | .query => if message.token ≠ 0 ∧ message.surface = 0 then .ok else .invalid
    | .unregister => if message.token ≠ 0 ∧ message.surface = 0 then .ok else .invalid
    | _ => .invalid

end BoringOS.WindowManager
