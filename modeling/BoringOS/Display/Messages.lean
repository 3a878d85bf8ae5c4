import BoringOS.WindowManager.Core

namespace BoringOS.Display

open WindowManager

/-!
# Messages between the display server and its manager

The control messages of `display_control.h`, and what
`display_control_validate` of `user/boring-display/managed.c` asks of them.
-/

def boringDisplayControlVersion : Nat := 2
def boringDisplaySurfaceMax : Nat := 16

/-- `BORING_DISPLAY_STATUS_*` -/
inductive DisplayStatus where
  | ok
  | invalid
  | access
  | noSpace
  | internal
deriving DecidableEq, Repr

/-- The types of `struct display_control` and of `struct display_event` -/
inductive DisplayControlType where
  | info
  | manager
  | delegate
  | bind
  | place
  | unbind
  | present
  | input
  | reply
  | inputAck
  | presentFocus
deriving DecidableEq, Repr

/-- `struct display_control` -/
structure DisplayControl where
  version : Nat
  type : DisplayControlType
  surface : Nat
  window : Nat
  x : Nat
  y : Nat
  width : Nat
  height : Nat
  border : Nat
  color : Nat
  background : Nat
  order : Nat
  ownerPid : Nat
deriving DecidableEq, Repr

/-- A message that says nothing but its type -/
def displayControl (type : DisplayControlType) : DisplayControl :=
  ⟨boringDisplayControlVersion, type, 0, 0, 0, 0, 0, 0, 0, 0, 0, 0, 0⟩

/-- `struct display_event` of type `DISPLAY_REPLY` -/
structure DisplayReply where
  status : DisplayStatus
  surface : Nat
  width : Nat
  height : Nat
  cursorX : Nat
  cursorY : Nat
deriving DecidableEq, Repr

/-- `struct display_event` of type `DISPLAY_INPUT` -/
structure DisplayInput where
  event : InputEvent
  cursorX : Nat
  cursorY : Nat
deriving DecidableEq, Repr

/-- `struct display_event` -/
inductive DisplayEvent where
  | reply (reply : DisplayReply)
  | input (message : DisplayInput)
deriving DecidableEq, Repr

/-- A colour without bits above its three bytes -/
def PlainColor (color : Nat) : Prop := color &&& 0xff000000 = 0

instance (color : Nat) : Decidable (PlainColor color) := inferInstanceAs (Decidable (_ = _))

variable (request : DisplayControl)

/-- The message carries no geometry. -/
def NoGeometry : Prop :=
  request.x = 0 ∧ request.y = 0 ∧ request.width = 0 ∧ request.height = 0 ∧
    request.border = 0 ∧ request.order = 0

instance (request : DisplayControl) : Decidable (NoGeometry request) :=
  inferInstanceAs (Decidable (_ ∧ _))

/-- What `display_control_validate` asks of a message of each type -/
def validContent : DisplayControlType → Bool
  | .info | .manager | .inputAck =>
    decide (request.surface = 0 ∧ request.window = 0 ∧ NoGeometry request ∧
      request.color = 0 ∧ request.ownerPid = 0 ∧ request.background = 0)
  | .present =>
    decide (request.surface = 0 ∧ request.window = 0 ∧ NoGeometry request ∧
      request.color = 0 ∧ request.ownerPid = 0)
  | .presentFocus =>
    decide (request.surface = 0 ∧ request.window ≠ 0 ∧ NoGeometry request ∧
      request.ownerPid = 0 ∧ PlainColor request.color ∧ PlainColor request.background)
  | .delegate =>
    decide (request.surface ≠ 0 ∧ request.window = 0 ∧ NoGeometry request ∧
      request.color = 0 ∧ request.background = 0 ∧ request.ownerPid = 0)
  | .bind =>
    decide (request.surface ≠ 0 ∧ request.window ≠ 0 ∧ NoGeometry request ∧
      request.color = 0 ∧ request.background = 0 ∧ request.ownerPid ≠ 0)
  | .unbind =>
    decide (request.surface ≠ 0 ∧ request.window ≠ 0 ∧ NoGeometry request ∧
      request.color = 0 ∧ request.background = 0 ∧ request.ownerPid = 0)
  | .place =>
    decide (request.surface ≠ 0 ∧ request.window ≠ 0 ∧ request.ownerPid = 0 ∧ request.background = 0)
  | .input | .reply => false

/-- `display_control_validate` -/
def displayControlValidate : DisplayStatus :=
  if request.version = boringDisplayControlVersion ∧ validContent request request.type = true then
    .ok
  else .invalid

def ipcMessagesPerDirection : Nat := 16

/-- What the display has made of the connection of the manager -/
inductive LinkState where
  | waiting
  | accepted
  | closed
deriving DecidableEq, Repr

/-- The connection between the display and its manager, with the messages
under way -/
structure Link where
  toDisplay : List DisplayControl
  toManager : List DisplayEvent
  display : LinkState
  managerOpen : Bool
deriving DecidableEq, Repr

/-- `boring_ipc_send` by the manager -/
def Link.sendToDisplay (link : Link) (request : DisplayControl) : Option Link :=
  if link.display = .closed ∨ ipcMessagesPerDirection ≤ link.toDisplay.length then none
  else some { link with toDisplay := link.toDisplay ++ [request] }

/-- `boring_ipc_send` by the display -/
def Link.sendToManager (link : Link) (event : DisplayEvent) : Option Link :=
  if link.managerOpen = false ∨ ipcMessagesPerDirection ≤ link.toManager.length then none
  else some { link with toManager := link.toManager ++ [event] }

end BoringOS.Display
