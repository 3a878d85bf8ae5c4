import BoringOS.WindowManager.Process
import BoringOS.Library.Run

namespace BoringOS.Display

open WindowManager

/-!
# The event loop of the display server

A transcription of the main loop of `user/boring-display/server.c`, as far as
it takes input events, hands them to the manager and answers control messages.
Which surfaces there are and what is painted has no part in this: whether a
control message about them succeeds is left open, and so are the requests of
all clients.
-/

def displayPeers : Nat := 16
def boringInputQueueCapacity : Nat := 128

/-- Who a connection of the display belongs to -/
inductive DisplayPeer where
  | windowManager
  | client (endpoint : Nat)
deriving DecidableEq, Repr

/-- A watch of the main loop that is ready and has not been served -/
inductive DisplayTask where
  | accept
  | input
  | hangUp (peer : DisplayPeer)
  | receive (peer : DisplayPeer)
deriving DecidableEq, Repr

/-- The server.  `manager` is the endpoint of the manager. -/
structure DisplayServer where
  width : Nat
  height : Nat
  cursorX : Nat
  cursorY : Nat
  peers : List (Option DisplayPeer)
  manager : Option DisplayPeer
  inputPending : Bool
  managerSeen : Bool
  focusPresentPending : Bool
  todo : List DisplayTask
  exited : Bool

/-- A message of a client: a request on its surfaces, or a control message -/
inductive ClientMessage where
  | surfaceRequest
  | malformed
  | control (request : DisplayControl)
deriving DecidableEq, Repr

/-- What the clients, the kernel and the table of surfaces answer, as far as a
step asks -/
structure DisplayAnswers where
  clientConnects : Option Nat
  acceptFails : Bool
  hangsUp : Nat → Bool
  hasSent : Nat → Bool
  received : Option ClientMessage
  peerAlive : Bool
  probed : Bool
  status : DisplayStatus
  replySent : Bool

/-- The server, its connection to the manager, and the events that the kernel
holds for it -/
structure DisplaySide where
  server : DisplayServer
  link : Link
  events : List InputEvent

variable (side : DisplaySide) (peer : DisplayPeer)

/-- `forget_peer` -/
def forgetPeer : DisplaySide :=
  let server := side.server
  let forgotten :=
    if server.manager = some peer then
      { server with
        manager := none
        inputPending := false
        focusPresentPending := false }
    else server
  { side with
    server := { forgotten with
      peers := server.peers.map fun slot => if slot = some peer then none else slot }
    link := if peer = .windowManager then { side.link with display := .closed } else side.link }

variable (answers : DisplayAnswers)

/-- `send_message` -/
def sendMessage (peer : DisplayPeer) (event : DisplayEvent) : DisplaySide :=
  match peer with
  | .windowManager =>
    match side.link.sendToManager event with
    | some link => { side with link := link }
    | none => forgetPeer side .windowManager
  | .client endpoint => if answers.replySent then side else forgetPeer side (.client endpoint)

/-- `control_reply` -/
def controlReply (peer : DisplayPeer) (status : DisplayStatus) (surface : Nat) : DisplaySide :=
  sendMessage side answers peer
    (.reply ⟨status, surface, side.server.width, side.server.height, side.server.cursorX,
      side.server.cursorY⟩)

/-- `boring_endpoint_peer` succeeds -/
def peerKnown : DisplayPeer → Bool
  | .windowManager => side.link.managerOpen
  | .client _ => answers.peerAlive

/-- A control message that reports a status -/
def controlled (peer : DisplayPeer) :
    DisplayControlType → DisplaySide × DisplayStatus
  | .info => (side, .ok)
  | .manager =>
    -- The service of the window manager is the one of the process behind its connection.
    if side.server.manager ≠ none ∨ side.server.managerSeen = true ∨ answers.probed = false ∨
        peer ≠ .windowManager then (side, .access)
    else
      ({ side with
        server := { side.server with
          manager := some peer
          managerSeen := true } }, .ok)
  | .inputAck => (side, .access)
  | .presentFocus =>
    if answers.status = .ok then
      ({ side with server := { side.server with focusPresentPending := true } }, .ok)
    else (side, answers.status)
  | .present =>
    if answers.status = .ok then
      ({ side with server := { side.server with focusPresentPending := false } }, .ok)
    else (side, answers.status)
  | _ => (side, answers.status)

/-- `control` -/
def control (peer : DisplayPeer) (request : DisplayControl) : DisplaySide :=
  if displayControlValidate request ≠ .ok then
    controlReply side answers peer (displayControlValidate request) request.surface
  else if peerKnown side answers peer = false then forgetPeer side peer
  else if request.type = .inputAck ∧ side.server.manager = some peer ∧ side.server.inputPending = true then
    { side with server := { side.server with inputPending := false } }
  else
    let done := controlled side answers peer request.type
    controlReply done.1 answers peer done.2 request.surface

/-- `receive`, if there is a message -/
def receive :
    DisplayPeer → Option DisplaySide
  | .windowManager =>
    match side.link.display, side.link.toDisplay with
    | .accepted, request :: later =>
      some (control { side with link := { side.link with toDisplay := later } } answers
        .windowManager request)
    | .accepted, [] =>
      if side.link.managerOpen = false then some (forgetPeer side .windowManager) else none
    | _, _ => some (forgetPeer side .windowManager)
  | .client endpoint =>
    match answers.received with
    | none => some (forgetPeer side (.client endpoint))
    | some .surfaceRequest =>
      some (if answers.replySent then side else forgetPeer side (.client endpoint))
    | some .malformed => some (controlReply side answers (.client endpoint) .invalid 0)
    | some (.control request) => some (control side answers (.client endpoint) request)

/-- `clamp_axis` -/
def clampAxis (current : Nat) (delta : Int) (limit : Nat) : Nat :=
  if limit = 0 then 0
  else if (current : Int) + delta < 0 then 0
  else if (limit : Int) ≤ current + delta then limit - 1
  else ((current : Int) + delta).toNat

/-- `boring_display_cursor_move` -/
def cursorMove (server : DisplayServer) (dx dy : Int) : DisplayServer :=
  { server with
    cursorX := clampAxis server.cursorX dx server.width
    cursorY := clampAxis server.cursorY dy server.height }

/-- The cursor follows the pointer. -/
def cursorFollow (server : DisplayServer) (event : InputEvent) : DisplayServer :=
  if event.type = .mouseMove then cursorMove server event.value1 event.value2 else server

/-- `input` -/
def input : Option DisplaySide :=
  match side.events with
  | [] => none
  | event :: events =>
    let server := cursorFollow side.server event
    match server.manager with
    | none =>
      some
        { side with
          server := server
          events := events }
    | some peer =>
      some (sendMessage
        { side with
          server := { server with inputPending := true }
          events := events } answers peer (.input ⟨event, server.cursorX, server.cursorY⟩))

/-- The first free slot of the peers is taken, or the connection is closed. -/
def addDisplayPeer (peer : DisplayPeer) :
    List (Option DisplayPeer) → Option (List (Option DisplayPeer))
  | [] => none
  | none :: rest => some (some peer :: rest)
  | some other :: rest => (addDisplayPeer peer rest).map (some other :: ·)

/-- `boring_service_accept`, and what the main loop makes of the connection.
The connection of the manager waits as long as others are ahead of it. -/
def acceptPeer : DisplaySide :=
  match answers.clientConnects with
  | some endpoint =>
    match addDisplayPeer (.client endpoint) side.server.peers with
    | some peers => { side with server := { side.server with peers := peers } }
    | none => side
  | none =>
    if side.link.display = .waiting ∧ answers.acceptFails = false then
      match addDisplayPeer .windowManager side.server.peers with
      | some peers =>
        { side with
          server := { side.server with peers := peers }
          link := { side.link with display := .accepted } }
      | none => { side with link := { side.link with display := .closed } }
    else
      { side with
        server := { side.server with
          todo := []
          exited := true }
        link := { side.link with display := .closed } }

/-- What the main loop sees of a peer -/
def peerReady :
    Option DisplayPeer → Option DisplayTask
  | none => none
  | some .windowManager =>
    if side.link.managerOpen = false then some (.hangUp .windowManager)
    else if side.link.toDisplay ≠ [] then some (.receive .windowManager)
    else none
  | some (.client endpoint) =>
    if answers.hangsUp endpoint then some (.hangUp (.client endpoint))
    else if answers.hasSent endpoint then some (.receive (.client endpoint))
    else none

/-- The watches of the main loop that are ready, in the order in which they
are served -/
def displayReady : List DisplayTask :=
  (if side.link.display = .waiting ∨ answers.clientConnects ≠ none then [.accept] else []) ++
    (if side.server.inputPending = false ∧ side.events ≠ [] then [.input] else []) ++
      side.server.peers.filterMap (peerReady side answers)

/-- One watch is served. -/
def serve : DisplayTask → Option DisplaySide
  | .accept => some (acceptPeer side answers)
  | .input => input side answers
  | .hangUp peer => some (forgetPeer side peer)
  | .receive peer => receive side answers peer

/-- A step of the server, if it is not blocked -/
def displayStep : Option DisplaySide :=
  if side.server.exited = true then none
  else
    match side.server.todo with
    | [] =>
      match displayReady side answers with
      | [] =>
        if side.server.focusPresentPending = true ∧ side.server.inputPending = false then
          some { side with server := { side.server with focusPresentPending := false } }
        else none
      | tasks => some { side with server := { side.server with todo := tasks } }
    | task :: rest =>
      serve { side with server := { side.server with todo := rest } } answers task

end BoringOS.Display
