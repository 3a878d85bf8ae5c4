import BoringOS.Display.EventLoop

namespace BoringOS.Desktop

open Display WindowManager

/-!
# The desktop

The display server and the window manager next to each other, with the events
that the kernel hands to the display.  In every step one of the two goes on,
or an event comes in, and each of the three may happen at any time.
-/

structure System where
  wm : WmProcess
  side : DisplaySide

inductive Action where
  | inputArrives (event : InputEvent)
  | manager (answers : WmAnswers)
  | display (answers : DisplayAnswers)

/-- A step of the desktop.  A process that is blocked stays where it is. -/
def step (system : System) : Action → System
  | .inputArrives event =>
    if system.side.events.length < boringInputQueueCapacity then
      { system with side := { system.side with events := system.side.events ++ [event] } }
    else system
  | .manager answers =>
    match wmStep system.wm system.side.link answers with
    | none => system
    | some (wm, link) =>
      { wm := wm
        side := { system.side with link := link } }
  | .display answers =>
    match displayStep system.side answers with
    | none => system
    | some side => { system with side := side }

/-- Both have registered their services, and the window manager has connected
to the display, which has not accepted it yet. -/
def start (width height displayPid : Nat) : System where
  wm :=
    { memory :=
        { core := ⟨0, 0, 0, 0, fun _ => 0, fun _ => clearClient⟩
          peers := List.replicate wmPeers 0
          displayPid := displayPid
          reply := ⟨.ok, 0, 0, 0, 0, 0⟩
          appSent := true
          delivered := [] }
      deferredInput := none
      todo := [.rpc (displayControl .manager), .managerBound, .syncLayout 0]
      position := .top
      exited := false }
  side :=
    { server :=
        { width := width
          height := height
          cursorX := width / 2
          cursorY := height / 2
          peers := List.replicate displayPeers none
          manager := none
          inputPending := false
          managerSeen := false
          focusPresentPending := false
          todo := []
          exited := false }
      link := ⟨[], [], .waiting, true⟩
      events := [] }

def isInput : DisplayEvent → Bool
  | .input _ => true
  | .reply _ => false

def isReply : DisplayEvent → Bool
  | .input _ => false
  | .reply _ => true

def isAck (request : DisplayControl) : Bool := request.type == .inputAck

/-- A task that ends with an acknowledgement -/
def owes : WmTask → Bool
  | .acknowledgeInput | .handleInput _ => true
  | _ => false

/-- The input events that have not been acknowledged: on their way to the
manager, put aside by it, in its hands, or with their acknowledgement on its
way back -/
def unacknowledged (deferred : Option DisplayInput) (todo : List WmTask) (link : Link) : Nat :=
  link.toManager.countP isInput + (if deferred.isSome then 1 else 0) + todo.countP owes +
    link.toDisplay.countP isAck

/-- The requests to the display and the replies to them -/
def underWay (link : Link) : Nat := link.toDisplay.countP (!isAck ·) + link.toManager.countP isReply

/-- The manager waits for a reply. -/
def awaits : List WmTask → Nat
  | .awaitReply :: _ => 1
  | _ => 0

/-- Answers of clients that do nothing -/
def quietClients : WmAnswers := ⟨true, none, 0, none, false, fun _ => false, fun _ => false⟩

def quietPeers : DisplayAnswers :=
  ⟨none, false, fun _ => false, fun _ => false, none, true, true, .ok, true⟩

/-- The manager cannot go on as long as its clients do nothing. -/
def ManagerBlocked (system : System) : Prop :=
  system.wm.exited = false ∧ wmStep system.wm system.side.link quietClients = none

/-- The display waits in `boring_event_wait`, and cannot go on as long as its
clients do nothing. -/
def DisplayBlocked (system : System) : Prop :=
  system.side.server.exited = false ∧ system.side.server.todo = [] ∧ displayStep system.side quietPeers = none

/-- The manager has an input event that it has not acknowledged. -/
def ManagerHolds (system : System) : Prop :=
  system.wm.deferredInput.isSome = true ∨ system.wm.todo.countP owes ≠ 0

/-- The manager does not wait for events with a deferred input event in its
hands, and the two do not wait for each other. -/
structure NoInputStuck (system : System) : Prop where
  handled : system.wm.exited = false → system.wm.position = .wait → system.wm.todo = [] →
    system.wm.deferredInput = none
  progress : ¬(ManagerBlocked system ∧ DisplayBlocked system ∧
    system.side.server.inputPending = true ∧ ManagerHolds system)

/-- At the top of its loop, the manager has acknowledged the deferred event
that it is handling and waits for the reply to a request, and another input
event is ahead of this reply. -/
def InputOvertakesReply (system : System) : Prop :=
  system.wm.exited = false ∧ system.wm.position = .wait ∧
    system.wm.todo.head? = some .awaitReply ∧ WmTask.acknowledgeInput ∉ system.wm.todo ∧
    (system.side.link.toManager.head?.map isInput) = some true

instance (system : System) : Decidable (InputOvertakesReply system) :=
  inferInstanceAs (Decidable (_ ∧ _))

/-- The manager takes no step in which an input event overtakes the reply. -/
def Orderly (system : System) : Action → Prop
  | .manager _ => ¬InputOvertakesReply system
  | _ => True

instance (system : System) : ∀ action, Decidable (Orderly system action)
  | .manager _ => inferInstanceAs (Decidable (¬_))
  | .inputArrives _ => inferInstanceAs (Decidable True)
  | .display _ => inferInstanceAs (Decidable True)

open Display Library WindowManager

/-!
## The clients of the window manager

The desktop together with the connections of the window manager's clients, as
`kernel/core/ipc.c` keeps them: two queues of sixteen messages and two ends that
are open or closed.  What the manager's calls answer is no longer left open, but
read off the connections.  A connection goes by the handle that the manager gets
for it when it accepts it; a handle carries a generation, and none is given
twice.
-/

/-- `struct ipc_connection` between the manager and a client -/
structure ClientLink where
  pid : Nat
  toManager : List (WmMessage × Bool × Bool)
  toClient : List WmMessage
  managerOpen : Bool
  clientOpen : Bool
deriving DecidableEq, Repr

/-- The desktop with its clients, of which some have not been accepted yet -/
structure ManagedSystem where
  desktop : System
  links : Nat → Option ClientLink
  pending : List Nat

/-- An event, a step of the display, a step of the manager (who may find no
handle for a connection or a buffer), or a call of a client -/
inductive ManagedAction where
  | inputArrives (event : InputEvent)
  | display (answers : DisplayAnswers)
  | manager (accepts installs : Bool)
  | connect (endpoint pid : Nat)
  | request (endpoint : Nat) (message : WmMessage × Bool × Bool)
  | receive (endpoint : Nat)
  | close (endpoint : Nat)

def pendingPerService : Nat := 16

def setLink (links : Nat → Option ClientLink) (endpoint : Nat) (change : ClientLink → ClientLink) :
    Nat → Option ClientLink :=
  Function.update links endpoint ((links endpoint).map change)

/-- `boring_ipc_send` by the manager succeeds. -/
def sends (link : ClientLink) : Bool :=
  link.managerOpen && link.clientOpen && decide (link.toClient.length < ipcMessagesPerDirection)

/-- `boring_ipc_receive` by the manager, if it does not wait -/
def receives (installs : Bool) (link : ClientLink) : Option (WmMessage × Bool × Bool) :=
  if link.managerOpen = false then none
  else
    match link.toManager with
    | [] => none
    | request :: _ => if request.2.2 = true ∧ installs = false then none else some request

/-- `boring_ipc_receive` by the manager has to wait. -/
def waits (link : ClientLink) : Bool :=
  link.managerOpen && link.clientOpen && link.toManager.isEmpty

/-- `boring_endpoint_peer` -/
def peerPid (link : ClientLink) : Nat := if link.clientOpen = true then link.pid else 0

variable (system : ManagedSystem) (accepts installs : Bool)

/-- What the manager is told by the kernel in its next step -/
def answersOf : WmAnswers where
  appSent :=
    match system.desktop.wm.todo with
    | .appSend endpoint _ :: _ => (system.links endpoint).any sends
    | _ => false
  accepted := if accepts = true then system.pending.head? else none
  peerPid :=
    match system.desktop.wm.todo with
    | .request endpoint :: _ => ((system.links endpoint).map peerPid).getD 0
    | .accept :: _ => ((system.pending.head?.bind system.links).map peerPid).getD 0
    | _ => 0
  received :=
    match system.desktop.wm.todo with
    | .request endpoint :: _ => (system.links endpoint).bind (receives installs)
    | _ => none
  clientsConnect := !system.pending.isEmpty
  hangsUp endpoint := (system.links endpoint).any (!·.clientOpen)
  hasSent endpoint := (system.links endpoint).any (!·.toManager.isEmpty)

variable (endpoint : Nat)

/-- The main loop keeps the connection that it has accepted. -/
def admits : Bool :=
  let pid := ((system.links endpoint).map peerPid).getD 0
  decide (pid ≠ 0 ∧ pid ≠ system.desktop.wm.memory.displayPid ∧ 0 ∈ system.desktop.wm.memory.peers)

/-- What a task of the manager makes of the connections -/
def serveLinks :
    WmTask → Nat → Option ClientLink
  | .appSend endpoint message =>
    setLink system.links endpoint fun link =>
      if sends link = true then { link with toClient := link.toClient ++ [message] } else link
  | .request endpoint =>
    setLink system.links endpoint fun link =>
      if (receives installs link).isSome then { link with toManager := link.toManager.tail }
      else link
  | .drop endpoint slot =>
    if boringWmClientMax ≤ slot then
      setLink system.links endpoint fun link => { link with managerOpen := false }
    else system.links
  | .accept =>
    match system.pending with
    | [] => system.links
    | endpoint :: _ =>
      if accepts = true ∧ admits system endpoint = false then
        setLink system.links endpoint fun link => { link with managerOpen := false }
      else system.links
  | _ => system.links

/-- The connections that are left to be accepted after a task of the manager -/
def servePending (accepts : Bool) : WmTask → List Nat
  | .accept => if accepts = true then system.pending.tail else system.pending
  | _ => system.pending

/-- A task of the manager, with the state of the desktop after it -/
def serveTask (desktop : System) :
    List WmTask → ManagedSystem
  | [] => { system with desktop := desktop }
  | task :: _ =>
    { desktop := desktop
      links := serveLinks system accepts installs task
      pending := servePending system accepts task }

/-- The end of the manager closes its connections and its service. -/
def closeAll : ManagedSystem :=
  { system with
    links := fun endpoint =>
      (system.links endpoint).map fun link => { link with managerOpen := false }
    pending := [] }

/-- The manager waits for a request. -/
def requestWaits : Bool :=
  match system.desktop.wm.todo with
  | .request endpoint :: _ => (system.links endpoint).any waits
  | _ => false

/-- A step of the manager, unless it is blocked -/
def managerStep : ManagedSystem :=
  let answers := answersOf system accepts installs
  if requestWaits system = true ∨ wmStep system.desktop.wm system.desktop.side.link answers = none then system
  else
    let desktop := step system.desktop (.manager answers)
    let served := serveTask system accepts installs desktop system.desktop.wm.todo
    if desktop.wm.exited = true then closeAll served else served

/-- A step of the desktop with its clients -/
def managedStep : ManagedAction → ManagedSystem
  | .inputArrives event => { system with desktop := step system.desktop (.inputArrives event) }
  | .display answers => { system with desktop := step system.desktop (.display answers) }
  | .manager accepts installs => managerStep system accepts installs
  | .connect endpoint pid =>
    if endpoint ≠ 0 ∧ pid ≠ 0 ∧ (system.links endpoint).isNone ∧
        system.pending.length < pendingPerService ∧ system.desktop.wm.exited = false then
      { system with
        links := Function.update system.links endpoint (some ⟨pid, [], [], true, true⟩)
        pending := system.pending ++ [endpoint] }
    else system
  | .request endpoint message =>
    { system with
      links := setLink system.links endpoint fun link =>
        if link.clientOpen = true ∧ link.managerOpen = true ∧
            link.toManager.length < ipcMessagesPerDirection then
          { link with toManager := link.toManager ++ [message] }
        else link }
  | .receive endpoint =>
    { system with
      links := setLink system.links endpoint fun link =>
        { link with toClient := link.toClient.tail } }
  | .close endpoint =>
    { system with
      links := setLink system.links endpoint fun link =>
        { link with
          toClient := []
          clientOpen := false } }

def managedStart (width height displayPid : Nat) : ManagedSystem :=
  ⟨start width height displayPid, fun _ => none, []⟩

/-- The desktop goes its way whatever the clients do: it takes a step of its
own, or none. -/
theorem managedStep_desktop (action : ManagedAction) :
    (managedStep system action).desktop = system.desktop ∨
      ∃ own, (managedStep system action).desktop = step system.desktop own := by
  cases action with
  | inputArrives event => exact Or.inr ⟨.inputArrives event, rfl⟩
  | display answers => exact Or.inr ⟨.display answers, rfl⟩
  | manager accepts installs =>
    have served : ∀ desktop todo, (serveTask system accepts installs desktop todo).desktop = desktop := by
      intro desktop todo
      cases todo with
      | nil => rfl
      | cons task rest => rfl
    simp only [managedStep, managerStep]
    split
    · exact Or.inl rfl
    refine Or.inr ⟨.manager (answersOf system accepts installs), ?_⟩
    split
    · exact served _ _
    · exact served _ _
  | connect endpoint pid =>
    simp only [managedStep]
    grind
  | request endpoint message => exact Or.inl rfl
  | receive endpoint => exact Or.inl rfl
  | close endpoint => exact Or.inl rfl

/-- The manager serves the endpoint as one of its peers. -/
def Connected : Prop :=
  endpoint ∈ system.desktop.wm.memory.peers ∧ (system.links endpoint).any (·.managerOpen) = true

instance (system : ManagedSystem) (endpoint : Nat) : Decidable (Connected system endpoint) :=
  inferInstanceAs (Decidable (_ ∧ _))

/-- The client has not closed its end. -/
def clientAlive : Bool := (system.links endpoint).any (·.clientOpen)

/-- The next request of the client can be received and does not ask for the
end of its window. -/
def receivable (installs : Bool) (link : ClientLink) : Bool :=
  match link.toManager with
  | [] => true
  | request :: _ => (!request.2.2 || installs) && request.1.type != .unregister

/-- The manager's next task does not meet a full queue to the client, a
placement of its window that the display refuses, or a request that cannot be
received or asks for the end of the window. -/
def sparesTask (system : ManagedSystem) (installs : Bool) : List WmTask → Bool
  | .appSend peer _ :: _ =>
    peer != endpoint || (system.links endpoint).all fun link =>
      decide (link.toClient.length < ipcMessagesPerDirection)
  | .placed index :: _ =>
    let memory := system.desktop.wm.memory
    (memory.core.clients (memory.core.order index)).endpoint != endpoint || memory.reply.status == .ok
  | .request peer :: _ =>
    peer != endpoint || (system.links endpoint).all (receivable installs)
  | _ => true

def Spares (system : ManagedSystem) : ManagedAction → Prop
  | .manager _ installs => sparesTask endpoint system installs system.desktop.wm.todo = true
  | _ => True

instance (endpoint : Nat) (system : ManagedSystem) :
    ∀ action, Decidable (Spares endpoint system action)
  | .manager _ _ => inferInstanceAs (Decidable (_ = true))
  | .inputArrives _ | .display _ | .connect _ _ | .request _ _ | .receive _ | .close _ =>
    inferInstanceAs (Decidable True)

end BoringOS.Desktop
