import BoringOS.Display.Messages

namespace BoringOS.WindowManager

open Display

/-!
# The window manager as a process

A transcription of `user/boringwm/main.c`.  The calls that the process is in
the middle of are a list of tasks, the next one first, so that it can be
stopped wherever it may have to wait for the display.  Its clients are left
open: they may ask for anything at any time, and may stop taking messages.
What is only written to the log is left out.
-/

def wmPeers : Nat := 16
def boringWmBackground : Nat := 0x00282828
def boringWmFocused : Nat := 0x00ebdbb2
def boringWmUnfocused : Nat := 0x003c3836

/-- What is left to be done, and by which function -/
inductive WmTask where
  /-- `display_rpc`, up to the message that it sends -/
  | rpc (request : DisplayControl)
  /-- the loop of `display_rpc` -/
  | awaitReply
  /-- `acknowledge_input` -/
  | acknowledgeInput
  /-- `handle_input` -/
  | handleInput (message : DisplayInput)
  /-- the reading of the display in the main loop -/
  | receiveInput
  /-- the reply to the first message of all -/
  | managerBound
  /-- `sync_layout`, from a window on -/
  | syncLayout (index : Nat)
  /-- the reply to the placement of a window in `sync_layout` -/
  | placed (index : Nat)
  /-- the window has been told its place in `sync_layout` -/
  | configured (index : Nat)
  /-- the reply at the end of `sync_layout` -/
  | presented
  /-- `sync_focus` -/
  | syncFocus
  /-- the reply in `sync_focus` -/
  | focusPresented
  /-- `sync_layout` if the client could not be told -/
  | resync
  /-- `app_send` -/
  | appSend (endpoint : Nat) (message : WmMessage)
  /-- `drop`, from a slot on -/
  | drop (endpoint slot : Nat)
  /-- `wm_remove` after `display_rpc` -/
  | remove (endpoint token : Nat)
  /-- `request` -/
  | request (endpoint : Nat)
  /-- the reply to the binding of a window in `request` -/
  | bound (endpoint token oldFocus : Nat)
  /-- the end of `request` -/
  | replied (changed : Bool)
  /-- a peer that has hung up, in the main loop -/
  | hangUp (endpoint : Nat)
  /-- a connection to be accepted in the main loop -/
  | accept
deriving DecidableEq, Repr

/-- What the functions of the process keep and hand to each other -/
structure WmMemory where
  core : WmCore
  peers : List Nat
  displayPid : Nat
  reply : DisplayReply
  appSent : Bool
  delivered : List (Nat × WmMessage)

/-- Where the main loop goes on when all calls have returned -/
inductive LoopPosition where
  | top
  | wait
deriving DecidableEq, Repr

/-- The process.  The deferred input is there exactly when `has_input` is. -/
structure WmProcess where
  memory : WmMemory
  deferredInput : Option DisplayInput
  todo : List WmTask
  position : LoopPosition
  exited : Bool

/-- What the clients and the kernel answer, as far as a step asks -/
structure WmAnswers where
  appSent : Bool
  accepted : Option Nat
  peerPid : Nat
  received : Option (WmMessage × Bool × Bool)
  clientsConnect : Bool
  hangsUp : Nat → Bool
  hasSent : Nat → Bool

variable (core : WmCore)

/-- The message of `sync_layout` that places a window -/
def placement (index : Nat) : DisplayControl :=
  let client := core.clients (core.order index)
  { displayControl .place with
    surface := client.surface
    window := client.token
    x := client.rect.x
    y := client.rect.y
    width := client.rect.width
    height := client.rect.height
    border := client.rect.border
    order := index
    color := if core.focus = client.token then boringWmFocused else boringWmUnfocused }

/-- The message of `sync_layout` that tells a client its place -/
def configuration (index : Nat) : WmMessage :=
  let client := core.clients (core.order index)
  { wmMessage .configure with
    token := client.token
    surface := client.surface
    x := client.rect.x
    y := client.rect.y
    width := client.rect.width
    height := client.rect.height
    border := client.rect.border
    focused := if core.focus = client.token then 1 else 0 }

def unbinding (surface token : Nat) : DisplayControl :=
  { displayControl .unbind with
    surface := surface
    window := token }

def binding (surface token pid : Nat) : DisplayControl :=
  { displayControl .bind with
    surface := surface
    window := token
    ownerPid := pid }

def presentation : DisplayControl :=
  { displayControl .present with background := boringWmBackground }

def focusPresentation : DisplayControl :=
  { displayControl .presentFocus with
    window := core.focus
    color := boringWmFocused
    background := boringWmUnfocused }

/-- The branches of `handle_input` behind the action of the policy -/
def actionTasks (event : InputEvent) : WmAction → List WmTask
  | .focus => [.syncFocus]
  | .reorder => [.syncLayout 0]
  | .close =>
    match wmLookup core core.focus with
    | some slot =>
      [.appSend (core.clients slot).endpoint { wmMessage .close with token := core.focus }, .resync]
    | none => []
  | .noLauncher => []
  | .none =>
    if event.type = .key ∧ event.modifiers &&& boringModSuper = 0 ∧
        event.code ≠ boringKeyLeftSuper ∧ event.code ≠ boringKeyRightSuper then
      match wmLookup core core.focus with
      | some slot =>
        [.appSend (core.clients slot).endpoint
          { wmMessage .key with
            token := core.focus
            surface := event.code
            x := (event.value1 % 2 ^ 32).toNat
            y := event.modifiers },
          .resync]
      | Option.none => []
    else []

/-- The action of `handle_input` -/
def inputAction (message : DisplayInput) : WmAction × WmCore :=
  let keyed := wmKey core message.event
  if message.event.type = .mouseMove then
    match wmPointer keyed.2 message.cursorX message.cursorY with
    | some focused => (.focus, focused)
    | none => keyed
  else keyed

/-- `handle_input`: a pointer that moves the focus is acknowledged before
anything else is done, and everything else afterwards -/
def handleInput (message : DisplayInput) : WmCore × List WmTask :=
  let chosen := inputAction core message
  let tasks := actionTasks chosen.2 message.event chosen.1
  if chosen.1 = .focus ∧ message.event.type = .mouseMove then
    (chosen.2, .acknowledgeInput :: tasks)
  else (chosen.2, tasks ++ [.acknowledgeInput])

/-- The reply of `request` -/
def requestReply (status : WmStatus) (token : Nat) : WmMessage :=
  { wmMessage .reply with
    status := status
    token := if status = .ok then token else 0 }

/-- `request`, up to the first message to the display -/
def requestTasks (endpoint pid : Nat) :
    Option (WmMessage × Bool × Bool) → WmCore × List WmTask
  | none => (core, [.drop endpoint 0, .syncLayout 0])
  | some (message, whole, hasBuffer) =>
    let status := if hasBuffer then .invalid else wmValidateRequest message whole
    if status ≠ .ok then
      (core, [.appSend endpoint (requestReply status 0), .replied false])
    else if message.type = .register then
      if pid = 0 then
        (core, [.appSend endpoint (requestReply .invalid 0), .replied false])
      else
        match wmAdd core endpoint pid message.surface with
        | (.ok, added, token) =>
          (added, [.rpc (binding message.surface token pid), .bound endpoint token core.focus])
        | (status, _, _) =>
          (core, [.appSend endpoint (requestReply status 0), .replied false])
    else
      match wmAuthority core endpoint message.token with
      | .ok =>
        if message.type = .unregister then
          match wmLookup core message.token with
          | some slot =>
            (core,
              [.rpc (unbinding (core.clients slot).surface message.token),
                .remove endpoint message.token,
                .appSend endpoint (requestReply .ok message.token), .replied true])
          | none => (core, [])
        else
          (core, [.appSend endpoint (requestReply .ok message.token), .replied false])
      | status => (core, [.appSend endpoint (requestReply status 0), .replied false])

/-- The first free slot of the peers is taken, if there is one. -/
def addPeer (endpoint : Nat) : List Nat → List Nat
  | [] => []
  | peer :: rest => if peer = 0 then endpoint :: rest else peer :: addPeer endpoint rest

/-- A task between two messages to the display, with the tasks that it leads
to.  The process fails where there is no answer. -/
def innerTask (memory : WmMemory) (answers : WmAnswers) : WmTask → Option (WmMemory × List WmTask)
  | .managerBound =>
    if memory.reply.status ≠ .ok then none
    else
      match wmInit memory.reply.width memory.reply.height with
      | none => none
      | some core => some ({ memory with core := core }, [])
  | .syncLayout index =>
    if index < memory.core.count then
      some (memory, [.rpc (placement memory.core index), .placed index])
    else some (memory, [.rpc presentation, .presented])
  | .placed index =>
    let endpoint := (memory.core.clients (memory.core.order index)).endpoint
    if memory.reply.status ≠ .ok then some (memory, [.drop endpoint 0, .syncLayout 0])
    else some (memory, [.appSend endpoint (configuration memory.core index), .configured index])
  | .configured index =>
    some (memory, [.syncLayout (if memory.appSent then index + 1 else 0)])
  | .presented => if memory.reply.status ≠ .ok then none else some (memory, [])
  | .syncFocus => some (memory, [.rpc (focusPresentation memory.core), .focusPresented])
  | .focusPresented =>
    some (memory, if memory.reply.status ≠ .ok then [.syncLayout 0] else [])
  | .resync => some (memory, if memory.appSent then [] else [.syncLayout 0])
  | .appSend endpoint message =>
    if answers.appSent then
      some
        ({ memory with
          appSent := true
          delivered := memory.delivered ++ [(endpoint, message)] }, [])
    else some ({ memory with appSent := false }, [.drop endpoint 0])
  | .drop endpoint slot =>
    let client := memory.core.clients slot
    if boringWmClientMax ≤ slot then
      some
        ({ memory with peers := memory.peers.map fun peer => if peer = endpoint then 0 else peer },
          [])
    else if client.active = true ∧ client.endpoint = endpoint then
      some (memory,
        [.rpc (unbinding client.surface client.token), .remove endpoint client.token,
          .drop endpoint (slot + 1)])
    else some (memory, [.drop endpoint (slot + 1)])
  | .remove endpoint token =>
    some ({ memory with core := (wmRemove memory.core endpoint token).2 }, [])
  | .request endpoint =>
    let asked := requestTasks memory.core endpoint answers.peerPid answers.received
    some ({ memory with core := asked.1 }, asked.2)
  | .bound endpoint token oldFocus =>
    if memory.reply.status ≠ .ok then
      let removed := (wmRemove memory.core endpoint token).2
      some
        ({ memory with
          core := { removed with
            focus := if (wmLookup removed oldFocus).isSome then oldFocus else 0 } },
          [.appSend endpoint (requestReply .access 0), .replied false])
    else some (memory, [.appSend endpoint (requestReply .ok token), .replied true])
  | .replied changed =>
    some (memory, if changed = true ∨ memory.appSent = false then [.syncLayout 0] else [])
  | .hangUp endpoint => some (memory, [.drop endpoint 0, .syncLayout 0])
  | .accept =>
    match answers.accepted with
    | none => none
    | some endpoint =>
      if answers.peerPid = 0 ∨ answers.peerPid = memory.displayPid then some (memory, [])
      else some ({ memory with peers := addPeer endpoint memory.peers }, [])
  | .rpc _ | .awaitReply | .acknowledgeInput | .handleInput _ | .receiveInput => none

/-- The watches of the main loop that are ready, in the order in which they
are served -/
def wmReady (memory : WmMemory) (link : Link) (answers : WmAnswers) : List WmTask :=
  (if answers.clientsConnect then [.accept] else []) ++
    (if link.toManager ≠ [] ∨ link.display = .closed then [.receiveInput] else []) ++
      memory.peers.filterMap fun endpoint =>
        if endpoint = 0 then none
        else if answers.hangsUp endpoint then some (.hangUp endpoint)
        else if answers.hasSent endpoint then some (.request endpoint)
        else none

/-- The process ends, and with it its end of the connection. -/
def wmExit (wm : WmProcess) (link : Link) : WmProcess × Link :=
  ({ wm with
    todo := []
    exited := true }, { link with managerOpen := false })

/-- A step of the process, if it is not blocked -/
def wmStep (wm : WmProcess) (link : Link) (answers : WmAnswers) : Option (WmProcess × Link) :=
  if wm.exited = true then none
  else
    match wm.todo with
    | [] =>
      match wm.position with
      | .top =>
        match wm.deferredInput with
        | none => some ({ wm with position := .wait }, link)
        | some message =>
          some
            ({ wm with
              deferredInput := none
              todo := [.handleInput message]
              position := .wait }, link)
      | .wait =>
        match wmReady wm.memory link answers with
        | [] => none
        | tasks =>
          some
            ({ wm with
              todo := tasks
              position := .top }, link)
    | .rpc request :: rest =>
      match link.sendToDisplay request with
      | none => some (wmExit wm link)
      | some link => some ({ wm with todo := .awaitReply :: rest }, link)
    | .awaitReply :: rest =>
      match link.toManager with
      | [] => if link.display = .closed then some (wmExit wm link) else none
      | .reply reply :: later =>
        some
          ({ wm with
            memory := { wm.memory with reply := reply }
            todo := rest }, { link with toManager := later })
      | .input message :: later =>
        if wm.deferredInput.isSome then some (wmExit wm link)
        else
          some ({ wm with deferredInput := some message }, { link with toManager := later })
    | .acknowledgeInput :: rest =>
      match link.sendToDisplay (displayControl .inputAck) with
      | none => some (wmExit wm link)
      | some link => some ({ wm with todo := rest }, link)
    | .handleInput message :: rest =>
      let handled := handleInput wm.memory.core message
      some
        ({ wm with
          memory := { wm.memory with core := handled.1 }
          todo := handled.2 ++ rest }, link)
    | .receiveInput :: rest =>
      match link.toManager with
      | [] => if link.display = .closed then some (wmExit wm link) else none
      | .reply _ :: _ => some (wmExit wm link)
      | .input message :: later =>
        some ({ wm with todo := .handleInput message :: rest },
          { link with toManager := later })
    | task :: rest =>
      match innerTask wm.memory answers task with
      | none => some (wmExit wm link)
      | some (memory, tasks) =>
        some
          ({ wm with
            memory := memory
            todo := tasks ++ rest }, link)

end BoringOS.WindowManager
