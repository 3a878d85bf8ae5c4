import BoringOS.Library.RingBuffer
import BoringOS.Ipc.UserBuffers

namespace BoringOS.Ipc

open Library

/-!
# Services, connections and handles

A transcription of `kernel/core/ipc.c`.  The tables of connections and
services are functions from their indices, and a pointer into one of them is
an index.  The registered process states are kept by the address of their
owner; the source appends a state only where its search for the owner found
none, so that an owner has at most one.

The address of a process also serves as the pointer to it.  Waking a blocked
task and waiting for a wake-up are left out: a blocking call of a process is a
repeated call of the functions below.  `boring_ipc_system_init` has run.
-/

def ipcHandleSlotBits : Nat := 5
def ipcHandleSlotMask : Nat := 2 ^ ipcHandleSlotBits - 1
def ipcHandleGenerationMax : Nat := 2 ^ (32 - ipcHandleSlotBits) - 1
def ipcIndexInvalid : Nat := 0xffff
def ipcServiceNameMax : Nat := 31
def ipcGlobalServiceMax : Nat := 16
def ipcHandlesPerProcess : Nat := 32
def ipcGlobalConnectionMax : Nat := 64
def ipcPendingPerService : Nat := 16
def ipcMessagesPerDirection : Nat := 16
def ipcInlinePayloadMax : Nat := 256
def ipcHandleInvalid : Nat := 0

/-- The failures of `enum boring_ipc_result`.  A receiver whose buffer is too
small learns the length of the message. -/
inductive IpcError where
  | invalid
  | notFound
  | exists
  | noSpace
  | payloadTooLong (payloadLength : Nat)
  | peerClosed
  | wouldBlock
  | internal
deriving DecidableEq, Repr

/-- `IPC_SIDE_CLIENT` and `IPC_SIDE_SERVER` -/
inductive IpcSide where
  | client
  | server
deriving DecidableEq, Repr

def IpcSide.peer : IpcSide → IpcSide
  | .client => .server
  | .server => .client

/-- `enum boring_ipc_handle_type` -/
inductive IpcHandleType where
  | none
  | listener
  | endpoint
deriving DecidableEq, Repr

/-- `struct ipc_handle_entry` -/
structure IpcHandleEntry where
  generation : Nat
  objectIndex : Nat
  type : IpcHandleType
  side : IpcSide
  active : Bool
deriving DecidableEq, Repr

/-- `struct ipc_process_state`, without its owner and the links of the list -/
structure IpcProcessState where
  ownerPid : Nat
  handles : Nat → IpcHandleEntry

/-- `struct ipc_message`.  The payload is the first `payload_length` bytes of
the array. -/
structure IpcMessage where
  payload : List UInt8
  attachment : Option Nat
  active : Bool
deriving DecidableEq, Repr

/-- `struct ipc_queue` -/
structure IpcQueue where
  messages : Nat → IpcMessage
  head : Nat
  count : Nat

/-- `struct ipc_connection` -/
structure IpcConnection where
  clientOwner : Option Nat
  serverOwner : Option Nat
  clientPid : Nat
  serverPid : Nat
  toClient : IpcQueue
  toServer : IpcQueue
  clientOpen : Bool
  serverOpen : Bool
  serverAccepted : Bool
  active : Bool

/-- `struct ipc_service` -/
structure IpcService where
  owner : Option Nat
  ownerPid : Nat
  name : Nat → UInt8
  pending : Nat → Nat
  pendingHead : Nat
  pendingCount : Nat
  active : Bool

/-- The tables of `ipc.c` with the processes and their buffers. -/
structure IpcTables where
  buffers : Buffers
  states : Nat → Option IpcProcessState
  connections : Nat → IpcConnection
  services : Nat → IpcService

variable (ipc : IpcTables)

variable (index : Nat)

def IpcTables.setConnection (connection : IpcConnection) : IpcTables :=
  { ipc with connections := Function.update ipc.connections index connection }

def IpcTables.setService (service : IpcService) : IpcTables :=
  { ipc with services := Function.update ipc.services index service }

def IpcTables.setEntry (owner slot : Nat) (entry : IpcHandleEntry) : IpcTables :=
  { ipc with
    states := Function.update ipc.states owner
      ((ipc.states owner).map fun state =>
        { state with handles := Function.update state.handles slot entry }) }

/-! ## Clearing -/

/-- `clear_message` -/
def clearMessage : IpcMessage := ⟨[], none, false⟩

/-- `clear_queue` -/
def clearQueue : IpcQueue := ⟨fun _ => clearMessage, 0, 0⟩

/-- `clear_connection` -/
def clearConnection : IpcConnection :=
  ⟨none, none, 0, 0, clearQueue, clearQueue, false, false, false, false⟩

/-- `clear_service` -/
def clearService : IpcService := ⟨none, 0, fun _ => 0, fun _ => ipcIndexInvalid, 0, 0, false⟩

/-- `next_generation` -/
def nextGeneration (generation : Nat) : Nat :=
  if generation = 0 ∨ ipcHandleGenerationMax ≤ generation then 1 else generation + 1

/-! ## Handles -/

/-- `encode_handle`, in 32 bits -/
def encodeHandle (slot generation : Nat) : Nat :=
  ((generation <<< ipcHandleSlotBits) ||| slot) % 2 ^ 32

/-- `decode_handle` -/
def decodeHandle (handle : Nat) : Option (Nat × Nat) :=
  let generation := handle >>> ipcHandleSlotBits
  let slot := handle &&& ipcHandleSlotMask
  if handle = ipcHandleInvalid ∨ generation = 0 ∨ ipcHandlesPerProcess ≤ slot then none
  else some (slot, generation)

variable (process : Nat)

/-- `process_identity_valid` -/
def processIdentityValid : Bool :=
  processIsAlive ipc.buffers process && (ipc.buffers.processes process).pid != kernelBootstrapPid

/-- `process_state_initialize`, for a new owner -/
def processStateInitialize (ownerPid : Nat) : IpcProcessState :=
  ⟨ownerPid, fun _ => ⟨1, ipcIndexInvalid, .none, .client, false⟩⟩

/-- `state_for_process`, where `allocated` says whether `kmalloc` yields
memory.  The result is whether the process has a state. -/
def stateForProcess (create allocated : Bool) : Option IpcProcessState × IpcTables :=
  if processIdentityValid ipc process = false then (none, ipc)
  else
    let pid := (ipc.buffers.processes process).pid
    match ipc.states process with
    | some state =>
      if state.ownerPid ≠ pid then
        if ∃ slot < ipcHandlesPerProcess, (state.handles slot).active = true then (none, ipc)
        else
          let rebound := { state with ownerPid := pid }
          (some rebound, { ipc with states := Function.update ipc.states process (some rebound) })
      else (some state, ipc)
    | none =>
      if create = false ∨ allocated = false then (none, ipc)
      else
        let state := processStateInitialize pid
        (some state, { ipc with states := Function.update ipc.states process (some state) })

/-- `find_free_handle` -/
def findFreeHandle (state : IpcProcessState) : Option Nat :=
  (List.range ipcHandlesPerProcess).find? fun slot => !(state.handles slot).active

/-- `install_handle`, for one of the two types -/
def installHandle (state : IpcProcessState) (type : IpcHandleType)
    (objectIndex : Nat) (side : IpcSide) : Option (Nat × IpcTables) :=
  match findFreeHandle state with
  | none => none
  | some slot =>
    let old := (state.handles slot).generation
    let generation := if old = 0 then 1 else old
    some (encodeHandle slot generation,
      ipc.setEntry process slot ⟨generation, objectIndex, type, side, true⟩)

/-- `lookup_handle`.  The result is the slot with the entry. -/
def lookupHandle (process handle : Nat) (expectedType : IpcHandleType) :
    Option (Nat × IpcHandleEntry) × IpcTables :=
  match decodeHandle handle with
  | none => (none, ipc)
  | some (slot, generation) =>
    match stateForProcess ipc process false false with
    | (none, ipc) => (none, ipc)
    | (some state, ipc) =>
      let entry := state.handles slot
      if entry.active = false ∨ entry.generation ≠ generation ∨ entry.type ≠ expectedType then
        (none, ipc)
      else (some (slot, entry), ipc)

/-- `invalidate_handle_entry` -/
def invalidateHandleEntry (process slot : Nat) (entry : IpcHandleEntry) : IpcTables :=
  ipc.setEntry process slot ⟨nextGeneration entry.generation, ipcIndexInvalid, .none, .client, false⟩

/-! ## Finding services and connections -/

variable (service : IpcService) (name : List UInt8)

/-- `same_name` -/
def sameName : Bool :=
  service.active && decide (∀ index < name.length, service.name index = name.getD index 0) &&
    service.name name.length == 0

/-- `find_service` -/
def findService : Option Nat :=
  (List.range ipcGlobalServiceMax).find? fun index => sameName (ipc.services index) name

/-- `find_free_service` -/
def findFreeService : Option Nat :=
  (List.range ipcGlobalServiceMax).find? fun index => !(ipc.services index).active

/-- `find_free_connection` -/
def findFreeConnection : Option Nat :=
  (List.range ipcGlobalConnectionMax).find? fun index => !(ipc.connections index).active

/-- `service_owner_alive` -/
def serviceOwnerAlive : Bool :=
  service.active &&
    match service.owner with
    | none => false
    | some owner => processIsAlive ipc.buffers owner && (ipc.buffers.processes owner).pid == service.ownerPid

namespace IpcConnection

variable (connection : IpcConnection)

/-- `connection_side_open`; the peer of a side is open if the other side is -/
def sideOpen : IpcSide → Bool
  | .client => connection.clientOpen
  | .server => connection.serverOpen

/-- `incoming_queue`; the `peer_incoming_queue` of a side is that of the other -/
def incoming : IpcSide → IpcQueue
  | .client => connection.toClient
  | .server => connection.toServer

def setIncoming (queue : IpcQueue) : IpcSide → IpcConnection
  | .client => { connection with toClient := queue }
  | .server => { connection with toServer := queue }

def closeSide : IpcSide → IpcConnection
  | .client => { connection with clientOpen := false }
  | .server => { connection with serverOpen := false }

end IpcConnection

/-! ## Closing a side -/

/-- `release_message`, apart from clearing the message -/
def releaseMessage (buffers : Buffers) (message : IpcMessage) : Buffers :=
  if message.active = true ∧ userBufferRetainedRefActive buffers message.attachment = true then
    userBufferReleaseRetained buffers message.attachment
  else buffers

/-- The loop of `release_queue`, which runs once for every message. -/
def releaseQueueLoop : (count : Nat) → Buffers → IpcQueue → Buffers × IpcQueue
  | 0, buffers, queue => (buffers, queue)
  | count + 1, buffers, queue =>
    releaseQueueLoop count (releaseMessage buffers (queue.messages queue.head))
      ⟨Function.update queue.messages queue.head clearMessage,
        (queue.head + 1) % ipcMessagesPerDirection, queue.count - 1⟩

/-- `release_queue` -/
def releaseQueue (buffers : Buffers) (queue : IpcQueue) : Buffers × IpcQueue :=
  let released := releaseQueueLoop queue.count buffers queue
  (released.1, { released.2 with head := 0 })

/-- `connection_maybe_destroy` -/
def connectionMaybeDestroy (connection : IpcConnection) : IpcConnection :=
  if connection.active = false ∨ connection.clientOpen = true ∨ connection.serverOpen = true ∨
      connection.toClient.count ≠ 0 ∨ connection.toServer.count ≠ 0 then connection
  else clearConnection

/-- `close_connection_side` -/
def closeConnectionSide (side : IpcSide) : IpcTables :=
  let connection := ipc.connections index
  if connection.active = false ∨ connection.sideOpen side = false then ipc
  else
    let released := releaseQueue ipc.buffers (connection.incoming side)
    let closed := (connection.setIncoming released.2 side).closeSide side
    { ipc with buffers := released.1 }.setConnection index (connectionMaybeDestroy closed)

/-! ## Pending connections -/

/-- `pending_push` -/
def pendingPush (connectionIndex : Nat) : Option IpcService :=
  if ipcPendingPerService ≤ service.pendingCount then none
  else
    some { service with
      pending := Function.update service.pending
        ((service.pendingHead + service.pendingCount) % ipcPendingPerService) connectionIndex
      pendingCount := service.pendingCount + 1 }

/-- `pending_peek` -/
def pendingPeek : Option Nat :=
  if service.pendingCount = 0 then none else some (service.pending service.pendingHead)

/-- `pending_pop` -/
def pendingPop : Option (Nat × IpcService) :=
  match pendingPeek service with
  | none => none
  | some index =>
    some (index, { service with
      pending := Function.update service.pending service.pendingHead ipcIndexInvalid
      pendingHead := (service.pendingHead + 1) % ipcPendingPerService
      pendingCount := service.pendingCount - 1 })

/-- The body of the loop of `unregister_service`. -/
def unregisterPending : IpcTables :=
  match pendingPop (ipc.services index) with
  | none => ipc
  | some (connectionIndex, service) =>
    let ipc := ipc.setService index service
    if connectionIndex < ipcGlobalConnectionMax ∧ (ipc.connections connectionIndex).active = true ∧
        (ipc.connections connectionIndex).serverAccepted = false then
      closeConnectionSide ipc connectionIndex .server
    else ipc

/-- The loop of `unregister_service`, which runs once for every entry. -/
def unregisterLoop : (count : Nat) → IpcTables → (index : Nat) → IpcTables
  | 0, ipc, _ => ipc
  | count + 1, ipc, index => unregisterLoop count (unregisterPending ipc index) index

/-- `unregister_service` -/
def unregisterService : IpcTables :=
  if (ipc.services index).active = false then ipc
  else
    (unregisterLoop (ipc.services index).pendingCount ipc index).setService index clearService

/-! ## Calls -/

/-- The characters of `boring_ipc_service_name_valid` -/
def nameCharacterValid (character : UInt8) : Bool :=
  (97 ≤ character && character ≤ 122) || (48 ≤ character && character ≤ 57) ||
    character == 46 || character == 95 || character == 45

/-- `boring_ipc_service_name_valid` -/
def ipcServiceNameValid : Bool :=
  name.length != 0 && decide (name.length ≤ ipcServiceNameMax) && name.all nameCharacterValid

/-- `boring_ipc_service_register` -/
def ipcServiceRegister (allocated : Bool) : Except IpcError Nat × IpcTables :=
  if processIdentityValid ipc process = false ∨ ipcServiceNameValid name = false then
    (.error .invalid, ipc)
  else if findService ipc name ≠ none then (.error .exists, ipc)
  else
    let found := stateForProcess ipc process true allocated
    let ipc := found.2
    match found.1, findFreeService ipc with
    | some state, some index =>
      if findFreeHandle state = none then (.error .noSpace, ipc)
      else
        let registered := ipc.setService index { clearService with
          owner := some process
          ownerPid := (ipc.buffers.processes process).pid
          name := fun position => name.getD position 0
          active := true }
        match installHandle registered process state .listener index .client with
        | none => (.error .noSpace, registered.setService index clearService)
        | some (handle, ipc) => (.ok handle, ipc)
    | _, _ => (.error .noSpace, ipc)

/-- The connection that `boring_ipc_service_connect` fills in. -/
def newConnection : IpcConnection :=
  { clearConnection with
    clientOwner := some process
    serverOwner := service.owner
    clientPid := (ipc.buffers.processes process).pid
    serverPid := service.ownerPid
    clientOpen := true
    serverOpen := true
    active := true }

/-- Taking back a handle that has just been installed. -/
def rollbackInstall (process handle : Nat) : IpcTables :=
  match lookupHandle ipc process handle .endpoint with
  | (none, ipc) => ipc
  | (some (slot, entry), ipc) => invalidateHandleEntry ipc process slot entry

/-- `boring_ipc_service_connect` -/
def ipcServiceConnect (allocated : Bool) : Except IpcError Nat × IpcTables :=
  if processIdentityValid ipc process = false ∨ ipcServiceNameValid name = false then
    (.error .invalid, ipc)
  else
    match findService ipc name with
    | none => (.error .notFound, ipc)
    | some serviceIndex =>
      let service := ipc.services serviceIndex
      if serviceOwnerAlive ipc service = false then (.error .notFound, ipc)
      else if ipcPendingPerService ≤ service.pendingCount then (.error .noSpace, ipc)
      else
        let found := stateForProcess ipc process true allocated
        let ipc := found.2
        match found.1, findFreeConnection ipc with
        | some state, some index =>
          if findFreeHandle state = none then (.error .noSpace, ipc)
          else
            let connected := ipc.setConnection index (newConnection ipc process service)
            match installHandle connected process state .endpoint index .client with
            | none => (.error .noSpace, connected.setConnection index clearConnection)
            | some (handle, ipc) =>
              match pendingPush service index with
              | some service => (.ok handle, ipc.setService serviceIndex service)
              | none =>
                (.error .noSpace,
                  (rollbackInstall ipc process handle).setConnection index clearConnection)
        | _, _ => (.error .noSpace, ipc)

/-- `boring_ipc_service_accept` -/
def ipcServiceAccept (process listenerHandle : Nat) : Except IpcError Nat × IpcTables :=
  if processIdentityValid ipc process = false then (.error .invalid, ipc)
  else
    let looked := lookupHandle ipc process listenerHandle .listener
    let ipc := looked.2
    match looked.1 with
    | none => (.error .invalid, ipc)
    | some (_, listenerEntry) =>
      let serviceIndex := listenerEntry.objectIndex
      let service := ipc.services serviceIndex
      if ipcGlobalServiceMax ≤ serviceIndex then (.error .invalid, ipc)
      else if serviceOwnerAlive ipc service = false ∨ service.owner ≠ some process ∨
          service.ownerPid ≠ (ipc.buffers.processes process).pid then (.error .invalid, ipc)
      else
        match pendingPeek service with
        | none => (.error .wouldBlock, ipc)
        | some index =>
          let connection := ipc.connections index
          if ipcGlobalConnectionMax ≤ index ∨ connection.active = false ∨
              connection.serverAccepted = true ∨ connection.serverOwner ≠ some process ∨
              connection.serverPid ≠ (ipc.buffers.processes process).pid then
            (.error .internal, ipc)
          else
            let found := stateForProcess ipc process true true
            let ipc := found.2
            match found.1 with
            | none => (.error .noSpace, ipc)
            | some state =>
              match installHandle ipc process state .endpoint index .server with
              | none => (.error .noSpace, ipc)
              | some (handle, ipc) =>
                match pendingPop service with
                | none => (.error .internal, rollbackInstall ipc process handle)
                | some (popped, service) =>
                  let ipc := ipc.setService serviceIndex service
                  if popped ≠ index then
                    (.error .internal, rollbackInstall ipc process handle)
                  else
                    (.ok handle, ipc.setConnection index { connection with serverAccepted := true })

/-- The checks on the endpoint that sending and receiving share: the side of
an active connection that the handle stands for. -/
def openEndpoint (process handle : Nat) : Option (Nat × IpcSide) × IpcTables :=
  let looked := lookupHandle ipc process handle .endpoint
  match looked.1 with
  | none => (none, looked.2)
  | some (_, entry) =>
    let connection := looked.2.connections entry.objectIndex
    if ipcGlobalConnectionMax ≤ entry.objectIndex ∨ connection.active = false ∨
        connection.sideOpen entry.side = false then (none, looked.2)
    else (some (entry.objectIndex, entry.side), looked.2)

/-- The reference that a message of `boring_ipc_send` takes along. -/
def retainAttachment (process bufferHandle : Nat) : Except IpcError (Option Nat) × IpcTables :=
  if bufferHandle = userMemoryHandleInvalid then (.ok none, ipc)
  else
    match userBufferRetain ipc.buffers process bufferHandle with
    | (.ok index, buffers) => (.ok (some index), { ipc with buffers := buffers })
    | (.error .noSpace, buffers) => (.error .noSpace, { ipc with buffers := buffers })
    | (.error _, buffers) => (.error .invalid, { ipc with buffers := buffers })

/-- `boring_ipc_send` -/
def ipcSend (process endpointHandle : Nat) (payload : List UInt8)
    (bufferHandle : Nat) : Except IpcError Unit × IpcTables :=
  if processIdentityValid ipc process = false ∨ ipcInlinePayloadMax < payload.length then
    (.error .invalid, ipc)
  else
    let endpoint := openEndpoint ipc process endpointHandle
    let ipc := endpoint.2
    match endpoint.1 with
    | none => (.error .invalid, ipc)
    | some (index, side) =>
      let connection := ipc.connections index
      let queue := connection.incoming side.peer
      if connection.sideOpen side.peer = false then (.error .peerClosed, ipc)
      else if ipcMessagesPerDirection ≤ queue.count then (.error .noSpace, ipc)
      else
        match retainAttachment ipc process bufferHandle with
        | (.error error, ipc) => (.error error, ipc)
        | (.ok retained, ipc) =>
          let tail := (queue.head + queue.count) % ipcMessagesPerDirection
          if (queue.messages tail).active = true then
            (.error .internal,
              { ipc with buffers := userBufferReleaseRetained ipc.buffers retained })
          else
            let queue :=
              { queue with
                messages := Function.update queue.messages tail ⟨payload, retained, true⟩
                count := queue.count + 1 }
            (.ok (), ipc.setConnection index (connection.setIncoming queue side.peer))

/-- `struct boring_ipc_receive_kernel_result` with the payload -/
structure IpcReceived where
  payload : List UInt8
  bufferHandle : Nat
deriving DecidableEq, Repr

/-- The installation of an attachment by `boring_ipc_receive`. -/
def installAttachment (buffers : Buffers) (process : Nat) (attachment : Option Nat) :
    Except IpcError (Nat × Buffers) :=
  if userBufferRetainedRefActive buffers attachment = false then
    .ok (userMemoryHandleInvalid, buffers)
  else
    match userBufferPrepareInstall buffers process attachment with
    | .error .noSpace => .error .noSpace
    | .error _ => .error .internal
    | .ok (ticket, handle) =>
      match userBufferCommitInstall buffers process attachment ticket with
      | .error _ => .error .internal
      | .ok buffers => .ok (handle, buffers)

/-- `boring_ipc_receive` -/
def ipcReceive (process endpointHandle payloadCapacity : Nat) :
    Except IpcError IpcReceived × IpcTables :=
  if processIdentityValid ipc process = false then (.error .invalid, ipc)
  else
    let endpoint := openEndpoint ipc process endpointHandle
    let ipc := endpoint.2
    match endpoint.1 with
    | none => (.error .invalid, ipc)
    | some (index, side) =>
      let connection := ipc.connections index
      let queue := connection.incoming side
      if queue.count = 0 then
        (.error (if connection.sideOpen side.peer = true then .wouldBlock else .peerClosed), ipc)
      else
        let message := queue.messages queue.head
        if message.active = false then (.error .internal, ipc)
        else if payloadCapacity < message.payload.length then
          (.error (.payloadTooLong message.payload.length), ipc)
        else
          match installAttachment ipc.buffers process message.attachment with
          | .error error => (.error error, ipc)
          | .ok (bufferHandle, buffers) =>
            let queue := (⟨Function.update queue.messages queue.head clearMessage,
              (queue.head + 1) % ipcMessagesPerDirection, queue.count - 1⟩ : IpcQueue)
            (.ok ⟨message.payload, bufferHandle⟩,
              { ipc with buffers := buffers }.setConnection index
                (connectionMaybeDestroy (connection.setIncoming queue side)))

/-- What `boring_ipc_close` and `boring_ipc_process_cleanup` do with an active
entry of the handle table. -/
def closeEntry (process slot : Nat) (entry : IpcHandleEntry) : IpcTables :=
  let closed :=
    match entry.type with
    | .listener =>
      if entry.objectIndex < ipcGlobalServiceMax then unregisterService ipc entry.objectIndex
      else ipc
    | .endpoint =>
      if entry.objectIndex < ipcGlobalConnectionMax then
        closeConnectionSide ipc entry.objectIndex entry.side
      else ipc
    | .none => ipc
  invalidateHandleEntry closed process slot entry

/-- `boring_ipc_close` -/
def ipcClose (process handle : Nat) : Except IpcError Unit × IpcTables :=
  if processIdentityValid ipc process = false then (.error .invalid, ipc)
  else
    match decodeHandle handle with
    | none => (.error .invalid, ipc)
    | some (slot, generation) =>
      match stateForProcess ipc process false false with
      | (none, ipc) => (.error .invalid, ipc)
      | (some state, ipc) =>
        let entry := state.handles slot
        if entry.active = false ∨ entry.generation ≠ generation then (.error .invalid, ipc)
        else if entry.type = .listener ∧ ipcGlobalServiceMax ≤ entry.objectIndex then
          (.error .internal, ipc)
        else if entry.type = .endpoint ∧ ipcGlobalConnectionMax ≤ entry.objectIndex then
          (.error .internal, ipc)
        else if entry.type = .none then (.error .invalid, ipc)
        else (.ok (), closeEntry ipc process slot entry)

/-- The body of the loop of `boring_ipc_process_cleanup`. -/
def cleanupSlot (ipc : IpcTables) (slot : Nat) : IpcTables :=
  match ipc.states process with
  | none => ipc
  | some state =>
    if (state.handles slot).active = false then ipc
    else closeEntry ipc process slot (state.handles slot)

/-- `boring_ipc_process_cleanup` -/
def ipcProcessCleanup : IpcTables :=
  match stateForProcess ipc process false false with
  | (none, ipc) => ipc
  | (some _, ipc) =>
    let ipc := (List.range ipcHandlesPerProcess).foldl (cleanupSlot process) ipc
    { ipc with states := Function.update ipc.states process none }

end BoringOS.Ipc
