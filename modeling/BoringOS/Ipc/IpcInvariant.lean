import BoringOS.Ipc.BufferCalls
import BoringOS.Ipc.Endpoints

namespace BoringOS.Ipc

open Library

/-!
# What holds between two calls

An open side of a connection is reached in exactly one way: through a handle
of some process, or, before it is accepted, through the list of pending
connections of a service.  A service is reached through exactly one handle of
its owner.  The messages of a queue are the others that hold references to
buffers.  These three facts and the shape of the rings are the invariant.
-/

variable (ipc : IpcTables)

/-- The active entry of a handle table. -/
def IpcTables.handle? (owner slot : Nat) : Option IpcHandleEntry :=
  match ipc.states owner with
  | none => none
  | some state =>
    if slot < ipcHandlesPerProcess ∧ (state.handles slot).active = true then
      some (state.handles slot)
    else none

/-- The connections that wait to be accepted, oldest first. -/
def pendingContents (service : IpcService) : List Nat :=
  ringContents service.pending ipcPendingPerService service.pendingHead service.pendingCount

/-- The messages that wait to be received, oldest first. -/
def queueContents (queue : IpcQueue) : List IpcMessage :=
  ringContents queue.messages ipcMessagesPerDirection queue.head queue.count

/-- How a side of a connection is reached. -/
inductive Referee where
  | handle (owner slot : Nat)
  | pending (service : Nat)
deriving DecidableEq

def EndpointOpen (target : Nat × IpcSide) : Prop :=
  target.1 < ipcGlobalConnectionMax ∧ (ipc.connections target.1).active = true ∧
    (ipc.connections target.1).sideOpen target.2 = true

def EndpointRefers : Referee → Nat × IpcSide → Prop
  | .handle owner slot, target =>
    ∃ entry, ipc.handle? owner slot = some entry ∧ entry.type = .endpoint ∧
      (entry.objectIndex, entry.side) = target
  | .pending service, target =>
    service < ipcGlobalServiceMax ∧ (ipc.services service).active = true ∧
      target.2 = .server ∧ target.1 ∈ pendingContents (ipc.services service)

def ServiceOpen (service : Nat) : Prop :=
  service < ipcGlobalServiceMax ∧ (ipc.services service).active = true

def ListenerRefers (reference : Nat × Nat) (service : Nat) : Prop :=
  ∃ entry, ipc.handle? reference.1 reference.2 = some entry ∧ entry.type = .listener ∧
    entry.objectIndex = service

/-- A message that retains a buffer, by connection, receiving side and
position in the queue. -/
abbrev MessageHolder := Nat × IpcSide × Nat

def MessageHolds (connections : Nat → IpcConnection) (holder : MessageHolder) (object : Nat) :
    Prop :=
  holder.1 < ipcGlobalConnectionMax ∧ holder.2.2 < ipcMessagesPerDirection ∧
    (((connections holder.1).incoming holder.2.1).messages holder.2.2).attachment = some object

structure QueueSound (queue : IpcQueue) : Prop where
  headInside : queue.head < ipcMessagesPerDirection
  countInside : queue.count ≤ ipcMessagesPerDirection
  window : ∀ position < ipcMessagesPerDirection, (queue.messages position).active = true ↔
    InRing ipcMessagesPerDirection queue.head queue.count position
  cleared : ∀ position < ipcMessagesPerDirection, (queue.messages position).active = false →
    (queue.messages position).attachment = none

structure ConnectionSound (connection : IpcConnection) : Prop where
  queues : ∀ side, QueueSound (connection.incoming side)
  closed : ∀ side, connection.sideOpen side = false → (connection.incoming side).count = 0
  opened : connection.active = true ↔ ∃ side, connection.sideOpen side = true

structure ServiceSound (service : IpcService) : Prop where
  headInside : service.pendingHead < ipcPendingPerService
  countInside : service.pendingCount ≤ ipcPendingPerService
  idle : service.active = false → service.pendingCount = 0
  nodup : (pendingContents service).Nodup
  named : service.active = true → ∃ name, ipcServiceNameValid name = true ∧
    service.name = fun position => name.getD position 0

structure IpcInvariant (ipc : IpcTables) : Prop where
  endpoints : UniquelyReferenced (EndpointOpen ipc) (EndpointRefers ipc)
  listeners : UniquelyReferenced (ServiceOpen ipc) (ListenerRefers ipc)
  accepted : ∀ reference index, EndpointRefers ipc reference (index, .server) →
    ((ipc.connections index).serverAccepted = true ↔ ∃ owner slot, reference = .handle owner slot)
  connections : ∀ index < ipcGlobalConnectionMax, ConnectionSound (ipc.connections index)
  services : ∀ index < ipcGlobalServiceMax, ServiceSound (ipc.services index)
  names : ∀ first second, ServiceOpen ipc first → ServiceOpen ipc second →
    (ipc.services first).name = (ipc.services second).name → first = second
  buffers : BuffersSound ipc.buffers (MessageHolds ipc.connections)

/-- Apart from some sides, no side has been opened, and the queues of the open
sides are as before. -/
def QueuesKeptBut (skipped : Nat → IpcSide → Prop) (ipc next : IpcTables) : Prop :=
  ∀ index side, ¬ skipped index side → EndpointOpen next (index, side) → EndpointOpen ipc (index, side) ∧
      (next.connections index).incoming side = (ipc.connections index).incoming side

/-- No side has been opened, and the queues of the open sides are as before. -/
def QueuesKept (ipc next : IpcTables) : Prop :=
  ∀ index side, EndpointOpen next (index, side) → EndpointOpen ipc (index, side) ∧
    (next.connections index).incoming side = (ipc.connections index).incoming side

theorem QueuesKept.refl : QueuesKept ipc ipc := fun _ _ isOpen => ⟨isOpen, rfl⟩

theorem QueuesKept.trans {ipc middle next : IpcTables} (first : QueuesKept ipc middle)
    (second : QueuesKept middle next) : QueuesKept ipc next := by
  intro index side isOpen
  rcases second index side isOpen with ⟨between, same⟩
  rcases first index side between with ⟨before, same'⟩
  exact ⟨before, same.trans same'⟩

theorem QueuesKept.before {skipped : Nat → IpcSide → Prop} {ipc middle next : IpcTables}
    (first : QueuesKept ipc middle) (second : QueuesKeptBut skipped middle next) :
    QueuesKeptBut skipped ipc next := by
  intro index side notSkipped isOpen
  rcases second index side notSkipped isOpen with ⟨between, same⟩
  rcases first index side between with ⟨before, same'⟩
  exact ⟨before, same.trans same'⟩

theorem QueuesKept.of_connections {ipc next : IpcTables}
    (same : next.connections = ipc.connections) : QueuesKept ipc next := by
  intro index side isOpen
  simp only [EndpointOpen, same, and_true] at isOpen ⊢
  exact isOpen

/-- The tables are the same, apart from empty registered states. -/
structure SameTables (ipc next : IpcTables) : Prop where
  buffers : next.buffers = ipc.buffers
  connections : next.connections = ipc.connections
  services : next.services = ipc.services
  handles : ∀ owner slot, next.handle? owner slot = ipc.handle? owner slot

theorem SameTables.refl : SameTables ipc ipc := ⟨rfl, rfl, rfl, fun _ _ => rfl⟩

theorem SameTables.trans {ipc middle next : IpcTables} (first : SameTables ipc middle)
    (second : SameTables middle next) : SameTables ipc next :=
  ⟨second.buffers.trans first.buffers, second.connections.trans first.connections,
    second.services.trans first.services,
    fun owner slot => (second.handles owner slot).trans (first.handles owner slot)⟩

theorem SameTables.endpointOpen {ipc next : IpcTables} (same : SameTables ipc next)
    (target : Nat × IpcSide) : EndpointOpen next target ↔ EndpointOpen ipc target := by
  rw [EndpointOpen, EndpointOpen, same.connections]

theorem SameTables.endpointRefers {ipc next : IpcTables} (same : SameTables ipc next)
    (reference : Referee) (target : Nat × IpcSide) :
    EndpointRefers next reference target ↔ EndpointRefers ipc reference target := by
  cases reference <;> simp only [EndpointRefers, same.handles, same.services]

theorem IpcInvariant.of_same {ipc next : IpcTables} (invariant : IpcInvariant ipc)
    (same : SameTables ipc next) : IpcInvariant next := by
  have services : ∀ service, ServiceOpen next service ↔ ServiceOpen ipc service := by
    intro service
    rw [ServiceOpen, ServiceOpen, same.services]
  constructor
  case endpoints => exact invariant.endpoints.congr same.endpointOpen same.endpointRefers
  case listeners =>
    refine invariant.listeners.congr services fun reference service => ?_
    simp only [ListenerRefers, same.handles]
  case accepted =>
    intro reference index refers
    rw [same.connections]
    exact invariant.accepted reference index ((same.endpointRefers _ _).mp refers)
  case connections =>
    rw [same.connections]
    exact invariant.connections
  case services =>
    rw [same.services]
    exact invariant.services
  case names =>
    intro first second firstOpen secondOpen
    rw [same.services]
    exact invariant.names first second ((services first).mp firstOpen) ((services second).mp secondOpen)
  case buffers =>
    rw [same.buffers, same.connections]
    exact invariant.buffers

theorem handle?_eq_some {ipc : IpcTables} {owner slot : Nat} {entry : IpcHandleEntry} :
    ipc.handle? owner slot = some entry ↔
      ∃ state, ipc.states owner = some state ∧ slot < ipcHandlesPerProcess ∧
        state.handles slot = entry ∧ entry.active = true := by
  rw [IpcTables.handle?]
  cases found : ipc.states owner with
  | none => simp
  | some state =>
    grind

variable {state : IpcProcessState}

/-- Writing an entry concerns this entry alone. -/
theorem handle?_setEntry {ipc : IpcTables} {owner slot : Nat}
    (registered : ipc.states owner = some state) (inside : slot < ipcHandlesPerProcess)
    (entry : IpcHandleEntry) (other position : Nat) :
    (ipc.setEntry owner slot entry).handle? other position =
      if other = owner ∧ position = slot then (if entry.active = true then some entry else none)
      else ipc.handle? other position := by
  simp only [IpcTables.handle?, IpcTables.setEntry, Function.update_apply]
  by_cases same : other = owner
  · grind
  · simp only [same, false_and, if_false]

/-- Finding or making the state of a process changes nothing that counts. -/
theorem stateForProcess_cases (process : Nat) (create allocated : Bool) :
    ∃ found next, stateForProcess ipc process create allocated = (found, next) ∧
      SameTables ipc next ∧ ∀ state, found = some state → next.states process = some state := by
  rw [stateForProcess]
  split
  · simp [SameTables.refl]
  cases registered : ipc.states process with
  | none =>
    simp only
    split
    · simp [SameTables.refl]
    refine ⟨_, _, rfl, ⟨rfl, rfl, rfl, fun owner slot => ?_⟩, fun state isState => ?_⟩
    · simp only [IpcTables.handle?, Function.update_apply]
      by_cases same : owner = process
      · subst same
        simp [registered, processStateInitialize]
      · simp only [if_neg same]
    simp [*]
  | some state =>
    simp only
    split
    · split
      · simp [SameTables.refl]
      · refine ⟨_, _, rfl, ⟨rfl, rfl, rfl, fun owner slot => ?_⟩, fun state isState => ?_⟩
        · simp only [IpcTables.handle?, Function.update_apply]
          grind
        simp [*]
    simp_all [SameTables.refl]

theorem lookupHandle_cases (process handle : Nat) (expectedType : IpcHandleType) :
    ∃ found next, lookupHandle ipc process handle expectedType = (found, next) ∧
      SameTables ipc next ∧ ∀ slot entry, found = some (slot, entry) →
        next.handle? process slot = some entry ∧ entry.type = expectedType := by
  rw [lookupHandle]
  cases decoded : decodeHandle handle with
  | none => simp [SameTables.refl]
  | some parts =>
    rcases stateForProcess_cases ipc process false false with ⟨found, next, result, same, registered⟩
    simp only [result]
    cases found with
    | none => simp [*]
    | some state =>
      simp only
      split
      · simp [*]
      rename_i valid
      simp only [not_or, Bool.not_eq_false, not_not] at valid
      refine ⟨_, next, rfl, same, fun slot entry isFound => ?_⟩
      cases isFound
      have inside : parts.1 < ipcHandlesPerProcess := by
        simp only [decodeHandle] at decoded
        split at decoded
        · cases decoded
        · grind
      exact ⟨handle?_eq_some.mpr ⟨state, registered state rfl, inside, rfl, valid.1⟩, valid.2.2⟩

theorem findFreeHandle_eq_some {slot : Nat} (found : findFreeHandle state = some slot) :
    slot < ipcHandlesPerProcess ∧ (state.handles slot).active = false := by
  simp_all [findFreeHandle, List.mem_range]

theorem installHandle_spec {ipc : IpcTables} {process : Nat}
    (registered : ipc.states process = some state) (room : findFreeHandle state ≠ none)
    (type : IpcHandleType) (objectIndex : Nat) (side : IpcSide) :
    ∃ handle slot entry, installHandle ipc process state type objectIndex side =
        some (handle, ipc.setEntry process slot entry) ∧
      ipc.handle? process slot = none ∧ entry.type = type ∧ entry.objectIndex = objectIndex ∧
      entry.side = side ∧
      ∀ owner position, (ipc.setEntry process slot entry).handle? owner position =
        if owner = process ∧ position = slot then some entry else ipc.handle? owner position := by
  rw [installHandle]
  cases free : findFreeHandle state with
  | none => exact absurd free room
  | some slot =>
    rcases findFreeHandle_eq_some free with ⟨inside, inactive⟩
    refine ⟨_, slot, _, rfl, ?_, rfl, rfl, rfl, fun owner position => ?_⟩
    · rw [IpcTables.handle?, registered]
      simp [inactive]
    · rw [handle?_setEntry registered inside]
      rfl

theorem handle?_invalidate {ipc : IpcTables} {process slot : Nat} {entry : IpcHandleEntry}
    (active : ipc.handle? process slot = some entry) (owner position : Nat) :
    (invalidateHandleEntry ipc process slot entry).handle? owner position =
      if owner = process ∧ position = slot then none else ipc.handle? owner position := by
  rcases handle?_eq_some.mp active with ⟨state, registered, inside, -, -⟩
  rw [invalidateHandleEntry, handle?_setEntry registered inside]
  rfl

end BoringOS.Ipc
