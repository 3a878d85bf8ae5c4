import BoringOS.Library.Run
import BoringOS.Ipc.MessageCalls

namespace BoringOS.Ipc

open Library

/-!
# Every interleaving of calls

The calls of all processes form one sequence, in the order in which the kernel
executes them.  Processes come and go between the calls, with or without a
cleanup, and they create, map and close buffers of their own.
-/

/-- A call of some process, or a step in its life. -/
inductive IpcCall where
  | processCreate (process pid : Nat)
  | processMarkFinished (process : Nat)
  | bufferCreate (process : Nat) (allocated : Bool)
  | bufferMap (process handle : Nat) (mapped : Option Nat)
  | bufferUnmap (process base : Nat) (unmapped : Bool)
  | bufferClose (process handle : Nat)
  | register (process : Nat) (name : List UInt8) (allocated : Bool)
  | connect (process : Nat) (name : List UInt8) (allocated : Bool)
  | accept (process listenerHandle : Nat)
  | send (process endpointHandle : Nat) (payload : List UInt8) (bufferHandle : Nat)
  | receive (process endpointHandle payloadCapacity : Nat)
  | close (process handle : Nat)
  | cleanup (process : Nat)
deriving DecidableEq, Repr

variable (ipc : IpcTables)

def ipcStep : IpcCall → IpcTables
  | .processCreate process pid => { ipc with buffers := processCreate ipc.buffers process pid }
  | .processMarkFinished process =>
    { ipc with buffers := processMarkFinished ipc.buffers process }
  | .bufferCreate process allocated =>
    { ipc with buffers := (userBufferCreate ipc.buffers process allocated).2 }
  | .bufferMap process handle mapped =>
    { ipc with buffers := (userBufferMap ipc.buffers process handle mapped).2 }
  | .bufferUnmap process base unmapped =>
    { ipc with buffers := (userBufferUnmap ipc.buffers process base unmapped).2 }
  | .bufferClose process handle =>
    { ipc with buffers := (userBufferClose ipc.buffers process handle).2 }
  | .register process name allocated => (ipcServiceRegister ipc process name allocated).2
  | .connect process name allocated => (ipcServiceConnect ipc process name allocated).2
  | .accept process listenerHandle => (ipcServiceAccept ipc process listenerHandle).2
  | .send process endpointHandle payload bufferHandle =>
    (ipcSend ipc process endpointHandle payload bufferHandle).2
  | .receive process endpointHandle payloadCapacity =>
    (ipcReceive ipc process endpointHandle payloadCapacity).2
  | .close process handle => (ipcClose ipc process handle).2
  | .cleanup process => ipcProcessCleanup ipc process

/-- After `boring_ipc_system_init`: only the bootstrap process lives, at
address zero here, and all tables are clear. -/
def ipcInitial : IpcTables where
  buffers :=
    { processes := fun process =>
        ⟨process == 0, kernelBootstrapPid, false, userMemoryProcessStateInit⟩
      objects := fun _ => objectClear }
  states := fun _ => none
  connections := fun _ => clearConnection
  services := fun _ => clearService

theorem ipcInitial_invariant : IpcInvariant ipcInitial := by
  have noEndpoint : ∀ target, ¬ EndpointOpen ipcInitial target := by
    rintro target ⟨-, impossible, -⟩
    cases impossible
  have noService : ∀ service, ¬ ServiceOpen ipcInitial service := by
    rintro service ⟨-, impossible⟩
    cases impossible
  have noRefers : ∀ reference target, ¬ EndpointRefers ipcInitial reference target := by
    intro reference target
    cases reference with
    | handle owner slot =>
      rintro ⟨-, ⟨⟩, -⟩
    | pending service =>
      rintro ⟨-, ⟨⟩, -⟩
  have noListener : ∀ reference service, ¬ ListenerRefers ipcInitial reference service := by
    rintro reference service ⟨entry, impossible, -⟩
    cases impossible
  constructor
  case endpoints =>
    exact ⟨fun target isOpen => absurd isOpen (noEndpoint target),
      fun reference target refers => absurd refers (noRefers reference target),
      fun reference _ target refers => absurd refers (noRefers reference target)⟩
  case listeners =>
    exact ⟨fun service isOpen => absurd isOpen (noService service),
      fun reference service refers => absurd refers (noListener reference service),
      fun reference _ service refers => absurd refers (noListener reference service)⟩
  case accepted =>
    exact fun _ _ refers => absurd refers (noRefers _ _)
  case connections => exact fun _ _ => connectionSound_clear
  case services => exact fun _ _ => serviceSound_clear
  case names =>
    exact fun _ _ isOpen => absurd isOpen (noService _)
  case buffers =>
    refine ⟨fun index => ?_, ?_, fun process _ => ?_⟩
    · have none' : references ipcInitial.buffers index = 0 := by
        have noObject : objectAt ipcInitial.buffers index = none :=
          if_pos (Or.inr (rfl : (ipcInitial.buffers.objects index).active = false))
        rw [references, noObject]
      rw [none']
      refine Counted.none fun holder => ?_
      cases holder with
      | handle process slot =>
        rintro ⟨-, ⟨⟩, -⟩
      | mapping process slot =>
        rintro ⟨-, ⟨⟩, -⟩
      | other holder =>
        rcases holder with ⟨connection, side, position⟩
        rintro ⟨-, -, impossible⟩
        cases side <;> cases impossible
    · exact fun _ _ _ => ⟨Nat.one_pos, (by decide : 1 ≤ userMemoryHandleGenerationMax)⟩
    rfl

theorem IpcInvariant.with_buffers {ipc : IpcTables} (invariant : IpcInvariant ipc)
    {buffers : Buffers} (sound : BuffersSound buffers (MessageHolds ipc.connections)) :
    IpcInvariant { ipc with buffers := buffers } :=
  { invariant with buffers := sound }

/-- The payload of a message and the object that is attached to it. -/
abbrev Parcel := List UInt8 × Option Nat

def IpcMessage.parcel (message : IpcMessage) : Parcel := (message.payload, message.attachment)

/-- What a successful send puts into a queue, with the connection and the
receiving side. -/
def sentBy : IpcCall → Option ((Nat × IpcSide) × Parcel)
  | .send process endpointHandle payload bufferHandle =>
    match (ipcSend ipc process endpointHandle payload bufferHandle).1,
        (openEndpoint ipc process endpointHandle).1 with
    | .ok (), some (index, side) =>
      some ((index, side.peer), (payload, attachedBuffer ipc.buffers process bufferHandle))
    | _, _ => none
  | _ => none

/-- What a successful receive hands to its caller, with the connection and
his side. -/
def receivedBy : IpcCall → Option ((Nat × IpcSide) × Parcel)
  | .receive process endpointHandle payloadCapacity =>
    match ipcReceive ipc process endpointHandle payloadCapacity,
        (openEndpoint ipc process endpointHandle).1 with
    | (.ok received, next), some (index, side) =>
      some ((index, side), (received.payload, attachedBuffer next.buffers process received.bufferHandle))
    | _, _ => none
  | _ => none

/-- The four ways in which a call can treat the queues of the open sides. -/
inductive QueueEffect (ipc : IpcTables) (call : IpcCall) (next : IpcTables) : Prop where
  | kept (noSend : sentBy ipc call = none) (noReceive : receivedBy ipc call = none)
      (kept : QueuesKept ipc next)
  | connected (noSend : sentBy ipc call = none) (noReceive : receivedBy ipc call = none)
      (index : Nat) (connected : Connected ipc next index)
  | sent (target : Nat × IpcSide) (message : IpcMessage)
      (isSend : sentBy ipc call = some (target, message.parcel))
      (noReceive : receivedBy ipc call = none) (sent : Sent ipc next target.1 target.2 message)
  | received (target : Nat × IpcSide) (message : IpcMessage)
      (noSend : sentBy ipc call = none)
      (isReceive : receivedBy ipc call = some (target, message.parcel))
      (received : Received ipc next target.1 target.2 message)

theorem ipcStep_effect {ipc : IpcTables} (call : IpcCall) (invariant : IpcInvariant ipc) :
    IpcInvariant (ipcStep ipc call) ∧ QueueEffect ipc call (ipcStep ipc call) := by
  have sound := invariant.buffers
  have onBuffers : ∀ buffers, BuffersSound buffers (MessageHolds ipc.connections) →
      IpcInvariant { ipc with buffers := buffers } ∧
        QueuesKept ipc { ipc with buffers := buffers } :=
    fun buffers kept => ⟨invariant.with_buffers kept, QueuesKept.of_connections rfl⟩
  have plain : ∀ next, sentBy ipc call = none → receivedBy ipc call = none →
      IpcInvariant next ∧ QueuesKept ipc next → IpcInvariant next ∧ QueueEffect ipc call next :=
    fun next noSend noReceive kept => ⟨kept.1, .kept noSend noReceive kept.2⟩
  cases call with
  | processCreate process pid =>
    exact plain _ rfl rfl (onBuffers _ (processCreate_sound sound process pid))
  | processMarkFinished process =>
    exact plain _ rfl rfl (onBuffers _ (processMarkFinished_sound sound process))
  | bufferCreate process allocated =>
    exact plain _ rfl rfl (onBuffers _ (userBufferCreate_sound sound process allocated))
  | bufferMap process handle mapped =>
    exact plain _ rfl rfl (onBuffers _ (userBufferMap_sound sound process handle mapped))
  | bufferUnmap process base unmapped =>
    exact plain _ rfl rfl (onBuffers _ (userBufferUnmap_sound sound process base unmapped))
  | bufferClose process handle =>
    exact plain _ rfl rfl (onBuffers _ (userBufferClose_sound sound process handle))
  | register process name allocated =>
    exact plain _ rfl rfl (ipcServiceRegister_spec invariant process name allocated)
  | connect process name allocated =>
    rcases ipcServiceConnect_spec invariant process name allocated with
      ⟨kept, queues | ⟨index, connected⟩⟩
    · exact ⟨kept, .kept rfl rfl queues⟩
    · exact ⟨kept, .connected rfl rfl index connected⟩
  | accept process listenerHandle =>
    exact plain _ rfl rfl (ipcServiceAccept_spec invariant process listenerHandle)
  | send process endpointHandle payload bufferHandle =>
    rcases ipcSend_cases invariant process endpointHandle payload bufferHandle with
      ⟨error, next, result, same⟩ | ⟨next, index, side, result, kept, isOpen, sent, -⟩
    · rw [ipcStep, result]
      exact plain _ (by rw [sentBy, result]) rfl
        ⟨invariant.of_same same, QueuesKept.of_connections same.connections⟩
    · rw [ipcStep, result]
      exact ⟨kept, .sent (index, side.peer) _ (by rw [sentBy, result, isOpen]; rfl) rfl sent⟩
  | receive process endpointHandle payloadCapacity =>
    rcases ipcReceive_cases invariant process endpointHandle payloadCapacity with
      ⟨error, next, result, same, -⟩ |
        ⟨received, next, index, side, message, result, kept, isOpen, taken, payload, attachment, -⟩
    · rw [ipcStep, result]
      exact ⟨invariant.of_same same, .kept rfl (by rw [receivedBy, result])
        (QueuesKept.of_connections same.connections)⟩
    · rw [ipcStep, result]
      refine ⟨kept, .received (index, side) message rfl ?_ taken⟩
      simp_all [IpcMessage.parcel, receivedBy]
  | close process handle => exact plain _ rfl rfl (ipcClose_spec invariant process handle)
  | cleanup process => exact plain _ rfl rfl (ipcProcessCleanup_spec invariant process)

theorem ipcStep_invariant (call : IpcCall) (invariant : IpcInvariant ipc) :
    IpcInvariant (ipcStep ipc call) :=
  (ipcStep_effect call invariant).1

/-- A place in the list of a service that names a connection. -/
def PendingAt (place : Nat × Nat) (index : Nat) : Prop :=
  ServiceOpen ipc place.1 ∧ (pendingContents (ipc.services place.1))[place.2]? = some index

/-- A live handle of some process for a side of a connection. -/
def HandleAt (place : Nat × Nat) (target : Nat × IpcSide) : Prop :=
  EndpointRefers ipc (.handle place.1 place.2) target

structure IpcConsistent (ipc : IpcTables) : Prop where
  /-- An open side has one handle, or it waits in one place. -/
  referenced : ∀ index side, EndpointOpen ipc (index, side) →
    (∃! place, HandleAt ipc place (index, side)) ∧
        (side = .server → ∀ place, ¬ PendingAt ipc place index) ∨
      side = .server ∧ (∃! place, PendingAt ipc place index) ∧
        ∀ place, ¬ HandleAt ipc place (index, side)
  /-- Handles and pending entries stand for open sides. -/
  live : ∀ place target, HandleAt ipc place target → EndpointOpen ipc target
  waiting : ∀ place index, PendingAt ipc place index → EndpointOpen ipc (index, .server)
  closedEmpty : ∀ index < ipcGlobalConnectionMax, ∀ side,
    (ipc.connections index).sideOpen side = false →
      ((ipc.connections index).incoming side).count = 0
  someOpen : ∀ index < ipcGlobalConnectionMax, (ipc.connections index).active = true →
    ∃ side, (ipc.connections index).sideOpen side = true
  notReused : ∀ place index, PendingAt ipc place index → findFreeConnection ipc ≠ some index
  names : ∀ first second, ServiceOpen ipc first → ServiceOpen ipc second →
    (ipc.services first).name = (ipc.services second).name → first = second
  /-- A retained object is one of a queued message. -/
  queued : ∀ index < ipcGlobalConnectionMax, ∀ side, ∀ position < ipcMessagesPerDirection,
    ∀ object, (((ipc.connections index).incoming side).messages position).attachment =
        some object →
      ((ipc.connections index).incoming side).messages position ∈
          queueContents ((ipc.connections index).incoming side) ∧
        (objectAt ipc.buffers object).isSome = true
  /-- The references to an object are those of handles, mappings and queued
  messages. -/
  counted : ∀ index, Counted (fun holder => Holds ipc.buffers (MessageHolds ipc.connections)
    holder index) (references ipc.buffers index)

theorem pendingAt_refers {ipc : IpcTables} {place : Nat × Nat} {index : Nat}
    (pending : PendingAt ipc place index) :
    EndpointRefers ipc (.pending place.1) (index, .server) :=
  ⟨pending.1.1, pending.1.2, rfl, List.mem_of_getElem? pending.2⟩

theorem IpcInvariant.consistent {ipc : IpcTables} (invariant : IpcInvariant ipc) :
    IpcConsistent ipc := by
  have endpoints := invariant.endpoints
  constructor
  case referenced =>
    intro index side isOpen
    rcases endpoints.total _ isOpen with ⟨reference, refers⟩
    cases reference with
    | handle owner slot =>
      refine Or.inl ⟨⟨(owner, slot), refers, ?_⟩, ?_⟩
      · rintro ⟨otherOwner, otherSlot⟩ other
        have same := endpoints.unique _ _ _ other refers
        cases same
        rfl
      · rintro rfl place pending
        have same := endpoints.unique _ _ _ (pendingAt_refers pending) refers
        cases same
    | pending service =>
      rcases refers with ⟨inside, active, isServer, member⟩
      subst isServer
      have refers : EndpointRefers ipc (.pending service) (index, .server) :=
        ⟨inside, active, rfl, member⟩
      rcases List.mem_iff_getElem?.mp member with ⟨position, isAt⟩
      refine Or.inr ⟨rfl, ⟨(service, position), ⟨⟨inside, active⟩, isAt⟩, ?_⟩, ?_⟩
      · rintro ⟨other, otherPosition⟩ pending
        have same := endpoints.unique _ _ _ (pendingAt_refers pending) refers
        simp only [Referee.pending.injEq] at same
        subst same
        have nodup := (invariant.services other inside).nodup
        rcases List.getElem?_eq_some_iff.mp isAt with ⟨below, -⟩
        have samePosition := (List.getElem?_inj below nodup).mp (isAt.trans pending.2.symm)
        rw [samePosition]
      · intro place handle
        have same := endpoints.unique _ _ _ handle refers
        cases same
  case live => exact fun place target handle => endpoints.sound _ _ handle
  case waiting =>
    intro place index pending
    exact endpoints.sound _ _ (pendingAt_refers pending)
  case closedEmpty => exact fun index inside => (invariant.connections index inside).closed
  case someOpen => exact fun index inside => (invariant.connections index inside).opened.mp
  case notReused =>
    intro place index pending isFree
    have isOpen := endpoints.sound _ _ (pendingAt_refers pending)
    have free := (findFreeConnection_eq_some isFree).2
    rw [isOpen.2.1] at free
    cases free
  case names => exact invariant.names
  case queued =>
    intro index inside side position inQueue object attached
    have sound := (invariant.connections index inside).queues side
    constructor
    · apply (mem_ringContents _ _ sound.headInside).mpr
      refine ⟨position, ?_, rfl⟩
      rw [← sound.window position inQueue]
      by_contra inactive
      rw [sound.cleared position inQueue (Bool.eq_false_iff.mpr inactive)] at attached
      cases attached
    · have holds : Holds ipc.buffers (MessageHolds ipc.connections)
          (.other (index, side, position)) object := ⟨inside, inQueue, attached⟩
      rcases objectAt_of_references (invariant.buffers.positive holds) with ⟨value, found, -⟩
      rw [found]
      rfl
  case counted => exact invariant.buffers.counted

/-- After every sequence of calls the four tables agree. -/
theorem ipc_runs_consistent (calls : List IpcCall) : IpcConsistent (run ipcStep ipcInitial calls) :=
  (run_invariant ipcStep_invariant calls _ ipcInitial_invariant).consistent

end BoringOS.Ipc
