import BoringOS.Ipc.IpcInvariant

namespace BoringOS.Ipc

open Library

/-!
# Closing

Closing a side releases the messages that wait for it, one after the other,
and destroys the connection when the other side is closed already.  The same
step is taken for a handle that is closed and for a pending connection whose
service disappears, and in both cases the reference to the side goes away with
it.
-/

namespace IpcConnection

variable (connection : IpcConnection)

variable (queue : IpcQueue) (side other : IpcSide)

theorem incoming_setIncoming :
    (connection.setIncoming queue side).incoming other =
      if other = side then queue else connection.incoming other := by
  cases side <;> cases other <;> rfl

theorem sideOpen_setIncoming :
    (connection.setIncoming queue side).sideOpen other = connection.sideOpen other := by
  cases side <;> cases other <;> rfl

theorem active_setIncoming (side : IpcSide) :
    (connection.setIncoming queue side).active = connection.active := by
  cases side <;> rfl

theorem serverAccepted_setIncoming (side : IpcSide) :
    (connection.setIncoming queue side).serverAccepted = connection.serverAccepted := by
  cases side <;> rfl

theorem incoming_closeSide :
    (connection.closeSide side).incoming other = connection.incoming other := by
  cases side <;> cases other <;> rfl

theorem sideOpen_closeSide :
    (connection.closeSide side).sideOpen other =
      if other = side then false else connection.sideOpen other := by
  cases side <;> cases other <;> rfl

theorem active_closeSide (side : IpcSide) :
    (connection.closeSide side).active = connection.active := by
  cases side <;> rfl

theorem serverAccepted_closeSide (side : IpcSide) :
    (connection.closeSide side).serverAccepted = connection.serverAccepted := by
  cases side <;> rfl

end IpcConnection

/-- A table of connections with one queue replaced. -/
def withQueue (connections : Nat → IpcConnection) (index : Nat) (side : IpcSide)
    (queue : IpcQueue) : Nat → IpcConnection :=
  Function.update connections index ((connections index).setIncoming queue side)

theorem incoming_withQueue (connections : Nat → IpcConnection) (index other : Nat)
    (side otherSide : IpcSide) (queue : IpcQueue) :
    (withQueue connections index side queue other).incoming otherSide =
      if other = index ∧ otherSide = side then queue
      else (connections other).incoming otherSide := by
  rw [withQueue, Function.update_apply]
  by_cases same : other = index
  · rw [if_pos same, IpcConnection.incoming_setIncoming]
    simp only [same, true_and]
  · simp only [same, false_and, if_false]

/-- Whose messages hold references depends on the attachments only. -/
theorem messageHolds_congr {connections next : Nat → IpcConnection}
    (same : ∀ index < ipcGlobalConnectionMax, ∀ side, ∀ position < ipcMessagesPerDirection,
      (((next index).incoming side).messages position).attachment =
        (((connections index).incoming side).messages position).attachment)
    (holder : MessageHolder) (object : Nat) :
    MessageHolds next holder object ↔ MessageHolds connections holder object := by
  simp_all [MessageHolds]

theorem QueueSound.empty_inactive {queue : IpcQueue} (sound : QueueSound queue)
    (empty : queue.count = 0) {position : Nat} (inside : position < ipcMessagesPerDirection) :
    (queue.messages position).active = false := by
  apply Bool.eq_false_iff.mpr
  intro active
  have used := (sound.window position inside).mp active
  rw [empty] at used
  exact not_inRing_zero _ _ _ used

/-- The oldest message of a queue is taken off. -/
def popQueue (queue : IpcQueue) : IpcQueue :=
  ⟨Function.update queue.messages queue.head clearMessage,
    (queue.head + 1) % ipcMessagesPerDirection, queue.count - 1⟩

theorem QueueSound.pop {queue : IpcQueue} (sound : QueueSound queue) (some' : queue.count ≠ 0) :
    QueueSound (popQueue queue) := by
  rcases Nat.exists_eq_succ_of_ne_zero some' with ⟨count, isCount⟩
  have room : count < ipcMessagesPerDirection := by
    have bound := sound.countInside
    omega
  have rest : queue.count - 1 = count := by omega
  refine ⟨Nat.mod_lt _ (by decide), ?_, fun position inside => ?_, fun position inside => ?_⟩
  · simp only [popQueue]
    omega
  · simp only [popQueue, rest, Function.update_apply]
    have window := sound.window position inside
    rw [isCount, inRing_succ sound.headInside] at window
    split
    · simp_all [clearMessage, Bool.false_eq_true, head_not_inRing]
    simp [*]
  · simp only [popQueue, Function.update_apply]
    split
    · exact fun _ => rfl
    · exact sound.cleared position inside

/-- Taking off a message drops the reference that it holds, and no other. -/
theorem messageHolds_pop {connections : Nat → IpcConnection} {index : Nat} {side : IpcSide}
    (queue : IpcQueue) (holder : MessageHolder) (object : Nat) :
    MessageHolds (withQueue connections index side (popQueue queue)) holder object ↔
      MessageHolds (withQueue connections index side queue) holder object ∧
        holder ≠ (index, side, queue.head) := by
  rcases holder with ⟨other, otherSide, position⟩
  simp only [MessageHolds, incoming_withQueue, ne_eq, Prod.mk.injEq]
  by_cases here : other = index ∧ otherSide = side
  · simp only [here.1, here.2, true_and, popQueue]
    by_cases isHead : position = queue.head
    · simp [isHead, clearMessage]
    · simp [isHead]
  grind

section Release

variable {connections : Nat → IpcConnection} {index : Nat} {side : IpcSide}

section

variable (inside : index < ipcGlobalConnectionMax)
include inside

/-- Releasing the oldest message and taking it off keeps the counts exact. -/
theorem releaseMessage_sound {buffers : Buffers}
    {queue : IpcQueue} (sound : QueueSound queue) (some' : queue.count ≠ 0)
    (counted : BuffersSound buffers (MessageHolds (withQueue connections index side queue))) :
    BuffersSound (releaseMessage buffers (queue.messages queue.head))
      (MessageHolds (withQueue connections index side (popQueue queue))) := by
  have active : (queue.messages queue.head).active = true := by
    rw [sound.window _ sound.headInside]
    exact ⟨0, Nat.pos_of_ne_zero some', by rw [Nat.add_zero, Nat.mod_eq_of_lt sound.headInside]⟩
  have reads : ∀ object, MessageHolds (withQueue connections index side queue)
      (index, side, queue.head) object ↔ (queue.messages queue.head).attachment = some object := by
    intro object
    simp only [MessageHolds, incoming_withQueue, and_self, if_true, inside, sound.headInside, true_and]
  rw [releaseMessage]
  cases attached : (queue.messages queue.head).attachment with
  | none =>
    rw [if_neg fun both => absurd both.2 Bool.false_ne_true]
    refine counted.congr fun holder object => ?_
    rw [messageHolds_pop]
    constructor
    · exact And.left
    grind
  | some object =>
    have held := (reads object).mpr attached
    have single : ∀ other, MessageHolds (withQueue connections index side queue)
        (index, side, queue.head) other → other = object := by
      intro other holds
      rw [reads, attached] at holds
      exact (Option.some.inj holds).symm
    have released := (userBufferReleaseRetained_sound counted held single (messageHolds_pop queue)).1
    split
    · exact released
    have holds : Holds buffers (MessageHolds (withQueue connections index side queue))
        (.other (index, side, queue.head)) object := held
    rcases objectAt_of_references (counted.positive holds) with ⟨value, found, -⟩
    simp_all [userBufferRetainedRefActive]

theorem releaseQueueLoop_spec (count : Nat) :
    ∀ buffers queue, QueueSound queue → queue.count = count →
      BuffersSound buffers (MessageHolds (withQueue connections index side queue)) →
      ∃ after released, releaseQueueLoop count buffers queue = (after, released) ∧
        QueueSound released ∧ released.count = 0 ∧
        BuffersSound after (MessageHolds (withQueue connections index side released)) := by
  induction count with
  | zero => exact fun buffers queue sound empty counted => ⟨_, _, rfl, sound, empty, counted⟩
  | succ count ih =>
    intro buffers queue sound isCount counted
    have some' : queue.count ≠ 0 := by omega
    have rest : (popQueue queue).count = count := by
      simp only [popQueue]
      omega
    exact ih _ (popQueue queue) (sound.pop some') rest (releaseMessage_sound inside sound some' counted)

theorem releaseQueue_spec {buffers : Buffers} {queue : IpcQueue} (sound : QueueSound queue)
    (counted : BuffersSound buffers (MessageHolds (withQueue connections index side queue))) :
    ∃ after released, releaseQueue buffers queue = (after, released) ∧
      QueueSound released ∧ released.count = 0 ∧
      BuffersSound after (MessageHolds (withQueue connections index side released)) := by
  rcases releaseQueueLoop_spec inside queue.count buffers queue sound rfl counted with
    ⟨after, released, result, releasedSound, empty, counted'⟩
  refine ⟨after, { released with head := 0 }, by rw [releaseQueue, result],
    ⟨by simp only; decide, ?_, fun position inQueue => ?_, releasedSound.cleared⟩, empty, ?_⟩
  · exact releasedSound.countInside
  · simp only [releasedSound.empty_inactive empty inQueue, empty, Bool.false_eq_true, false_iff]
    exact not_inRing_zero _ _ _
  · refine counted'.congr fun holder object => messageHolds_congr (fun other _ otherSide position _ => ?_) _ _
    rw [incoming_withQueue, incoming_withQueue]
    split <;> rfl

end

end Release

theorem queueSound_clearQueue : QueueSound clearQueue := by
  refine ⟨by decide, by decide, fun position _ => ?_, fun _ _ _ => rfl⟩
  simp only [clearQueue, clearMessage, Bool.false_eq_true, false_iff]
  exact not_inRing_zero _ _ _

theorem connectionSound_clear : ConnectionSound clearConnection := by
  refine ⟨fun side => ?_, fun side _ => ?_, ?_⟩
  · cases side <;> exact queueSound_clearQueue
  · cases side <;> rfl
  · constructor
    · intro impossible
      cases impossible
    nofun

/-- A connection whose closed sides have nothing waiting is destroyed exactly
when both sides are closed. -/
theorem connectionMaybeDestroy_cases {connection : IpcConnection} (active : connection.active = true)
    (closed : ∀ side, connection.sideOpen side = false → (connection.incoming side).count = 0) :
    ((∃ side, connection.sideOpen side = true) ∧ connectionMaybeDestroy connection = connection) ∨
    (∀ side, connection.sideOpen side = false) ∧ connectionMaybeDestroy connection = clearConnection := by
  rw [connectionMaybeDestroy]
  cases clientOpen : connection.clientOpen with
  | true => exact Or.inl ⟨⟨.client, clientOpen⟩, by simp⟩
  | false =>
    cases serverOpen : connection.serverOpen with
    | true => exact Or.inl ⟨⟨.server, serverOpen⟩, by simp⟩
    | false =>
      have noClient : connection.toClient.count = 0 := closed .client clientOpen
      have noServer : connection.toServer.count = 0 := closed .server serverOpen
      refine Or.inr ⟨fun side => ?_, ?_⟩
      · cases side
        · exact clientOpen
        · exact serverOpen
      · simp [active, noClient, noServer]

/-- What closing an open side of a connection leaves behind. -/
structure SideClosed (ipc next : IpcTables) (index : Nat) (side : IpcSide) : Prop where
  states : next.states = ipc.states
  services : next.services = ipc.services
  endpoints : ∀ target, EndpointOpen next target ↔ EndpointOpen ipc target ∧ target ≠ (index, side)
  connections : ∀ other < ipcGlobalConnectionMax, ConnectionSound (next.connections other)
  accepted : ∀ other, EndpointOpen next (other, .server) →
    (next.connections other).serverAccepted = (ipc.connections other).serverAccepted
  buffers : BuffersSound next.buffers (MessageHolds next.connections)
  kept : QueuesKept ipc next

theorem closeConnectionSide_spec {ipc : IpcTables} {index : Nat} {side : IpcSide}
    (connections : ∀ other < ipcGlobalConnectionMax, ConnectionSound (ipc.connections other))
    (buffers : BuffersSound ipc.buffers (MessageHolds ipc.connections))
    (isOpen : EndpointOpen ipc (index, side)) :
    SideClosed ipc (closeConnectionSide ipc index side) index side := by
  rcases isOpen with ⟨inside, active, sideOpen⟩
  have sound := connections index inside
  have same : withQueue ipc.connections index side ((ipc.connections index).incoming side) =
      ipc.connections := by
    rw [withQueue]
    have unchanged : (ipc.connections index).setIncoming ((ipc.connections index).incoming side)
        side = ipc.connections index := by
      cases side <;> rfl
    rw [unchanged, Function.update_eq_self]
  have counted : BuffersSound ipc.buffers (MessageHolds
      (withQueue ipc.connections index side ((ipc.connections index).incoming side))) := by
    rw [same]
    exact buffers
  rcases releaseQueue_spec inside (sound.queues side) counted with
    ⟨after, released, result, releasedSound, empty, counted'⟩
  have notSkipped : ¬ ((ipc.connections index).active = false ∨
      (ipc.connections index).sideOpen side = false) := by
    rw [active, sideOpen]
    decide
  simp only [closeConnectionSide, if_neg notSkipped, result]
  generalize isClosed : ((ipc.connections index).setIncoming released side).closeSide side = closed
  have incoming : ∀ other, closed.incoming other =
      if other = side then released else (ipc.connections index).incoming other := by
    intro other
    rw [← isClosed, IpcConnection.incoming_closeSide, IpcConnection.incoming_setIncoming]
  have opens : ∀ other, closed.sideOpen other =
      if other = side then false else (ipc.connections index).sideOpen other := by
    intro other
    rw [← isClosed, IpcConnection.sideOpen_closeSide, IpcConnection.sideOpen_setIncoming]
  have closedActive : closed.active = true := by
    rw [← isClosed, IpcConnection.active_closeSide, IpcConnection.active_setIncoming, active]
  have closedAccepted : closed.serverAccepted = (ipc.connections index).serverAccepted := by
    rw [← isClosed, IpcConnection.serverAccepted_closeSide, IpcConnection.serverAccepted_setIncoming]
  have queues : ∀ other, QueueSound (closed.incoming other) := by
    intro other
    rw [incoming]
    split
    · exact releasedSound
    · exact sound.queues other
  have noMessages : ∀ other, closed.sideOpen other = false → (closed.incoming other).count = 0 := by
    intro other isClosed
    rw [opens] at isClosed
    rw [incoming]
    split
    · exact empty
    rename_i different
    rw [if_neg different] at isClosed
    exact sound.closed other isClosed
  -- The messages that hold references are those of the released table.
  have attachments : ∀ last : IpcConnection,
      (∀ other, ∀ position < ipcMessagesPerDirection,
        ((last.incoming other).messages position).attachment =
          ((closed.incoming other).messages position).attachment) →
      BuffersSound after (MessageHolds (Function.update ipc.connections index last)) := by
    intro last agree
    refine counted'.congr fun holder object => messageHolds_congr
      (fun other _ otherSide position inQueue => ?_) _ _
    rw [incoming_withQueue, Function.update_apply]
    by_cases here : other = index
    · simp [*]
    · simp only [here, false_and, if_false]
  rcases connectionMaybeDestroy_cases closedActive noMessages with
    ⟨left, survives⟩ | ⟨allClosed, destroyed⟩
  · rw [survives]
    constructor
    case states => rfl
    case services => rfl
    case endpoints =>
      rintro ⟨other, otherSide⟩
      simp only [EndpointOpen, IpcTables.setConnection, Function.update_apply, ne_eq, Prod.mk.injEq]
      by_cases here : other = index
      · grind
      simp [*]
    case connections =>
      intro other otherInside
      simp only [IpcTables.setConnection, Function.update_apply]
      split
      · refine ⟨queues, noMessages, ?_⟩
        simp_all
      · exact connections other otherInside
    case accepted =>
      simp only [IpcTables.setConnection, Function.update_apply]
      grind
    case buffers => exact attachments closed fun _ _ _ => rfl
    case kept =>
      intro other otherSide
      simp only [EndpointOpen, IpcTables.setConnection, Function.update_apply]
      grind
  · rw [destroyed]
    have clearOpen : ∀ other, clearConnection.sideOpen other = false := by
      intro other
      cases other <;> rfl
    constructor
    case states => rfl
    case services => rfl
    case endpoints =>
      rintro ⟨other, otherSide⟩
      simp only [EndpointOpen, IpcTables.setConnection, Function.update_apply, ne_eq, Prod.mk.injEq]
      by_cases here : other = index
      · grind
      simp [*]
    case connections =>
      simp only [IpcTables.setConnection, Function.update_apply]
      grind [connectionSound_clear]
    case accepted =>
      simp only [EndpointOpen, IpcTables.setConnection, Function.update_apply]
      grind
    case buffers =>
      refine attachments clearConnection fun other position inQueue => ?_
      have none' := (queues other).cleared position inQueue
        ((queues other).empty_inactive (noMessages other (allClosed other)) inQueue)
      rw [none']
      cases other <;> rfl
    case kept =>
      intro other otherSide
      simp only [EndpointOpen, IpcTables.setConnection, Function.update_apply]
      grind

end BoringOS.Ipc
