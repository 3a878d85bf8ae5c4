import BoringOS.Ipc.EndpointCalls

namespace BoringOS.Ipc

open Library

/-!
# Sending and receiving

A message that is sent goes to the end of the receiver's queue and takes along
a reference to its attachment.  A message that is received comes from the head
of the queue, and its reference is handed on to the receiver's new handle.
-/

section Messages

variable {ipc : IpcTables}

/-! ## Attachments -/

/-- The object that a sender attaches by a handle of his own. -/
def attachedBuffer (buffers : Buffers) (process bufferHandle : Nat) : Option Nat :=
  if bufferHandle = userMemoryHandleInvalid then none else bufferOf buffers process bufferHandle

/-- The reference for a message is retained, or nothing happens. -/
theorem retainAttachment_cases {others : MessageHolder → Nat → Prop}
    (sound : BuffersSound ipc.buffers others) (process bufferHandle : Nat) :
    (∃ error, retainAttachment ipc process bufferHandle = (.error error, ipc)) ∨
    ∃ retained next, retainAttachment ipc process bufferHandle =
        (.ok retained, { ipc with buffers := next }) ∧
      retained = attachedBuffer ipc.buffers process bufferHandle ∧
      ∀ fresh others', (∀ object, ¬ others fresh object) →
        (∀ holder object, others' holder object ↔ others holder object ∨
          holder = fresh ∧ retained = some object) → BuffersSound next others' := by
  rw [retainAttachment]
  by_cases isInvalid : bufferHandle = userMemoryHandleInvalid
  · rw [if_pos isInvalid]
    refine Or.inr ⟨none, ipc.buffers, rfl, by rw [attachedBuffer, if_pos isInvalid],
      fun fresh others' _ after => sound.congr fun holder object => ?_⟩
    simp [*]
  · rw [if_neg isInvalid]
    rcases userBufferRetain_cases sound process bufferHandle with
      ⟨error, result⟩ | ⟨index, next, result, -, isBuffer, kept⟩
    · rw [result]
      cases error <;> exact Or.inl ⟨_, rfl⟩
    rw [result]
    refine Or.inr ⟨some index, next, rfl, by rw [attachedBuffer, if_neg isInvalid, isBuffer],
      fun fresh others' outside after => kept fresh others' outside fun holder object => ?_⟩
    grind

/-- A reference is handed on to a new handle of the receiver, unless he has no
room for one. -/
theorem installAttachment_cases {buffers : Buffers} {others : MessageHolder → Nat → Prop}
    (sound : BuffersSound buffers others) {attachment : Option Nat} {holder : MessageHolder}
    (reads : ∀ object, others holder object ↔ attachment = some object) (process : Nat) :
    (∃ error, installAttachment buffers process attachment = .error error ∧ attachment ≠ none ∧
      (processReady buffers process = false ∨ findHandleSlot (buffers.processes process).userMemory = none)) ∨
    ∃ handle next, installAttachment buffers process attachment = .ok (handle, next) ∧
      attachment = attachedBuffer next process handle ∧
      ∀ others', (∀ other object, others' other object ↔
        others other object ∧ other ≠ holder) → BuffersSound next others' := by
  rw [installAttachment]
  cases attached : attachment with
  | none =>
    refine Or.inr ⟨userMemoryHandleInvalid, buffers, rfl, rfl,
      fun others' after => sound.congr fun other object => ?_⟩
    rw [after]
    constructor
    · exact And.left
    grind
  | some index =>
    have held : others holder index := (reads index).mpr attached
    have holds : Holds buffers others (.other holder) index := held
    rcases objectAt_of_references (sound.positive holds) with ⟨object, found, -⟩
    have isThere : userBufferRetainedRefActive buffers (some index) = true := by
      rw [userBufferRetainedRefActive, found]
      rfl
    rw [isThere]
    simp only [Bool.true_eq_false, if_false, userBufferPrepareInstall, found,
      Option.isNone_some, Bool.false_eq_true]
    by_cases ready : processReady buffers process = false
    · simp [*]
    rw [if_neg ready]
    cases free : findHandleSlot (buffers.processes process).userMemory with
    | none => simp
    | some slot =>
      rcases findHandleSlot_eq_some free with ⟨inside, inactive⟩
      have generation := sound.processes.generations process slot inside
      rcases encodeBufferHandle_isSome inside generation with ⟨encoded, isEncoded⟩
      rcases encodeBufferHandle_eq_some isEncoded with
        ⟨nonzero, low, high, -, properGeneration⟩
      have committed : userBufferCommitInstall buffers process (some index)
          ⟨index, ((buffers.processes process).userMemory.handles slot).generation, slot⟩ =
            .ok (buffers.setHandle process slot
              ⟨index, ((buffers.processes process).userMemory.handles slot).generation,
                true⟩) := by
        rw [userBufferCommitInstall, if_neg ready]
        simp [found, inactive, Nat.not_le.mpr inside]
      simp only [isEncoded, committed]
      generalize isHandle : (⟨index, ((buffers.processes process).userMemory.handles
        slot).generation, true⟩ : BufferHandle) = handle
      refine Or.inr ⟨encoded, _, rfl, ?_, fun others' after => ?_⟩
      · have decoded : decodeBufferHandle (buffers.setHandle process slot handle) process
            encoded = some slot := by
          have proper : ¬ (encoded = userMemoryHandleInvalid ∨ slot + 1 = 0 ∨
              userMemoryBufferHandleMax < slot + 1 ∨
              ((buffers.processes process).userMemory.handles slot).generation = 0) := by
            simp only [nonzero, properGeneration, or_false, false_or]
            omega
          have sameObjects : objectAt (buffers.setHandle process slot handle) index =
              objectAt buffers index := rfl
          simp only [decodeBufferHandle, low, high, if_neg proper, Nat.add_sub_cancel,
            setHandle_handles, and_self, if_true]
          rw [← isHandle] at sameObjects ⊢
          simp [sameObjects, found]
        grind [attachedBuffer, bufferOf, setHandle_handles]
      · have kept : ProcessesSound (buffers.setHandle process slot handle) := by
          refine sound.processes.setHandle ?_ fun _ => processReady_alive ready
          rw [← isHandle]
          exact generation
        have single : ∀ other, Holds buffers others (.other holder) other → other = index := by
          intro other holdsOther
          have read := (reads other).mp holdsOther
          rw [attached] at read
          exact (Option.some.inj read).symm
        have outside : ∀ other, ¬ Holds buffers others (.handle process slot) other := by
          rintro other ⟨-, active, -⟩
          rw [inactive] at active
          cases active
        refine sound.handOn kept rfl holds single outside fun other object => ?_
        have changed : Holds (buffers.setHandle process slot handle) others' other object ↔
            Holds buffers others' other object ∧ other ≠ .handle process slot ∨
              other = .handle process slot ∧ object = index := by
          rw [holds_setHandle, ← isHandle]
          simp only [inside, true_and, @eq_comm Nat object]
        rw [changed]
        cases other with
        | handle owner position =>
          simp only [Holds, ne_eq, reduceCtorEq, not_false_eq_true, and_true]
          grind
        | mapping owner position =>
          simp only [Holds, ne_eq, reduceCtorEq, not_false_eq_true, and_true, false_and, or_false]
        | other another =>
          simp only [Holds, after, ne_eq, reduceCtorEq, not_false_eq_true, and_true,
            false_and, or_false, Holder.other.injEq]

/-! ## Replacing a queue -/

theorem openEndpoint_cases (ipc : IpcTables) (process handle : Nat) :
    ∃ found next, openEndpoint ipc process handle = (found, next) ∧ SameTables ipc next ∧
      ∀ index side, found = some (index, side) → EndpointOpen next (index, side) := by
  rw [openEndpoint]
  rcases lookupHandle_cases ipc process handle .endpoint with ⟨found, next, result, same, -⟩
  rw [result]
  cases found with
  | none => simp [*]
  | some pair =>
    simp only
    split
    · simp [*]
    rename_i valid
    simp only [not_or, Nat.not_le, Bool.not_eq_false] at valid
    refine ⟨_, next, rfl, same, fun index side isFound => ?_⟩
    cases isFound
    exact valid

/-- The queue of an open side may be exchanged, as long as the counts of the
buffers keep up. -/
theorem IpcInvariant.exchanged (invariant : IpcInvariant ipc) (next : IpcTables) {index : Nat}
    {side : IpcSide} {queue : IpcQueue} (isOpen : EndpointOpen ipc (index, side))
    (states : next.states = ipc.states) (services : next.services = ipc.services)
    (connections : next.connections = withQueue ipc.connections index side queue)
    (sound : QueueSound queue) (buffers : BuffersSound next.buffers
      (MessageHolds (withQueue ipc.connections index side queue))) :
    IpcInvariant next ∧ (next.connections index).incoming side = queue ∧
      QueuesKeptBut (fun other otherSide => other = index ∧ otherSide = side) ipc next := by
  have incoming : ∀ other otherSide, (next.connections other).incoming otherSide =
      if other = index ∧ otherSide = side then queue
      else (ipc.connections other).incoming otherSide := by
    intro other otherSide
    rw [connections, incoming_withQueue]
  have at' : next.connections index = (ipc.connections index).setIncoming queue side := by
    rw [connections, withQueue, Function.update_self]
  have away : ∀ other, other ≠ index → next.connections other = ipc.connections other := by
    intro other different
    rw [connections, withQueue, Function.update_of_ne different]
  have sideOpen : ∀ other otherSide, (next.connections other).sideOpen otherSide =
      (ipc.connections other).sideOpen otherSide := by
    intro other otherSide
    by_cases here : other = index
    · rw [here, at', IpcConnection.sideOpen_setIncoming]
    · rw [away other here]
  have active : ∀ other, (next.connections other).active = (ipc.connections other).active := by
    intro other
    by_cases here : other = index
    · rw [here, at', IpcConnection.active_setIncoming]
    · rw [away other here]
  have endpointOpen : ∀ target, EndpointOpen next target ↔ EndpointOpen ipc target := by
    intro target
    rw [EndpointOpen, EndpointOpen, sideOpen, active]
  have handles : ∀ owner slot, next.handle? owner slot = ipc.handle? owner slot := by
    intro owner slot
    rw [IpcTables.handle?, IpcTables.handle?, states]
  have endpointRefers : ∀ reference target, EndpointRefers next reference target ↔
      EndpointRefers ipc reference target := by
    intro reference target
    cases reference <;> simp only [EndpointRefers, handles, services]
  refine ⟨?_, by rw [incoming, if_pos ⟨rfl, rfl⟩], fun other otherSide elsewhere isOpen =>
    ⟨(endpointOpen _).mp isOpen, by rw [incoming, if_neg elsewhere]⟩⟩
  constructor
  case endpoints => exact invariant.endpoints.congr endpointOpen endpointRefers
  case listeners =>
    refine invariant.listeners.congr (fun service => ?_) fun reference service => ?_
    · rw [ServiceOpen, ServiceOpen, services]
    · simp only [ListenerRefers, handles]
  case accepted =>
    intro reference other referred
    have accepted : (next.connections other).serverAccepted = (ipc.connections other).serverAccepted := by
      by_cases here : other = index
      · rw [here, at', IpcConnection.serverAccepted_setIncoming]
      · rw [away other here]
    rw [accepted]
    exact invariant.accepted reference other ((endpointRefers _ _).mp referred)
  case connections =>
    intro other inside
    have before := invariant.connections other inside
    refine ⟨fun otherSide => ?_, fun otherSide closed => ?_, ?_⟩
    · rw [incoming]
      split
      · exact sound
      · exact before.queues otherSide
    · rw [sideOpen] at closed
      rw [incoming, if_neg]
      · exact before.closed otherSide closed
      · rintro ⟨rfl, rfl⟩
        rw [isOpen.2.2] at closed
        cases closed
    · simp only [active, sideOpen]
      exact before.opened
  case services =>
    rw [services]
    exact invariant.services
  case names =>
    intro first second
    rw [ServiceOpen, ServiceOpen, services]
    exact invariant.names first second
  simp [*]

/-! ## Sending -/

/-- A message is put at the end of a queue. -/
def pushQueue (queue : IpcQueue) (message : IpcMessage) : IpcQueue :=
  { queue with
    messages := Function.update queue.messages ((queue.head + queue.count) % ipcMessagesPerDirection) message
    count := queue.count + 1 }

theorem QueueSound.push {queue : IpcQueue} (sound : QueueSound queue)
    (room : queue.count < ipcMessagesPerDirection) (message : IpcMessage) (active : message.active = true) :
    QueueSound (pushQueue queue message) ∧
      queueContents (pushQueue queue message) = queueContents queue ++ [message] := by
  refine ⟨⟨sound.headInside, room, fun position inside => ?_, fun position inside => ?_⟩,
    ringContents_push message queue.count queue.head sound.headInside room⟩
  · simp only [pushQueue, Function.update_apply]
    rw [inRing_push]
    split
    · grind
    · rename_i different
      rw [sound.window position inside, or_iff_left different]
  · simp only [pushQueue, Function.update_apply]
    split
    · simp [*]
    · exact sound.cleared position inside

/-- Putting a message into a queue adds the reference that it holds. -/
theorem messageHolds_push {connections : Nat → IpcConnection} {index : Nat} {side : IpcSide}
    (inside : index < ipcGlobalConnectionMax) (sound : QueueSound ((connections index).incoming side))
    (room : ((connections index).incoming side).count < ipcMessagesPerDirection)
    (message : IpcMessage) (holder : MessageHolder) (object : Nat) :
    MessageHolds (withQueue connections index side
        (pushQueue ((connections index).incoming side) message)) holder object ↔
      MessageHolds connections holder object ∨
        holder = (index, side, (((connections index).incoming side).head +
            ((connections index).incoming side).count) % ipcMessagesPerDirection) ∧
          message.attachment = some object := by
  generalize isTail : (((connections index).incoming side).head +
    ((connections index).incoming side).count) % ipcMessagesPerDirection = tail
  have tailInside : tail < ipcMessagesPerDirection := by
    rw [← isTail]
    exact Nat.mod_lt _ (by decide)
  have tailInactive : (((connections index).incoming side).messages tail).attachment = none := by
    apply sound.cleared tail tailInside
    apply Bool.eq_false_iff.mpr
    intro active
    rw [sound.window tail tailInside, ← isTail] at active
    exact tail_not_inRing room active
  rcases holder with ⟨other, otherSide, -⟩
  simp only [MessageHolds, incoming_withQueue, Prod.mk.injEq]
  by_cases here : other = index ∧ otherSide = side
  · simp only [here.1, here.2, true_and, and_self, if_true, pushQueue, isTail, Function.update_apply]
    grind
  grind

/-- What a successful send leaves behind. -/
structure Sent (ipc next : IpcTables) (index : Nat) (side : IpcSide) (message : IpcMessage) :
    Prop where
  isOpen : EndpointOpen ipc (index, side)
  contents : queueContents ((next.connections index).incoming side) =
    queueContents ((ipc.connections index).incoming side) ++ [message]
  kept : QueuesKeptBut (fun other otherSide => other = index ∧ otherSide = side) ipc next

/-- Only a queue is new, beside the buffers. -/
def Exchanged (ipc next : IpcTables) : Prop :=
  ∃ looked buffers index queue side, SameTables ipc looked ∧
    next = { looked with buffers := buffers }.setConnection index
      ((looked.connections index).setIncoming queue side)

theorem ipcSend_cases (invariant : IpcInvariant ipc) (process handle : Nat)
    (payload : List UInt8) (bufferHandle : Nat) :
    (∃ error next, ipcSend ipc process handle payload bufferHandle = (.error error, next) ∧
      SameTables ipc next) ∨
    ∃ next index side, ipcSend ipc process handle payload bufferHandle = (.ok (), next) ∧
      IpcInvariant next ∧ (openEndpoint ipc process handle).1 = some (index, side) ∧
      Sent ipc next index side.peer
        ⟨payload, attachedBuffer ipc.buffers process bufferHandle, true⟩ ∧
      Exchanged ipc next := by
  rw [ipcSend]
  split
  · exact Or.inl ⟨_, ipc, rfl, SameTables.refl ipc⟩
  rcases openEndpoint_cases ipc process handle with ⟨found, next, result, same, isOpenAt⟩
  simp only [result]
  cases found with
  | none => exact Or.inl ⟨_, next, rfl, same⟩
  | some target =>
    rcases target with ⟨index, side⟩
    have isOpen := isOpenAt index side rfl
    simp only
    split
    · exact Or.inl ⟨_, next, rfl, same⟩
    rename_i peerClosed
    have peerOpen : EndpointOpen next (index, side.peer) :=
      ⟨isOpen.1, isOpen.2.1, Bool.of_not_eq_false peerClosed⟩
    split
    · exact Or.inl ⟨_, next, rfl, same⟩
    rename_i full
    have invariant' := invariant.of_same same
    have sound := (invariant'.connections index isOpen.1).queues side.peer
    have room := Nat.not_le.mp full
    rcases retainAttachment_cases invariant'.buffers process bufferHandle with
      ⟨error, retainResult⟩ | ⟨retained, buffers, retainResult, isRetained, kept⟩
    · rw [retainResult]
      exact Or.inl ⟨_, next, rfl, same⟩
    rw [retainResult]
    have tailInside : (((next.connections index).incoming side.peer).head +
        ((next.connections index).incoming side.peer).count) %
          ipcMessagesPerDirection < ipcMessagesPerDirection := Nat.mod_lt _ (by decide)
    have notActive : ¬ (((next.connections index).incoming side.peer).messages
        ((((next.connections index).incoming side.peer).head +
          ((next.connections index).incoming side.peer).count) %
            ipcMessagesPerDirection)).active = true := by
      rw [sound.window _ tailInside]
      exact tail_not_inRing room
    simp only [if_neg notActive]
    have holds := messageHolds_push isOpen.1 sound room ⟨payload, retained, true⟩
    have outside : ∀ object, ¬ MessageHolds next.connections (index, side.peer,
        (((next.connections index).incoming side.peer).head +
          ((next.connections index).incoming side.peer).count) %
            ipcMessagesPerDirection) object := by
      rintro object ⟨-, -, attached⟩
      rw [sound.cleared _ tailInside (Bool.eq_false_iff.mpr notActive)] at attached
      cases attached
    have buffersSound := kept _ _ outside holds
    have pushed := sound.push room ⟨payload, retained, true⟩ rfl
    have done := invariant'.exchanged ({ next with buffers := buffers }.setConnection
      index ((next.connections index).setIncoming
        (pushQueue ((next.connections index).incoming side.peer)
          ⟨payload, retained, true⟩) side.peer)) peerOpen rfl rfl rfl pushed.1
      buffersSound
    have isAttached : retained = attachedBuffer ipc.buffers process bufferHandle := by
      rw [isRetained, same.buffers]
    rw [← isAttached]
    refine Or.inr ⟨_, index, side, rfl, done.1, rfl, ⟨?_, ?_, ?_⟩,
      ⟨next, buffers, index, _, _, same, rfl⟩⟩
    · exact (same.endpointOpen _).mp peerOpen
    · rw [← same.connections, ← pushed.2]
      exact congrArg queueContents done.2.1
    · exact (QueuesKept.of_connections same.connections).before done.2.2

/-! ## Receiving -/

theorem connectionMaybeDestroy_open {connection : IpcConnection} {side : IpcSide}
    (isOpen : connection.sideOpen side = true) : connectionMaybeDestroy connection = connection := by
  rw [connectionMaybeDestroy, if_pos]
  cases side
  · exact Or.inr (Or.inl isOpen)
  · exact Or.inr (Or.inr (Or.inl isOpen))

theorem queueContents_pop {queue : IpcQueue} (sound : QueueSound queue) (some' : queue.count ≠ 0) :
    queueContents queue = queue.messages queue.head :: queueContents (popQueue queue) := by
  rcases Nat.exists_eq_succ_of_ne_zero some' with ⟨count, isCount⟩
  have room : count < ipcMessagesPerDirection := by
    have bound := sound.countInside
    omega
  have unused := head_not_inRing sound.headInside room
  rw [queueContents, queueContents, isCount, ringContents]
  simp only [popQueue, isCount, Nat.succ_sub_one]
  rw [ringContents_update _ (Nat.mod_lt _ (by decide)) unused]

/-- What a successful receive leaves behind. -/
structure Received (ipc next : IpcTables) (index : Nat) (side : IpcSide) (message : IpcMessage) :
    Prop where
  isOpen : EndpointOpen ipc (index, side)
  contents : queueContents ((ipc.connections index).incoming side) =
    message :: queueContents ((next.connections index).incoming side)
  kept : QueuesKeptBut (fun other otherSide => other = index ∧ otherSide = side) ipc next

/-- A receiver that is turned away although a message waits for him: his
buffer is too short, or there is no room for the attachment. -/
def ReceiverBlocked (ipc : IpcTables) (process payloadCapacity : Nat) (message : IpcMessage) :
    Prop :=
  payloadCapacity < message.payload.length ∨
    message.attachment ≠ none ∧ (processReady ipc.buffers process = false ∨
      findHandleSlot (ipc.buffers.processes process).userMemory = none)

theorem ipcReceive_cases (invariant : IpcInvariant ipc) (process handle payloadCapacity : Nat) :
    (∃ error next, ipcReceive ipc process handle payloadCapacity = (.error error, next) ∧
      SameTables ipc next ∧
      ∀ index side, processIdentityValid ipc process = true →
        (openEndpoint ipc process handle).1 = some (index, side) →
        ∀ message rest, queueContents ((ipc.connections index).incoming side) = message :: rest →
          ReceiverBlocked ipc process payloadCapacity message) ∨
    ∃ received next index side message, ipcReceive ipc process handle payloadCapacity = (.ok received, next) ∧
      IpcInvariant next ∧ (openEndpoint ipc process handle).1 = some (index, side) ∧
      Received ipc next index side message ∧ received.payload = message.payload ∧
      message.attachment = attachedBuffer next.buffers process received.bufferHandle ∧
      Exchanged ipc next := by
  rw [ipcReceive]
  split
  · simp_all [SameTables.refl]
  rcases openEndpoint_cases ipc process handle with ⟨found, next, result, same, isOpenAt⟩
  simp only [result]
  cases found with
  | none =>
    simp [*]
  | some target =>
    rcases target with ⟨index, side⟩
    have isOpen := isOpenAt index side rfl
    have invariant' := invariant.of_same same
    have sound := (invariant'.connections index isOpen.1).queues side
    simp only
    split
    · refine Or.inl ⟨_, next, rfl, same, fun other otherSide _ isTarget message rest contents => ?_⟩
      cases isTarget
      rw [← same.connections] at contents
      grind [queueContents, ringContents]
    · rename_i some'
      have contents := queueContents_pop sound some'
      have headActive : ¬ (((next.connections index).incoming side).messages
          ((next.connections index).incoming side).head).active = false := by
        rw [Bool.not_eq_false, sound.window _ sound.headInside]
        refine ⟨0, Nat.pos_of_ne_zero some', ?_⟩
        rw [Nat.add_zero, Nat.mod_eq_of_lt sound.headInside]
      simp only [if_neg headActive]
      generalize isMessage : ((next.connections index).incoming side).messages
        ((next.connections index).incoming side).head = message at *
      have onlyHead : ∀ other otherSide, some (index, side) = some (other, otherSide) →
          ∀ first rest, queueContents ((ipc.connections other).incoming otherSide) =
            first :: rest → first = message := by
        intro other otherSide isTarget first rest isContents
        cases isTarget
        rw [← same.connections, contents] at isContents
        exact (List.cons.inj isContents).1.symm
      split
      · rename_i tooLong
        refine Or.inl ⟨_, next, rfl, same, fun other otherSide _ isTarget first rest isContents => ?_⟩
        rw [onlyHead other otherSide isTarget first rest isContents]
        exact Or.inl tooLong
      · have sameTable : withQueue next.connections index side
            ((next.connections index).incoming side) = next.connections := by
          have unchanged : (next.connections index).setIncoming
              ((next.connections index).incoming side) side = next.connections index := by
            cases side <;> rfl
          rw [withQueue, unchanged, Function.update_eq_self]
        have reads : ∀ object, MessageHolds next.connections
            (index, side, ((next.connections index).incoming side).head) object ↔
              message.attachment = some object := by
          intro object
          have inside : index < ipcGlobalConnectionMax := isOpen.1
          simp only [MessageHolds, isMessage, inside, sound.headInside, true_and]
        rcases installAttachment_cases invariant'.buffers reads process with
          ⟨error, installResult, attached, noRoom⟩ |
            ⟨bufferHandle, buffers, installResult, isAttached, kept⟩
        · rw [installResult]
          refine Or.inl ⟨_, next, rfl, same, fun other otherSide _ isTarget first rest isContents => ?_⟩
          rw [onlyHead other otherSide isTarget first rest isContents]
          rw [same.buffers] at noRoom
          exact Or.inr ⟨attached, noRoom⟩
        · rw [installResult]
          have dropped : ∀ holder object, MessageHolds (withQueue next.connections index side
              (popQueue ((next.connections index).incoming side))) holder object ↔
                MessageHolds next.connections holder object ∧
                  holder ≠ (index, side, ((next.connections index).incoming side).head) := by
            intro holder object
            rw [messageHolds_pop, sameTable]
          have buffersSound := kept _ dropped
          have stillOpen : ((next.connections index).setIncoming
              (popQueue ((next.connections index).incoming side)) side).sideOpen side =
                true := by
            rw [IpcConnection.sideOpen_setIncoming]
            exact isOpen.2.2
          have survives := connectionMaybeDestroy_open stillOpen
          simp only [popQueue] at survives
          rw [survives]
          have done := invariant'.exchanged ({ next with buffers := buffers }.setConnection
            index ((next.connections index).setIncoming
              (popQueue ((next.connections index).incoming side)) side)) isOpen rfl rfl rfl
            (sound.pop some') buffersSound
          refine Or.inr ⟨_, _, index, side, message, rfl, done.1, rfl, ⟨?_, ?_, ?_⟩, rfl,
            isAttached, ⟨next, buffers, index, _, _, same, rfl⟩⟩
          · exact (same.endpointOpen _).mp isOpen
          · rw [← same.connections, contents]
            exact congrArg (fun queue => message :: queueContents queue) done.2.1.symm
          · exact (QueuesKept.of_connections same.connections).before done.2.2

end Messages

end BoringOS.Ipc
