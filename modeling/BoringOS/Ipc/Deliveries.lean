import BoringOS.Ipc.IpcRuns

namespace BoringOS.Ipc

open Library

/-!
# Deliveries

Beside the tables a trace records what has been sent to each side of each
connection and what has been delivered there.  The slots of connections and
of objects are reused, so that the trace also counts how often each of them
was taken, and a record belongs to one incarnation of its slot.
-/

/-- A message as a process sees it: the payload, and the attached object with
the number of its incarnation. -/
structure Delivery where
  payload : List UInt8
  attachment : Option (Nat × Nat)
deriving DecidableEq, Repr

/-- A connection, its incarnation and the receiving side. -/
abbrev Direction := Nat × Nat × IpcSide

structure IpcTrace where
  ipc : IpcTables
  /-- How often the slot of a connection was taken. -/
  incarnation : Nat → Nat
  /-- How often the slot of an object was taken. -/
  births : Nat → Nat
  sent : Direction → List Delivery
  delivered : Direction → List Delivery

/-- A parcel with the current incarnation of its object. -/
def deliveryOf (births : Nat → Nat) (parcel : Parcel) : Delivery :=
  ⟨parcel.1, parcel.2.map fun object => (object, births object)⟩

/-- A parcel is noted down at the end of the list of its direction. -/
def note (lists : Direction → List Delivery) (incarnation births : Nat → Nat) :
    Option ((Nat × IpcSide) × Parcel) → Direction → List Delivery
  | none => lists
  | some ((index, side), parcel) =>
    Function.update lists (index, incarnation index, side)
      (lists (index, incarnation index, side) ++ [deliveryOf births parcel])

/-- Counts the slots that were free and are taken now. -/
def countTaken (before now : Nat → Bool) (counts : Nat → Nat) (index : Nat) : Nat :=
  if before index = false ∧ now index = true then counts index + 1 else counts index

def IpcTrace.step (trace : IpcTrace) (call : IpcCall) : IpcTrace :=
  let next := ipcStep trace.ipc call
  let incarnation := countTaken (fun index => (trace.ipc.connections index).active)
    (fun index => (next.connections index).active) trace.incarnation
  let births := countTaken (fun object => (trace.ipc.buffers.objects object).active)
    (fun object => (next.buffers.objects object).active) trace.births
  { ipc := next
    incarnation := incarnation
    births := births
    sent := note trace.sent incarnation births (sentBy trace.ipc call)
    delivered := note trace.delivered incarnation births (receivedBy trace.ipc call) }

/-- Before the first call nothing has been sent. -/
def traceInitial : IpcTrace where
  ipc := ipcInitial
  incarnation := fun _ => 0
  births := fun _ => 0
  sent := fun _ => []
  delivered := fun _ => []

/-- The messages that wait at a side of a connection, as a process sees them. -/
def IpcTrace.waiting (trace : IpcTrace) (target : Nat × IpcSide) : List Delivery :=
  (queueContents ((trace.ipc.connections target.1).incoming target.2)).map
    fun message => deliveryOf trace.births message.parcel

/-- The current direction towards a side of a connection. -/
def IpcTrace.direction (trace : IpcTrace) (target : Nat × IpcSide) : Direction :=
  (target.1, trace.incarnation target.1, target.2)

structure TraceInvariant (trace : IpcTrace) : Prop where
  tables : IpcInvariant trace.ipc
  ordered : ∀ direction, trace.delivered direction <+: trace.sent direction
  undelivered : ∀ target, EndpointOpen trace.ipc target →
    trace.sent (trace.direction target) =
      trace.delivered (trace.direction target) ++ trace.waiting target
  future : ∀ index later side, trace.incarnation index < later →
    trace.sent (index, later, side) = []

theorem countTaken_of_active {before now : Nat → Bool} {counts : Nat → Nat} {index : Nat}
    (active : before index = true) : countTaken before now counts index = counts index := by
  rw [countTaken, if_neg]
  simp [*]

theorem countTaken_le (before now : Nat → Bool) (counts : Nat → Nat) (index : Nat) :
    counts index ≤ countTaken before now counts index := by
  rw [countTaken]
  grind

section Steps

variable {trace : IpcTrace} (call : IpcCall)

theorem incarnation_step (trace : IpcTrace) (call : IpcCall) :
    (trace.step call).incarnation =
      countTaken (fun index => (trace.ipc.connections index).active)
        (fun index => ((ipcStep trace.ipc call).connections index).active) trace.incarnation :=
  rfl

theorem births_step (trace : IpcTrace) (call : IpcCall) :
    (trace.step call).births =
      countTaken (fun object => (trace.ipc.buffers.objects object).active)
        (fun object => ((ipcStep trace.ipc call).buffers.objects object).active) trace.births :=
  rfl

variable {target : Nat × IpcSide}

theorem direction_step (isOpen : EndpointOpen trace.ipc target) :
    (trace.step call).direction target = trace.direction target := by
  have same : (trace.step call).incarnation target.1 = trace.incarnation target.1 := by
    rw [incarnation_step, countTaken_of_active isOpen.2.1]
  rw [IpcTrace.direction, IpcTrace.direction, same]

/-- The object of a queued message lives, so that its incarnation stays. -/
theorem births_queued (invariant : IpcInvariant trace.ipc)
    (isOpen : EndpointOpen trace.ipc target) {message : IpcMessage} {object : Nat}
    (member : message ∈ queueContents ((trace.ipc.connections target.1).incoming target.2))
    (attached : message.attachment = some object) :
    (trace.step call).births object = trace.births object := by
  have sound := (invariant.connections target.1 isOpen.1).queues target.2
  rcases (mem_ringContents _ _ sound.headInside).mp member with ⟨position, inRing, isMessage⟩
  have inside := inRing_lt (by decide) inRing
  have holds : Holds trace.ipc.buffers (MessageHolds trace.ipc.connections)
      (.other (target.1, target.2, position)) object :=
    ⟨isOpen.1, inside, (congrArg IpcMessage.attachment isMessage).trans attached⟩
  rcases objectAt_of_references (invariant.buffers.positive holds) with ⟨value, found, -⟩
  rw [births_step, countTaken_of_active (objectAt_eq_some.mp found).2.1]

theorem waiting_step (invariant : IpcInvariant trace.ipc) (isOpen : EndpointOpen trace.ipc target) :
    trace.waiting target =
      (queueContents ((trace.ipc.connections target.1).incoming target.2)).map
        fun message => deliveryOf (trace.step call).births message.parcel := by
  apply List.map_congr_left
  intro message member
  cases attached : message.attachment with
  | none => simp only [deliveryOf, IpcMessage.parcel, attached, Option.map_none]
  | some object =>
    grind [births_queued, deliveryOf, IpcMessage.parcel]

/-- A queue that is kept holds the same messages for a process. -/
theorem waiting_kept (invariant : IpcInvariant trace.ipc) (kept : EndpointOpen trace.ipc target ∧
      ((trace.step call).ipc.connections target.1).incoming target.2 =
        (trace.ipc.connections target.1).incoming target.2) :
    (trace.step call).waiting target = trace.waiting target := by
  rw [waiting_step call invariant kept.1, IpcTrace.waiting, kept.2]

theorem direction_injective {target other : Nat × IpcSide}
    (same : trace.direction target = trace.direction other) : target = other := by
  simp only [IpcTrace.direction, Prod.mk.injEq] at same
  exact Prod.ext same.1 same.2.2

theorem note_direction (lists : Direction → List Delivery) (target : Nat × IpcSide)
    (parcel : Parcel) (direction : Direction) :
    note lists (trace.step call).incarnation (trace.step call).births (some (target, parcel))
        direction =
      if direction = (trace.step call).direction target then
        lists direction ++ [deliveryOf (trace.step call).births parcel]
      else lists direction := by
  rw [note, Function.update_apply]
  grind [IpcTrace.direction]

theorem prefix_note (lists : Direction → List Delivery) (incarnation births : Nat → Nat)
    (noted : Option ((Nat × IpcSide) × Parcel)) (direction : Direction) :
    lists direction <+: note lists incarnation births noted direction := by
  cases noted with
  | none => exact List.prefix_refl _
  | some pair =>
    rw [note, Function.update_apply]
    grind

/-- Nothing is noted for an incarnation that has not come yet. -/
theorem note_future {lists : Direction → List Delivery} {incarnation births : Nat → Nat}
    (noted : Option ((Nat × IpcSide) × Parcel)) {index later : Nat} {side : IpcSide}
    (isLater : incarnation index < later) :
    note lists incarnation births noted (index, later, side) = lists (index, later, side) := by
  cases noted with
  | none => rfl
  | some pair =>
    rw [note]
    grind

theorem TraceInvariant.step_future (invariant : TraceInvariant trace) (index later : Nat)
    (side : IpcSide) (isLater : (trace.step call).incarnation index < later) :
    (trace.step call).sent (index, later, side) = [] := by
  have grows : trace.incarnation index ≤ (trace.step call).incarnation index := by
    rw [incarnation_step]
    exact countTaken_le _ _ _ _
  rw [← invariant.future index later side (Nat.lt_of_le_of_lt grows isLater)]
  exact note_future _ isLater

theorem TraceInvariant.step (invariant : TraceInvariant trace) (call : IpcCall) :
    TraceInvariant (trace.step call) := by
  rcases ipcStep_effect call invariant.tables with ⟨tables, effect⟩
  have future := invariant.step_future call
  have sent' : (trace.step call).sent = note trace.sent (trace.step call).incarnation
    (trace.step call).births (sentBy trace.ipc call) := rfl
  have delivered' : (trace.step call).delivered = note trace.delivered
    (trace.step call).incarnation (trace.step call).births (receivedBy trace.ipc call) := rfl
  cases effect with
  | kept noSend noReceive kept =>
    rw [noSend] at sent'
    rw [noReceive] at delivered'
    refine ⟨tables, fun direction => ?_, fun target isOpen => ?_, future⟩
    · rw [sent', delivered']
      exact invariant.ordered direction
    · have before := kept target.1 target.2 isOpen
      rw [sent', delivered', direction_step call before.1, waiting_kept call invariant.tables before]
      exact invariant.undelivered target before.1
  | connected noSend noReceive index connected =>
    rw [noSend] at sent'
    rw [noReceive] at delivered'
    refine ⟨tables, fun direction => ?_, fun target isOpen => ?_, future⟩
    · rw [sent', delivered']
      exact invariant.ordered direction
    · by_cases isNew : target.1 = index
      · have taken : (trace.step call).incarnation target.1 = trace.incarnation target.1 + 1 :=
          if_pos ⟨by rw [isNew]; exact connected.free, by rw [isNew]; exact connected.active⟩
        have new : trace.incarnation target.1 < (trace.step call).incarnation target.1 := by
          rw [taken]
          exact Nat.lt_succ_self _
        have noneSent := invariant.future target.1 _ target.2 new
        have noneDelivered := invariant.ordered ((trace.step call).direction target)
        have empty : (trace.step call).waiting target = [] := by
          rw [IpcTrace.waiting, isNew]
          exact congrArg (List.map _) (connected.queues target.2)
        simp_all [note, IpcTrace.direction]
      · have before := connected.kept target.1 target.2 isNew isOpen
        rw [sent', delivered', direction_step call before.1, waiting_kept call invariant.tables before]
        exact invariant.undelivered target before.1
  | sent target message isSend noReceive sent =>
    rw [isSend] at sent'
    rw [noReceive] at delivered'
    refine ⟨tables, fun direction => ?_, fun other isOpen => ?_, future⟩
    · rw [sent', delivered']
      exact (invariant.ordered direction).trans (prefix_note _ _ _ _ _)
    · rw [sent', delivered', note_direction]
      by_cases same : other = target
      · subst same
        rw [direction_step call sent.isOpen, if_pos rfl, invariant.undelivered other sent.isOpen,
          waiting_step call invariant.tables sent.isOpen, List.append_assoc]
        have contents : (trace.step call).waiting other = (queueContents
            ((trace.ipc.connections other.1).incoming other.2) ++ [message]).map
              fun message => deliveryOf (trace.step call).births message.parcel :=
          congrArg (List.map _) sent.contents
        rw [contents, List.map_append]
        rfl
      · have before := sent.kept other.1 other.2 (fun both => same (Prod.ext both.1 both.2)) isOpen
        have elsewhere : (trace.step call).direction other ≠
            (trace.step call).direction target := fun both => same (direction_injective both)
        rw [if_neg elsewhere, direction_step call before.1, waiting_kept call invariant.tables before]
        exact invariant.undelivered other before.1
  | received target message noSend isReceive received =>
    rw [noSend] at sent'
    rw [isReceive] at delivered'
    have contents : trace.waiting target = deliveryOf (trace.step call).births message.parcel ::
        (trace.step call).waiting target := by
      rw [waiting_step call invariant.tables received.isOpen, received.contents]
      rfl
    have undelivered := invariant.undelivered target received.isOpen
    rw [contents] at undelivered
    refine ⟨tables, fun direction => ?_, fun other isOpen => ?_, future⟩
    · rw [sent', delivered', note_direction, note]
      split
      · rename_i here
        rw [here, direction_step call received.isOpen]
        simp [*]
      · exact invariant.ordered direction
    · rw [sent', delivered', note_direction]
      by_cases same : other = target
      · subst same
        rw [direction_step call received.isOpen, if_pos rfl, note, undelivered, List.append_cons]
      have before := received.kept other.1 other.2 (fun both => same (Prod.ext both.1 both.2)) isOpen
      have elsewhere : (trace.step call).direction other ≠
          (trace.step call).direction target := fun both => same (direction_injective both)
      rw [if_neg elsewhere, direction_step call before.1, waiting_kept call invariant.tables before]
      exact invariant.undelivered other before.1

end Steps

theorem traceInitial_invariant : TraceInvariant traceInitial := by
  refine ⟨ipcInitial_invariant, fun _ => List.prefix_refl _, ?_, fun _ _ _ _ => rfl⟩
  nofun

/-- A receiver that is turned away although a message waits for him. -/
def TurnedAway (ipc : IpcTables) (process payloadCapacity : Nat) (message : Delivery) : Prop :=
  payloadCapacity < message.payload.length ∨
    message.attachment ≠ none ∧ (processReady ipc.buffers process = false ∨
      findHandleSlot (ipc.buffers.processes process).userMemory = none)

theorem ReceiverBlocked.turnedAway {ipc : IpcTables} {process payloadCapacity : Nat}
    {message : IpcMessage} (blocked : ReceiverBlocked ipc process payloadCapacity message)
    (births : Nat → Nat) :
    TurnedAway ipc process payloadCapacity (deliveryOf births message.parcel) := by
  rcases blocked with tooLong | ⟨attached, noRoom⟩
  · exact Or.inl tooLong
  · refine Or.inr ⟨?_, noRoom⟩
    simp_all [deliveryOf, IpcMessage.parcel]

structure DeliveryExact (trace : IpcTrace) : Prop where
  /-- What has been delivered is the beginning of what has been sent. -/
  ordered : ∀ direction, trace.delivered direction <+: trace.sent direction
  /-- At an open side everything else is still waiting, in order. -/
  undelivered : ∀ target, EndpointOpen trace.ipc target →
    trace.sent (trace.direction target) =
      trace.delivered (trace.direction target) ++ trace.waiting target
  /-- Neither list is ever rewritten. -/
  lasting : ∀ later direction,
    trace.sent direction <+: (run IpcTrace.step trace later).sent direction ∧
      trace.delivered direction <+: (run IpcTrace.step trace later).delivered direction
  /-- The oldest message that is not delivered yet is what the next receive
  returns, unless it turns the receiver away and leaves the message in place. -/
  next : ∀ process handle payloadCapacity target first rest,
    processIdentityValid trace.ipc process = true →
    (openEndpoint trace.ipc process handle).1 = some target →
    trace.sent (trace.direction target) =
      trace.delivered (trace.direction target) ++ first :: rest →
    (∃ received next, ipcReceive trace.ipc process handle payloadCapacity = (.ok received, next) ∧
        (trace.step (.receive process handle payloadCapacity)).delivered
          (trace.direction target) = trace.delivered (trace.direction target) ++ [first]) ∨
      TurnedAway trace.ipc process payloadCapacity first ∧
        (trace.step (.receive process handle payloadCapacity)).delivered = trace.delivered

theorem lists_grow (later : List IpcCall) (direction : Direction) : ∀ trace : IpcTrace,
    trace.sent direction <+: (run IpcTrace.step trace later).sent direction ∧
      trace.delivered direction <+: (run IpcTrace.step trace later).delivered direction := by
  induction later with
  | nil => simp
  | cons call rest ih =>
    intro trace
    rcases ih (trace.step call) with ⟨sent, delivered⟩
    exact ⟨(prefix_note _ _ _ _ _).trans sent, (prefix_note _ _ _ _ _).trans delivered⟩

theorem TraceInvariant.next {trace : IpcTrace} (invariant : TraceInvariant trace)
    {process handle payloadCapacity : Nat} {target : Nat × IpcSide} {first : Delivery}
    {rest : List Delivery} (valid : processIdentityValid trace.ipc process = true)
    (isTarget : (openEndpoint trace.ipc process handle).1 = some target)
    (oldest : trace.sent (trace.direction target) =
      trace.delivered (trace.direction target) ++ first :: rest) :
    (∃ received next, ipcReceive trace.ipc process handle payloadCapacity = (.ok received, next) ∧
        (trace.step (.receive process handle payloadCapacity)).delivered
          (trace.direction target) = trace.delivered (trace.direction target) ++ [first]) ∨
      TurnedAway trace.ipc process payloadCapacity first ∧
        (trace.step (.receive process handle payloadCapacity)).delivered = trace.delivered := by
  rcases openEndpoint_cases trace.ipc process handle with ⟨found, looked, result, same, isOpenAt⟩
  have isFound : found = some target := by
    rw [← isTarget, result]
  have isOpen := (same.endpointOpen target).mp (isOpenAt target.1 target.2 isFound)
  have waiting : trace.waiting target = first :: rest := by
    rw [invariant.undelivered target isOpen] at oldest
    exact List.append_cancel_left oldest
  have delivered' : (trace.step (.receive process handle payloadCapacity)).delivered =
      note trace.delivered (trace.step (.receive process handle payloadCapacity)).incarnation
        (trace.step (.receive process handle payloadCapacity)).births
          (receivedBy trace.ipc (.receive process handle payloadCapacity)) := rfl
  rcases ipcReceive_cases invariant.tables process handle payloadCapacity with
    ⟨error, next, result, -, blocked⟩ |
      ⟨received, next, index, side, message, result, -, isSide, taken, payload, attachment, -⟩
  · refine Or.inr ⟨?_, ?_⟩
    · cases contents : queueContents ((trace.ipc.connections target.1).incoming target.2) with
      | nil =>
        grind [IpcTrace.waiting]
      | cons message others =>
        rw [IpcTrace.waiting, contents] at waiting
        cases waiting
        exact (blocked target.1 target.2 valid isTarget message others contents).turnedAway _
    · rw [delivered', receivedBy, result]
      rfl
  · refine Or.inl ⟨received, next, result, ?_⟩
    rw [isTarget] at isSide
    cases isSide
    have isReceived : receivedBy trace.ipc (.receive process handle payloadCapacity) =
        some ((index, side), message.parcel) := by
      rw [IpcMessage.parcel, ← payload, attachment]
      simp only [receivedBy, result, isTarget]
    rw [waiting_step (.receive process handle payloadCapacity) invariant.tables isOpen,
      taken.contents] at waiting
    simp_all [note_direction, direction_step]

/-- After every sequence of calls the deliveries in each direction are the
beginning of what was sent, in order and each once, and as long as a side is
open nothing that waits there is dropped or overtaken. -/
theorem ipc_delivery_exact (calls : List IpcCall) :
    DeliveryExact (run IpcTrace.step traceInitial calls) := by
  have kept : ∀ trace call, TraceInvariant trace → TraceInvariant (trace.step call) :=
    fun _ call holds => holds.step call
  have invariant := run_invariant kept calls _ traceInitial_invariant
  exact ⟨invariant.ordered, invariant.undelivered, fun later direction => lists_grow later direction _,
    fun _ _ _ _ _ _ valid isTarget oldest => invariant.next valid isTarget oldest⟩

end BoringOS.Ipc
