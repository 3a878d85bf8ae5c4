import BoringOS.Library.Run
import BoringOS.Library.Streams
import BoringOS.Pty.Rings

namespace BoringOS.Pty

open Library

/-!
# The streams of a pseudo terminal

Beside the table of pairs a trace records which bytes writes have accepted
and which bytes reads have returned, for each direction of each terminal.
The slot of a pair is used again, so that the trace also counts how often it
was taken: a terminal is one incarnation of its slot, and a direction is named
by the endpoint that reads from it.
-/

/-- Any call of the interface, in any order and with any arguments. -/
inductive PtyCall where
  | createPair
  | retain (handle : PtyHandle)
  | close (handle : PtyHandle)
  | read (handle : PtyHandle) (length : Nat)
  | write (handle : PtyHandle) (bytes : List UInt8)
  | poll (handle : PtyHandle)
  | armReadWaiter (handle : PtyHandle) (pid : Nat)
  | cancelReadWaiter (handle : PtyHandle) (pid : Nat)

/-- The slot of a terminal, its incarnation and the endpoint that reads. -/
abbrev PtyDirection := Nat × Nat × PtyEndpoint

structure PtyTrace where
  pairs : PtyPairs
  /-- How often the slot of a pair was taken. -/
  incarnation : Nat → Nat
  /-- The bytes that writes accepted and those that reads returned. -/
  streams : Streams PtyDirection UInt8

variable (trace : PtyTrace)

/-- The current direction towards an endpoint of a slot. -/
def PtyTrace.direction (slot : Nat) (endpoint : PtyEndpoint) : PtyDirection :=
  (slot, trace.incarnation slot, endpoint)

def PtyTrace.step : PtyCall → PtyTrace
  | .createPair =>
    match ptyCreatePair trace.pairs with
    | (.error _, pairs) => { trace with pairs := pairs }
    | (.ok (master, _), pairs) =>
      { trace with
        pairs := pairs
        incarnation :=
          Function.update trace.incarnation master.slot (trace.incarnation master.slot + 1) }
  | .retain handle => { trace with pairs := (ptyRetain trace.pairs handle).2 }
  | .close handle => { trace with pairs := (ptyClose trace.pairs handle).2.2 }
  | .read handle length =>
    let (_, bytes, pairs) := ptyRead trace.pairs handle length
    { trace with
      pairs := pairs
      streams := trace.streams.leave (trace.direction handle.slot handle.endpoint) bytes }
  | .write handle bytes =>
    let (_, transferred, _, pairs) := ptyWrite trace.pairs handle bytes
    { trace with
      pairs := pairs
      streams := trace.streams.enter
        (trace.direction handle.slot (peerEndpoint handle.endpoint)) (bytes.take transferred) }
  | .poll _ => trace
  | .armReadWaiter handle pid =>
    { trace with pairs := (ptyArmReadWaiter trace.pairs handle pid).2 }
  | .cancelReadWaiter handle pid =>
    { trace with pairs := ptyCancelReadWaiter trace.pairs handle pid }

def ptyTraceInitial : PtyTrace := ⟨ptyInit, fun _ => 0, Streams.empty⟩

/-- The bytes that wait for an endpoint. -/
def PtyTrace.waiting (slot : Nat) (endpoint : PtyEndpoint) : List UInt8 :=
  (incomingRing (trace.pairs slot) endpoint).contents

structure PtyTraceInvariant (trace : PtyTrace) : Prop where
  rings : ∀ slot endpoint, (trace.pairs slot).used = true →
    RingSound (incomingRing (trace.pairs slot) endpoint)
  ordered : trace.streams.Ordered
  accounts : ∀ slot endpoint, (trace.pairs slot).used = true →
    trace.streams.Accounts (trace.direction slot endpoint) (trace.waiting slot endpoint)
  future : ∀ slot later endpoint, trace.incarnation slot < later →
    trace.streams.entered (slot, later, endpoint) = []

namespace PtyTraceInvariant

variable {trace : PtyTrace}

section

variable (invariant : PtyTraceInvariant trace)
include invariant

/-- A call that leaves the rings of the pairs in use alone. -/
theorem ringsKept {pairs : PtyPairs}
    (kept : RingsKept trace.pairs pairs) : PtyTraceInvariant { trace with pairs := pairs } := by
  refine ⟨fun slot endpoint used => ?_, invariant.ordered, fun slot endpoint used => ?_, invariant.future⟩
  · rcases kept slot used with ⟨wasUsed, same⟩
    rw [same endpoint]
    exact invariant.rings slot endpoint wasUsed
  · rcases kept slot used with ⟨wasUsed, same⟩
    have before := invariant.accounts slot endpoint wasUsed
    rw [PtyTrace.waiting, ← same endpoint] at before
    exact before

theorem createPair : PtyTraceInvariant (trace.step .createPair) := by
  rw [PtyTrace.step, ptyCreatePair]
  cases found : findUnusedPair trace.pairs with
  | none => exact invariant.ringsKept (RingsKept.refl _)
  | some index =>
    dsimp only
    refine ⟨fun slot endpoint used => ?_, invariant.ordered, fun slot endpoint used => ?_,
      fun slot later endpoint isLater => ?_⟩
    · dsimp only at used ⊢
      rw [Function.update_apply] at used ⊢
      split
      · cases endpoint <;> exact ringClear_sound
      rename_i elsewhere
      rw [if_neg elsewhere] at used
      exact invariant.rings slot endpoint used
    · simp only [PtyTrace.direction, PtyTrace.waiting, Function.update_apply] at used ⊢
      split
      · rename_i here
        subst here
        have noneEntered := invariant.future slot (trace.incarnation slot + 1) endpoint (Nat.lt_succ_self _)
        have noneLeft := invariant.ordered (slot, trace.incarnation slot + 1, endpoint)
        rw [noneEntered, List.prefix_nil] at noneLeft
        rw [Streams.Accounts, noneEntered, noneLeft]
        cases endpoint <;> rfl
      · rename_i elsewhere
        rw [if_neg elsewhere] at used
        exact invariant.accounts slot endpoint used
    · apply invariant.future
      grind

theorem ringChanged {slot : Nat} {endpoint : PtyEndpoint}
    {pair : PtyPair} {streams : Streams PtyDirection UInt8}
    (wasUsed : (trace.pairs slot).used = true) (sound : RingSound (incomingRing pair endpoint))
    (peerSame : incomingRing pair (peerEndpoint endpoint) =
      incomingRing (trace.pairs slot) (peerEndpoint endpoint)) (ordered : streams.Ordered)
    (accounts : streams.Accounts (trace.direction slot endpoint) (incomingRing pair endpoint).contents)
    (others : ∀ direction held, direction ≠ trace.direction slot endpoint →
      trace.streams.Accounts direction held → streams.Accounts direction held)
    (future : ∀ direction, direction ≠ trace.direction slot endpoint →
      streams.entered direction = trace.streams.entered direction) :
    PtyTraceInvariant
      { trace with
        pairs := Function.update trace.pairs slot pair
        streams := streams } := by
  refine ⟨fun other side used => ?_, ordered, fun other side used => ?_, fun other later side isLater => ?_⟩
  · dsimp only at used ⊢
    rw [Function.update_apply] at used ⊢
    split at used
    · rename_i here
      rw [if_pos here]
      by_cases same : side = endpoint
      · rw [same]
        exact sound
      · rw [eq_peerEndpoint_of_ne same, peerSame]
        exact invariant.rings slot _ wasUsed
    · rename_i elsewhere
      rw [if_neg elsewhere]
      exact invariant.rings other side used
  · simp only [PtyTrace.waiting, Function.update_apply] at used ⊢
    change streams.Accounts (trace.direction other side) _
    by_cases here : other = slot
    · rw [if_pos here, here]
      by_cases same : side = endpoint
      · rw [same]
        exact accounts
      have apart : trace.direction slot side ≠ trace.direction slot endpoint := by
        intro equal
        exact same (congrArg (fun direction => direction.2.2) equal)
      refine others _ _ apart ?_
      rw [eq_peerEndpoint_of_ne same, peerSame]
      exact invariant.accounts slot _ wasUsed
    · have apart : trace.direction other side ≠ trace.direction slot endpoint := by
        intro equal
        exact here (congrArg (fun direction => direction.1) equal)
      rw [if_neg here] at used ⊢
      exact others _ _ apart (invariant.accounts other side used)
  · have apart : (other, later, side) ≠ trace.direction slot endpoint := by
      intro equal
      simp only [PtyTrace.direction, Prod.mk.injEq] at equal
      rw [equal.1, equal.2.1] at isLater
      exact Nat.lt_irrefl _ isLater
    rw [future _ apart]
    exact invariant.future other later side isLater

theorem read (handle : PtyHandle) (length : Nat) :
    PtyTraceInvariant (trace.step (.read handle length)) := by
  cases found : pairFromHandle trace.pairs handle with
  | none =>
    rw [PtyTrace.step, ptyRead_invalid found]
    simp [*]
  | some pair =>
    rcases pairFromHandle_eq_some.mp found with ⟨live, rfl⟩
    have sound := invariant.rings handle.slot handle.endpoint live.used
    have accounts := invariant.accounts handle.slot handle.endpoint live.used
    rcases ptyRead_spec live sound length with ⟨ring, ringSound, dropped, result⟩
    rw [PtyTrace.waiting, ← List.take_append_drop length (PtyRing.contents _)] at accounts
    rw [PtyTrace.step, result]
    apply invariant.ringChanged live.used
    · rw [incomingRing_setIncomingRing, if_pos rfl]
      exact ringSound
    · rw [incomingRing_setIncomingRing, if_neg (peerEndpoint_ne _)]
    · exact invariant.ordered.leave accounts
    · rw [incomingRing_setIncomingRing, if_pos rfl, dropped]
      exact accounts.leave
    · exact fun _ _ different before => before.leave_other different
    · exact fun _ _ => rfl

theorem write (handle : PtyHandle) (bytes : List UInt8) :
    PtyTraceInvariant (trace.step (.write handle bytes)) := by
  cases found : pairFromHandle trace.pairs handle with
  | none =>
    rw [PtyTrace.step, ptyWrite_invalid found]
    simp [*]
  | some pair =>
    rcases pairFromHandle_eq_some.mp found with ⟨live, rfl⟩
    by_cases gone : (trace.pairs handle.slot).refs (peerEndpoint handle.endpoint) = 0
    · rw [PtyTrace.step, ptyWrite_hup live gone]
      simp [*]
    have sound := invariant.rings handle.slot (peerEndpoint handle.endpoint) live.used
    have accounts := invariant.accounts handle.slot (peerEndpoint handle.endpoint) live.used
    rcases ptyWrite_spec live gone sound bytes with ⟨ring, ringSound, -, appended, result⟩
    have changed : ∀ pair, (∀ endpoint, incomingRing pair endpoint =
          incomingRing (setIncomingRing (trace.pairs handle.slot)
            (peerEndpoint handle.endpoint) ring) endpoint) →
        PtyTraceInvariant { trace with
          pairs := Function.update trace.pairs handle.slot pair
          streams := trace.streams.enter (trace.direction handle.slot (peerEndpoint handle.endpoint))
            (bytes.take (ptyWrite trace.pairs handle bytes).2.1) } := by
      intro pair rings
      apply invariant.ringChanged live.used
      · rw [rings, incomingRing_setIncomingRing, if_pos rfl]
        exact ringSound
      · rw [rings, incomingRing_setIncomingRing, if_neg (peerEndpoint_ne _)]
      · exact invariant.ordered.enter
      · rw [rings, incomingRing_setIncomingRing, if_pos rfl, appended]
        exact accounts.enter
      · exact fun _ _ different before => before.enter_other different
      · grind [Streams.enter_entered]
    rw [PtyTrace.step]
    by_cases nothing : (ptyWrite trace.pairs handle bytes).2.1 = 0
    · grind
    grind [wakeEndpoint_incomingRing]

theorem step (call : PtyCall) : PtyTraceInvariant (trace.step call) := by
  cases call with
  | createPair => exact invariant.createPair
  | retain handle => exact invariant.ringsKept (ptyRetain_ringsKept _ _)
  | close handle => exact invariant.ringsKept (ptyClose_ringsKept _ _)
  | read handle length => exact invariant.read handle length
  | write handle bytes => exact invariant.write handle bytes
  | poll handle => exact invariant
  | armReadWaiter handle pid => exact invariant.ringsKept (ptyArmReadWaiter_ringsKept _ _ _)
  | cancelReadWaiter handle pid => exact invariant.ringsKept (ptyCancelReadWaiter_ringsKept _ _ _)

end

end PtyTraceInvariant

theorem ptyTraceInitial_invariant : PtyTraceInvariant ptyTraceInitial := by
  refine ⟨fun _ _ impossible => ?_, fun _ => List.prefix_refl _, fun _ _ impossible => ?_, fun _ _ _ _ => rfl⟩
  · cases impossible
  · cases impossible

structure PtyStreamsExact (trace : PtyTrace) : Prop where
  /-- The bytes that reads returned are the beginning of those that writes accepted. -/
  ordered : ∀ direction, trace.streams.left direction <+: trace.streams.entered direction
  /-- For a live handle all others wait, whether or not the peer is still there. -/
  waiting : ∀ handle, HandleLive trace.pairs handle →
    trace.streams.entered (trace.direction handle.slot handle.endpoint) =
      trace.streams.left (trace.direction handle.slot handle.endpoint) ++
        trace.waiting handle.slot handle.endpoint
  /-- A read returns the first of the bytes that wait, as many as it asks for. -/
  next : ∀ handle length, HandleLive trace.pairs handle →
    (ptyRead trace.pairs handle length).2.1 =
      (trace.waiting handle.slot handle.endpoint).take length
  /-- The end of the stream is reported where the peer is gone and nothing waits. -/
  endOfFile : ∀ handle length, (ptyRead trace.pairs handle length).1 = .hup ↔
    HandleLive trace.pairs handle ∧ length ≠ 0 ∧
      (trace.pairs handle.slot).refs (peerEndpoint handle.endpoint) = 0 ∧
      trace.waiting handle.slot handle.endpoint = []
  poll : ∀ handle, HandleLive trace.pairs handle →
    ptyPoll trace.pairs handle =
      some ⟨decide (trace.waiting handle.slot handle.endpoint ≠ []),
        decide ((trace.pairs handle.slot).refs (peerEndpoint handle.endpoint) = 0)⟩
  /-- Neither list is ever rewritten. -/
  lasting : ∀ later direction,
    trace.streams.entered direction <+: (run PtyTrace.step trace later).streams.entered direction ∧
      trace.streams.left direction <+: (run PtyTrace.step trace later).streams.left direction
  /-- Whatever happens later, as long as the handle stays live on the same
  terminal: a byte that was accepted before has been returned or still waits. -/
  remaining : ∀ later handle, HandleLive (run PtyTrace.step trace later).pairs handle →
    (run PtyTrace.step trace later).incarnation handle.slot = trace.incarnation handle.slot →
    trace.streams.entered (trace.direction handle.slot handle.endpoint) <+:
      (run PtyTrace.step trace later).streams.left
          (trace.direction handle.slot handle.endpoint) ++
        (run PtyTrace.step trace later).waiting handle.slot handle.endpoint

theorem step_grows (call : PtyCall) (direction : PtyDirection) :
    trace.streams.entered direction <+: (trace.step call).streams.entered direction ∧
      trace.streams.left direction <+: (trace.step call).streams.left direction := by
  cases call with
  | createPair =>
    rw [PtyTrace.step]
    grind
  | read handle length => exact ⟨List.prefix_refl _, Streams.left_prefix_leave⟩
  | write handle bytes => exact ⟨Streams.entered_prefix_enter, List.prefix_refl _⟩
  | retain handle => exact ⟨List.prefix_refl _, List.prefix_refl _⟩
  | close handle => exact ⟨List.prefix_refl _, List.prefix_refl _⟩
  | poll handle => exact ⟨List.prefix_refl _, List.prefix_refl _⟩
  | armReadWaiter handle pid => exact ⟨List.prefix_refl _, List.prefix_refl _⟩
  | cancelReadWaiter handle pid => exact ⟨List.prefix_refl _, List.prefix_refl _⟩

theorem run_grows (later : List PtyCall) (direction : PtyDirection) : ∀ trace : PtyTrace,
    trace.streams.entered direction <+: (run PtyTrace.step trace later).streams.entered direction ∧
      trace.streams.left direction <+: (run PtyTrace.step trace later).streams.left direction := by
  induction later with
  | nil => simp
  | cons call rest ih =>
    intro trace
    rcases step_grows trace call direction with ⟨entered, left⟩
    rcases ih (trace.step call) with ⟨enteredLater, leftLater⟩
    exact ⟨entered.trans enteredLater, left.trans leftLater⟩

theorem PtyTraceInvariant.endOfFile {trace : PtyTrace} (invariant : PtyTraceInvariant trace)
    (handle : PtyHandle) (length : Nat) : (ptyRead trace.pairs handle length).1 = .hup ↔
      HandleLive trace.pairs handle ∧ length ≠ 0 ∧
        (trace.pairs handle.slot).refs (peerEndpoint handle.endpoint) = 0 ∧
        trace.waiting handle.slot handle.endpoint = [] := by
  cases found : pairFromHandle trace.pairs handle with
  | none =>
    rw [ptyRead_invalid found]
    grind [pairFromHandle_of_live]
  | some pair =>
    rcases pairFromHandle_eq_some.mp found with ⟨live, rfl⟩
    rcases ptyRead_spec live (invariant.rings _ _ live.used) length with ⟨_, -, -, result⟩
    rw [result]
    simp only [PtyTrace.waiting]
    constructor
    · intro isHup
      split at isHup
      · cases isHup
      simp_all
    simp_all

theorem PtyTraceInvariant.exact {trace : PtyTrace} (invariant : PtyTraceInvariant trace) :
    PtyStreamsExact trace where
  ordered := invariant.ordered
  waiting := fun handle live => invariant.accounts handle.slot handle.endpoint live.used
  next := by
    intro handle length live
    rcases ptyRead_spec live (invariant.rings _ _ live.used) length with ⟨_, -, -, result⟩
    rw [result]
    rfl
  endOfFile := invariant.endOfFile
  poll := by
    intro handle live
    rw [ptyPoll, pairFromHandle_of_live live, PtyTrace.waiting]
    simp only [ne_eq, PtyRing.contents_eq_nil]
  lasting := fun later direction => run_grows later direction trace
  remaining := by
    intro later handle live same
    have kept : ∀ trace call, PtyTraceInvariant trace → PtyTraceInvariant (trace.step call) :=
      fun _ call holds => holds.step call
    have after := run_invariant kept later trace invariant
    have accounts := after.accounts handle.slot handle.endpoint live.used
    rw [PtyTrace.direction, same] at accounts
    rw [PtyTrace.direction, ← accounts]
    exact (run_grows later _ trace).1

/-- After every sequence of calls, in each direction of each terminal the
bytes returned are the beginning of the bytes accepted, what is missing waits
in the ring, and the end is reported only behind the last byte. -/
theorem pty_streams_exact (calls : List PtyCall) :
    PtyStreamsExact (run PtyTrace.step ptyTraceInitial calls) := by
  have kept : ∀ trace call, PtyTraceInvariant trace → PtyTraceInvariant (trace.step call) :=
    fun _ call holds => holds.step call
  exact (run_invariant kept calls _ ptyTraceInitial_invariant).exact

end BoringOS.Pty
