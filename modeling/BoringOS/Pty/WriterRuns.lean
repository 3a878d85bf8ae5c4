import BoringOS.Pty.HolderSteps
import BoringOS.Pty.Writers

namespace BoringOS.Pty

open Library

/-!
# Runs of the writers

As long as every write finds the room that its loop needs, no program gives up
and every byte arrives once and in order.  A ring without that room makes the
loop of the source give up, although the reader would have made room.
-/

/-! ## The log -/

variable {log : List (Nat × List UInt8)} {chosen : Nat → Bool}

theorem loggedFor_append (log : List (Nat × List UInt8)) (chosen : Nat → Bool) (index : Nat)
    (bytes : List UInt8) :
    loggedFor (log ++ [(index, bytes)]) chosen =
      loggedFor log chosen ++ if chosen index = true then bytes else [] := by
  grind [loggedFor]

/-! ## The loops -/

/-- The next call of a loop gets on with what is left if the ring takes as much
as it has room for, and there is the room that the call needs. -/
structure WriteLoop.Sound (loop : WriteLoop) : Prop where
  nonempty : ∀ left, left ≠ [] → loop.chunk left ≠ []
  goesOn : ∀ (left : List UInt8) (room : Nat), left ≠ [] → loop.needs left ≤ room →
    0 < min (loop.chunk left).length room ∧
      ∃ next, loop.next left (.bytes (min (loop.chunk left).length room)) = some next ∧
        (loop.chunk left).take (min (loop.chunk left).length room) ++ next = left
  givesUp : ∀ left count, count < loop.needs left →
    loop.next left (.bytes count) = none ∧ loop.next left .ebusy = none
  shorter : ∀ left next count, loop.next left (.bytes count) = some next →
    (loop.chunk left).length ≤ boringSyscallFdIoMax →
    (loop.chunk next).length ≤ boringSyscallFdIoMax

theorem exactLoop_sound {chunkMax : Nat} (positive : 0 < chunkMax)
    (short : chunkMax ≤ boringSyscallFdIoMax) : (exactLoop chunkMax).Sound where
  nonempty left something nothing := by
    rcases List.take_eq_nil_iff.mp nothing with none | empty
    · exact absurd none (Nat.ne_of_gt positive)
    · exact something empty
  goesOn left room something needs := by
    have isLength : ((exactLoop chunkMax).chunk left).length = min left.length chunkMax := by
      rw [Nat.min_comm]
      exact List.length_take
    change min left.length chunkMax ≤ room at needs
    rw [isLength, Nat.min_eq_left needs]
    refine ⟨?_, left.drop chunkMax, if_pos rfl, ?_⟩
    · grind
    · change (left.take chunkMax).take (min left.length chunkMax) ++ left.drop chunkMax = left
      rw [List.take_of_length_le (by rw [List.length_take]; omega), List.take_append_drop]
  givesUp left count less := by
    constructor
    · refine if_neg fun same => ?_
      cases same
      exact Nat.lt_irrefl _ less
    rfl
  shorter left next count _ _ := by
    change (next.take chunkMax).length ≤ _
    rw [List.length_take]
    omega

theorem partialLoop_sound : partialLoop.Sound where
  nonempty left something := something
  goesOn left room something needs := by
    have length : 0 < left.length := List.length_pos_iff.mpr something
    change 1 ≤ room at needs
    change 0 < min left.length room ∧ ∃ next,
      (if min left.length room = 0 ∨ left.length < min left.length room then none
        else some (left.drop (min left.length room))) = some next ∧
      left.take (min left.length room) ++ next = left
    grind [List.take_append_drop]
  givesUp left count less := by
    exact ⟨if_pos (Or.inl (Nat.lt_one_iff.mp less)), rfl⟩
  shorter left next count goesOn short := by
    change (if count = 0 ∨ left.length < count then none else some (left.drop count)) = some next at goesOn
    by_cases refused : count = 0 ∨ left.length < count
    · simp_all
    rw [if_neg refused] at goesOn
    cases goesOn
    change (left.drop count).length ≤ _
    change left.length ≤ _ at short
    rw [List.length_drop]
    omega

theorem WriterProgram.loop_sound (program : WriterProgram) : program.loop.Sound := by
  cases program with
  | boringTerminal => exact partialLoop_sound
  | boringShell => exact exactLoop_sound (by decide) (by decide)
  | boringfetch => exact exactLoop_sound (by decide) (by decide)
  | cat => exact partialLoop_sound

/-! ## The invariant -/

/-- What holds of a session whose writers have found room -/
structure SessionInvariant (incarnation : Nat) (s : Session) : Prop where
  trace : PtyTraceInvariant s.trace
  isOpen : s.Open
  same : s.trace.incarnation s.slot = incarnation
  entered : ∀ endpoint, s.trace.streams.entered (s.slot, incarnation, endpoint) =
    s.sentTowards endpoint
  goesOn : ∀ index, (s.writers index).failed = false
  taken : ∀ index, (s.writers index).setOut = s.sentBy index ++ (s.writers index).left
  short : ∀ index, ((s.writers index).program.loop.chunk (s.writers index).left).length ≤
    boringSyscallFdIoMax

variable {s : Session} {incarnation : Nat}

theorem Session.Open.live (isOpen : s.Open) (endpoint : PtyEndpoint) :
    HandleLive s.trace.pairs (s.handle endpoint) := by
  rcases Option.isSome_iff_exists.mp (isOpen endpoint) with ⟨pair, found⟩
  exact (pairFromHandle_eq_some.mp found).1

theorem SessionInvariant.served (invariant : SessionInvariant incarnation s) : Served s where
  goesOn := invariant.goesOn
  taken := invariant.taken
  inOrder endpoint := by
    rw [← invariant.entered endpoint, ← invariant.same]
    exact (invariant.trace.accounts s.slot endpoint (invariant.isOpen.live endpoint).used).symm

/-! ## Steps -/

/-- Another call leaves the incarnation of a pair in use alone, and what was written to it. -/
theorem otherCall_kept {trace : PtyTrace} {slot : Nat} (used : (trace.pairs slot).used = true)
    (call : PtyCall) (apart : ∀ handle bytes, call = .write handle bytes → handle.slot ≠ slot) :
    (trace.step call).incarnation slot = trace.incarnation slot ∧
      ∀ number endpoint, (trace.step call).streams.entered (slot, number, endpoint) =
        trace.streams.entered (slot, number, endpoint) := by
  cases call with
  | createPair =>
    cases found : findUnusedPair trace.pairs with
    | none =>
      simp_all [PtyTrace.step, ptyCreatePair]
    | some index =>
      have unused := List.find?_some found
      have different : slot ≠ index := by
        rintro rfl
        rw [used] at unused
        cases unused
      simp only [PtyTrace.step, ptyCreatePair, found]
      simp [*]
  | write handle bytes =>
    refine ⟨rfl, fun number endpoint => ?_⟩
    have elsewhere := apart handle bytes rfl
    simp only [PtyTrace.step]
    rw [Streams.enter_entered, if_neg]
    intro same
    exact elsewhere (congrArg Prod.fst same).symm
  | read handle length => exact ⟨rfl, fun _ _ => rfl⟩
  | retain handle => exact ⟨rfl, fun _ _ => rfl⟩
  | close handle => exact ⟨rfl, fun _ _ => rfl⟩
  | poll handle => exact ⟨rfl, fun _ _ => rfl⟩
  | armReadWaiter handle pid => exact ⟨rfl, fun _ _ => rfl⟩
  | cancelReadWaiter handle pid => exact ⟨rfl, fun _ _ => rfl⟩

theorem call_invariant (invariant : SessionInvariant incarnation s) (call : PtyCall)
    (open_ : StaysOpen s (.call call)) : SessionInvariant incarnation (s.step (.call call)) := by
  have used := (invariant.isOpen.live .master).used
  have kept := otherCall_kept used call (by
    rintro handle bytes rfl
    exact open_.2)
  refine ⟨invariant.trace.step call, open_.1, ?_, fun endpoint => ?_, invariant.goesOn,
    invariant.taken, invariant.short⟩
  · exact kept.1.trans invariant.same
  · exact (kept.2 incarnation endpoint).trans (invariant.entered endpoint)

/-- One writer gets on with its loop, and keeps its program. -/
theorem sentTowards_update {trace : PtyTrace} {index : Nat} {writer : Writer}
    (same : writer.program = (s.writers index).program) (log : List (Nat × List UInt8))
    (endpoint : PtyEndpoint) :
    Session.sentTowards
      { s with
        trace := trace
        writers := Function.update s.writers index writer
        log := log } endpoint =
      loggedFor log fun other => (s.writers other).program.endpoint == peerEndpoint endpoint := by
  have programs : ∀ other, (Function.update s.writers index writer other).program =
      (s.writers other).program := by
    intro other
    rw [Function.update_apply]
    split
    · grind
    · rfl
  unfold Session.sentTowards
  simp only [programs]

theorem beginWrite_invariant (invariant : SessionInvariant incarnation s) (index : Nat)
    (bytes : List UInt8) (open_ : StaysOpen s (.begin index bytes)) :
    SessionInvariant incarnation (s.step (.begin index bytes)) := by
  change SessionInvariant incarnation (s.beginWrite index bytes)
  unfold Session.beginWrite
  by_cases busy : (s.writers index).failed = true ∨ (s.writers index).left ≠ []
  · rw [if_pos busy]
    exact invariant
  rw [if_neg busy]
  rw [not_or, not_not] at busy
  refine ⟨invariant.trace, invariant.isOpen, invariant.same, fun endpoint => ?_, fun other => ?_,
    fun other => ?_, fun other => ?_⟩
  · have unchanged := @sentTowards_update s s.trace index
      { s.writers index with
        left := bytes
        setOut := (s.writers index).setOut ++ bytes } rfl s.log endpoint
    exact (invariant.entered endpoint).trans unchanged.symm
  · simp only [Function.update_apply]
    split
    · exact invariant.goesOn index
    · exact invariant.goesOn other
  · have before := invariant.taken other
    simp only [Function.update_apply]
    split
    · rename_i isIt
      rw [isIt, busy.2, List.append_nil] at before
      rw [before, isIt]
      rfl
    · exact before
  · simp only [Function.update_apply]
    split
    · exact open_.2
    · exact invariant.short other

/-- A write takes what there is room for, and would block if that is nothing. -/
theorem ptyWrite_taken {pairs : PtyPairs} {handle : PtyHandle} (live : HandleLive pairs handle)
    (present : (pairs handle.slot).refs (peerEndpoint handle.endpoint) ≠ 0)
    (sound : RingSound (incomingRing (pairs handle.slot) (peerEndpoint handle.endpoint)))
    (bytes : List UInt8) :
    (ptyWrite pairs handle bytes).2.1 = min bytes.length (kernelPtyRingCapacity -
        (incomingRing (pairs handle.slot) (peerEndpoint handle.endpoint)).count) ∧
      (ptyWrite pairs handle bytes).1 =
        if (ptyWrite pairs handle bytes).2.1 = 0 then .wouldBlock else .ok := by
  rcases ptyWrite_spec live present sound bytes with ⟨ring, _, transferred, _, result⟩
  grind

/-- The room in the ring that a writer writes to -/
def Session.room (s : Session) (index : Nat) : Nat :=
  kernelPtyRingCapacity - (s.waiting (peerEndpoint (s.writers index).program.endpoint)).length

/-- How many bytes of its next chunk the ring takes from a writer -/
def Session.taken (s : Session) (index : Nat) : Nat :=
  min ((s.writers index).program.loop.chunk (s.writers index).left).length (s.room index)

variable {index : Nat}

/-- The system call for the next chunk of a writer -/
theorem syscallFdWritePty_eq (invariant : SessionInvariant incarnation s)
    (something : (s.writers index).left ≠ []) :
    syscallFdWritePty s.trace (s.handle (s.writers index).program.endpoint)
        ((s.writers index).program.loop.chunk (s.writers index).left) =
      (if s.taken index = 0 then .ebusy else .bytes (s.taken index), s.taken index,
        s.trace.step (.write (s.handle (s.writers index).program.endpoint)
          ((s.writers index).program.loop.chunk (s.writers index).left))) ∧
      (ptyWrite s.trace.pairs (s.handle (s.writers index).program.endpoint)
        ((s.writers index).program.loop.chunk (s.writers index).left)).2.1 = s.taken index := by
  have sound := (s.writers index).program.loop_sound
  have live := invariant.isOpen.live (s.writers index).program.endpoint
  have peer := invariant.isOpen.live (peerEndpoint (s.writers index).program.endpoint)
  have ringSound := invariant.trace.rings s.slot (peerEndpoint (s.writers index).program.endpoint) live.used
  rcases ptyWrite_taken live peer.referenced ringSound
    ((s.writers index).program.loop.chunk (s.writers index).left) with ⟨transferred, result⟩
  have isTaken : (ptyWrite s.trace.pairs (s.handle (s.writers index).program.endpoint)
      ((s.writers index).program.loop.chunk (s.writers index).left)).2.1 = s.taken index := by
    unfold Session.taken Session.room Session.waiting PtyTrace.waiting
    rw [PtyRing.contents_length]
    exact transferred
  unfold syscallFdWritePty
  rw [if_neg (Nat.not_lt.mpr (invariant.short index)),
    if_neg fun none => sound.nonempty _ something (List.length_eq_zero_iff.mp none)]
  grind

/-- The session after a write that went on -/
def Session.afterWrite (s : Session) (index : Nat) (next : List UInt8) : Session :=
  { s with
    trace := s.trace.step (.write (s.handle (s.writers index).program.endpoint)
      ((s.writers index).program.loop.chunk (s.writers index).left))
    writers := Function.update s.writers index { s.writers index with left := next }
    log := s.log ++
      [(index, ((s.writers index).program.loop.chunk (s.writers index).left).take (s.taken index))] }

/-- A write that finds room goes on, and the ring takes the beginning of its chunk. -/
theorem write_room (invariant : SessionInvariant incarnation s)
    (something : (s.writers index).left ≠ []) (room : FindsRoom s (.write index)) :
    ∃ next, s.write index = s.afterWrite index next ∧
      (s.writers index).program.loop.next (s.writers index).left (.bytes (s.taken index)) = some next ∧
      ((s.writers index).program.loop.chunk (s.writers index).left).take (s.taken index) ++ next =
        (s.writers index).left := by
  rcases syscallFdWritePty_eq invariant something with ⟨result, -⟩
  have needs : (s.writers index).program.loop.needs (s.writers index).left ≤ s.room index := by
    have fits := room something
    unfold Session.room
    omega
  rcases (s.writers index).program.loop_sound.goesOn _ _ something needs with
    ⟨positive, next, goesOn, whole⟩
  refine ⟨next, ?_, goesOn, whole⟩
  have notDone : ¬ ((s.writers index).failed = true ∨ (s.writers index).left = []) := by
    rw [invariant.goesOn index]
    exact fun either => either.elim Bool.false_ne_true something
  have taken : ¬ s.taken index = 0 := Nat.ne_of_gt positive
  change (s.writers index).program.loop.next (s.writers index).left (.bytes (s.taken index)) =
    some next at goesOn
  unfold Session.write
  simp only
  rw [if_neg notDone, result]
  simp only [if_neg taken, goesOn]
  rfl

/-- A writer that does not find the room that it needs gives up. -/
theorem write_without_room (invariant : SessionInvariant incarnation s)
    (noRoom : ¬ FindsRoom s (.write index)) : ((s.write index).writers index).failed = true := by
  unfold FindsRoom at noRoom
  rw [Classical.not_imp] at noRoom
  rcases noRoom with ⟨something, full⟩
  have live := invariant.isOpen.live (s.writers index).program.endpoint
  have bound : (s.waiting (peerEndpoint (s.writers index).program.endpoint)).length ≤
      kernelPtyRingCapacity := by
    unfold Session.waiting PtyTrace.waiting
    rw [PtyRing.contents_length]
    exact (invariant.trace.rings s.slot _ live.used).countLe
  have less : s.taken index < (s.writers index).program.loop.needs (s.writers index).left := by
    unfold Session.taken Session.room
    omega
  have givesUp := (s.writers index).program.loop_sound.givesUp _ _ less
  rcases syscallFdWritePty_eq invariant something with ⟨result, -⟩
  have notDone : ¬ ((s.writers index).failed = true ∨ (s.writers index).left = []) := by
    rw [invariant.goesOn index]
    exact fun either => either.elim Bool.false_ne_true something
  unfold Session.write
  simp only
  rw [if_neg notDone, result]
  simp only [Function.update_self]
  split
  · grind
  · rfl

/-! ## Writing keeps a pair open -/

theorem ptyWrite_live {pairs : PtyPairs} {handle other : PtyHandle} (live : HandleLive pairs other)
    (bytes : List UInt8) : HandleLive (ptyWrite pairs handle bytes).2.2.2 other := by
  have kept : ∀ pair : PtyPair, pair.used = (pairs handle.slot).used →
      pair.generation = (pairs handle.slot).generation → pair.refs = (pairs handle.slot).refs →
      HandleLive (Function.update pairs handle.slot pair) other := by
    intro pair used generation refs
    by_cases same : other.slot = handle.slot
    · refine ⟨live.slotInside, live.generation, ?_, ?_, ?_⟩
      all_goals rw [same, Function.update_self]
      · rw [used, ← same]
        exact live.used
      · rw [generation, ← same]
        exact live.sameGeneration
      · rw [refs, ← same]
        exact live.referenced
    · refine ⟨live.slotInside, live.generation, ?_, ?_, ?_⟩
      all_goals rw [Function.update_of_ne same]
      · exact live.used
      · exact live.sameGeneration
      · exact live.referenced
  have woken : ∀ pair endpoint, (wakeEndpoint pair endpoint).2.used = pair.used ∧
      (wakeEndpoint pair endpoint).2.generation = pair.generation ∧
      (wakeEndpoint pair endpoint).2.refs = pair.refs := by
    intro pair endpoint
    unfold wakeEndpoint
    simp only
    split
    · exact ⟨rfl, rfl, rfl⟩
    · exact ⟨rfl, rfl, rfl⟩
  unfold ptyWrite
  cases found : pairFromHandle pairs handle with
  | none => exact live
  | some pair =>
    rcases pairFromHandle_eq_some.mp found with ⟨-, rfl⟩
    simp only [outgoingRing_eq, setOutgoingRing_eq]
    split
    · exact live
    split
    · simp [*]
    simp [*]

theorem write_open (isOpen : s.Open) (index : Nat) : (s.write index).Open := by
  intro endpoint
  have live := isOpen.live endpoint
  have still : HandleLive (s.write index).trace.pairs ((s.write index).handle endpoint) := by
    unfold Session.write
    simp only
    split
    · exact live
    unfold syscallFdWritePty
    split
    · exact live
    split
    · exact live
    · exact ptyWrite_live live _
  rw [pairFromHandle_of_live still]
  rfl

/-- The bytes that the ring takes from a writer wait for the reader, behind all others. -/
theorem sentTowards_afterWrite (s : Session) (index : Nat) (next : List UInt8) (endpoint : PtyEndpoint) :
    (s.afterWrite index next).sentTowards endpoint = s.sentTowards endpoint ++
      if endpoint = peerEndpoint (s.writers index).program.endpoint then
        ((s.writers index).program.loop.chunk (s.writers index).left).take (s.taken index)
      else [] := by
  have sent := @sentTowards_update s (s.trace.step (.write (s.handle
      (s.writers index).program.endpoint) ((s.writers index).program.loop.chunk
        (s.writers index).left))) index { s.writers index with left := next } rfl
    (s.log ++ [(index, ((s.writers index).program.loop.chunk
      (s.writers index).left).take (s.taken index))]) endpoint
  refine sent.trans ?_
  rw [loggedFor_append]
  by_cases towards : endpoint = peerEndpoint (s.writers index).program.endpoint
  · rw [if_pos towards, if_pos]
    · rfl
    simp [*]
  rw [if_neg towards, if_neg]
  · rfl
  · rw [beq_iff_eq]
    intro same
    simp_all

theorem afterWrite_invariant (invariant : SessionInvariant incarnation s)
    {next : List UInt8} (something : (s.writers index).left ≠ [])
    (open_ : (s.afterWrite index next).Open)
    (goesOn : (s.writers index).program.loop.next (s.writers index).left (.bytes (s.taken index)) = some next)
    (whole : ((s.writers index).program.loop.chunk (s.writers index).left).take (s.taken index) ++
      next = (s.writers index).left) : SessionInvariant incarnation (s.afterWrite index next) := by
  refine ⟨?_, open_, invariant.same, fun endpoint => ?_, fun other => ?_, fun other => ?_, fun other => ?_⟩
  · change PtyTraceInvariant (s.trace.step (.write _ _))
    exact invariant.trace.step _
  · rw [sentTowards_afterWrite, ← invariant.entered endpoint]
    have entered := @Streams.enter_entered _ _ _ s.trace.streams
      (s.trace.direction s.slot (peerEndpoint (s.writers index).program.endpoint))
      (s.slot, incarnation, endpoint)
      (((s.writers index).program.loop.chunk (s.writers index).left).take
        (ptyWrite s.trace.pairs (s.handle (s.writers index).program.endpoint)
          ((s.writers index).program.loop.chunk (s.writers index).left)).2.1)
    refine entered.trans ?_
    rw [(syscallFdWritePty_eq invariant something).2]
    by_cases towards : endpoint = peerEndpoint (s.writers index).program.endpoint
    · rw [if_pos (by rw [towards, PtyTrace.direction, invariant.same]), if_pos towards,
        PtyTrace.direction, invariant.same, ← towards]
    · rw [if_neg fun same => towards (congrArg (fun direction => direction.2.2) same),
        if_neg towards, List.append_nil]
  · simp only [Session.afterWrite, Function.update_apply]
    split
    · exact invariant.goesOn index
    · exact invariant.goesOn other
  · have before := invariant.taken other
    unfold Session.sentBy Session.afterWrite
    rw [loggedFor_append]
    simp only [Function.update_apply]
    by_cases isIt : other = index
    · rw [isIt] at before ⊢
      rw [if_pos rfl, if_pos (beq_self_eq_true index), List.append_assoc, whole]
      exact before
    · rw [if_neg isIt, if_neg (by rw [beq_iff_eq]; exact Ne.symm isIt), List.append_nil]
      exact before
  · simp only [Session.afterWrite, Function.update_apply]
    split
    · exact (s.writers index).program.loop_sound.shorter _ _ _ goesOn (invariant.short index)
    · exact invariant.short other

theorem write_invariant (invariant : SessionInvariant incarnation s) (index : Nat)
    (room : FindsRoom s (.write index)) : SessionInvariant incarnation (s.write index) := by
  by_cases something : (s.writers index).left = []
  · simp_all [Session.write]
  rcases write_room invariant something room with ⟨next, isNext, goesOn, whole⟩
  have stillOpen := write_open invariant.isOpen index
  simp_all [afterWrite_invariant]

theorem step_invariant (s : Session) (event : SessionEvent) (invariant : SessionInvariant incarnation s)
    (admitted : StaysOpen s event ∧ FindsRoom s event) :
    SessionInvariant incarnation (s.step event) := by
  cases event with
  | begin index bytes => exact beginWrite_invariant invariant index bytes admitted.1
  | write index => exact write_invariant invariant index admitted.2
  | call call => exact call_invariant invariant call admitted.1

/-! ## Runs -/

/-- A new pair is open, and nothing has been written to it. -/
theorem openSession_invariant {calls : List PtyCall} {programs : Nat → WriterProgram}
    (opened : openSession calls programs = some s) :
    SessionInvariant (s.trace.incarnation s.slot) s := by
  have before : PtyTraceInvariant (run PtyTrace.step ptyTraceInitial calls) :=
    run_invariant (fun _ call holds => holds.step call) calls _ ptyTraceInitial_invariant
  unfold openSession at opened
  cases found : findUnusedPair (run PtyTrace.step ptyTraceInitial calls).pairs with
  | none =>
    grind [ptyCreatePair]
  | some index =>
    have inside : index < kernelPtyMax := List.mem_range.mp (List.mem_of_find?_eq_some found)
    have after := before.step .createPair
    simp only [PtyTrace.step, ptyCreatePair, found] at opened after
    cases opened
    refine ⟨after, fun endpoint => ?_, rfl, fun endpoint => ?_, fun _ => rfl, fun _ => rfl,
      fun writer => ?_⟩
    · apply Option.isSome_iff_exists.mpr
      refine ⟨_, pairFromHandle_of_live ⟨inside, nextGeneration_ne_zero _, ?_, ?_, ?_⟩⟩
      all_goals simp only [Session.handle, Function.update_self]
      exact Nat.one_ne_zero
    · simp only [Function.update_self]
      exact before.future index _ endpoint (Nat.lt_succ_self _)
    · have none : (programs writer).loop.chunk [] = [] := by
        cases programs writer with
        | boringTerminal => rfl
        | boringShell => rfl
        | boringfetch => rfl
        | cat => rfl
      simp [*]

/-- While both ends are open and every write finds room, no writer gives up, and
all bytes are delivered once and in order. -/
theorem writers_served {calls : List PtyCall} {programs : Nat → WriterProgram}
    (opened : openSession calls programs = some s) (events : List SessionEvent)
    (admitted : Respects Session.step (fun state event => StaysOpen state event ∧
      FindsRoom state event) s events) : Served (run Session.step s events) :=
  (run_invariant_of_respects step_invariant events s (openSession_invariant opened) admitted).served

/-! ## A full ring -/

/-- Writer 0 is the terminal, writer 1 the shell, and all others are `boringfetch`. -/
def threePrograms (index : Nat) : WriterProgram :=
  if index = 0 then .boringTerminal else if index = 1 then .boringShell else .boringfetch

/-- The session of a new pair -/
def firstSession : Session := (openSession [] threePrograms).get rfl

theorem openSession_first : openSession [] threePrograms = some firstSession :=
  (Option.some_get _).symm

instance (s : Session) : Decidable s.Open :=
  decidable_of_iff ((pairFromHandle s.trace.pairs (s.handle .master)).isSome = true ∧
    (pairFromHandle s.trace.pairs (s.handle .slave)).isSome = true)
    ⟨fun both endpoint => match endpoint with
      | .master => both.1
      | .slave => both.2, fun all => ⟨all .master, all .slave⟩⟩

instance (s : Session) : (event : SessionEvent) → Decidable (StaysOpen s event)
  | .begin _ _ => inferInstanceAs (Decidable (_ ∧ _))
  | .write _ => inferInstanceAs (Decidable (_ ∧ True))
  | .call call => by
      unfold StaysOpen
      cases call with
      | _ => infer_instance

instance (s : Session) : (event : SessionEvent) → Decidable (FindsRoom s event)
  | .begin _ _ => inferInstanceAs (Decidable True)
  | .write _ => inferInstanceAs (Decidable (_ → _))
  | .call _ => inferInstanceAs (Decidable True)

/-- The shell prints a prompt, the terminal sends a line, and both are read. -/
theorem writers_served_prompt :
    Served (run Session.step firstSession
      [.begin 1 [36, 32], .begin 0 [108, 115], .write 1, .write 0,
        .call (.read ⟨0, .master, 1⟩ 64), .call (.read ⟨0, .slave, 1⟩ 64)]) :=
  writers_served openSession_first _ (by decide +kernel)

/-- What waits for the reader after a write -/
theorem waiting_write (invariant : SessionInvariant incarnation s)
    (room : FindsRoom s (.write index)) (something : (s.writers index).left ≠ []) :
    (s.write index).waiting (peerEndpoint (s.writers index).program.endpoint) =
      s.waiting (peerEndpoint (s.writers index).program.endpoint) ++
        ((s.writers index).program.loop.chunk (s.writers index).left).take (s.taken index) := by
  have before := invariant.served.inOrder (peerEndpoint (s.writers index).program.endpoint)
  have after := (write_invariant invariant index room).served.inOrder
    (peerEndpoint (s.writers index).program.endpoint)
  rcases write_room invariant something room with ⟨next, isNext, -, -⟩
  rw [isNext] at after ⊢
  rw [sentTowards_afterWrite, if_pos rfl, ← before, List.append_assoc] at after
  exact List.append_cancel_left after

/-- A program that has nothing left starts to write a buffer. -/
theorem beginWrite_idle {index : Nat} {bytes : List UInt8}
    (idle : ¬ ((s.writers index).failed = true ∨ (s.writers index).left ≠ [])) :
    s.beginWrite index bytes =
      { s with
        writers := Function.update s.writers index
          { s.writers index with
            left := bytes
            setOut := (s.writers index).setOut ++ bytes } } := by
  unfold Session.beginWrite
  exact if_neg idle

/-- `boringfetch` sets out to write a buffer. -/
def fullWrite (bytes : List UInt8) : Session := firstSession.beginWrite 2 bytes

section FullRing

variable {bytes : List UInt8}

theorem fullWrite_writer : (fullWrite bytes).writers 2 = ⟨.boringfetch, bytes, false, bytes⟩ := by
  rfl

theorem fullWrite_waiting : (fullWrite bytes).waiting .master = [] := by
  rfl

variable (length : bytes.length = 4096)
include length

theorem fullWrite_ne_nil : ((fullWrite bytes).writers 2).left ≠ [] := by
  rw [fullWrite_writer]
  grind

theorem fullWrite_chunk : (WriterProgram.boringfetch.loop.chunk bytes).length = 4096 := by
  change (bytes.take boringSyscallFdIoMax).length = 4096
  rw [List.length_take, length]
  rfl

theorem fullWrite_staysOpen : StaysOpen firstSession (.begin 2 bytes) := by
  constructor
  · have isOpen : firstSession.Open := by decide +kernel
    assumption
  · change (WriterProgram.boringfetch.loop.chunk bytes).length ≤ boringSyscallFdIoMax
    rw [fullWrite_chunk length]
    exact Nat.le_refl _

theorem fullWrite_findsRoom : FindsRoom (fullWrite bytes) (.write 2) := by
  intro _
  rw [fullWrite_writer]
  change min bytes.length 4096 + ((fullWrite bytes).waiting .master).length ≤ 4096
  rw [fullWrite_waiting, length]
  exact Nat.le_refl _

theorem fullWrite_taken : (fullWrite bytes).taken 2 = 4096 := by
  unfold Session.taken Session.room
  rw [fullWrite_writer]
  change min (WriterProgram.boringfetch.loop.chunk bytes).length
    (4096 - ((fullWrite bytes).waiting .master).length) = 4096
  rw [fullWrite_waiting, fullWrite_chunk length]
  rfl

/-- The chunk of `boringfetch` fills the ring. -/
theorem fullWrite_fills (invariant : SessionInvariant incarnation (fullWrite bytes)) :
    (((fullWrite bytes).write 2).waiting .master).length = 4096 := by
  have waits := waiting_write invariant (fullWrite_findsRoom length) (fullWrite_ne_nil length)
  rw [fullWrite_taken length, fullWrite_writer] at waits
  change ((fullWrite bytes).write 2).waiting .master = (fullWrite bytes).waiting .master ++
    (WriterProgram.boringfetch.loop.chunk bytes).take 4096 at waits
  rw [waits, fullWrite_waiting, List.nil_append, List.length_take, fullWrite_chunk length]
  rfl

/-- The shell has not written yet. -/
theorem fullWrite_shell (invariant : SessionInvariant incarnation (fullWrite bytes)) :
    ((fullWrite bytes).write 2).writers 1 = ⟨.boringShell, [], false, []⟩ := by
  rcases write_room invariant (fullWrite_ne_nil length) (fullWrite_findsRoom length) with ⟨next, isNext, -, -⟩
  rw [isNext, Session.afterWrite]
  rfl

end FullRing

/-- `boringfetch` fills the ring, and the shell gives up on a single byte. -/
theorem full_ring_fails :
    ¬ ∀ (calls : List PtyCall) (programs : Nat → WriterProgram) (start : Session)
      (events : List SessionEvent), openSession calls programs = some start →
      Respects Session.step StaysOpen start events → Served (run Session.step start events) := by
  intro served
  rcases (⟨List.replicate 4096 32, List.length_replicate⟩ :
    ∃ bytes : List UInt8, bytes.length = 4096) with ⟨bytes, length⟩
  have atStart := openSession_invariant openSession_first
  have began : SessionInvariant _ (fullWrite bytes) :=
    beginWrite_invariant atStart 2 bytes (fullWrite_staysOpen length)
  have wrote := write_invariant began 2 (fullWrite_findsRoom length)
  have shell := fullWrite_shell length began
  have isPrompt := @beginWrite_idle ((fullWrite bytes).write 2) 1 [36] (by rw [shell]; decide)
  have prompt : StaysOpen ((fullWrite bytes).write 2) (.begin 1 [36]) := by
    constructor
    · change (((fullWrite bytes).write 2).beginWrite 1 [36]).Open
      rw [isPrompt]
      exact wrote.isOpen
    · change ((((fullWrite bytes).write 2).writers 1).program.loop.chunk [36]).length ≤ _
      rw [shell]
      decide
  have prompted := beginWrite_invariant wrote 1 [36] prompt
  have noRoom : ¬ FindsRoom (((fullWrite bytes).write 2).beginWrite 1 [36]) (.write 1) := by
    rw [isPrompt]
    intro room
    unfold FindsRoom at room
    simp only [Function.update_self, shell] at room
    have room := room (List.cons_ne_nil _ _)
    change 1 + (((fullWrite bytes).write 2).waiting .master).length ≤ 4096 at room
    rw [fullWrite_fills length began] at room
    omega
  have failed := write_without_room prompted noRoom
  have goesOn := (served [] threePrograms firstSession
    [.begin 2 bytes, .write 2, .begin 1 [36], .write 1] openSession_first
    ⟨fullWrite_staysOpen length, ⟨wrote.isOpen, trivial⟩, prompt,
      ⟨write_open prompted.isOpen 1, trivial⟩, trivial⟩).goesOn 1
  exact Bool.false_ne_true (goesOn.symm.trans failed)

end BoringOS.Pty
