import BoringOS.Library.Run
import BoringOS.Pty.ReaderSteps

namespace BoringOS.Pty

open Library

/-!
# Wake-ups

An endpoint has one waiter on record.  As long as no task starts to wait for
an endpoint for which another task is blocked, every blocked task is on record
for all its endpoints, and whoever writes to one of them or closes its peer
wakes it.  Where two tasks share an endpoint through inherited descriptors,
the second one replaces the first on record, and the first is not woken.
-/

variable {system : PtySystem} {locals : PtyEndpoint → Option PtyHandle} {pid fd : Nat}
  {handle : PtyHandle}

/-- Nothing is there to read, and the peer is present. -/
def ptyIdle (pairs : PtyPairs) (handle : PtyHandle) : Bool :=
  (incomingRing (pairs handle.slot) handle.endpoint).count == 0 &&
    (pairs handle.slot).refs (peerEndpoint handle.endpoint) != 0

theorem ptyIdle_iff {pairs : PtyPairs} : ptyIdle pairs handle = true ↔
    (incomingRing (pairs handle.slot) handle.endpoint).count = 0 ∧
      (pairs handle.slot).refs (peerEndpoint handle.endpoint) ≠ 0 := by
  rw [ptyIdle, Bool.and_eq_true, beq_iff_eq, bne_iff_ne]

/-- The endpoints that a process watches through the given descriptors -/
def watchedHandles (system : PtySystem) (pid : Nat) (watches : List Nat) : List PtyHandle :=
  watches.filterMap fun fd => kernelFdPtySlot system pid fd vfsAccessRead

/-- The endpoint for which a read is about to wait -/
def readWaitsFor (system : PtySystem) (pid fd capacity : Nat) : List PtyHandle :=
  if capacity = 0 then [] else (watchedHandles system pid [fd]).filter (ptyIdle system.pairs)

/-- The endpoints for which an event wait is about to wait: all that it
watches, if none of its watches is ready -/
def eventsWaitFor (system : PtySystem) (pid : Nat) (watches : List Nat) (others : Option Nat) :
    List PtyHandle :=
  if others = some 0 ∧ (watchedHandles system pid watches).all (ptyIdle system.pairs) = true then
    watchedHandles system pid watches
  else []

/-- The endpoints for which a call is about to wait -/
def PtySystem.startsWaiting (system : PtySystem) : PtySystemCall → List PtyHandle
  | .read pid fd capacity _ => readWaitsFor system pid fd capacity
  | .eventWait pid watches others query _ =>
    if query then [] else eventsWaitFor system pid watches others
  | .resume pid others _ =>
    match (system.processes pid).task with
    | .woken (.read fd capacity) => readWaitsFor system pid fd capacity
    | .woken (.events watches) => eventsWaitFor system pid watches others
    | _ => []
  | _ => []

/-- The call does not start to wait for an endpoint for which a task is blocked. -/
def WaitsAlone (system : PtySystem) (call : PtySystemCall) : Prop :=
  ∀ handle ∈ system.startsWaiting call, ∀ pid < system.nextPid, handle ∉ system.awaited pid

/-! ## What only touches the record -/

/-- Nothing but the waiters on record changes. -/
structure OnlyRecords (system next : PtySystem) : Prop where
  processes : next.processes = system.processes
  nextPid : next.nextPid = system.nextPid
  refs : ∀ slot, (next.pairs slot).refs = (system.pairs slot).refs
  rings : ∀ slot endpoint,
    incomingRing (next.pairs slot) endpoint = incomingRing (system.pairs slot) endpoint

namespace OnlyRecords

variable {next : PtySystem}

theorem refl (system : PtySystem) : OnlyRecords system system :=
  ⟨rfl, rfl, fun _ => rfl, fun _ _ => rfl⟩

theorem trans {third : PtySystem} (before : OnlyRecords system next)
    (after : OnlyRecords next third) : OnlyRecords system third :=
  ⟨after.processes.trans before.processes, after.nextPid.trans before.nextPid,
    fun slot => (after.refs slot).trans (before.refs slot),
    fun slot endpoint => (after.rings slot endpoint).trans (before.rings slot endpoint)⟩

section

variable (only : OnlyRecords system next)
include only

theorem awaited (pid : Nat) : next.awaited pid = system.awaited pid :=
  awaited_congr (congrFun only.processes pid)

theorem ptySlot (pid fd access : Nat) :
    kernelFdPtySlot next pid fd access = kernelFdPtySlot system pid fd access := by
  rw [kernelFdPtySlot, kernelFdPtySlot, only.processes]

theorem idle (handle : PtyHandle) : ptyIdle next.pairs handle = ptyIdle system.pairs handle := by
  rw [ptyIdle, ptyIdle, only.refs, only.rings]

theorem acting (acts : Acting system pid) : Acting next pid := by
  refine ⟨?_, fun wait => ?_⟩
  · rw [only.nextPid]
    exact acts.created
  · rw [only.processes]
    exact acts.notBlocked wait

end

end OnlyRecords

theorem kernelFdPtySlot_eq_some {access : Nat} (found : kernelFdPtySlot system pid fd access = some handle) :
    ((system.processes pid).fdTable fd).handle = some handle := by
  rw [kernelFdPtySlot] at found
  split at found
  · cases found
  split at found
  · rename_i isPty
    split at found
    · cases found
    · rw [isPty]
      exact found
  · cases found

theorem cancel_onlyRecords (system : PtySystem) (pid fd : Nat) :
    OnlyRecords system (kernelFdCancelPtyWaiter system pid fd) := by
  rw [kernelFdCancelPtyWaiter]
  split
  · exact OnlyRecords.refl _
  split
  · rw [ptyCancelReadWaiter]
    split
    · exact OnlyRecords.refl _
    rename_i pair found
    rcases pairFromHandle_eq_some.mp found with ⟨-, rfl⟩
    split
    · refine ⟨rfl, rfl, fun slot => ?_, fun slot endpoint => ?_⟩
      · grind
      · dsimp only
        rw [Function.update_apply]
        split
        · rename_i here
          rw [here]
          cases endpoint <;> rfl
        · rfl
    · exact OnlyRecords.refl _
  · exact OnlyRecords.refl _

theorem cancelFdWatches_onlyRecords (pid : Nat) (watches : List Nat) : ∀ system : PtySystem,
    OnlyRecords system (cancelFdWatches system pid watches) := by
  induction watches with
  | nil => exact fun system => OnlyRecords.refl system
  | cons fd rest ih => exact fun system => (cancel_onlyRecords system pid fd).trans (ih _)

namespace SystemSound

theorem kernelFdCancelPtyWaiter (sound : SystemSound system locals) (acting : Acting system pid)
    (fd : Nat) : SystemSound (Pty.kernelFdCancelPtyWaiter system pid fd) locals := by
  rw [Pty.kernelFdCancelPtyWaiter]
  split
  · exact sound
  split
  · refine sound.withPairs (sound.table.cancel _ fun other isWaiting => ?_)
    rw [awaited_of_acting acting] at isWaiting
    exact List.not_mem_nil isWaiting
  · exact sound

theorem cancelFdWatches (watches : List Nat) :
    ∀ {system : PtySystem}, SystemSound system locals → Acting system pid →
      SystemSound (Pty.cancelFdWatches system pid watches) locals := by
  induction watches with
  | nil => exact fun sound _ => sound
  | cons fd rest ih =>
    intro system sound acting
    exact ih (sound.kernelFdCancelPtyWaiter acting fd) ((cancel_onlyRecords system pid fd).acting acting)

/-- A process goes on record for one of its descriptors. -/
theorem kernelFdArmPtyWaiter (sound : SystemSound system locals) (acting : Acting system pid)
    (isSlot : kernelFdPtySlot system pid fd vfsAccessRead = some handle)
    (alone : ∀ other, handle ∉ system.awaited other) :
    ∃ armed, Pty.kernelFdArmPtyWaiter system pid fd = (.ok, armed) ∧
      SystemSound armed locals ∧ OnlyRecords system armed ∧
      (armed.pairs handle.slot).readWaiterPid handle.endpoint = pid ∧
      ∀ slot endpoint, (system.pairs slot).readWaiterPid endpoint = pid →
        (armed.pairs slot).readWaiterPid endpoint = pid := by
  have holds : system.held locals (.inl (pid, fd)) = some handle := kernelFdPtySlot_eq_some isSlot
  have live := sound.table.references.live holds
  have positive : pid ≠ 0 := Nat.pos_iff_ne_zero.mp acting.created.1
  rcases ptyArmReadWaiter_spec live positive with ⟨pairs, result, here, others, same⟩
  have table := sound.table.arm live pid alone
  rw [result] at table
  refine ⟨{ system with pairs := pairs }, ?_, sound.withPairs table, ?_, here, others⟩
  · rw [Pty.kernelFdArmPtyWaiter, isSlot]
    dsimp only
    rw [result]
  · exact ⟨rfl, rfl, fun slot => (same slot).2.2.1, fun slot => (same slot).2.2.2⟩

theorem armFdWatches (watches : List Nat) : ∀ {system : PtySystem},
    SystemSound system locals → Acting system pid →
    (∀ fd ∈ watches, ∃ handle, kernelFdPtySlot system pid fd vfsAccessRead = some handle ∧
      ∀ other, handle ∉ system.awaited other) →
    ∃ armed, Pty.armFdWatches system pid watches = (true, armed) ∧
      SystemSound armed locals ∧ OnlyRecords system armed ∧
      (∀ slot endpoint, (system.pairs slot).readWaiterPid endpoint = pid →
        (armed.pairs slot).readWaiterPid endpoint = pid) ∧
      ∀ fd ∈ watches, ∀ handle, kernelFdPtySlot system pid fd vfsAccessRead = some handle →
        (armed.pairs handle.slot).readWaiterPid handle.endpoint = pid := by
  induction watches with
  | nil =>
    intro system sound _ _
    exact ⟨system, rfl, sound, OnlyRecords.refl _, fun _ _ => id,
      fun _ impossible => absurd impossible List.not_mem_nil⟩
  | cons fd rest ih =>
    intro system sound acting alone
    rcases alone fd List.mem_cons_self with ⟨handle, isSlot, nobody⟩
    rcases sound.kernelFdArmPtyWaiter acting isSlot nobody with
      ⟨first, result, firstSound, only, here, kept⟩
    have aloneAgain : ∀ fd ∈ rest, ∃ handle, kernelFdPtySlot first pid fd vfsAccessRead = some handle ∧
          ∀ other, handle ∉ first.awaited other := by
      intro other member
      rcases alone other (List.mem_cons_of_mem fd member) with ⟨otherHandle, otherSlot, nobody⟩
      refine ⟨otherHandle, (only.ptySlot _ _ _).trans otherSlot, fun waiter => ?_⟩
      rw [only.awaited]
      exact nobody waiter
    rcases ih firstSound (only.acting acting) aloneAgain with
      ⟨armed, restResult, armedSound, onlyToo, keptToo, restHere⟩
    refine ⟨armed, ?_, armedSound, only.trans onlyToo,
      fun slot endpoint recorded => keptToo _ _ (kept _ _ recorded), fun other member => ?_⟩
    · rw [Pty.armFdWatches, result]
      exact restResult
    · intro otherHandle otherSlot
      rcases List.mem_cons.mp member with rfl | inRest
      · simp_all
      · exact restHere other inRest otherHandle ((only.ptySlot _ _ _).trans otherSlot)

/-- A task is put to sleep while it waits for all of its endpoints. -/
theorem block (sound : SystemSound system locals) (acting : Acting system pid) {wait : PtyWait}
    (waits : ∀ fd ∈ wait.watches, ∀ handle,
      ((system.processes pid).fdTable fd).handle = some handle → Waiting system.pairs pid handle) :
    SystemSound (system.setTask pid (.blocked wait)) locals := by
  have created := acting.created
  have awaited' : ∀ other waited, waited ∈ (system.setTask pid (.blocked wait)).awaited other →
      waited ∈ system.awaited other ∨
        other = pid ∧ ∃ fd ∈ wait.watches, ((system.processes pid).fdTable fd).handle = some waited := by
    intro other waited isWaiting
    by_cases here : other = pid
    · rcases mem_awaited.mp isWaiting with ⟨otherWait, fd, isBlocked, watched, holds⟩
      grind [setTask_process]
    · grind [setTask_process, awaited_congr]
  refine ⟨?_, fun other otherFd => ?_, sound.started, fun other isFresh => ?_⟩
  · rw [held_setTask]
    refine ⟨sound.table.references, fun other waited isWaiting => ?_, fun other waited isWaiting => ?_⟩
    · rcases awaited' other waited isWaiting with before | ⟨rfl, fd, watched, holds⟩
      · exact sound.table.waits other waited before
      · exact waits fd watched waited holds
    · rcases awaited' other waited isWaiting with before | ⟨rfl, fd, watched, holds⟩
      · exact sound.table.holders other waited before
      · exact ⟨.inl (other, fd), holds⟩
  · rw [setTask_fdTable]
    exact sound.shaped other otherFd
  · have isFresh' : other = 0 ∨ system.nextPid ≤ other := isFresh
    rw [setTask_process, if_neg (by omega)]
    exact sound.fresh other isFresh

/-- A process that does not exist waits for nothing. -/
theorem awaited_of_fresh (sound : SystemSound system locals) {other : Nat}
    (isFresh : system.nextPid ≤ other) : system.awaited other = [] := by
  rw [PtySystem.awaited, sound.fresh other (Or.inr isFresh)]

theorem runOn (sound : SystemSound system locals) (acting : Acting system pid) :
    SystemSound (system.setTask pid .running) locals :=
  sound.setTask acting fun _ impossible => by cases impossible

/-! ## Reading -/

theorem kernelFdReadPty_wouldBlock {length : Nat} {bytes : List UInt8} {next : PtySystem}
    (result : Pty.kernelFdReadPty system pid fd length = (.wouldBlock, bytes, next)) :
    next = system ∧ length ≠ 0 ∧ ∃ handle, kernelFdPtySlot system pid fd vfsAccessRead = some handle ∧
        ptyIdle system.pairs handle = true := by
  rw [Pty.kernelFdReadPty] at result
  split at result
  · cases result
  rename_i handle isSlot
  cases read : ptyRead system.pairs handle length with
  | mk outcome rest =>
    rcases rest with ⟨read', pairs⟩
    rw [read] at result
    cases result
    rcases ptyRead_wouldBlock read with ⟨rfl, positive, -, nothing, peer⟩
    exact ⟨rfl, positive, handle, isSlot, ptyIdle_iff.mpr ⟨nothing, peer⟩⟩

theorem readPty (sound : SystemSound system locals) (acting : Acting system pid)
    (capacity : Nat) (canBlock : Bool) (alone : capacity ≠ 0 →
      ∀ handle, kernelFdPtySlot system pid fd vfsAccessRead = some handle →
        ptyIdle system.pairs handle = true → ∀ other, handle ∉ system.awaited other) :
    SystemSound (returnTo pid (Pty.readPty system pid fd capacity canBlock)) locals := by
  rcases sound.kernelFdReadPty pid fd capacity with ⟨readSound, kept⟩
  rw [Pty.readPty]
  split
  · rename_i bytes next result
    rw [result] at readSound kept
    exact readSound.runOn (kept.acting pid acting)
  · rename_i bytes next result
    rw [result] at readSound kept
    exact readSound.runOn (kept.acting pid acting)
  · rename_i bytes next result
    rcases kernelFdReadPty_wouldBlock result with ⟨rfl, positive, handle, isSlot, idle⟩
    rcases sound.kernelFdArmPtyWaiter acting isSlot (alone positive handle isSlot idle) with
      ⟨armed, armResult, armedSound, only, recorded, -⟩
    have armedActing := only.acting acting
    rcases armedSound.kernelFdReadPty pid fd capacity with ⟨againSound, keptAgain⟩
    have cancelled := againSound.kernelFdCancelPtyWaiter (keptAgain.acting pid armedActing) fd
    have cancelledActing : Acting (Pty.kernelFdCancelPtyWaiter
        (Pty.kernelFdReadPty armed pid fd capacity).2.2 pid fd) pid :=
      (cancel_onlyRecords _ pid fd).acting (keptAgain.acting pid armedActing)
    rw [armResult]
    dsimp only
    split
    · rename_i read again secondResult
      rcases kernelFdReadPty_wouldBlock secondResult with ⟨isArmed, -⟩
      rw [secondResult] at cancelled cancelledActing
      subst isArmed
      split
      · apply armedSound.block armedActing
        intro watched member waited holds
        rw [PtyWait.watches, List.mem_singleton] at member
        rw [member, only.processes, kernelFdPtySlot_eq_some isSlot] at holds
        cases holds
        rw [← only.idle, ptyIdle_iff] at idle
        exact ⟨Nat.pos_iff_ne_zero.mp acting.created.1, recorded, idle.1, idle.2⟩
      · exact cancelled.runOn cancelledActing
    · rename_i read again secondResult
      rw [secondResult] at cancelled cancelledActing
      exact cancelled.runOn cancelledActing
    · rename_i read again secondResult
      rw [secondResult] at cancelled cancelledActing
      exact cancelled.runOn cancelledActing
    · rename_i failure read again _ _ _ secondResult
      rw [secondResult] at cancelled cancelledActing
      exact cancelled.runOn cancelledActing
  · rename_i failure bytes next _ _ _ result
    rw [result] at readSound kept
    exact readSound.runOn (kept.acting pid acting)

/-! ## Waiting for events -/

theorem pollFdWatch_eq_false (polled : pollFdWatch system pid fd = some false) :
    ∃ handle, kernelFdPtySlot system pid fd vfsAccessRead = some handle ∧
      ptyIdle system.pairs handle = true := by
  rw [pollFdWatch] at polled
  split at polled
  · cases polled
  split at polled
  · split at polled
    · cases polled
    · rw [kernelFdPollPty] at polled
      cases isSlot : kernelFdPtySlot system pid fd vfsAccessRead with
      | none =>
        grind
      | some handle =>
        rw [isSlot] at polled
        refine ⟨handle, rfl, ?_⟩
        dsimp only at polled
        rw [ptyPoll] at polled
        cases found : pairFromHandle system.pairs handle with
        | none =>
          simp_all
        | some pair =>
          rcases pairFromHandle_eq_some.mp found with ⟨-, rfl⟩
          rw [found] at polled
          simp only [Option.map_some, Option.some.injEq, Bool.or_eq_false_iff,
            decide_eq_false_iff_not, not_not] at polled
          exact ptyIdle_iff.mpr polled
  · cases polled

theorem pollFdWatches_eq_zero {watches : List Nat} (polled : pollFdWatches system pid watches = some 0) :
    ∀ fd ∈ watches, pollFdWatch system pid fd = some false := by
  induction watches with
  | nil => nofun
  | cons fd rest ih =>
    rw [pollFdWatches] at polled
    split at polled
    · rename_i ready others first later
      rw [Option.some.injEq] at polled
      cases ready with
      | true => exact absurd polled (Nat.succ_ne_zero _)
      | false =>
        simp_all
    · cases polled

theorem pollWatches_eq_zero {watches : List Nat} {others : Option Nat}
    (polled : pollWatches system pid watches others = some 0) :
    pollFdWatches system pid watches = some 0 ∧ others = some 0 := by
  rw [pollWatches.eq_def] at polled
  cases first : pollFdWatches system pid watches with
  | none =>
    rw [first] at polled
    cases polled
  | some ready =>
    grind

theorem eventLoop (sound : SystemSound system locals) (acting : Acting system pid)
    {watches : List Nat} {others : Option Nat} (query canBlock : Bool) (alone : query = false →
      ∀ handle ∈ eventsWaitFor system pid watches others, ∀ other, handle ∉ system.awaited other) :
    SystemSound (returnTo pid (Pty.eventLoop system pid watches others query canBlock)) locals := by
  have cancelled := sound.cancelFdWatches watches acting
  have cancelledActing := (cancelFdWatches_onlyRecords pid watches system).acting acting
  rw [Pty.eventLoop]
  split
  · exact cancelled.runOn cancelledActing
  rename_i ready polled
  split
  · exact cancelled.runOn cancelledActing
  rename_i waits
  rw [not_or, not_not, Bool.not_eq_true] at waits
  rw [waits.1] at polled
  rcases pollWatches_eq_zero polled with ⟨fdsPolled, noOthers⟩
  have slots : ∀ fd ∈ watches, ∃ handle, kernelFdPtySlot system pid fd vfsAccessRead = some handle ∧
        ptyIdle system.pairs handle = true :=
    fun fd member => pollFdWatch_eq_false (pollFdWatches_eq_zero fdsPolled fd member)
  have allIdle : (watchedHandles system pid watches).all (ptyIdle system.pairs) = true := by
    rw [List.all_eq_true]
    intro handle member
    rcases List.mem_filterMap.mp member with ⟨fd, watched, isSlot⟩
    rcases slots fd watched with ⟨same, sameSlot, idle⟩
    rw [isSlot] at sameSlot
    cases sameSlot
    exact idle
  have aloneSlots : ∀ fd ∈ watches, ∃ handle, kernelFdPtySlot system pid fd vfsAccessRead = some handle ∧
        ∀ other, handle ∉ system.awaited other := by
    intro fd member
    rcases slots fd member with ⟨handle, isSlot, -⟩
    refine ⟨handle, isSlot, alone waits.2 handle ?_⟩
    rw [eventsWaitFor, if_pos ⟨noOthers, allIdle⟩]
    exact List.mem_filterMap.mpr ⟨fd, member, isSlot⟩
  rcases sound.armFdWatches watches acting aloneSlots with
    ⟨armed, armResult, armedSound, only, -, recorded⟩
  have armedActing := only.acting acting
  rw [armResult]
  dsimp only
  split
  · apply armedSound.block armedActing
    intro fd member handle holds
    rcases slots fd member with ⟨same, isSlot, idle⟩
    rw [only.processes, kernelFdPtySlot_eq_some isSlot] at holds
    cases holds
    rw [← only.idle, ptyIdle_iff] at idle
    exact ⟨Nat.pos_iff_ne_zero.mp acting.created.1, recorded fd member handle isSlot, idle.1, idle.2⟩
  · exact armedSound.setTask armedActing fun _ impossible => by cases impossible

/-! ## Every step -/

/-- A process that reads when nobody else waits for its endpoint. -/
theorem readAgain (sound : SystemSound system locals) (acting : Acting system pid)
    (capacity : Nat) (canBlock : Bool) (alone : ∀ handle ∈ readWaitsFor system pid fd capacity,
      ∀ other, handle ∉ system.awaited other) :
    SystemSound (returnTo pid (Pty.readPty system pid fd capacity canBlock)) locals := by
  apply sound.readPty acting
  simp_all [readWaitsFor, watchedHandles, List.mem_filter]

theorem syscallFdRead (sound : SystemSound system locals) (acting : Acting system pid)
    (fd capacity : Nat) (canBlock : Bool) (alone : ∀ handle ∈ readWaitsFor system pid fd capacity,
      ∀ other, handle ∉ system.awaited other) :
    SystemSound (returnTo pid (Pty.syscallFdRead system pid fd capacity canBlock)) locals := by
  rw [Pty.syscallFdRead]
  split
  · exact sound.runOn acting
  split
  · split
    · exact sound.runOn acting
    · split
      · exact sound.runOn acting
      · split
        · exact sound.runOn acting
        · exact sound.readAgain acting capacity canBlock alone
  · exact sound.runOn acting

/-- Taking waiters off the record does not change for what a call waits. -/
theorem readWaitsFor_of_onlyRecords {next : PtySystem} (only : OnlyRecords system next)
    (pid fd capacity : Nat) :
    readWaitsFor next pid fd capacity = readWaitsFor system pid fd capacity := by
  simp only [readWaitsFor, watchedHandles, only.ptySlot, funext only.idle]

theorem eventsWaitFor_of_onlyRecords {next : PtySystem} (only : OnlyRecords system next)
    (pid : Nat) (watches : List Nat) (others : Option Nat) :
    eventsWaitFor next pid watches others = eventsWaitFor system pid watches others := by
  have watched : watchedHandles next pid watches = watchedHandles system pid watches := by
    simp only [watchedHandles, only.ptySlot]
  have idle : ptyIdle next.pairs = ptyIdle system.pairs := funext only.idle
  rw [eventsWaitFor, eventsWaitFor, watched, idle]

theorem resumeWait (sound : SystemSound system locals) (pid : Nat) (others : Option Nat)
    (canBlock : Bool) (alone : ∀ handle ∈ system.startsWaiting (.resume pid others canBlock),
      ∀ other, handle ∉ system.awaited other) :
    SystemSound (Pty.resumeWait system pid others canBlock) locals := by
  have acting : ∀ wait, (system.processes pid).task = .woken wait → Acting system pid := by
    intro wait isWoken
    refine ⟨?_, fun other isBlocked => ?_⟩
    · by_contra unborn
      rw [sound.fresh pid (by omega)] at isWoken
      cases isWoken
    · grind
  rw [PtySystem.startsWaiting] at alone
  rw [Pty.resumeWait]
  cases task : (system.processes pid).task with
  | woken wait =>
    rw [task] at alone
    have acts := acting wait task
    cases wait with
    | read fd capacity =>
      have only := cancel_onlyRecords system pid fd
      apply (sound.kernelFdCancelPtyWaiter acts fd).readAgain (only.acting acts)
      intro handle member other
      rw [readWaitsFor_of_onlyRecords only] at member
      rw [only.awaited]
      exact alone handle member other
    | events watches =>
      have only := cancelFdWatches_onlyRecords pid watches system
      apply (sound.cancelFdWatches watches acts).eventLoop (only.acting acts)
      intro _ handle member other
      rw [eventsWaitFor_of_onlyRecords only] at member
      rw [only.awaited]
      exact alone handle member other
  | absent => exact sound
  | running => exact sound
  | blocked wait => exact sound

theorem step (sound : SystemSound system noLocals) (call : PtySystemCall)
    (alone : WaitsAlone system call) : SystemSound (system.step call) noLocals := by
  have nobody : ∀ handle ∈ system.startsWaiting call, ∀ other, handle ∉ system.awaited other := by
    intro handle member other isWaiting
    by_cases created : other < system.nextPid
    · exact alone handle member other created isWaiting
    · rw [sound.awaited_of_fresh (Nat.le_of_not_lt created)] at isWaiting
      exact List.not_mem_nil isWaiting
  have acting : ∀ pid, (system.processes pid).task = .running → Acting system pid := by
    intro pid runs
    refine ⟨?_, fun other isBlocked => ?_⟩
    · by_contra unborn
      rw [sound.fresh pid (by omega)] at runs
      cases runs
    · rw [runs] at isBlocked
      cases isBlocked
  rw [PtySystem.step]
  cases call with
  | launch =>
    rcases sound.processCreate with ⟨created, child, -⟩
    exact created.runOn child
  | ptyCreate pid copied =>
    dsimp only [PtySystemCall.caller]
    split
    · rename_i runs
      exact sound.m36PtyCreate (acting pid runs) copied
    · exact sound
  | spawn parent stdinFd stdoutFd stderrFd completes =>
    dsimp only [PtySystemCall.caller]
    split
    · rename_i runs
      exact sound.m36Spawn (acting parent runs) stdinFd stdoutFd stderrFd completes
    · exact sound
  | openRegular pid access =>
    dsimp only [PtySystemCall.caller]
    split
    · rename_i runs
      exact sound.kernelFdOpenRegular (acting pid runs) access
    · exact sound
  | close pid fd =>
    dsimp only [PtySystemCall.caller]
    split
    · rename_i runs
      exact (sound.kernelFdClose (acting pid runs) fd).1
    · exact sound
  | read pid fd capacity canBlock =>
    dsimp only [PtySystemCall.caller]
    split
    · rename_i runs
      exact sound.syscallFdRead (acting pid runs) fd capacity canBlock nobody
    · exact sound
  | write pid fd bytes =>
    dsimp only [PtySystemCall.caller]
    split
    · exact sound.syscallFdWrite pid fd bytes
    · exact sound
  | eventWait pid watches others query canBlock =>
    dsimp only [PtySystemCall.caller]
    split
    · rename_i runs
      apply sound.eventLoop (acting pid runs)
      simp_all [PtySystem.startsWaiting]
    · exact sound
  | resume pid others canBlock => exact sound.resumeWait pid others canBlock nobody
  | wake pid => exact sound.wake (some pid)
  | exit pid =>
    dsimp only [PtySystemCall.caller]
    split
    · rename_i runs
      exact sound.taskExitCurrentProcess (acting pid runs)
    · exact sound

end SystemSound

theorem ptySystemInitial_sound : SystemSound ptySystemInitial noLocals := by
  have heldNone : ∀ holder, ptySystemInitial.held noLocals holder = none := by
    intro holder
    rcases holder with descriptor | endpoint <;> rfl
  refine ⟨⟨⟨fun _ _ impossible => ?_, fun holder handle holds => ?_⟩, fun pid handle isWaiting => ?_,
    fun pid handle isWaiting => ?_⟩, fun _ _ => trivial, Nat.one_pos, fun _ _ => rfl⟩
  · cases impossible
  · grind
  · cases isWaiting
  · cases isWaiting

/-- No reader stays blocked: in every state that a run reaches, the endpoints
for which a task is blocked have nothing to read and a peer. -/
theorem no_reader_stays_blocked (calls : List PtySystemCall)
    (alone : Respects PtySystem.step WaitsAlone ptySystemInitial calls) :
    ∀ pid, ∀ handle ∈ (run PtySystem.step ptySystemInitial calls).awaited pid,
      ptyPoll (run PtySystem.step ptySystemInitial calls).pairs handle = some ⟨false, false⟩ := by
  have kept : ∀ system call, SystemSound system noLocals → WaitsAlone system call →
      SystemSound (system.step call) noLocals := fun _ call sound => sound.step call
  have sound := run_invariant_of_respects kept calls _ ptySystemInitial_sound alone
  intro pid handle isWaiting
  have live := sound.table.live isWaiting
  have waiting := sound.table.waits pid handle isWaiting
  rw [ptyPoll, pairFromHandle_of_live live]
  simp only [waiting.nothing, waiting.peer, ne_eq, not_true_eq_false, decide_false]

/-- A terminal whose slave a child has for its standard input: the child
reads, and is woken by what its parent writes. -/
def oneReader : List PtySystemCall :=
  [.launch, .ptyCreate 1 true, .spawn 1 4 1 1 true, .read 2 0 16 true, .write 1 3 [65]]

/-- Two children have the slave for their standard input and both read
before the parent closes the master. -/
def twoReaders : List PtySystemCall :=
  [.launch, .ptyCreate 1 true, .spawn 1 4 1 1 true, .spawn 1 4 1 1 true, .read 2 0 16 true,
    .read 3 0 16 true, .close 1 3]

theorem no_reader_stays_blocked_oneReader :
    Respects PtySystem.step WaitsAlone ptySystemInitial oneReader ∧
      ∀ pid, ∀ handle ∈ (run PtySystem.step ptySystemInitial oneReader).awaited pid,
        ptyPoll (run PtySystem.step ptySystemInitial oneReader).pairs handle =
          some ⟨false, false⟩ := by
  have alone : Respects PtySystem.step WaitsAlone ptySystemInitial oneReader := by
    simp only [oneReader, Respects, WaitsAlone]
    decide
  exact ⟨alone, no_reader_stays_blocked oneReader alone⟩

/-- The first of two readers stays blocked although its peer is gone, and it
is on record nowhere. -/
theorem reader_stays_blocked :
    ¬ ∀ calls : List PtySystemCall, ∀ pid,
      ∀ handle ∈ (run PtySystem.step ptySystemInitial calls).awaited pid,
        ptyPoll (run PtySystem.step ptySystemInitial calls).pairs handle = some ⟨false, false⟩ := by
  intro always
  have hungUp : ptyPoll (run PtySystem.step ptySystemInitial twoReaders).pairs ⟨0, .slave, 1⟩ =
      some ⟨false, true⟩ := by decide
  have blocked : ⟨0, .slave, 1⟩ ∈ (run PtySystem.step ptySystemInitial twoReaders).awaited 2 := by
    decide
  grind

end BoringOS.Pty
