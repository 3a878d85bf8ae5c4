import BoringOS.Tasks.Scheduler

namespace BoringOS.Tasks

open Library

/-!
# What one step of the scheduler can do

A step either leaves the current task in place, or it stops it and serves the
next one.  In the first case only the ring may change, at its end or by losing
finished tasks.  In the second the ring stays, and the next task is the first
candidate behind the one that stopped; the bootstrap task, which is no member
of the ring, comes in only for a finished task that nobody follows.
-/

/-- The registry is a ring without repetitions, and its members are counted. -/
structure RingSound (s : Scheduler) : Prop where
  nodup : s.registry.Nodup
  notBootstrap : kernelBootstrapTaskId ∉ s.registry
  live : s.liveTaskCount = s.registry.length
  used : ∀ id ∈ s.registry, (s.tasks id).slotUsed = true
  known : ∀ id ∈ s.registry, id < s.nextTaskId
  positive : 0 < s.nextTaskId

structure SchedulerInvariant (s : Scheduler) : Prop where
  ring : RingSound s
  current : s.currentTask = kernelBootstrapTaskId ∨ s.currentTask ∈ s.registry
  oneRunning : ∀ id, (s.tasks id).state = .running → id = s.currentTask
  currentState : (s.tasks s.currentTask).state = .running ∨
    (s.tasks s.currentTask).state = .finished
  bootstrap : (s.tasks kernelBootstrapTaskId).state = .running ∨
    (s.tasks kernelBootstrapTaskId).state = .ready
  /-- A current task has finished only where nothing can follow it yet: it
  waits for the timer, or the scheduler has failed, or the kernel has halted. -/
  finishedWaits : (s.tasks s.currentTask).state = .finished →
    s.preemptionEnabled = true ∨ s.counts.schedulerFaults ≠ 0 ∨ s.halted = true

/-- The candidates of the mode that the scheduler is in -/
def modeCandidate (preemptionEnabled : Bool) : Scheduler → Nat → Nat → Bool :=
  if preemptionEnabled then preemptiveCandidate else cooperativeCandidate

/-- The task could be served next. -/
def Selectable (s : Scheduler) (id : Nat) : Prop :=
  id ∈ s.registry ∧ modeCandidate s.preemptionEnabled s s.currentTask id = true

theorem modeCandidate_self (mode : Bool) (s : Scheduler) (origin : Nat) :
    modeCandidate mode s origin origin = false := by
  cases mode <;> simp [modeCandidate, preemptiveCandidate, cooperativeCandidate]

theorem modeCandidate_elim {mode : Bool} {s : Scheduler} {origin id : Nat}
    (candidate : modeCandidate mode s origin id = true) :
    id ≠ origin ∧ (s.tasks id).state = .ready ∧
      (mode = true → taskPreemptFrameIsValidFor s (s.tasks id) (s.tasks id).preemptFrame = true) := by
  cases mode with
  | true =>
    simp only [modeCandidate, if_true, preemptiveCandidate, Bool.and_eq_true, bne_iff_ne,
      beq_iff_eq] at candidate
    simp [*]
  | false =>
    simp only [modeCandidate, Bool.false_eq_true, if_false, cooperativeCandidate,
      Bool.and_eq_true, bne_iff_ne, beq_iff_eq] at candidate
    simp [*]

theorem taskProcessIsValid_of {s s' : Scheduler} {task : KernelTask}
    (processes : ∀ pid, s'.processes pid = .alive → s.processes pid = .alive)
    (valid : taskProcessIsValid s' task = true) : taskProcessIsValid s task = true := by
  rw [taskProcessIsValid] at valid ⊢
  cases owner : task.process with
  | none =>
    rw [owner] at valid
    cases valid
  | some pid =>
    simp_all

/-- A candidate stays one where its task is the same and no process has come
to life. -/
theorem modeCandidate_of {mode : Bool} {s s' : Scheduler} {origin origin' id : Nat}
    (processes : ∀ pid, s'.processes pid = .alive → s.processes pid = .alive)
    (same : s'.tasks id = s.tasks id) (different : id ≠ origin)
    (candidate : modeCandidate mode s' origin' id = true) :
    modeCandidate mode s origin id = true := by
  cases mode with
  | true =>
    simp only [modeCandidate, if_true, preemptiveCandidate, Bool.and_eq_true, bne_iff_ne,
      same] at candidate ⊢
    refine ⟨⟨⟨⟨⟨different, candidate.1.1.1.1.2⟩,
      taskProcessIsValid_of processes candidate.1.1.1.2⟩, candidate.1.1.2⟩, candidate.1.2⟩, ?_⟩
    have valid := candidate.2
    cases frame : (s.tasks id).preemptFrame with
    | none =>
      rw [frame] at valid
      cases valid
    | some saved =>
      rw [frame] at valid
      simp only [taskPreemptFrameIsValidFor, taskStackCommonIsValid, Bool.and_eq_true] at valid ⊢
      grind [taskProcessIsValid_of]
  | false =>
    simp only [modeCandidate, Bool.false_eq_true, if_false, cooperativeCandidate,
      Bool.and_eq_true, bne_iff_ne, same] at candidate ⊢
    grind [taskProcessIsValid_of]

/-- The selection finds the first candidate of the ring behind a task, and
there is none only if the ring has none. -/
theorem taskSelectNext_eq_find? {s : Scheduler} (ring : RingSound s) (mode : Bool) (origin : Nat) :
    taskSelectNext (modeCandidate mode) s origin =
      (following s.registry origin).find? (modeCandidate mode s origin) := by
  have regular : (origin ≠ kernelBootstrapTaskId ∧ taskIsRegular s origin = true) ↔ origin ∈ s.registry := by
    rw [taskIsRegular, Bool.and_eq_true, List.contains_iff_mem]
    constructor
    · exact fun both => both.2.1
    · intro member
      refine ⟨fun same => ring.notBootstrap (same ▸ member), member, ring.used origin member⟩
  rw [taskSelectNext, ring.live]
  simp only [regular]
  exact scanRing_eq_find? ring.nodup _ (modeCandidate_self mode s origin)

/-- The ring has grown at its end, or it has lost members other than the
current task, or it is the same. -/
inductive RingChange (s s' : Scheduler) : Prop where
  | same (registry : s'.registry = s.registry)
  | joined (registry : s'.registry = s.registry ++ [s.nextTaskId])
  | left (stays : Nat → Bool) (registry : s'.registry = s.registry.filter stays)
      (current : stays s.currentTask = true)

inductive StepEffect (s s' : Scheduler) : Prop where
  | quiet (current : s'.currentTask = s.currentTask) (ring : RingChange s s')
  | served (accepts : Nat → Bool) (ring : s'.registry = s.registry)
      (selectable : ∀ id, id ≠ s.currentTask → Selectable s id ∨ Selectable s' id →
        accepts id = true)
      (next : (following s.registry s.currentTask).find? accepts = some s'.currentTask ∨
        ((following s.registry s.currentTask).find? accepts = none ∧
          s'.currentTask = kernelBootstrapTaskId))

/-- What every step guarantees -/
structure StepSound (s s' : Scheduler) : Prop where
  invariant : SchedulerInvariant s'
  effect : StepEffect s s'
  known : s.nextTaskId ≤ s'.nextTaskId
  /-- A finished task stays so, and it becomes the current one never again. -/
  finished : ∀ id < s.nextTaskId, (s.tasks id).state = .finished →
    (s'.tasks id).state = .finished ∧ (s'.currentTask = id → s.currentTask = id)

theorem SchedulerInvariant.current_lt {s : Scheduler} (invariant : SchedulerInvariant s) :
    s.currentTask < s.nextTaskId := by
  rcases invariant.current with isBootstrap | member
  · rw [isBootstrap]
    exact invariant.ring.positive
  · exact invariant.ring.known _ member

/-- A change that leaves the current task in place.  At most that task
finishes; of the others, some become ready, and some join or leave. -/
structure Quiet (s s' : Scheduler) : Prop where
  ring : RingSound s'
  change : RingChange s s'
  current : s'.currentTask = s.currentTask
  known : s.nextTaskId ≤ s'.nextTaskId
  currentState : (s'.tasks s.currentTask).state = (s.tasks s.currentTask).state ∨
    (s'.tasks s.currentTask).state = .finished
  bootstrap : (s'.tasks kernelBootstrapTaskId).state = (s.tasks kernelBootstrapTaskId).state
  running : ∀ id, (s'.tasks id).state = .running → (s.tasks id).state = .running
  finished : ∀ id < s.nextTaskId, (s.tasks id).state = .finished → (s'.tasks id).state = .finished
  finishedWaits : (s'.tasks s.currentTask).state = .finished →
    s'.preemptionEnabled = true ∨ s'.counts.schedulerFaults ≠ 0 ∨ s'.halted = true

theorem Quiet.sound {s s' : Scheduler} (invariant : SchedulerInvariant s) (quiet : Quiet s s') :
    StepSound s s' := by
  refine ⟨?_, StepEffect.quiet quiet.current quiet.change, quiet.known,
    fun id known isFinished => ⟨quiet.finished id known isFinished, fun isCurrent => ?_⟩⟩
  · constructor
    case ring => exact quiet.ring
    case current =>
      rw [quiet.current]
      rcases invariant.current with isBootstrap | member
      · exact Or.inl isBootstrap
      right
      rcases quiet.change with registry | registry | ⟨stays, registry, stayed⟩
      · rw [registry]
        exact member
      · simp [*]
      simp [*]
    case oneRunning =>
      intro id running
      rw [quiet.current]
      exact invariant.oneRunning id (quiet.running id running)
    case currentState =>
      rw [quiet.current]
      rcases quiet.currentState with same | finished
      · rw [same]
        exact invariant.currentState
      · exact Or.inr finished
    case bootstrap =>
      rw [quiet.bootstrap]
      exact invariant.bootstrap
    case finishedWaits =>
      rw [quiet.current]
      exact quiet.finishedWaits
  · rw [quiet.current] at isCurrent
    exact isCurrent

/-- The current task has stopped, and nothing else has changed. -/
structure Waits (s waiting : Scheduler) : Prop where
  registry : waiting.registry = s.registry
  live : waiting.liveTaskCount = s.liveTaskCount
  nextTaskId : waiting.nextTaskId = s.nextTaskId
  mode : waiting.preemptionEnabled = s.preemptionEnabled
  processes : waiting.processes = s.processes
  used : (waiting.tasks s.currentTask).slotUsed = (s.tasks s.currentTask).slotUsed
  stopped : (waiting.tasks s.currentTask).state ≠ .running
  others : ∀ id, id ≠ s.currentTask → waiting.tasks id = s.tasks id
  finished : (s.tasks s.currentTask).state = .finished →
    (waiting.tasks s.currentTask).state = .finished
  bootstrap : s.currentTask = kernelBootstrapTaskId →
    (waiting.tasks kernelBootstrapTaskId).state = .ready

theorem Waits.ring {s waiting : Scheduler} (ring : RingSound s) (waits : Waits s waiting) :
    RingSound waiting := by
  constructor
  case nodup => rw [waits.registry]; exact ring.nodup
  case notBootstrap => rw [waits.registry]; exact ring.notBootstrap
  case live => rw [waits.live, waits.registry]; exact ring.live
  case used =>
    intro id member
    rw [waits.registry] at member
    by_cases same : id = s.currentTask
    · rw [same, waits.used, ← same]
      exact ring.used id member
    · rw [waits.others id same]
      exact ring.used id member
  case known => rw [waits.registry, waits.nextTaskId]; exact ring.known
  case positive => rw [waits.nextTaskId]; exact ring.positive

/-- Another task runs, and no process has come to life. -/
structure Switched (waiting s' : Scheduler) (next : Nat) : Prop where
  registry : s'.registry = waiting.registry
  live : s'.liveTaskCount = waiting.liveTaskCount
  nextTaskId : s'.nextTaskId = waiting.nextTaskId
  mode : s'.preemptionEnabled = waiting.preemptionEnabled
  processes : ∀ pid, s'.processes pid = .alive → waiting.processes pid = .alive
  current : s'.currentTask = next
  running : (s'.tasks next).state = .running
  used : (s'.tasks next).slotUsed = (waiting.tasks next).slotUsed
  others : ∀ id, id ≠ next → s'.tasks id = waiting.tasks id

theorem Switched.sound {s waiting s' : Scheduler} {next : Nat}
    (invariant : SchedulerInvariant s) (waits : Waits s waiting) (switched : Switched waiting s' next)
    (choice : taskSelectNext (modeCandidate s.preemptionEnabled) waiting s.currentTask = some next ∨
      (taskSelectNext (modeCandidate s.preemptionEnabled) waiting s.currentTask = none ∧
        next = kernelBootstrapTaskId ∧ s.currentTask ≠ kernelBootstrapTaskId)) :
    StepSound s s' := by
  have ring := waits.ring invariant.ring
  rw [taskSelectNext_eq_find? ring, waits.registry] at choice
  have chosen : next ≠ s.currentTask ∧ (next = kernelBootstrapTaskId ∨ next ∈ s.registry) ∧
      (s.tasks next).state = .ready := by
    rcases choice with found | ⟨-, isBootstrap, notCurrent⟩
    · have candidate := modeCandidate_elim (List.find?_some found)
      have member := (mem_following invariant.ring.nodup).mp (List.mem_of_find?_eq_some found)
      rw [waits.others next candidate.1] at candidate
      simp [*]
    · refine ⟨by rw [isBootstrap]; exact notCurrent.symm, Or.inl isBootstrap, ?_⟩
      rw [isBootstrap]
      rcases invariant.bootstrap with running | ready
      · exact absurd (invariant.oneRunning _ running) notCurrent.symm
      · exact ready
  have state : ∀ id, id ≠ next → id ≠ s.currentTask → s'.tasks id = s.tasks id := by
    intro id notNext notCurrent
    rw [switched.others id notNext, waits.others id notCurrent]
  have stopped : (s'.tasks s.currentTask).state = (waiting.tasks s.currentTask).state := by
    rw [switched.others _ chosen.1.symm]
  constructor
  case invariant =>
    constructor
    case ring =>
      constructor
      case nodup => rw [switched.registry]; exact ring.nodup
      case notBootstrap => rw [switched.registry]; exact ring.notBootstrap
      case live => rw [switched.live, switched.registry]; exact ring.live
      case used =>
        intro id member
        rw [switched.registry] at member
        by_cases same : id = next
        · rw [same, switched.used, ← same]
          exact ring.used id member
        · rw [switched.others id same]
          exact ring.used id member
      case known => rw [switched.registry, switched.nextTaskId]; exact ring.known
      case positive => rw [switched.nextTaskId]; exact ring.positive
    case current =>
      rw [switched.current, switched.registry, waits.registry]
      exact chosen.2.1
    case oneRunning =>
      intro id running
      rw [switched.current]
      by_contra notNext
      by_cases same : id = s.currentTask
      · rw [same, stopped] at running
        exact waits.stopped running
      · rw [state id notNext same] at running
        exact same (invariant.oneRunning id running)
    case currentState =>
      rw [switched.current]
      exact Or.inl switched.running
    case bootstrap =>
      by_cases isNext : kernelBootstrapTaskId = next
      · rw [isNext]
        exact Or.inl switched.running
      by_cases isCurrent : s.currentTask = kernelBootstrapTaskId
      · have ready := waits.bootstrap isCurrent
        simp_all
      · rw [state _ isNext (Ne.symm isCurrent)]
        exact invariant.bootstrap
    case finishedWaits =>
      rw [switched.current, switched.running]
      exact nofun
  case effect =>
    refine StepEffect.served (modeCandidate s.preemptionEnabled waiting s.currentTask)
      (switched.registry.trans waits.registry) (fun id notCurrent selectable => ?_) ?_
    · rcases selectable with ⟨-, candidate⟩ | ⟨-, candidate⟩
      · exact modeCandidate_of (by rw [waits.processes]; exact fun _ alive => alive)
          (waits.others id notCurrent).symm notCurrent candidate
      · have notNext := (modeCandidate_elim candidate).1
        rw [switched.mode, waits.mode] at candidate
        rw [switched.current] at notNext
        exact modeCandidate_of switched.processes (switched.others id notNext) notCurrent candidate
    · rw [switched.current]
      grind
  case known => rw [switched.nextTaskId, waits.nextTaskId]
  case finished =>
    intro id known isFinished
    have notNext : id ≠ next := by
      rintro rfl
      rw [chosen.2.2] at isFinished
      cases isFinished
    refine ⟨?_, fun isCurrent => absurd (switched.current.symm.trans isCurrent).symm notNext⟩
    by_cases same : id = s.currentTask
    · rw [same] at isFinished
      rw [same, stopped]
      exact waits.finished isFinished
    grind

end BoringOS.Tasks
