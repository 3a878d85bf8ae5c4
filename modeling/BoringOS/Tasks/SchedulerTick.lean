import BoringOS.Tasks.SchedulerSteps

namespace BoringOS.Tasks

open Library

/-!
# The timer of the scheduler

A tick saves the frame of the interrupted task, looks for the next one and
switches to it.  Each of these can fail, and then the interrupted task goes on
and the preemption ends.
-/

variable {s : Scheduler}

theorem fault_quiet {s s' : Scheduler} (invariant : SchedulerInvariant s)
    (registry : s'.registry = s.registry) (live : s'.liveTaskCount = s.liveTaskCount)
    (nextTaskId : s'.nextTaskId = s.nextTaskId) (current : s'.currentTask = s.currentTask)
    (used : ∀ id, (s'.tasks id).slotUsed = (s.tasks id).slotUsed)
    (states : ∀ id, (s'.tasks id).state = (s.tasks id).state)
    (faults : s'.counts.schedulerFaults ≠ 0) : Quiet s s' :=
  Quiet.of_tasks invariant registry live nextTaskId current used (fun id => Or.inl (states id))
    (fun _ => Or.inr (Or.inl faults))

/-- The current task after its frame has been saved -/
structure Saved (s saved : Scheduler) : Prop where
  waits : Waits s saved
  current : saved.currentTask = s.currentTask
  state : (saved.tasks s.currentTask).state =
    if (s.tasks s.currentTask).state = .finished then .finished else .ready
  notFinished : s.currentTask = kernelBootstrapTaskId → (s.tasks s.currentTask).state = .running

theorem bootstrap_running (invariant : SchedulerInvariant s)
    (isBootstrap : s.currentTask = kernelBootstrapTaskId) :
    (s.tasks s.currentTask).state = .running := by
  rcases invariant.currentState with running | finished
  · exact running
  · have atBootstrap := invariant.bootstrap
    simp_all

/-- Saving the frame either fails, or it stops the current task. -/
theorem schedulerTickSave_cases (invariant : SchedulerInvariant s) (counts : TaskCounts) (frame : TrapFrame) :
    (∃ faulty, schedulerTickSave { s with counts := counts } frame = (false, faulty) ∧
        Quiet s faulty) ∨
      ∃ saved, schedulerTickSave { s with counts := counts } frame = (true, saved) ∧ Saved s saved := by
  unfold schedulerTickSave
  simp only
  split
  · exact Or.inl ⟨_, rfl, fault_quiet invariant rfl rfl rfl rfl (fun _ => rfl) (fun _ => rfl)
      (Nat.succ_ne_zero _)⟩
  split
  · rename_i isBootstrap
    have running := bootstrap_running invariant isBootstrap
    refine Or.inr ⟨_, rfl, ?_, rfl, ?_, fun _ => running⟩
    · constructor
      case registry => rfl
      case live => rfl
      case nextTaskId => rfl
      case mode => rfl
      case processes => rfl
      case used => rw [Scheduler.setTask_self]
      case stopped =>
        simp
      case others => exact fun id different => Scheduler.setTask_of_ne _ _ different
      case finished => simp_all
      simp [*]
    simp_all
  · rename_i notBootstrap
    split
    · cases state : (s.tasks s.currentTask).state with
      | running =>
        refine Or.inr ⟨_, rfl, ?_, rfl, ?_, fun isBootstrap => absurd isBootstrap notBootstrap⟩
        · constructor
          case registry => rfl
          case live => rfl
          case nextTaskId => rfl
          case mode => rfl
          case processes => rfl
          case used => simp
          case stopped =>
            simp
          case others =>
            simp_all [Scheduler.setState_of_ne, Scheduler.setTask_of_ne]
          case finished =>
            simp [*]
          omega
        simp [*]
      | finished =>
        refine Or.inr ⟨_, rfl, ?_, rfl, ?_, fun isBootstrap => absurd isBootstrap notBootstrap⟩
        · constructor
          case registry => rfl
          case live => rfl
          case nextTaskId => rfl
          case mode => rfl
          case processes => rfl
          case used => rw [Scheduler.setTask_self]
          case stopped =>
            simp
          case others => exact fun id different => Scheduler.setTask_of_ne _ _ different
          case finished =>
            simp
          omega
        simp [*]
      | ready =>
        rcases invariant.currentState with impossible | impossible <;>
          rw [state] at impossible <;> cases impossible
      | blocked =>
        rcases invariant.currentState with impossible | impossible <;>
          rw [state] at impossible <;> cases impossible
    · exact Or.inl ⟨_, rfl, fault_quiet invariant rfl rfl rfl rfl (fun _ => rfl) (fun _ => rfl)
        (Nat.succ_ne_zero _)⟩

theorem Saved.used {s saved : Scheduler} (isSaved : Saved s saved) (id : Nat) :
    (saved.tasks id).slotUsed = (s.tasks id).slotUsed := by
  by_cases isCurrent : id = s.currentTask
  · rw [isCurrent]
    exact isSaved.waits.used
  · rw [isSaved.waits.others id isCurrent]

/-- A task that has not finished goes on where nothing can follow it. -/
theorem Saved.resume {s saved : Scheduler} (invariant : SchedulerInvariant s)
    (isSaved : Saved s saved) (running : (s.tasks s.currentTask).state = .running) :
    Quiet s (saved.setState s.currentTask .running) := by
  have waits := isSaved.waits
  refine quiet_of_running invariant running waits.registry waits.live waits.nextTaskId
    isSaved.current (fun id => ?_) ?_ (fun id different => ?_)
  · rw [setState_used]
    exact isSaved.used id
  · rw [Scheduler.setState_self]
  · rw [Scheduler.setState_of_ne _ _ different, waits.others id different]

theorem schedulerTickSwitch_sound {s saved : Scheduler} (invariant : SchedulerInvariant s)
    (isSaved : Saved s saved) (next : Nat) (activates : Bool)
    (frame : if next = kernelBootstrapTaskId then (saved.tasks next).preemptFrame.isSome = true
      else taskPreemptFrameIsValidFor saved (saved.tasks next) (saved.tasks next).preemptFrame = true)
    (choice : taskSelectNext (modeCandidate s.preemptionEnabled) saved s.currentTask = some next ∨
      (taskSelectNext (modeCandidate s.preemptionEnabled) saved s.currentTask = none ∧
        next = kernelBootstrapTaskId ∧ s.currentTask ≠ kernelBootstrapTaskId)) :
    StepSound s (schedulerTickSwitch saved s.currentTask next activates) := by
  have waits := isSaved.waits
  have framePresent : (if next = kernelBootstrapTaskId then (saved.tasks next).preemptFrame.isNone
      else !taskPreemptFrameIsValidFor saved (saved.tasks next) (saved.tasks next).preemptFrame) = false := by
    split at frame
    · simp_all
    · rw [if_neg (by assumption), frame]
      rfl
  unfold schedulerTickSwitch
  simp only [framePresent]
  rw [if_neg (by decide)]
  cases activated : processActivate saved (saved.tasks next).process activates with
  | none =>
    simp only
    -- A task that was running goes on; one that had finished stays so.
    rcases invariant.currentState with running | finished
    · have state := isSaved.state
      rw [if_neg (not_finished_of_running running)] at state
      rw [if_pos state]
      refine Quiet.sound invariant (fault_quiet invariant waits.registry waits.live
        waits.nextTaskId isSaved.current (fun id => ?_) (fun id => ?_) (Nat.succ_ne_zero _))
      · rw [setState_used]
        exact isSaved.used id
      · by_cases isCurrent : id = s.currentTask
        · simp [*]
        · rw [Scheduler.setState_of_ne _ _ isCurrent]
          exact congrArg KernelTask.state (waits.others id isCurrent)
    · have state := isSaved.state
      rw [if_pos finished] at state
      rw [if_neg (by rw [state]; exact nofun)]
      refine Quiet.sound invariant (fault_quiet invariant waits.registry waits.live
        waits.nextTaskId isSaved.current isSaved.used (fun id => ?_) (Nat.succ_ne_zero _))
      by_cases isCurrent : id = s.currentTask
      · rw [isCurrent, finished]
        exact state
      · exact congrArg KernelTask.state (waits.others id isCurrent)
  | some active =>
    simp only
    have switched := (taskSwitchTo_switched activated next).of_counts
      { saved.counts with preemptions := saved.counts.preemptions + 1 }
    split
    · refine Switched.sound invariant waits ?_ choice
      exact { switched with
        running := by
          rw [Scheduler.setTask_self]
          exact switched.running
        used := by
          rw [Scheduler.setTask_self]
          exact switched.used
        others := by
          intro id different
          rw [Scheduler.setTask_of_ne _ _ different]
          exact switched.others id different }
    · exact switched.sound invariant waits choice

theorem tick_sound (invariant : SchedulerInvariant s) (frame : TrapFrame) (activates : Bool) :
    StepSound s (taskSchedulerTick s frame activates) := by
  unfold taskSchedulerTick
  split
  · exact (Quiet.refl invariant).sound invariant
  rename_i enabled
  have mode : s.preemptionEnabled = true := by
    rw [← Bool.not_eq_false]
    exact enabled
  simp only
  rcases schedulerTickSave_cases invariant
    { s.counts with schedulerTicks := s.counts.schedulerTicks + 1 } frame with
    ⟨faulty, isFault, quiet⟩ | ⟨saved, success, isSaved⟩
  · rw [isFault]
    exact quiet.sound invariant
  rw [success]
  simp only
  cases selected : taskSelectNextPreemptive saved s.currentTask with
  | some next =>
    have choice : taskSelectNext (modeCandidate s.preemptionEnabled) saved s.currentTask =
        some next := by
      rw [mode]
      exact selected
    have ring := isSaved.waits.ring invariant.ring
    have found := choice
    rw [taskSelectNext_eq_find? ring] at found
    have member := (mem_following ring.nodup).mp (List.mem_of_find?_eq_some found)
    refine schedulerTickSwitch_sound invariant isSaved next activates ?_ (Or.inl choice)
    have notBootstrap : next ≠ kernelBootstrapTaskId := by
      rintro rfl
      exact ring.notBootstrap member.1
    grind [modeCandidate_elim]
  | none =>
    simp only
    split
    · rename_i hasFinished
      split
      · refine Quiet.sound invariant (fault_quiet invariant isSaved.waits.registry
          isSaved.waits.live isSaved.waits.nextTaskId isSaved.current isSaved.used
          (fun id => ?_) (Nat.succ_ne_zero _))
        by_cases isCurrent : id = s.currentTask
        · have state := isSaved.state
          by_cases finished : (s.tasks s.currentTask).state = .finished
          · rw [if_pos finished] at state
            rw [isCurrent, finished]
            exact state
          simp_all
        · exact congrArg KernelTask.state (isSaved.waits.others id isCurrent)
      · rename_i present
        refine schedulerTickSwitch_sound invariant isSaved _ activates ?_ (Or.inr ?_)
        · rw [if_pos rfl, Option.isSome_iff_ne_none]
          exact present
        · rw [mode]
          exact ⟨selected, rfl, hasFinished.1⟩
    · refine Quiet.sound invariant (isSaved.resume invariant ?_)
      rcases invariant.currentState with running | finished
      · exact running
      refine isSaved.notFinished ?_
      have state := isSaved.state
      simp_all

theorem call_sound (invariant : SchedulerInvariant s) (call : TaskCall)
    (allowed : call.byTask = true → (s.tasks s.currentTask).state = .running) :
    StepSound s (s.call call) := by
  cases call with
  | create owner entryGiven kind answers => exact create_sound invariant owner entryGiven kind answers
  | yield activates => exact yield_sound invariant (allowed rfl) activates
  | block activates => exact block_sound invariant activates
  | exitProcess activates released => exact exitProcess_sound invariant activates released
  | finish activates => exact finish_sound invariant activates
  | reap pid freed => exact reap_sound invariant pid freed
  | cleanup freed => exact cleanup_sound invariant freed
  | preemptionStart => exact preemptionStart_sound invariant
  | preemptionStop => exact preemptionStop_sound invariant
  | wakeProcess pid => exact wakeProcess_sound invariant pid
  | wakePid pid => exact wakePid_sound invariant pid
  | tick frame activates => exact tick_sound invariant frame activates
  | changeProcess pid state =>
    exact Quiet.sound invariant (Quiet.of_tasks invariant rfl rfl rfl rfl (fun _ => rfl)
      (fun _ => Or.inl rfl) invariant.finishedWaits)
  | overwriteSentinel id word =>
    have same : ∀ other, ((s.setTask id { s.tasks id with sentinel := word }).tasks other).state =
          (s.tasks other).state ∧
        ((s.setTask id { s.tasks id with sentinel := word }).tasks other).slotUsed =
          (s.tasks other).slotUsed := by
      intro other
      by_cases isChanged : other = id
      · simp [*]
      · rw [s.setTask_of_ne _ isChanged]
        exact ⟨rfl, rfl⟩
    refine Quiet.sound invariant (Quiet.of_tasks invariant rfl rfl rfl rfl
      (fun other => (same other).2) (fun other => Or.inl (same other).1) (fun finished => ?_))
    change ((s.setTask id { s.tasks id with sentinel := word }).tasks s.currentTask).state =
      .finished at finished
    rw [(same s.currentTask).1] at finished
    exact invariant.finishedWaits finished

theorem step_sound (invariant : SchedulerInvariant s) (call : TaskCall) :
    StepSound s (s.step call) := by
  unfold Scheduler.step
  split
  · exact (Quiet.refl invariant).sound invariant
  simp_all [not_and, ne_eq, Decidable.not_not, call_sound]

end BoringOS.Tasks
