import BoringOS.Tasks.SchedulerInvariant

namespace BoringOS.Tasks

open Library

/-!
# The calls of the scheduler, one by one

Every call keeps the invariant and does what a step may do.  The calls fall
into two kinds: those that leave the current task in place, and those that
stop it in favour of the next one.
-/

variable {s : Scheduler}

/-! ## Processes -/

variable {process : Option Nat} {activates : Bool}

theorem processActivate_cases {s activated : Scheduler}
    (success : processActivate s process activates = some activated) :
    ∃ pid, activated = { s with currentProcess := pid } := by
  unfold processActivate at success
  cases process with
  | none => cases success
  | some pid =>
    grind

/-- A process that is marked as finished is alive no more; nothing else has
changed. -/
theorem processMarkFinished_cases {s marked : Scheduler} {released : Bool}
    (success : processMarkFinished s process released = some marked) :
    ∃ processes, marked = { s with processes := processes } ∧
      ∀ pid, processes pid = .alive → s.processes pid = .alive := by
  unfold processMarkFinished at success
  cases process with
  | none => cases success
  | some pid =>
    simp only at success
    split at success
    · cases success
    · cases success
      grind

/-! ## Calls that leave the current task in place -/

theorem Quiet.of_tasks {s s' : Scheduler} (invariant : SchedulerInvariant s)
    (registry : s'.registry = s.registry) (live : s'.liveTaskCount = s.liveTaskCount)
    (nextTaskId : s'.nextTaskId = s.nextTaskId) (current : s'.currentTask = s.currentTask)
    (used : ∀ id, (s'.tasks id).slotUsed = (s.tasks id).slotUsed)
    (states : ∀ id, (s'.tasks id).state = (s.tasks id).state ∨
      (id = s.currentTask ∧ id ≠ kernelBootstrapTaskId ∧ (s'.tasks id).state = .finished) ∨
      ((s.tasks id).state = .blocked ∧ (s'.tasks id).state = .ready))
    (finishedWaits : (s'.tasks s.currentTask).state = .finished →
      s'.preemptionEnabled = true ∨ s'.counts.schedulerFaults ≠ 0 ∨ s'.halted = true) :
    Quiet s s' := by
  constructor
  case ring =>
    constructor
    case nodup => rw [registry]; exact invariant.ring.nodup
    case notBootstrap => rw [registry]; exact invariant.ring.notBootstrap
    case live => rw [live, registry]; exact invariant.ring.live
    case used =>
      intro id member
      rw [registry] at member
      rw [used]
      exact invariant.ring.used id member
    case known => rw [registry, nextTaskId]; exact invariant.ring.known
    case positive => rw [nextTaskId]; exact invariant.ring.positive
  case change => exact RingChange.same registry
  case current => exact current
  case known => rw [nextTaskId]
  case currentState =>
    rcases states s.currentTask with same | ⟨-, -, finished⟩ | ⟨blocked, -⟩
    · exact Or.inl same
    · exact Or.inr finished
    · rcases invariant.currentState with running | finished
      · grind
      simp_all
  case bootstrap =>
    rcases states kernelBootstrapTaskId with same | ⟨-, notBootstrap, -⟩ | ⟨blocked, -⟩
    · exact same
    · exact absurd rfl notBootstrap
    · rcases invariant.bootstrap with running | ready
      · grind
      grind
  case running =>
    intro id running
    rcases states id with same | ⟨-, -, finished⟩ | ⟨-, ready⟩
    · rw [← same]
      exact running
    · rw [finished] at running
      cases running
    · rw [ready] at running
      cases running
  case finished =>
    grind
  case finishedWaits => exact finishedWaits

theorem Quiet.refl (invariant : SchedulerInvariant s) : Quiet s s :=
  Quiet.of_tasks invariant rfl rfl rfl rfl (fun _ => rfl) (fun _ => Or.inl rfl) invariant.finishedWaits

theorem not_finished_of_running {task : KernelTask} (running : task.state = .running) :
    task.state ≠ .finished := by
  rw [running]
  exact nofun

/-! ## Creation -/

theorem taskPrepare_cases {owner stack : Nat} {kind : ContextKind} {answers : CreateAnswers}
    {task : KernelTask} (success : taskPrepare owner stack kind answers = some task) :
    task.slotUsed = true ∧ task.state = .ready := by
  cases kind with
  | none => cases success
  | cooperative =>
    cases success
    exact ⟨rfl, rfl⟩
  | preemptive =>
    simp only [taskPrepare, taskPreparePreemptiveContext] at success
    grind

theorem taskCreateInternal_cases (s : Scheduler) (owner : Nat) (entryGiven : Bool)
    (kind : ContextKind) (answers : CreateAnswers) :
    (taskCreateInternal s owner entryGiven kind answers).2 = s ∨
      ∃ task, task.slotUsed = true ∧ task.state = .ready ∧
        (taskCreateInternal s owner entryGiven kind answers).2 = taskRegister s task := by
  unfold taskCreateInternal
  split
  · exact Or.inl rfl
  split
  · exact Or.inl rfl
  rename_i stack _
  split
  · exact Or.inl rfl
  cases prepared : taskPrepare owner stack kind answers with
  | none => exact Or.inl rfl
  | some task =>
    grind [taskPrepare_cases]

theorem taskRegister_quiet (invariant : SchedulerInvariant s) {task : KernelTask}
    (used : task.slotUsed = true) (ready : task.state = .ready) :
    Quiet s (taskRegister s task) := by
  have ring := invariant.ring
  have fresh : s.nextTaskId ∉ s.registry := fun member =>
    Nat.lt_irrefl _ (ring.known _ member)
  have state : ∀ id, id ≠ s.nextTaskId → (taskRegister s task).tasks id = s.tasks id :=
    fun id different => s.setTask_of_ne task different
  have current := state _ (Nat.ne_of_lt invariant.current_lt)
  constructor
  case ring =>
    constructor
    case nodup =>
      refine List.nodup_append.mpr ⟨ring.nodup, List.nodup_singleton _, ?_⟩
      grind
    case notBootstrap =>
      intro member
      rcases List.mem_append.mp member with inRing | isFresh
      · exact ring.notBootstrap inRing
      · exact absurd (List.mem_singleton.mp isFresh) (Nat.ne_of_lt ring.positive)
    case live =>
      change s.liveTaskCount + 1 = (s.registry ++ [s.nextTaskId]).length
      rw [List.length_append, List.length_singleton, ring.live]
    case used =>
      intro id member
      rcases List.mem_append.mp member with inRing | isFresh
      · rw [state id (fun same => fresh (same ▸ inRing))]
        exact ring.used id inRing
      rw [List.mem_singleton.mp isFresh]
      change ((s.setTask s.nextTaskId task).tasks s.nextTaskId).slotUsed = true
      rw [Scheduler.setTask_self]
      exact used
    case known =>
      intro id member
      rcases List.mem_append.mp member with inRing | isFresh
      · exact Nat.lt_succ_of_lt (ring.known id inRing)
      · rw [List.mem_singleton.mp isFresh]
        exact Nat.lt_succ_self _
    case positive => exact Nat.succ_pos _
  case change => exact RingChange.joined rfl
  case current => rfl
  case known => exact Nat.le_succ _
  case currentState =>
    rw [current]
    exact Or.inl rfl
  case bootstrap => rw [state kernelBootstrapTaskId (Nat.ne_of_lt ring.positive)]
  case running =>
    intro id running
    by_cases isFresh : id = s.nextTaskId
    · rw [isFresh] at running
      change ((s.setTask s.nextTaskId task).tasks s.nextTaskId).state = .running at running
      simp_all
    simp_all
  case finished =>
    grind
  case finishedWaits =>
    rw [current]
    exact invariant.finishedWaits

theorem create_sound (invariant : SchedulerInvariant s) (owner : Nat) (entryGiven : Bool)
    (kind : ContextKind) (answers : CreateAnswers) :
    StepSound s (taskCreateInternal s owner entryGiven kind answers).2 := by
  rcases taskCreateInternal_cases s owner entryGiven kind answers with
    unchanged | ⟨task, used, ready, registered⟩
  · rw [unchanged]
    exact (Quiet.refl invariant).sound invariant
  · rw [registered]
    exact (taskRegister_quiet invariant used ready).sound invariant

/-! ## Switching -/

theorem taskSwitchTo_switched {waiting activated : Scheduler}
    (success : processActivate waiting process activates = some activated)
    (next : Nat) : Switched waiting (taskSwitchTo activated next) next := by
  rcases processActivate_cases success with ⟨-, rfl⟩
  constructor
  case registry => rfl
  case live => rfl
  case nextTaskId => rfl
  case mode => rfl
  case processes => exact fun _ alive => alive
  case current => rfl
  case running =>
    change ((Scheduler.setState _ next .running).tasks next).state = .running
    rw [Scheduler.setState_self]
  case used =>
    change ((Scheduler.setState _ next .running).tasks next).slotUsed = _
    rw [Scheduler.setState_self]
  case others => exact fun id different => Scheduler.setState_of_ne _ _ different

theorem Switched.of_counts {waiting s' : Scheduler} {next : Nat} (switched : Switched waiting s' next)
    (counts : TaskCounts) : Switched waiting { s' with counts := counts } next :=
  { switched with }

theorem taskContextSwitch_switched {waiting activated : Scheduler}
    (success : processActivate waiting process activates = some activated)
    (next : Nat) : Switched waiting (taskContextSwitch activated next) next :=
  (taskSwitchTo_switched success next).of_counts _

theorem taskSwitchAway_cases {waiting switched : Scheduler} {origin : Nat}
    (success : taskSwitchAway waiting origin activates = some switched) :
    ∃ next, taskSelectNext (modeCandidate false) waiting origin = some next ∧
      Switched waiting switched next := by
  unfold taskSwitchAway at success
  cases selected : taskSelectNextCooperative waiting origin with
  | none =>
    rw [selected] at success
    cases success
  | some next =>
    rw [selected] at success
    simp only at success
    cases activated : processActivate waiting (waiting.tasks next).process activates with
    | none =>
      simp_all
    | some active =>
      rw [activated] at success
      cases success
      exact ⟨next, selected, taskContextSwitch_switched activated next⟩

theorem waits_of_state {s waiting : Scheduler} (state : TaskState)
    (tasks : waiting.tasks = (s.setState s.currentTask state).tasks)
    (registry : waiting.registry = s.registry) (live : waiting.liveTaskCount = s.liveTaskCount)
    (nextTaskId : waiting.nextTaskId = s.nextTaskId) (mode : waiting.preemptionEnabled = s.preemptionEnabled)
    (processes : waiting.processes = s.processes) (stopped : state ≠ .running)
    (running : (s.tasks s.currentTask).state = .running)
    (bootstrap : s.currentTask = kernelBootstrapTaskId → state = .ready) : Waits s waiting := by
  constructor
  case registry => exact registry
  case live => exact live
  case nextTaskId => exact nextTaskId
  case mode => exact mode
  case processes => exact processes
  case used => rw [tasks, Scheduler.setState_self]
  case stopped =>
    simp [*]
  case others =>
    intro id different
    rw [tasks]
    exact s.setState_of_ne state different
  case finished => simp [*]
  simp_all

/-! ## Yielding and blocking -/

theorem quiet_of_running {s s' : Scheduler} (invariant : SchedulerInvariant s)
    (running : (s.tasks s.currentTask).state = .running)
    (registry : s'.registry = s.registry) (live : s'.liveTaskCount = s.liveTaskCount)
    (nextTaskId : s'.nextTaskId = s.nextTaskId) (current : s'.currentTask = s.currentTask)
    (used : ∀ id, (s'.tasks id).slotUsed = (s.tasks id).slotUsed)
    (still : (s'.tasks s.currentTask).state = .running)
    (others : ∀ id, id ≠ s.currentTask → (s'.tasks id).state = (s.tasks id).state) :
    Quiet s s' := by
  grind [Quiet.of_tasks]

theorem setState_used (s : Scheduler) (changed : Nat) (state : TaskState) (id : Nat) :
    ((s.setState changed state).tasks id).slotUsed = (s.tasks id).slotUsed := by
  by_cases same : id = changed
  · rw [same, Scheduler.setState_self]
  · rw [s.setState_of_ne state same]

theorem yield_sound (invariant : SchedulerInvariant s)
    (running : (s.tasks s.currentTask).state = .running) (activates : Bool) :
    StepSound s (taskYield s activates) := by
  unfold taskYield
  simp only [running, if_true]
  split
  · simp_all [Quiet.sound, quiet_of_running]
  rename_i cooperative
  have mode : s.preemptionEnabled = false := Bool.eq_false_iff.mpr cooperative
  split
  · refine Quiet.sound invariant (quiet_of_running invariant running rfl rfl rfl rfl
      (fun id => ?_) ?_ (fun id different => ?_))
    · rw [setState_used, setState_used]
    · rw [Scheduler.setState_self]
    simp_all [Scheduler.setState_of_ne]
  · rename_i switched isSwitched
    rcases taskSwitchAway_cases isSwitched with ⟨next, selected, isSwitch⟩
    refine isSwitch.sound invariant ?_ (Or.inl ?_)
    · exact waits_of_state .ready rfl rfl rfl rfl rfl rfl (by decide) running (fun _ => rfl)
    · rw [mode]
      exact selected

theorem not_bootstrap_of_regular (ring : RingSound s) {id : Nat}
    (regular : taskIsRegular s id = true) : id ≠ kernelBootstrapTaskId := by
  rintro rfl
  rw [taskIsRegular, Bool.and_eq_true, List.contains_iff_mem] at regular
  exact ring.notBootstrap regular.1

theorem block_sound (invariant : SchedulerInvariant s) (activates : Bool) :
    StepSound s (taskBlockCurrent s activates).2 := by
  unfold taskBlockCurrent
  simp only
  split
  · exact (Quiet.refl invariant).sound invariant
  rename_i allowed
  simp only [not_or, ne_eq, Decidable.not_not, Bool.not_eq_true, Bool.not_eq_false] at allowed
  rcases allowed with ⟨mode, regular, -, running⟩
  have notBootstrap := not_bootstrap_of_regular invariant.ring regular
  split
  · refine Quiet.sound invariant (quiet_of_running invariant running rfl rfl rfl rfl
      (fun id => ?_) ?_ (fun id different => ?_))
    · rw [setState_used, setState_used]
    · rw [Scheduler.setState_self]
    simp_all [Scheduler.setState_of_ne]
  · rename_i switched isSwitched
    rcases taskSwitchAway_cases isSwitched with ⟨next, selected, isSwitch⟩
    refine isSwitch.sound invariant ?_ (Or.inl ?_)
    · exact waits_of_state .blocked rfl rfl rfl rfl rfl rfl (by decide) running
        (fun isBootstrap => absurd isBootstrap notBootstrap)
    · rw [mode]
      exact selected

/-! ## Finishing -/

theorem quiet_of_finished {s s' : Scheduler} (invariant : SchedulerInvariant s)
    (notBootstrap : s.currentTask ≠ kernelBootstrapTaskId)
    (registry : s'.registry = s.registry) (live : s'.liveTaskCount = s.liveTaskCount)
    (nextTaskId : s'.nextTaskId = s.nextTaskId) (current : s'.currentTask = s.currentTask)
    (tasks : s'.tasks = (s.setState s.currentTask .finished).tasks)
    (waits : s'.preemptionEnabled = true ∨ s'.halted = true) : Quiet s s' := by
  refine Quiet.of_tasks invariant registry live nextTaskId current (fun id => ?_) (fun id => ?_)
    (fun _ => waits.imp_right Or.inr)
  · rw [tasks, setState_used]
  · by_cases isCurrent : id = s.currentTask
    · simp [*]
    · refine Or.inl ?_
      rw [tasks, s.setState_of_ne _ isCurrent]

theorem taskAfterFinished_cases (s : Scheduler) (origin : Nat)
    (notBootstrap : origin ≠ kernelBootstrapTaskId) :
    taskSelectNext (modeCandidate false) s origin = some (taskAfterFinished s origin) ∨
      (taskSelectNext (modeCandidate false) s origin = none ∧
        taskAfterFinished s origin = kernelBootstrapTaskId ∧ origin ≠ kernelBootstrapTaskId) := by
  unfold taskAfterFinished
  cases selected : taskSelectNextCooperative s origin with
  | none => exact Or.inr ⟨selected, rfl, notBootstrap⟩
  | some next => exact Or.inl selected

/-- A finished task gives way to what follows it. -/
theorem finished_switch_sound {s' : Scheduler} (invariant : SchedulerInvariant s)
    (mode : s.preemptionEnabled = false) (running : (s.tasks s.currentTask).state = .running)
    (notBootstrap : s.currentTask ≠ kernelBootstrapTaskId)
    (switched : Switched (taskFinish s) s' (taskAfterFinished (taskFinish s) s.currentTask)) :
    StepSound s s' := by
  refine switched.sound invariant ?_ ?_
  · exact waits_of_state .finished rfl rfl rfl rfl rfl rfl (by decide) running
      (fun isBootstrap => absurd isBootstrap notBootstrap)
  · rw [mode]
    exact taskAfterFinished_cases _ _ notBootstrap

theorem halt_sound (invariant : SchedulerInvariant s) : StepSound s (haltForever s) :=
  Quiet.sound invariant (Quiet.of_tasks invariant rfl rfl rfl rfl (fun _ => rfl)
    (fun _ => Or.inl rfl) (fun _ => Or.inr (Or.inr rfl)))

theorem Switched.of_marked {waiting activated marked : Scheduler}
    {released : Bool} {next : Nat} (switched : Switched waiting (taskSwitchTo activated next) next)
    (success : processMarkFinished activated process released = some marked) :
    Switched waiting (taskSwitchTo marked next) next := by
  rcases processMarkFinished_cases success with ⟨processes, rfl, alive⟩
  exact { switched with
    processes := fun pid isAlive => switched.processes pid (alive pid isAlive)
    current := by rfl }

theorem exitProcess_sound (invariant : SchedulerInvariant s) (activates released : Bool) :
    StepSound s (taskExitCurrentProcess s activates released) := by
  unfold taskExitCurrentProcess
  simp only
  split
  · exact halt_sound invariant
  rename_i allowed
  simp only [not_or, ne_eq, Decidable.not_not, Bool.not_eq_true, Bool.not_eq_false] at allowed
  rcases allowed with ⟨mode, regular, -, running, -⟩
  have notBootstrap := not_bootstrap_of_regular invariant.ring regular
  split
  · exact Quiet.sound invariant (quiet_of_finished invariant notBootstrap rfl rfl rfl rfl rfl (Or.inr rfl))
  rename_i activated isActivated
  have switched := taskSwitchTo_switched isActivated (taskAfterFinished (taskFinish s) s.currentTask)
  split
  · rcases processActivate_cases isActivated with ⟨-, rfl⟩
    exact Quiet.sound invariant
      (quiet_of_finished invariant notBootstrap rfl rfl rfl rfl rfl (Or.inr rfl))
  · rename_i marked isMarked
    exact finished_switch_sound invariant mode running notBootstrap
      ((switched.of_marked isMarked).of_counts _)

theorem finish_sound (invariant : SchedulerInvariant s) (activates : Bool) :
    StepSound s (taskFinishCurrent s activates) := by
  unfold taskFinishCurrent
  simp only
  split
  · exact halt_sound invariant
  rename_i allowed
  simp only [not_or, ne_eq, Decidable.not_not, Bool.not_eq_false] at allowed
  rcases allowed with ⟨regular, -, -, running⟩
  have notBootstrap := not_bootstrap_of_regular invariant.ring regular
  split
  · rename_i mode
    exact Quiet.sound invariant (quiet_of_finished invariant notBootstrap rfl rfl rfl rfl rfl (Or.inl mode))
  split
  · exact Quiet.sound invariant
      (quiet_of_finished invariant notBootstrap rfl rfl rfl rfl rfl (Or.inr rfl))
  grind [finished_switch_sound, taskContextSwitch_switched]

/-! ## Cleaning up -/

/-- Some tasks have been removed from the ring, and nothing else has changed. -/
structure Removed (s s' : Scheduler) (ids : List Nat) (stays : Nat → Bool) : Prop where
  registry : s'.registry = s.registry.filter stays
  live : s'.liveTaskCount = s'.registry.length
  tasks : ∀ id, s'.tasks id = if stays id then s.tasks id else taskClear
  leaves : ∀ id, stays id = false → id ∈ ids
  current : s'.currentTask = s.currentTask
  nextTaskId : s'.nextTaskId = s.nextTaskId
  mode : s'.preemptionEnabled = s.preemptionEnabled
  counts : s'.counts = s.counts
  halted : s'.halted = s.halted

theorem Removed.refl (ring : RingSound s) (ids : List Nat) : Removed s s ids (fun _ => true) := by
  constructor
  case registry => rw [List.filter_true]
  case live => exact ring.live
  case tasks => exact fun id => (if_pos rfl).symm
  case leaves => exact fun id => nofun
  case current => rfl
  case nextTaskId => rfl
  case mode => rfl
  case counts => rfl
  case halted => rfl

theorem taskRegistryRemove_tasks (s : Scheduler) (id other : Nat) :
    (taskRegistryRemove s id).tasks other = if other = id then taskClear else s.tasks other := rfl

theorem taskRegistryRemove_ring (ring : RingSound s) {id : Nat} (member : id ∈ s.registry) :
    RingSound (taskRegistryRemove s id) := by
  have mem : ∀ other, other ∈ (taskRegistryRemove s id).registry ↔
      other ≠ id ∧ other ∈ s.registry := fun other => ring.nodup.mem_erase_iff
  constructor
  case nodup => exact ring.nodup.erase id
  case notBootstrap => exact fun inRing => ring.notBootstrap ((mem _).mp inRing).2
  case live =>
    change s.liveTaskCount - 1 = (s.registry.erase id).length
    rw [List.length_erase_of_mem member, ring.live]
  case used =>
    intro other inRing
    rw [taskRegistryRemove_tasks, if_neg ((mem other).mp inRing).1]
    exact ring.used other ((mem other).mp inRing).2
  case known => exact fun other inRing => ring.known other ((mem other).mp inRing).2
  case positive => exact ring.positive

/-- The loop removes members of the list as far as it gets. -/
theorem taskRelease_removed (freed : Nat → Bool × Bool) (ids : List Nat) :
    ∀ s, RingSound s → ids.Nodup → (∀ id ∈ ids, id ∈ s.registry) →
      ∃ stays, Removed s (taskRelease freed s ids).2 ids stays := by
  induction ids with
  | nil => exact fun s ring _ _ => ⟨_, Removed.refl ring []⟩
  | cons id rest ih =>
    intro s ring nodup members
    have inRing := members id List.mem_cons_self
    have nextRing := taskRegistryRemove_ring ring inRing
    have first : ∃ stays, Removed s (taskRegistryRemove s id) (id :: rest) stays := by
      refine ⟨fun other => other != id, ?_⟩
      constructor
      case registry => exact ring.nodup.erase_eq_filter id
      case live => exact nextRing.live
      case tasks =>
        intro other
        rw [taskRegistryRemove_tasks]
        simp
      case leaves =>
        simp
      case current => rfl
      case nextTaskId => rfl
      case mode => rfl
      case counts => rfl
      case halted => rfl
    unfold taskRelease
    split
    · exact ⟨_, Removed.refl ring _⟩
    split
    · exact first
    have others : ∀ other ∈ rest, other ∈ (taskRegistryRemove s id).registry := by
      intro other inRest
      refine ring.nodup.mem_erase_iff.mpr ⟨?_, members other (List.mem_cons_of_mem _ inRest)⟩
      rintro rfl
      exact (List.nodup_cons.mp nodup).1 inRest
    rcases ih _ nextRing (List.nodup_cons.mp nodup).2 others with ⟨stays, removed⟩
    refine ⟨fun other => (other != id) && stays other, ?_⟩
    exact { removed with
      registry := by
        rw [removed.registry]
        change (s.registry.erase id).filter stays = _
        rw [ring.nodup.erase_eq_filter, List.filter_filter]
        simp only [Bool.and_comm]
      tasks := by
        intro other
        rw [removed.tasks, taskRegistryRemove_tasks]
        grind
      leaves := by
        intro other left
        rw [Bool.and_eq_false_iff] at left
        rcases left with isFirst | inRest
        · simp_all
        · exact List.mem_cons_of_mem _ (removed.leaves other inRest) }

/-- Removing finished tasks other than the current one is quiet. -/
theorem Removed.quiet {s s' : Scheduler} {ids : List Nat} {stays : Nat → Bool}
    (invariant : SchedulerInvariant s) (removed : Removed s s' ids stays)
    (members : ∀ id ∈ ids, id ∈ s.registry) (current : s.currentTask ∉ ids) : Quiet s s' := by
  have ring := invariant.ring
  have currentStays : stays s.currentTask = true := by
    rw [← Bool.not_eq_false]
    exact fun left => current (removed.leaves _ left)
  have bootstrapStays : stays kernelBootstrapTaskId = true := by
    rw [← Bool.not_eq_false]
    exact fun left => ring.notBootstrap (members _ (removed.leaves _ left))
  have mem : ∀ id, id ∈ s'.registry → id ∈ s.registry ∧ stays id = true := by
    intro id member
    rw [removed.registry] at member
    exact List.mem_filter.mp member
  constructor
  case ring =>
    constructor
    case nodup => rw [removed.registry]; exact ring.nodup.filter _
    case notBootstrap => exact fun member => ring.notBootstrap (mem _ member).1
    case live => exact removed.live
    case used =>
      intro id member
      rw [removed.tasks, if_pos (mem id member).2]
      exact ring.used id (mem id member).1
    case known =>
      intro id member
      rw [removed.nextTaskId]
      exact ring.known id (mem id member).1
    case positive => rw [removed.nextTaskId]; exact ring.positive
  case change => exact RingChange.left stays removed.registry currentStays
  case current => exact removed.current
  case known => rw [removed.nextTaskId]
  case currentState =>
    rw [removed.tasks, if_pos currentStays]
    exact Or.inl rfl
  case bootstrap => rw [removed.tasks, if_pos bootstrapStays]
  case running =>
    intro id running
    rw [removed.tasks] at running
    cases stayed : stays id with
    | true =>
      simp_all
    | false =>
      rw [stayed, if_neg (by decide)] at running
      cases running
  case finished =>
    intro id _ finished
    rw [removed.tasks]
    cases stays id with
    | true => exact finished
    | false => rfl
  case finishedWaits =>
    rw [removed.tasks, if_pos currentStays, removed.mode, removed.counts, removed.halted]
    exact invariant.finishedWaits

theorem reap_sound (invariant : SchedulerInvariant s) (pid : Nat) (freed : Nat → Bool × Bool) :
    StepSound s (taskReapFinishedProcess s pid freed).2 := by
  unfold taskReapFinishedProcess
  simp only
  split
  · exact (Quiet.refl invariant).sound invariant
  rename_i allowed
  simp only [not_or] at allowed
  have notCurrent := allowed.2.2.2.2
  rcases taskRelease_removed freed _ s invariant.ring (invariant.ring.nodup.filter _)
    (fun id member => (List.mem_filter.mp member).1) with ⟨stays, removed⟩
  refine Quiet.sound invariant (removed.quiet invariant
    (fun id member => (List.mem_filter.mp member).1) (fun member => notCurrent ?_))
  grind

theorem bootstrapRuns_cases (s : Scheduler) (runs : bootstrapRuns s = true) :
    s.currentTask = kernelBootstrapTaskId ∧ (s.tasks s.currentTask).state = .running := by
  simp only [bootstrapRuns, Bool.and_eq_true, beq_iff_eq] at runs
  simp [*]

theorem cleanup_sound (invariant : SchedulerInvariant s) (freed : Nat → Bool × Bool) :
    StepSound s (taskCleanupFinished s freed).2 := by
  unfold taskCleanupFinished
  split
  · exact (Quiet.refl invariant).sound invariant
  rename_i allowed
  simp only [not_or, Bool.not_eq_false] at allowed
  have isBootstrap := (bootstrapRuns_cases s allowed.2.1).1
  rcases taskRelease_removed freed _ s invariant.ring invariant.ring.nodup
    (fun id member => member) with ⟨stays, removed⟩
  refine Quiet.sound invariant (removed.quiet invariant (fun id member => member) ?_)
  rw [isBootstrap]
  exact invariant.ring.notBootstrap

/-! ## Starting and stopping the preemption -/

theorem forget_frame_quiet {s s' : Scheduler} (invariant : SchedulerInvariant s)
    (runs : bootstrapRuns s = true)
    (registry : s'.registry = s.registry) (live : s'.liveTaskCount = s.liveTaskCount)
    (nextTaskId : s'.nextTaskId = s.nextTaskId) (current : s'.currentTask = s.currentTask)
    (tasks : s'.tasks = (s.setTask kernelBootstrapTaskId
      { s.tasks kernelBootstrapTaskId with preemptFrame := none }).tasks) : Quiet s s' := by
  rcases bootstrapRuns_cases s runs with ⟨isBootstrap, running⟩
  refine quiet_of_running invariant running registry live nextTaskId current (fun id => ?_) ?_
    (fun id different => ?_)
  · rw [tasks]
    by_cases same : id = kernelBootstrapTaskId
    · rw [same, Scheduler.setTask_self]
    · rw [s.setTask_of_ne _ same]
  · simp_all
  · rw [isBootstrap] at different
    rw [tasks, s.setTask_of_ne _ different]

section

variable (invariant : SchedulerInvariant s)
include invariant

theorem preemptionStart_sound : StepSound s (taskPreemptionStart s).2 := by
  unfold taskPreemptionStart
  split
  · exact (Quiet.refl invariant).sound invariant
  rename_i allowed
  simp only [not_or, Bool.not_eq_false] at allowed
  exact Quiet.sound invariant (forget_frame_quiet invariant allowed.2.1 rfl rfl rfl rfl rfl)

theorem preemptionStop_sound : StepSound s (taskPreemptionStop s).2 := by
  unfold taskPreemptionStop
  split
  · exact (Quiet.refl invariant).sound invariant
  rename_i allowed
  simp only [not_or, Bool.not_eq_false] at allowed
  exact Quiet.sound invariant (forget_frame_quiet invariant allowed.2 rfl rfl rfl rfl rfl)

/-! ## Waking -/

theorem wakeProcess_sound (pid : Nat) : StepSound s (taskWakeProcess s pid).2 := by
  unfold taskWakeProcess
  split
  · exact (Quiet.refl invariant).sound invariant
  have states : ∀ (wakes : Nat → Bool), (∀ id, wakes id = true → (s.tasks id).state = .blocked) →
      ∀ id, ((if wakes id then { s.tasks id with state := TaskState.ready } else s.tasks id)).state
          = (s.tasks id).state ∨
        ((s.tasks id).state = .blocked ∧
          ((if wakes id then { s.tasks id with state := TaskState.ready }
            else s.tasks id)).state = .ready) := by
    intro wakes blocked id
    cases woken : wakes id with
    | true => exact Or.inr ⟨blocked id woken, rfl⟩
    | false => exact Or.inl rfl
  have blocked : ∀ id, (s.registry.contains id && (s.tasks id).slotUsed &&
      (s.tasks id).process == some pid && (s.tasks id).contextKind == .cooperative &&
      (s.tasks id).state == .blocked) = true → (s.tasks id).state = .blocked := by
    intro id wakes
    simp only [Bool.and_eq_true, beq_iff_eq] at wakes
    exact wakes.2
  refine Quiet.sound invariant (Quiet.of_tasks invariant rfl rfl rfl rfl (fun id => ?_)
    (fun id => (states _ blocked id).imp_right Or.inr) (fun finished => ?_))
  · simp only
    split <;> rfl
  · rcases states _ blocked s.currentTask with same | ⟨-, ready⟩
    · rw [same] at finished
      exact invariant.finishedWaits finished
    simp_all

theorem wakePid_sound (pid : Nat) : StepSound s (taskWakePid s pid).2 := by
  unfold taskWakePid
  split
  · exact (Quiet.refl invariant).sound invariant
  · exact wakeProcess_sound invariant pid

end

end BoringOS.Tasks
