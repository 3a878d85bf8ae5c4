import BoringOS.Tasks.SchedulerTick

namespace BoringOS.Tasks

open Library

/-!
# Runs of the scheduler

In every state that a run reaches, the current task is the only one that runs,
unless it has finished and waits to be replaced.  A finished task does not come
back.  And whoever could be served all the time between two slices of another
task has been served in between: it lies ahead of the task that was left, and
it stays ahead until its turn comes.

The bootstrap task is no member of the ring.  It takes over when a task has
finished and nobody follows, and so it may have to wait for ever.
-/

theorem taskInit_invariant (processes : Nat → ProcessState) :
    SchedulerInvariant (taskInit processes) := by
  have bootstrap : ((taskInit processes).tasks kernelBootstrapTaskId).state = .running := rfl
  constructor
  case ring =>
    constructor
    case nodup => exact List.nodup_nil
    case notBootstrap => exact List.not_mem_nil
    case live => rfl
    case used => nofun
    case known => nofun
    case positive => exact Nat.one_pos
  case current => exact Or.inl rfl
  case oneRunning =>
    intro id running
    by_contra other
    simp_all [taskInit, taskClear]
  case currentState => exact Or.inl bootstrap
  case bootstrap => exact Or.inl bootstrap
  nofun

theorem run_scheduler_invariant (processes : Nat → ProcessState) (calls : List TaskCall) :
    SchedulerInvariant (run Scheduler.step (taskInit processes) calls) := by
  have kept : ∀ s call, SchedulerInvariant s → SchedulerInvariant (Scheduler.step s call) :=
    fun s call invariant => (step_sound invariant call).invariant
  exact run_invariant kept calls _ (taskInit_invariant processes)

theorem run_finished (calls : List TaskCall) :
    ∀ s, SchedulerInvariant s → ∀ id < s.nextTaskId, (s.tasks id).state = .finished →
      ((run Scheduler.step s calls).tasks id).state = .finished ∧
        ((run Scheduler.step s calls).currentTask = id → s.currentTask = id) := by
  induction calls with
  | nil => simp
  | cons call rest ih =>
    intro s invariant id known finished
    have sound := step_sound invariant call
    have next := sound.finished id known finished
    have last := ih _ sound.invariant id (Nat.lt_of_lt_of_le known sound.known) next.1
    simp_all

/-- A task that could be served, and that lies ahead of another, is served next
or stays ahead. -/
theorem ahead_step {s s' : Scheduler} {task id : Nat} (invariant : SchedulerInvariant s)
    (sound : StepSound s s') (ahead : ComesFirst (following s.registry s.currentTask) id task)
    (known : task < s.nextTaskId) (moved : s.currentTask ≠ task ∨ s'.currentTask ≠ task)
    (notCurrent : id ≠ s.currentTask) (selectable : Selectable s id ∨ Selectable s' id)
    (stays : s'.currentTask ≠ task → Selectable s' id ∨ s'.currentTask = id) :
    s'.currentTask = id ∨
      (s'.currentTask ≠ task ∧ ComesFirst (following s'.registry s'.currentTask) id task) := by
  have nodup := invariant.ring.nodup
  rcases sound.effect with ⟨current, change⟩ | ⟨accepts, ring, accepted, next⟩
  · have elsewhere : s'.currentTask ≠ task := by
      rcases moved with before | after
      · rw [current]
        exact before
      · exact after
    refine Or.inr ⟨elsewhere, ?_⟩
    rw [current]
    rcases change with registry | registry | ⟨keeps, registry, currentStays⟩
    · rw [registry]
      exact ahead
    · rw [registry]
      exact ahead.append (Nat.ne_of_gt invariant.current_lt) (Nat.ne_of_gt known)
    · rw [registry, following_filter _ currentStays]
      refine ahead.filter ?_
      rcases stays elsewhere with ⟨member, -⟩ | isCurrent
      · simp_all
      omega
  · have accepted := accepted id notCurrent selectable
    rcases next with found | ⟨nobody, -⟩
    · rcases ahead.served nodup accepted found with isServed | ⟨elsewhere, stillAhead⟩
      · exact Or.inl isServed
      simp [*]
    · rcases ahead with ⟨before, after, isFollowing, -⟩
      simp_all

theorem served_before {task id : Nat} (different : id ≠ task) (calls : List TaskCall) :
    ∀ s, SchedulerInvariant s → ComesFirst (following s.registry s.currentTask) id task →
      task < s.nextTaskId → s.currentTask ≠ task → s.currentTask ≠ id → Selectable s id →
      (∀ m, Between Scheduler.step s calls m →
        m.currentTask ≠ task ∧ (Selectable m id ∨ m.currentTask = id)) →
      (run Scheduler.step s calls).currentTask = task →
      ∃ m, Between Scheduler.step s calls m ∧ m.currentTask = id := by
  induction calls with
  | nil => simp_all
  | cons call rest ih =>
    intro s invariant ahead known elsewhere notServed selectable between arrives
    have sound := step_sound invariant call
    have first : rest ≠ [] → Between Scheduler.step s (call :: rest) (s.step call) :=
      fun more => between_cons.mpr ⟨more, Or.inl rfl⟩
    have stays : (s.step call).currentTask ≠ task →
        Selectable (s.step call) id ∨ (s.step call).currentTask = id := by
      intro notTask
      refine (between _ (first ?_)).2
      rintro rfl
      exact notTask arrives
    rcases ahead_step invariant sound ahead known (Or.inl elsewhere) notServed.symm
      (Or.inl selectable) stays with isServed | ⟨notTask, stillAhead⟩
    · refine ⟨_, first ?_, isServed⟩
      rintro rfl
      exact different (isServed.symm.trans arrives)
    have more : rest ≠ [] := by
      rintro rfl
      exact notTask arrives
    rcases stays notTask with stillSelectable | isServed
    · by_cases isServed : (s.step call).currentTask = id
      · exact ⟨_, first more, isServed⟩
      · rcases ih _ sound.invariant stillAhead (Nat.lt_of_lt_of_le known sound.known) notTask
          isServed stillSelectable
          (fun m inRest => between m (between_cons.mpr ⟨more, Or.inr inRest⟩)) arrives with
          ⟨m, inRest, served⟩
        exact ⟨m, between_cons.mpr ⟨more, Or.inr inRest⟩, served⟩
    · exact ⟨_, first more, isServed⟩

/-- A run leaves a task and comes back to it for the first time. -/
structure ConsecutiveSlices (s : Scheduler) (calls : List TaskCall) (task : Nat) : Prop where
  before : s.currentTask = task
  after : (run Scheduler.step s calls).currentTask = task
  apart : ∃ m, Between Scheduler.step s calls m
  between : ∀ m, Between Scheduler.step s calls m → m.currentTask ≠ task

/-- Whoever could be served, or was, in all states between two slices of a
task has been served in between. -/
theorem served_between {s : Scheduler} (invariant : SchedulerInvariant s) {calls : List TaskCall}
    {task id : Nat} (slices : ConsecutiveSlices s calls task) (different : id ≠ task)
    (waits : ∀ m, Between Scheduler.step s calls m → Selectable m id ∨ m.currentTask = id) :
    ∃ m, Between Scheduler.step s calls m ∧ m.currentTask = id := by
  cases calls with
  | nil =>
    rcases slices.apart with ⟨m, before, after, isRun, someBefore, -⟩
    simp_all
  | cons call rest =>
    rcases slices.apart with ⟨m, inRun⟩
    have more := (between_cons.mp inRun).1
    have first : Between Scheduler.step s (call :: rest) (s.step call) :=
      between_cons.mpr ⟨more, Or.inl rfl⟩
    have elsewhere := slices.between _ first
    rcases waits _ first with selectable | isServed
    · by_cases isServed : (s.step call).currentTask = id
      · exact ⟨_, first, isServed⟩
      · have sound := step_sound invariant call
        have known : task < s.nextTaskId := by
          rw [← slices.before]
          exact invariant.current_lt
        have member : id ∈ s.registry := by
          rcases sound.effect with ⟨current, -⟩ | ⟨-, ring, -⟩
          · rw [slices.before] at current
            exact absurd current elsewhere
          · rw [← ring]
            exact selectable.1
        have ahead : ComesFirst (following s.registry s.currentTask) id task := by
          rw [slices.before]
          exact comesFirst_of_left invariant.ring.nodup member different
        have notCurrent : id ≠ s.currentTask := by
          rw [slices.before]
          exact different
        rcases ahead_step invariant sound ahead known (Or.inr elsewhere) notCurrent
          (Or.inr selectable) (fun _ => Or.inl selectable) with served | ⟨-, stillAhead⟩
        · exact ⟨_, first, served⟩
        rcases served_before different rest _ sound.invariant stillAhead
          (Nat.lt_of_lt_of_le known sound.known) elsewhere isServed selectable
          (fun m inRest => ⟨slices.between m (between_cons.mpr ⟨more, Or.inr inRest⟩),
            waits m (between_cons.mpr ⟨more, Or.inr inRest⟩)⟩) slices.after with
          ⟨m, inRest, served⟩
        exact ⟨m, between_cons.mpr ⟨more, Or.inr inRest⟩, served⟩
    · exact ⟨_, first, isServed⟩

/-- The state of the current task does not matter to the ring. -/
theorem ringSound_setTask {s : Scheduler} (ring : RingSound s) {id : Nat} {task : KernelTask}
    (used : task.slotUsed = (s.tasks id).slotUsed) : RingSound (s.setTask id task) := by
  exact { ring with
    used := by
      intro other member
      by_cases same : other = id
      · rw [same, Scheduler.setTask_self, used, ← same]
        exact ring.used other member
      · rw [s.setTask_of_ne task same]
        exact ring.used other member }

/-- In every run, at most the current task runs, and it does unless it has
finished and nothing can replace it yet; a finished task stays so and is not
served again; whatever the current task has become, the selection finds the
first candidate behind it in the ring; and whoever could be served between two
slices of a task has been. -/
theorem scheduler_serves_in_turn (processes : Nat → ProcessState) (calls : List TaskCall) :
    let s := run Scheduler.step (taskInit processes) calls
    ((∀ id, (s.tasks id).state = .running → id = s.currentTask) ∧
      ((s.tasks s.currentTask).state = .running ∨
        ((s.tasks s.currentTask).state = .finished ∧
          (s.preemptionEnabled = true ∨ s.counts.schedulerFaults ≠ 0 ∨ s.halted = true)))) ∧
    (∀ later, ∀ id < s.nextTaskId, (s.tasks id).state = .finished →
      ((run Scheduler.step s later).tasks id).state = .finished ∧
        ((run Scheduler.step s later).currentTask = id → s.currentTask = id)) ∧
    (∀ task : KernelTask, task.slotUsed = (s.tasks s.currentTask).slotUsed → ∀ origin,
      let waiting := s.setTask s.currentTask task
      taskSelectNextCooperative waiting origin =
          (following s.registry origin).find? (cooperativeCandidate waiting origin) ∧
        taskSelectNextPreemptive waiting origin =
          (following s.registry origin).find? (preemptiveCandidate waiting origin)) ∧
    ∀ later task, ConsecutiveSlices s later task → ∀ id, id ≠ task →
      (∀ m, Between Scheduler.step s later m → Selectable m id ∨ m.currentTask = id) →
      ∃ m, Between Scheduler.step s later m ∧ m.currentTask = id := by
  intro s
  have invariant : SchedulerInvariant s := run_scheduler_invariant processes calls
  refine ⟨⟨invariant.oneRunning, ?_⟩, ?_, ?_, ?_⟩
  · rcases invariant.currentState with running | finished
    · exact Or.inl running
    · exact Or.inr ⟨finished, invariant.finishedWaits finished⟩
  · exact fun later => run_finished later s invariant
  · intro task used origin
    have ring := ringSound_setTask invariant.ring used
    exact ⟨taskSelectNext_eq_find? ring false origin, taskSelectNext_eq_find? ring true origin⟩
  · intro later task slices id different waits
    exact served_between invariant slices different waits

/-- Two tasks under preemption, of which the first has been given a slice -/
def twoTasksPreempted : List TaskCall :=
  [.create 0 true .preemptive ⟨true, some 65536, 8, 16, 1⟩,
    .create 0 true .preemptive ⟨true, some 131072, 8, 16, 1⟩, .preemptionStart,
    .tick ⟨0, 0, 0, 0, 0, 0, 0, 0, 0, 0⟩ true]

/-- A frame on the stack of a task -/
def frameOn (stack : Nat) : TrapFrame :=
  ⟨stack + 16184, stack + 16376, 16, 32, 0, 1, 8, 2, stack + 16376, 16⟩

/-- A task that finishes under preemption leaves no task running until the next
tick; and between two slices of one task the bootstrap task may stay ready all
the time without being served. -/
theorem finished_task_leaves_none_running :
    (∃ calls, ∀ id,
      ((run Scheduler.step (taskInit fun _ => .alive) calls).tasks id).state ≠ .running) ∧
    ∃ calls later, ConsecutiveSlices (run Scheduler.step (taskInit fun _ => .alive) calls) later 1 ∧
      ∀ m, Between Scheduler.step (run Scheduler.step (taskInit fun _ => .alive) calls) later m →
        (m.tasks kernelBootstrapTaskId).state = .ready ∧ m.currentTask ≠ kernelBootstrapTaskId := by
  refine ⟨⟨twoTasksPreempted ++ [.finish true], fun id running => ?_⟩, twoTasksPreempted,
    [.tick (frameOn 65536) true, .tick (frameOn 131072) true], ?_, fun m visited => ?_⟩
  · have invariant := run_scheduler_invariant (fun _ => .alive) (twoTasksPreempted ++ [.finish true])
    rw [invariant.oneRunning id running] at running
    revert running
    decide +kernel
  · constructor
    case before => decide +kernel
    case after => decide +kernel
    case apart => exact ⟨_, between_cons.mpr ⟨List.cons_ne_nil _ _, Or.inl rfl⟩⟩
    case between =>
      intro m visited
      rcases (between_cons.mp visited).2 with rfl | last
      · decide +kernel
      · exact absurd rfl (between_cons.mp last).1
  · rcases (between_cons.mp visited).2 with rfl | last
    · decide +kernel
    · exact absurd rfl (between_cons.mp last).1

/-- The ring lists its members by age. -/
theorem ringChange_ordered {s s' : Scheduler} (ring : RingSound s) (change : RingChange s s')
    (ordered : s.registry.Pairwise (· < ·)) : s'.registry.Pairwise (· < ·) ∧
      ∀ id < s.nextTaskId, id ∉ s.registry → id ∉ s'.registry := by
  rcases change with registry | registry | ⟨stays, registry, -⟩
  · rw [registry]
    exact ⟨ordered, fun _ _ => id⟩
  · rw [registry]
    refine ⟨List.pairwise_append.mpr ⟨ordered, List.pairwise_singleton _ _, ?_⟩, ?_⟩
    · intro id member new isNew
      rw [List.mem_singleton.mp isNew]
      exact ring.known id member
    · intro id known absent member
      rcases List.mem_append.mp member with old | isNew
      · exact absent old
      · exact absurd (List.mem_singleton.mp isNew) (Nat.ne_of_lt known)
  · rw [registry]
    exact ⟨ordered.filter _, fun _ _ absent member => absent (List.mem_of_mem_filter member)⟩

theorem run_ordered (calls : List TaskCall) : ∀ s, SchedulerInvariant s →
    s.registry.Pairwise (· < ·) →
    (run Scheduler.step s calls).registry.Pairwise (· < ·) ∧
      ∀ id < s.nextTaskId, id ∉ s.registry → id ∉ (run Scheduler.step s calls).registry := by
  induction calls with
  | nil => exact fun s _ ordered => ⟨ordered, fun _ _ absent => absent⟩
  | cons call rest ih =>
    intro s invariant ordered
    have sound := step_sound invariant call
    have next : (s.step call).registry.Pairwise (· < ·) ∧
        ∀ id < s.nextTaskId, id ∉ s.registry → id ∉ (s.step call).registry := by
      rcases sound.effect with ⟨-, change⟩ | ⟨-, same, -⟩
      · exact ringChange_ordered invariant.ring change ordered
      · rw [same]
        exact ⟨ordered, fun _ _ => id⟩
    rcases ih _ sound.invariant next.1 with ⟨last, gone⟩
    exact ⟨last, fun id known absent =>
      gone id (Nat.lt_of_lt_of_le known sound.known) (next.2 id known absent)⟩

/-- In every run the ring is ordered by age and counted, so that the tasks take
turns in the order of their creation; and who has left it never comes back. -/
theorem scheduler_ring_by_age (processes : Nat → ProcessState) (calls : List TaskCall) :
    let s := run Scheduler.step (taskInit processes) calls
    s.registry.Pairwise (· < ·) ∧ s.liveTaskCount = s.registry.length ∧
      (∀ id ∈ s.registry, 0 < id ∧ id < s.nextTaskId ∧ (s.tasks id).slotUsed = true) ∧
      ∀ later, ∀ id < s.nextTaskId, id ∉ s.registry →
        id ∉ (run Scheduler.step s later).registry := by
  intro s
  have invariant : SchedulerInvariant s := run_scheduler_invariant processes calls
  have ordered : s.registry.Pairwise (· < ·) :=
    (run_ordered calls _ (taskInit_invariant processes) List.Pairwise.nil).1
  refine ⟨ordered, invariant.ring.live, fun id member => ⟨?_, invariant.ring.known id member,
    invariant.ring.used id member⟩, fun later => (run_ordered later s invariant ordered).2⟩
  exact Nat.pos_of_ne_zero fun isZero =>
    invariant.ring.notBootstrap (by rw [kernelBootstrapTaskId, ← isZero]; exact member)

end BoringOS.Tasks
