import BoringOS.Library.RoundRobin
import BoringOS.Library.Run
import BoringOS.Memory.Pmm

namespace BoringOS.Tasks

open Library
open Memory (uint64Max)

/-!
# The task scheduler

A transcription of `kernel/core/task.c`.  A task is known by its identifier,
which is never used twice; the registry is the list of the identifiers of the
tasks that exist beside the bootstrap task, in the order of their creation.

Everything outside of the file answers as it likes: whether a process can be
activated or marked as finished, whether memory can be allocated and given
back, and which frame a timer interrupt brings.  The flag that masks interrupts
and the stacks that system calls use are left out.
-/

def kernelTaskStackSize : Nat := 16384
def kernelTaskPolicyLimit : Nat := 64
def kernelBootstrapTaskId : Nat := 0
def taskStackSentinel : Nat := 0x424f52494e475354
def taskStackReservedBytes : Nat := 16
def kernelHeapAlignment : Nat := 16
def x86_64RflagsReservedBit : Nat := 0x2
def x86_64RflagsInterruptEnable : Nat := 2 ^ 9
def x86_64TimerVector : Nat := 32
/-- `sizeof(struct x86_64_trap_frame)` -/
def trapFrameSize : Nat := 192

/-- `enum kernel_task_state` -/
inductive TaskState where
  | ready
  | running
  | finished
  | blocked
deriving DecidableEq, Repr

/-- `enum kernel_task_context_kind` -/
inductive ContextKind where
  | none
  | cooperative
  | preemptive
deriving DecidableEq, Repr

/-- The state of a process, or that there is none with its number -/
inductive ProcessState where
  | absent
  | alive
  | finished
deriving DecidableEq, Repr

/-- `struct x86_64_trap_frame` with its place, without the registers that
nothing here reads -/
structure TrapFrame where
  address : Nat
  rsp : Nat
  ss : Nat
  vector : Nat
  errorCode : Nat
  rip : Nat
  cs : Nat
  rflags : Nat
  hardwareRsp : Nat
  hardwareSs : Nat
deriving DecidableEq, Repr

/-- `struct kernel_task`, with the first word of its stack -/
structure KernelTask where
  process : Option Nat
  state : TaskState
  contextKind : ContextKind
  contextRsp : Nat
  preemptFrame : Option TrapFrame
  stackBase : Nat
  stackSize : Nat
  sentinel : Nat
  preemptSlices : Nat
  slotUsed : Bool
deriving DecidableEq, Repr

/-- `task_clear` -/
def taskClear : KernelTask := ⟨none, .finished, .none, 0, none, 0, 0, 0, 0, false⟩

structure TaskCounts where
  created : Nat
  finished : Nat
  contextSwitches : Nat
  yieldCalls : Nat
  schedulerTicks : Nat
  preemptions : Nat
  finishedResumes : Nat
  schedulerFaults : Nat
deriving DecidableEq, Repr

/-- The static variables, and what the scheduler sees of the processes.  A
kernel that has halted stays so. -/
structure Scheduler where
  tasks : Nat → KernelTask
  registry : List Nat
  liveTaskCount : Nat
  currentTask : Nat
  preemptionEnabled : Bool
  nextTaskId : Nat
  counts : TaskCounts
  processes : Nat → ProcessState
  currentProcess : Nat
  halted : Bool

namespace Scheduler

variable (s : Scheduler)

def setTask (id : Nat) (task : KernelTask) : Scheduler :=
  { s with tasks := fun other => if other = id then task else s.tasks other }

def setState (id : Nat) (state : TaskState) : Scheduler :=
  s.setTask id { s.tasks id with state := state }

@[simp] theorem setTask_self (id : Nat) (task : KernelTask) :
    (s.setTask id task).tasks id = task := if_pos rfl

theorem setTask_of_ne {id other : Nat} (task : KernelTask) (different : other ≠ id) :
    (s.setTask id task).tasks other = s.tasks other := if_neg different

@[simp] theorem setState_self (id : Nat) (state : TaskState) :
    (s.setState id state).tasks id = { s.tasks id with state := state } := if_pos rfl

theorem setState_of_ne {id other : Nat} (state : TaskState)
    (different : other ≠ id) : (s.setState id state).tasks other = s.tasks other :=
  if_neg different

end Scheduler

/-! ## Checks -/

variable (s : Scheduler)

/-- `task_is_regular` -/
def taskIsRegular (id : Nat) : Bool := s.registry.contains id && (s.tasks id).slotUsed

variable (task : KernelTask)

/-- `task_process_is_valid` -/
def taskProcessIsValid : Bool :=
  match task.process with
  | none => false
  | some pid => s.processes pid == .alive

/-- `task_stack_ranges_overlap` -/
def taskStackRangesOverlap (firstBase firstSize secondBase secondSize : Nat) : Bool :=
  if uint64Max - firstBase < firstSize ∨ uint64Max - secondBase < secondSize then true
  else decide (firstBase < secondBase + secondSize) && decide (secondBase < firstBase + firstSize)

/-- `task_stack_storage_is_valid`.  The stack is a range from its base on. -/
def taskStackStorageIsValid : Bool :=
  task.slotUsed && task.stackBase != 0 && task.stackSize == kernelTaskStackSize &&
    decide (task.stackSize ≤ uint64Max - task.stackBase) &&
    task.stackBase &&& (kernelHeapAlignment - 1) == 0 &&
    (task.stackBase + task.stackSize) &&& 0x0f == 0 && task.sentinel == taskStackSentinel

/-- `task_stack_common_is_valid` -/
def taskStackCommonIsValid : Bool := taskProcessIsValid s task && taskStackStorageIsValid task

/-- `task_preempt_frame_is_valid_for` -/
def taskPreemptFrameIsValidFor (frame : Option TrapFrame) : Bool :=
  match frame with
  | none => false
  | some frame =>
    let stackEnd := task.stackBase + task.stackSize
    taskStackCommonIsValid s task &&
      decide (task.stackBase + taskStackReservedBytes ≤ frame.address) &&
      decide (trapFrameSize ≤ uint64Max - frame.address) &&
      decide (frame.address + trapFrameSize ≤ stackEnd) &&
      decide (task.stackBase + taskStackReservedBytes ≤ frame.rsp) &&
      decide (frame.rsp ≤ stackEnd) && frame.hardwareRsp == frame.rsp &&
      frame.hardwareSs == frame.ss && frame.vector == x86_64TimerVector &&
      frame.errorCode == 0 && frame.rip != 0 && frame.cs != 0 &&
      frame.rflags &&& x86_64RflagsReservedBit != 0

/-- `task_stack_is_valid` -/
def taskStackIsValid : Bool :=
  taskStackCommonIsValid s task &&
    match task.contextKind with
    | .cooperative =>
      decide (task.stackBase + taskStackReservedBytes ≤ task.contextRsp) &&
        decide (task.contextRsp < task.stackBase + task.stackSize) &&
        task.contextRsp &&& 0x07 == 0
    | .preemptive => taskPreemptFrameIsValidFor s task task.preemptFrame
    | .none => false

/-! ## Selection -/

/-- What `task_select_next_cooperative` asks of a candidate -/
def cooperativeCandidate (origin id : Nat) : Bool :=
  id != origin && (s.tasks id).slotUsed && taskProcessIsValid s (s.tasks id) &&
    (s.tasks id).contextKind == .cooperative && (s.tasks id).state == .ready

/-- What `task_select_next_preemptive` asks of a candidate -/
def preemptiveCandidate (origin id : Nat) : Bool :=
  id != origin && (s.tasks id).slotUsed && taskProcessIsValid s (s.tasks id) &&
    (s.tasks id).contextKind == .preemptive && (s.tasks id).state == .ready &&
    taskPreemptFrameIsValidFor s (s.tasks id) (s.tasks id).preemptFrame

/-- The loop over the registry, which both kinds of selection share -/
def taskSelectNext (candidate : Scheduler → Nat → Nat → Bool) (s : Scheduler) (origin : Nat) :
    Option Nat :=
  let first :=
    if origin ≠ kernelBootstrapTaskId ∧ taskIsRegular s origin = true then
      successor s.registry origin
    else s.registry.head?
  scanRing s.registry (candidate s origin) s.liveTaskCount first

/-- `task_select_next_cooperative` -/
def taskSelectNextCooperative (origin : Nat) : Option Nat :=
  taskSelectNext cooperativeCandidate s origin

/-- `task_select_next_preemptive` -/
def taskSelectNextPreemptive (origin : Nat) : Option Nat :=
  taskSelectNext preemptiveCandidate s origin

/-! ## Processes -/

/-- `process_activate`, with the answer of `address_space_activate` -/
def processActivate (process : Option Nat) (activates : Bool) : Option Scheduler :=
  match process with
  | none => none
  | some pid =>
    if s.processes pid ≠ .alive ∨ activates = false then none
    else some { s with currentProcess := pid }

/-- `process_mark_finished`, with the answer of the checks on the memory and
the descriptors of the process -/
def processMarkFinished (process : Option Nat) (released : Bool) : Option Scheduler :=
  match process with
  | none => none
  | some pid =>
    if pid = 0 ∨ s.processes pid ≠ .alive ∨ s.currentProcess = pid ∨ released = false then none
    else
      some { s with
        processes := fun other => if other = pid then .finished else s.processes other }

/-! ## Creation -/

/-- What a creation gets from outside: the memory for the task and for its
stack, the selectors of `exception_get_stats` and of the processor, and the
place of the trampoline -/
structure CreateAnswers where
  object : Bool
  stack : Option Nat
  codeSelector : Nat
  stackSegment : Nat
  trampoline : Nat
deriving DecidableEq, Repr

/-- `task_prepare_cooperative_context` -/
def taskPrepareCooperativeContext (stackTop : Nat) : KernelTask :=
  { task with
    contextRsp := stackTop - 16
    contextKind := .cooperative }

/-- `task_prepare_preemptive_context` -/
def taskPreparePreemptiveContext (stackTop : Nat) (answers : CreateAnswers) : Option KernelTask :=
  let resumeRsp := stackTop - 8
  if answers.codeSelector = 0 ∨ answers.stackSegment = 0 ∨ resumeRsp < trapFrameSize then none
  else
    some { task with
      preemptFrame := some {
        address := resumeRsp - trapFrameSize
        rsp := resumeRsp
        ss := answers.stackSegment
        vector := x86_64TimerVector
        errorCode := 0
        rip := answers.trampoline
        cs := answers.codeSelector
        rflags := x86_64RflagsReservedBit ||| x86_64RflagsInterruptEnable
        hardwareRsp := resumeRsp
        hardwareSs := answers.stackSegment }
      contextKind := .preemptive }

/-- The new task of `task_create_internal`, up to the checks on its stack -/
def taskPrepare (owner stack : Nat) (kind : ContextKind) (answers : CreateAnswers) :
    Option KernelTask :=
  let task : KernelTask := { taskClear with
    process := some owner
    state := .ready
    stackBase := stack
    stackSize := kernelTaskStackSize
    sentinel := taskStackSentinel
    slotUsed := true }
  match kind with
  | .cooperative => some (taskPrepareCooperativeContext task (stack + kernelTaskStackSize))
  | .preemptive => taskPreparePreemptiveContext task (stack + kernelTaskStackSize) answers
  | .none => none

/-- `task_registry_append`, and what `task_create_internal` does beside it -/
def taskRegister : Scheduler :=
  { s.setTask s.nextTaskId task with
    registry := s.registry ++ [s.nextTaskId]
    liveTaskCount := s.liveTaskCount + 1
    nextTaskId := s.nextTaskId + 1
    counts := { s.counts with created := s.counts.created + 1 } }

/-- `task_create_internal` -/
def taskCreateInternal (owner : Nat) (entryGiven : Bool) (kind : ContextKind)
    (answers : CreateAnswers) : Option Nat × Scheduler :=
  if s.preemptionEnabled = true ∨ s.processes owner ≠ .alive ∨ entryGiven = false ∨
      s.nextTaskId = uint64Max ∨ kernelTaskPolicyLimit ≤ s.liveTaskCount ∨ kind = .none ∨
      answers.object = false then (none, s)
  else
    match answers.stack with
    | none => (none, s)
    | some stack =>
      if stack &&& (kernelHeapAlignment - 1) ≠ 0 ∨ uint64Max - stack < kernelTaskStackSize ∨
          s.registry.any (fun other => (s.tasks other).slotUsed &&
            taskStackRangesOverlap stack kernelTaskStackSize (s.tasks other).stackBase
              (s.tasks other).stackSize) = true then (none, s)
      else
        match taskPrepare owner stack kind answers with
        | none => (none, s)
        | some task =>
          if taskStackIsValid s task = false then (none, s)
          else (some s.nextTaskId, taskRegister s task)

/-! ## Switching -/

/-- The end of every switch -/
def taskSwitchTo (next : Nat) : Scheduler :=
  { s.setState next .running with currentTask := next }

/-- A switch of the cooperative scheduler is counted. -/
def taskContextSwitch (next : Nat) : Scheduler :=
  { taskSwitchTo s next with
    counts := { s.counts with contextSwitches := s.counts.contextSwitches + 1 } }

/-- The common part of `task_yield` and `task_block_current`, which has no
result if the current task has to go on -/
def taskSwitchAway (origin : Nat) (activates : Bool) : Option Scheduler :=
  match taskSelectNextCooperative s origin with
  | none => none
  | some next =>
    match processActivate s (s.tasks next).process activates with
    | none => none
    | some activated => some (taskContextSwitch activated next)

/-- `task_yield` -/
def taskYield (activates : Bool) : Scheduler :=
  let counted :=
    { s with counts := { s.counts with yieldCalls := s.counts.yieldCalls + 1 } }
  if s.preemptionEnabled = true then counted
  else
    let origin := s.currentTask
    let waiting :=
      if (s.tasks origin).state = .running then counted.setState origin .ready else counted
    match taskSwitchAway waiting origin activates with
    | none => waiting.setState origin .running
    | some switched => switched

/-- `task_block_current` -/
def taskBlockCurrent (activates : Bool) : Bool × Scheduler :=
  let origin := s.currentTask
  if s.preemptionEnabled = true ∨ taskIsRegular s origin = false ∨
      (s.tasks origin).contextKind ≠ .cooperative ∨ (s.tasks origin).state ≠ .running then
    (false, s)
  else
    let waiting := s.setState origin .blocked
    match taskSwitchAway waiting origin activates with
    | none => (false, waiting.setState origin .running)
    | some switched => (true, switched)

/-- `task_wake_process` -/
def taskWakeProcess (pid : Nat) : Bool × Scheduler :=
  if s.processes pid ≠ .alive then (false, s)
  else
    let wakes (id : Nat) : Bool :=
      s.registry.contains id && (s.tasks id).slotUsed && (s.tasks id).process == some pid &&
        (s.tasks id).contextKind == .cooperative && (s.tasks id).state == .blocked
    (s.registry.any wakes,
      { s with
        tasks := fun id => if wakes id then { s.tasks id with state := .ready } else s.tasks id })

/-- `task_wake_pid` -/
def taskWakePid (pid : Nat) : Bool × Scheduler :=
  if pid = 0 ∨ s.processes pid = .absent then (false, s) else taskWakeProcess s pid

/-- `x86_64_halt_forever` -/
def haltForever : Scheduler := { s with halted := true }

/-- The task that runs when the current one has finished: the next one, or the
bootstrap task -/
def taskAfterFinished (origin : Nat) : Nat :=
  (taskSelectNextCooperative s origin).getD kernelBootstrapTaskId

/-- The current task finishes. -/
def taskFinish : Scheduler :=
  { s.setState s.currentTask .finished with
    counts := { s.counts with finished := s.counts.finished + 1 } }

/-- `task_exit_current_process` -/
def taskExitCurrentProcess (activates released : Bool) : Scheduler :=
  let origin := s.currentTask
  if s.preemptionEnabled = true ∨ taskIsRegular s origin = false ∨
      (s.tasks origin).contextKind ≠ .cooperative ∨ (s.tasks origin).state ≠ .running ∨
      taskProcessIsValid s (s.tasks origin) = false then haltForever s
  else
    let done := taskFinish s
    let next := taskAfterFinished done origin
    match processActivate done (done.tasks next).process activates with
    | none => haltForever done
    | some activated =>
      match processMarkFinished activated (s.tasks origin).process released with
      | none => haltForever activated
      | some marked => taskContextSwitch marked next

/-- `task_finish_current`.  With preemption, the task waits for the timer. -/
def taskFinishCurrent (activates : Bool) : Scheduler :=
  let origin := s.currentTask
  if taskIsRegular s origin = false ∨ taskProcessIsValid s (s.tasks origin) = false ∨
      some s.currentProcess ≠ (s.tasks origin).process ∨ (s.tasks origin).state ≠ .running then
    haltForever s
  else
    let done := taskFinish s
    if s.preemptionEnabled = true then done
    else
      let next := taskAfterFinished done origin
      match processActivate done (done.tasks next).process activates with
      | none => haltForever done
      | some activated => taskContextSwitch activated next

/-! ## Cleaning up -/

/-- `task_registry_remove` and `task_clear` -/
def taskRegistryRemove (id : Nat) : Scheduler :=
  { s.setTask id taskClear with
    registry := s.registry.erase id
    liveTaskCount := s.liveTaskCount - 1 }

/-- The loop that gives tasks back, with the answers of the heap for the stack
and for the task itself -/
def taskRelease (freed : Nat → Bool × Bool) : Scheduler → List Nat → Bool × Scheduler
  | s, [] => (true, s)
  | s, id :: rest =>
    if (freed id).1 = false then (false, s)
    else if (freed id).2 = false then (false, taskRegistryRemove s id)
    else taskRelease freed (taskRegistryRemove s id) rest

/-- `task_reap_finished_process` -/
def taskReapFinishedProcess (pid : Nat) (freed : Nat → Bool × Bool) : Bool × Scheduler :=
  let belongs (id : Nat) : Bool := (s.tasks id).slotUsed && (s.tasks id).process == some pid
  if s.preemptionEnabled = true ∨ pid = s.currentProcess ∨ s.processes pid ≠ .finished ∨
      s.registry.any belongs = false ∨
      s.registry.any (fun id => belongs id && (id == s.currentTask ||
        (s.tasks id).state != .finished || !taskStackStorageIsValid (s.tasks id))) = true then
    (false, s)
  else taskRelease freed s (s.registry.filter belongs)

/-- The bootstrap task runs, in its own process and without preemption. -/
def bootstrapRuns : Bool :=
  s.currentTask == kernelBootstrapTaskId && (s.tasks kernelBootstrapTaskId).state == .running &&
    some s.currentProcess == (s.tasks kernelBootstrapTaskId).process

/-- `task_cleanup_finished` -/
def taskCleanupFinished (freed : Nat → Bool × Bool) : Bool × Scheduler :=
  if s.preemptionEnabled = true ∨ bootstrapRuns s = false ∨
      s.registry.any (fun id => (s.tasks id).slotUsed && ((s.tasks id).state != .finished ||
        !taskStackStorageIsValid (s.tasks id))) = true then (false, s)
  else taskRelease freed s s.registry

/-! ## Preemption -/

/-- `task_preemption_start` -/
def taskPreemptionStart : Bool × Scheduler :=
  if s.preemptionEnabled = true ∨ bootstrapRuns s = false ∨
      s.registry.any (fun id => (s.tasks id).slotUsed && ((s.tasks id).state != .ready ||
        !taskProcessIsValid s (s.tasks id) || (s.tasks id).contextKind != .preemptive ||
        !taskPreemptFrameIsValidFor s (s.tasks id) (s.tasks id).preemptFrame)) = true ∨
      s.registry.any (fun id => (s.tasks id).slotUsed) = false then (false, s)
  else
    (true,
      { s.setTask kernelBootstrapTaskId
          { s.tasks kernelBootstrapTaskId with preemptFrame := none } with
        preemptionEnabled := true
        counts := { s.counts with
          schedulerTicks := 0
          preemptions := 0
          finishedResumes := 0
          schedulerFaults := 0 } })

/-- `task_preemption_stop` -/
def taskPreemptionStop : Bool × Scheduler :=
  if s.preemptionEnabled = false ∨ bootstrapRuns s = false then (false, s)
  else
    (true,
      { s.setTask kernelBootstrapTaskId
          { s.tasks kernelBootstrapTaskId with preemptFrame := none } with
        preemptionEnabled := false })

/-- A fault of the preemptive scheduler ends the preemption. -/
def schedulerFault : Scheduler :=
  { s with
    preemptionEnabled := false
    counts := { s.counts with schedulerFaults := s.counts.schedulerFaults + 1 } }

/-- The first half of `task_scheduler_tick`: the interrupted task keeps its
frame and becomes ready, unless it has finished.  The results are whether
there was no fault, and the state. -/
def schedulerTickSave (frame : TrapFrame) : Bool × Scheduler :=
  let origin := s.currentTask
  let task := s.tasks origin
  if taskProcessIsValid s task = false ∨ some s.currentProcess ≠ task.process then
    (false, schedulerFault s)
  else if origin = kernelBootstrapTaskId then
    (true, s.setTask origin
      { task with
        preemptFrame := some frame
        state := .ready })
  else if taskIsRegular s origin = true ∧ task.contextKind = .preemptive ∧
      taskPreemptFrameIsValidFor s task (some frame) = true then
    let saved := s.setTask origin { task with preemptFrame := some frame }
    match task.state with
    | .running => (true, saved.setState origin .ready)
    | .finished => (true, saved)
    | _ => (false, schedulerFault saved)
  else (false, schedulerFault s)

/-- The last part of `task_scheduler_tick`, once the next task is known -/
def schedulerTickSwitch (origin next : Nat) (activates : Bool) : Scheduler :=
  let frameMissing :=
    if next = kernelBootstrapTaskId then (s.tasks next).preemptFrame.isNone
    else !taskPreemptFrameIsValidFor s (s.tasks next) (s.tasks next).preemptFrame
  if frameMissing = true then schedulerFault s
  else
    match processActivate s (s.tasks next).process activates with
    | none =>
      let faulty := schedulerFault s
      if (s.tasks origin).state = .ready then faulty.setState origin .running else faulty
    | some activated =>
      let switched := taskSwitchTo activated next
      let counted := { switched with
        counts := { s.counts with preemptions := s.counts.preemptions + 1 } }
      if taskIsRegular counted next = true then
        counted.setTask next
          { counted.tasks next with
            preemptSlices := (counted.tasks next).preemptSlices + 1 }
      else counted

/-- `task_scheduler_tick` -/
def taskSchedulerTick (frame : TrapFrame) (activates : Bool) : Scheduler :=
  if s.preemptionEnabled = false then s
  else
    let ticked := { s with
      counts := { s.counts with schedulerTicks := s.counts.schedulerTicks + 1 } }
    let origin := s.currentTask
    match schedulerTickSave ticked frame with
    | (false, faulty) => faulty
    | (true, saved) =>
      match taskSelectNextPreemptive saved origin with
      | some next => schedulerTickSwitch saved origin next activates
      | none =>
        if origin ≠ kernelBootstrapTaskId ∧ (saved.tasks origin).state = .finished then
          if (saved.tasks kernelBootstrapTaskId).preemptFrame = none then schedulerFault saved
          else schedulerTickSwitch saved origin kernelBootstrapTaskId activates
        else saved.setState origin .running

/-! ## Runs -/

/-- A call on the scheduler, or a change that comes from outside -/
inductive TaskCall where
  | create (owner : Nat) (entryGiven : Bool) (kind : ContextKind) (answers : CreateAnswers)
  | yield (activates : Bool)
  | block (activates : Bool)
  | exitProcess (activates released : Bool)
  | finish (activates : Bool)
  | reap (pid : Nat) (freed : Nat → Bool × Bool)
  | cleanup (freed : Nat → Bool × Bool)
  | preemptionStart
  | preemptionStop
  | wakeProcess (pid : Nat)
  | wakePid (pid : Nat)
  | tick (frame : TrapFrame) (activates : Bool)
  | changeProcess (pid : Nat) (state : ProcessState)
  | overwriteSentinel (id word : Nat)

/-- The calls that the code of a task makes; the others come from interrupts
or from elsewhere. -/
def TaskCall.byTask : TaskCall → Bool
  | .wakeProcess _ | .wakePid _ | .tick _ _ | .changeProcess _ _ | .overwriteSentinel _ _ => false
  | _ => true

/-- What a call does -/
def Scheduler.call : TaskCall → Scheduler
  | .create owner entryGiven kind answers =>
    (taskCreateInternal s owner entryGiven kind answers).2
  | .yield activates => taskYield s activates
  | .block activates => (taskBlockCurrent s activates).2
  | .exitProcess activates released => taskExitCurrentProcess s activates released
  | .finish activates => taskFinishCurrent s activates
  | .reap pid freed => (taskReapFinishedProcess s pid freed).2
  | .cleanup freed => (taskCleanupFinished s freed).2
  | .preemptionStart => (taskPreemptionStart s).2
  | .preemptionStop => (taskPreemptionStop s).2
  | .wakeProcess pid => (taskWakeProcess s pid).2
  | .wakePid pid => (taskWakePid s pid).2
  | .tick frame activates => taskSchedulerTick s frame activates
  | .changeProcess pid state =>
    { s with processes := fun other => if other = pid then state else s.processes other }
  | .overwriteSentinel id word => s.setTask id { s.tasks id with sentinel := word }

/-- A step.  A halted kernel does nothing, and the code of a task that has
finished only waits for interrupts. -/
def Scheduler.step (call : TaskCall) : Scheduler :=
  if s.halted = true ∨ (call.byTask = true ∧ (s.tasks s.currentTask).state ≠ .running) then s
  else s.call call

/-- `task_init` -/
def taskInit (processes : Nat → ProcessState) : Scheduler where
  tasks := fun id =>
    if id = kernelBootstrapTaskId then
      { taskClear with
        process := some 0
        state := .running
        slotUsed := true }
    else taskClear
  registry := []
  liveTaskCount := 0
  currentTask := kernelBootstrapTaskId
  preemptionEnabled := false
  nextTaskId := 1
  counts := ⟨0, 0, 0, 0, 0, 0, 0, 0⟩
  processes := processes
  currentProcess := 0
  halted := false

end BoringOS.Tasks
