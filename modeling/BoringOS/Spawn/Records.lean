import Mathlib.Data.Nat.Count

namespace BoringOS.Spawn

/-!
# Spawn records

Children of `kernel/core/m36_syscall.c`, with the parts of `process.c` and
`task.c` that decide over their lives.  A child has a record from the end of its
spawn until it is reaped: by `m36_waitpid` of its parent, or by the sweep
`m36_reap_detached` if it was spawned detached.

A process object is named by the pid that it is created with.  A pid is given
again only after its process was discarded before it ran.  The table keeps what
a cleared object says, because a record may still point to it.

What happens in a spawn before its record is made is an answer, with the error
if there is one, and so is whether memory could be given back.  The books at the
end of the state are no part of the source.  They record which children were
spawned, which have exited and which were reaped.
-/

/-- The error numbers of `syscall_abi.h` -/
inductive SyscallError
  | enosys | efault | einval | enoent | eexist | enotdir | enotempty | enospc | ebusy
  | enametoolong | eacces | enotsup | eio | eisdir | enoexec | enomem | epipe | enetunreach
deriving DecidableEq, Repr

def kernelProcessPolicyLimit : Nat := 64
def uint64Max : Nat := 2 ^ 64 - 1

/-- `enum process_state` -/
inductive ProcessState
  | alive
  | finished
deriving DecidableEq, Repr

/-- `enum kernel_task_state`, where a task that may run next is as good as one that runs -/
inductive TaskState
  | ready
  | blocked
  | finished
deriving DecidableEq, Repr

/-- What a blocked `m36_waitpid` waits for -/
inductive WaitTarget
  | child (name : Nat)
  | any
deriving DecidableEq, Repr

/-- The parts of `struct process` that are read here, with its task and the
`m36_waitpid` that its task is blocked in -/
structure Process where
  pid : Nat
  state : ProcessState
  registered : Bool
  task : Option TaskState
  waiting : Option WaitTarget
deriving DecidableEq, Repr

/-- `struct m36_spawn_record`, without what only the entry of the child reads -/
structure SpawnRecord where
  child : Nat
  parentPid : Nat
  exitStatus : Int
  active : Bool
  imageLoaded : Bool
  exited : Bool
  detached : Bool
  parentWaiting : Bool
deriving DecidableEq, Repr

structure Child where
  pid : Nat
  parentPid : Nat
  detached : Bool
deriving DecidableEq, Repr

structure Reap where
  pid : Nat
  status : Int
  /-- The parent that waited, or nobody for the sweep -/
  parent : Option Nat
deriving DecidableEq, Repr

structure SpawnBooks where
  spawned : List Child
  exits : List (Nat × Int)
  reaped : List Reap
  /-- The children whose memory could not be given back when they were reaped -/
  stuck : List Nat
  /-- The children that a parent had not reaped when it exited -/
  abandoned : List Nat
deriving DecidableEq, Repr

structure System where
  processes : Nat → Process
  nextPid : Nat
  liveProcessCount : Nat
  /-- The list from `spawn_record_head` -/
  records : List SpawnRecord
  spawnRecordCount : Nat
  books : SpawnBooks

/-- What becomes of the memory of a child: the results of `kfree` for the stack
of its task, the task, the process and the record, and of `address_space_destroy` -/
structure Frees where
  stack : Bool
  task : Bool
  space : Bool
  process : Bool
  record : Bool
deriving DecidableEq, Repr

/-- What the rest of the kernel does during a spawn -/
structure SpawnAnswers where
  /-- The error of the arguments or of the file -/
  refused : Option SyscallError
  /-- Whether `process_create` is admitted and finds its memory -/
  created : Bool
  /-- The error of the descriptors, the image or the stack -/
  unprepared : Option SyscallError
  recordMemory : Bool
  taskMemory : Bool
  /-- Whether the image is unloaded and the address space destroyed in a rollback -/
  discarded : Bool
deriving DecidableEq, Repr

/-- What the rest of the kernel does during a wait -/
structure WaitAnswers where
  /-- `m36_user_range` on the address of the status -/
  writable : Bool
  /-- Whether there is another task that `task_block_current` can run -/
  blocks : Bool
  /-- `m36_copy_to_user` -/
  copied : Bool
  frees : Frees
deriving DecidableEq, Repr

namespace System

def setProcess (system : System) (name : Nat) (value : Process) : System :=
  { system with processes := Function.update system.processes name value }

/-- The record of a child is changed in its place. -/
def updateRecord (system : System) (child : Nat) (change : SpawnRecord → SpawnRecord) : System :=
  { system with
    records := system.records.map fun record =>
      if record.child = child then change record else record }

/-- The process may call `waitpid` again. -/
def isAlive (system : System) (name : Nat) : Bool :=
  (system.processes name).registered && decide ((system.processes name).state = .alive)

/-- The record of a child, as a pointer that is kept -/
def recordOf (system : System) (child : Nat) : Option SpawnRecord :=
  system.records.find? fun record => record.child == child

end System

/-- What `process_clear` leaves of an object -/
def processClear (process : Process) : Process :=
  { process with
    pid := 0
    state := .finished
    registered := false }

variable (system : System)

/-- `process_create` -/
def processCreate (created : Bool) : Option (Nat × System) :=
  if created = false ∨ system.nextPid = uint64Max ∨
      kernelProcessPolicyLimit ≤ system.liveProcessCount then none
  else
    some (system.nextPid,
      { system.setProcess system.nextPid ⟨system.nextPid, .alive, true, none, none⟩ with
        nextPid := system.nextPid + 1
        liveProcessCount := system.liveProcessCount + 1 })

variable (name : Nat)

/-- `process_discard_unstarted` -/
def processDiscardUnstarted (destroyed : Bool) : Bool × System :=
  let process := system.processes name
  if process.registered = false ∨ process.state ≠ .alive ∨
      system.nextPid ≠ process.pid + 1 ∨ destroyed = false then (false, system)
  else
    (true,
      { system.setProcess name (processClear process) with
        nextPid := process.pid
        liveProcessCount := system.liveProcessCount - 1 })

/-- `task_reap_finished_process` -/
def taskReapFinishedProcess (frees : Frees) : Bool × System :=
  let process := system.processes name
  if process.state ≠ .finished ∨ process.task ≠ some .finished ∨ frees.stack = false then
    (false, system)
  else (frees.task, system.setProcess name { process with task := none })

/-- `process_destroy` -/
def processDestroy (frees : Frees) : Bool × System :=
  let process := system.processes name
  if process.registered = false ∨ process.state ≠ .finished ∨ frees.space = false then
    (false, system)
  else
    (frees.process,
      { system.setProcess name (processClear process) with
        liveProcessCount := system.liveProcessCount - 1 })

/-- `task_wake_pid` -/
def taskWakePid (pid : Nat) : System :=
  let process := system.processes pid
  if system.isAlive pid = true ∧ process.task = some .blocked then
    system.setProcess pid { process with task := some .ready }
  else system

/-- `m36_record_capacity_available` -/
def m36RecordCapacityAvailable : Bool := decide (system.spawnRecordCount < kernelProcessPolicyLimit)

variable (record : SpawnRecord)

/-- `m36_record_release`, where the books enter the child and who reaped it -/
def m36RecordRelease (parent : Option Nat) (freed : Bool) : Bool × System :=
  if record.active = false then (false, system)
  else
    (freed,
      { system with
        records := system.records.eraseP fun other => other.child == record.child
        spawnRecordCount := system.spawnRecordCount - 1
        books := { system.books with
          reaped := system.books.reaped ++ [⟨record.child, record.exitStatus, parent⟩] } })

/-- `m36_record_child` -/
def m36RecordChild : Option SpawnRecord :=
  system.records.find? fun record => record.active && record.child == name

/-- `m36_record_pid` -/
def m36RecordPid (pid parentPid : Nat) : Option SpawnRecord :=
  system.records.find? fun record =>
    record.active && (system.processes record.child).pid == pid && record.parentPid == parentPid

variable (parentPid : Nat)

/-- `m36_record_waitable` -/
def m36RecordWaitable : Bool := record.active && !record.detached && record.parentPid == parentPid

/-- `m36_parent_has_waitable` -/
def m36ParentHasWaitable : Bool :=
  system.records.any fun record => m36RecordWaitable record parentPid

/-- `m36_record_any_finished`, the finished child with the lowest pid -/
def m36RecordAnyFinished : Option SpawnRecord :=
  system.records.foldl
    (fun best record =>
      if m36RecordWaitable record parentPid = false ∨
          (system.processes record.child).state ≠ .finished then best
      else
        match best with
        | none => some record
        | some other =>
          if (system.processes record.child).pid < (system.processes other.child).pid then
            some record
          else best)
    none

/-- `m36_set_parent_waiting` -/
def m36SetParentWaiting (waiting : Bool) : System :=
  { system with
    records := system.records.map fun record =>
      if m36RecordWaitable record parentPid = true then { record with parentWaiting := waiting }
      else record }

/-- The books enter a child that was not reaped completely. -/
def markStuck (child : Nat) : System :=
  { system with
    books := { system.books with
      stuck := child :: system.books.stuck } }

/-- `m36_reap_record` -/
def m36ReapRecord (parent : Option Nat) (frees : Frees) : Bool × System :=
  if record.active = false ∨ (system.processes record.child).state ≠ .finished then (false, system)
  else
    match taskReapFinishedProcess system record.child frees with
    | (false, system) => (false, markStuck system record.child)
    | (true, system) =>
      match processDestroy system record.child frees with
      | (false, system) => (false, markStuck system record.child)
      | (true, system) => m36RecordRelease system record parent frees.record

/-- The body of the loop of `m36_reap_detached` -/
def m36ReapIfDetached (frees : Nat → Frees) (system : System) (child : Nat) : System :=
  match system.recordOf child with
  | none => system
  | some record =>
    if record.active = true ∧ record.detached = true ∧ record.exited = true ∧
        (system.processes record.child).state = .finished then
      (m36ReapRecord system record none (frees child)).2
    else system

/-- `m36_reap_detached` -/
def m36ReapDetached (frees : Nat → Frees) : System :=
  (system.records.map SpawnRecord.child).foldl (m36ReapIfDetached frees) system

/-- `m36_spawn_rollback` -/
def m36SpawnRollback (child : Nat) (discarded : Bool) (error : SyscallError) :
    Except SyscallError Nat × System :=
  match processDiscardUnstarted system child discarded with
  | (false, system) => (.error .eio, system)
  | (true, system) => (.error error, system)

/-- The record and the task at the end of `m36_spawn`.  The record that was made
is released again when there is no task. -/
def m36SpawnRecord (parent child : Nat) (detached : Bool)
    (answers : SpawnAnswers) : Except SyscallError Nat × System :=
  if m36RecordCapacityAvailable system = false ∨ answers.recordMemory = false ∨
      answers.taskMemory = false then
    m36SpawnRollback system child answers.discarded .enospc
  else
    let process := system.processes child
    (.ok process.pid,
      { system.setProcess child { process with task := some .ready } with
        records := system.records ++ [⟨child, parent, 0, true, true, false, detached, false⟩]
        spawnRecordCount := system.spawnRecordCount + 1
        books := { system.books with
          spawned := system.books.spawned ++ [⟨child, parent, detached⟩] } })

variable (parent : Nat)

/-- `m36_spawn` -/
def m36Spawn (detached : Bool) (answers : SpawnAnswers) : Except SyscallError Nat × System :=
  if system.isAlive parent = false ∨ (system.processes parent).pid = 0 then (.error .eacces, system)
  else if (system.processes parent).task = none then (.error .enotsup, system)
  else if m36RecordCapacityAvailable system = false then (.error .enospc, system)
  else
    match answers.refused with
    | some error => (.error error, system)
    | none =>
      match processCreate system answers.created with
      | none => (.error .enospc, system)
      | some (child, system) =>
        match answers.unprepared with
        | some error => m36SpawnRollback system child answers.discarded error
        | none => m36SpawnRecord system parent child detached answers

/-- The children that a process leaves behind when it exits -/
def leftBehind : List Nat :=
  (system.records.filter fun record => !record.detached && record.parentPid == name).map SpawnRecord.child

/-- `m36_exit` with `task_exit_current_process`.  A process without a record does
not exit here. -/
def m36Exit (status : Int) : System :=
  match m36RecordChild system name with
  | none => system
  | some record =>
    let system := system.updateRecord name fun record =>
      { record with
        exitStatus := status
        imageLoaded := false
        exited := true }
    let system := if record.parentWaiting = true then taskWakePid system record.parentPid
      else system
    let process := system.processes name
    { system.setProcess name
        { process with
          state := .finished
          task := some .finished } with
      books := { system.books with
        exits := system.books.exits ++ [(name, status)]
        abandoned := system.books.abandoned ++ leftBehind system name } }

/-- What a wait comes to: a result, a blocked task, or the older `WAITPID` -/
inductive WaitOutcome
  | returned (result : Except SyscallError Nat)
  | blocked
  | legacy
deriving Repr

/-- The end of `m36_waitpid` -/
def m36WaitFinish (record : SpawnRecord) (answers : WaitAnswers) : WaitOutcome × System :=
  if (system.processes record.child).state ≠ .finished then (.returned (.error .eio), system)
  else
    let reapedPid := (system.processes record.child).pid
    if answers.copied = false then (.returned (.error .efault), system)
    else
      match m36ReapRecord system record (some parent) answers.frees with
      | (false, system) => (.returned (.error .eio), system)
      | (true, system) => (.returned (.ok reapedPid), system)

/-- `task_block_current` in `m36_waitpid` -/
def blockWaiting (target : WaitTarget) : System :=
  system.setProcess parent
    { system.processes parent with
      task := some .blocked
      waiting := some target }

/-- The loops of `m36_waitpid` up to the next time that the task is blocked -/
def m36WaitLoop (answers : WaitAnswers) :
    WaitTarget → WaitOutcome × System
  | .child name =>
    match system.recordOf name with
    | none => (.returned (.error .eio), system)
    | some record =>
      if (system.processes record.child).state = .finished then
        m36WaitFinish system parent record answers
      else if answers.blocks = false then
        (.returned (.error .ebusy), system.updateRecord name fun record =>
          { record with parentWaiting := false })
      else
        (.blocked, blockWaiting (system.updateRecord name fun record =>
          { record with parentWaiting := true }) parent (.child name))
  | .any =>
    match m36RecordAnyFinished system parent with
    | some record => m36WaitFinish system parent record answers
    | none =>
      if answers.blocks = false then
        (.returned (.error .ebusy), m36SetParentWaiting system parent false)
      else (.blocked, blockWaiting (m36SetParentWaiting system parent true) parent .any)

/-- `m36_waitpid`, called by the dispatcher when the pid is one of a child or zero -/
def m36Waitpid (parent pid : Nat) (answers : WaitAnswers) : WaitOutcome × System :=
  if pid = 0 then
    if answers.writable = false then (.returned (.error .einval), system)
    else if m36ParentHasWaitable system parent = false then (.returned (.error .einval), system)
    else m36WaitLoop system parent answers .any
  else
    match m36RecordPid system pid parent with
    | none => (.legacy, system)
    | some record =>
      if answers.writable = false ∨ record.detached = true then
        (.returned (.error .einval), system)
      else m36WaitLoop system parent answers (.child record.child)

/-- `m36_waitpid` after `task_block_current` has returned -/
def m36WaitResume (target : WaitTarget) (answers : WaitAnswers) : WaitOutcome × System :=
  let system := system.setProcess parent { system.processes parent with waiting := none }
  match target with
  | .child name =>
    m36WaitLoop (system.updateRecord name fun record => { record with parentWaiting := false })
      parent answers (.child name)
  | .any =>
    let system := m36SetParentWaiting system parent false
    if m36ParentHasWaitable system parent = false then (.returned (.error .eio), system)
    else m36WaitLoop system parent answers .any

end BoringOS.Spawn
