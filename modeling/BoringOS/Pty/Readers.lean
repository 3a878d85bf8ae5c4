import BoringOS.Pty.Descriptors

namespace BoringOS.Pty

/-!
# Processes that read, wait and write

The system calls on pseudo terminals: `syscall_fd_read`, `syscall_fd_write`
and `syscall_fd_close` of `kernel/core/syscall.c`, `m36_pty_create` and the
descriptors of `m36_spawn` in `kernel/core/m36_syscall.c`, and the event wait
of `kernel/core/event_syscall.c`.  Tasks are scheduled cooperatively: a system
call runs until it returns or its task waits, and a woken task goes on from
there.

Copies from and to the memory of a process do not touch this state.  A call
whose arguments cannot be copied has no effect and is left out; where a call
would still fail after its effect, a parameter says so.  Whether
`task_block_current` finds another task to run is a parameter as well, and so
is what an event wait learns about its other watches.
-/

def boringSyscallFdIoMax : Nat := 4096

/-- The error numbers of `boring/syscall_abi.h` that occur here -/
inductive SyscallError where
  | eFault
  | eInval
  | eNospc
  | eBusy
  | eAcces
  | eIo
  | ePipe
deriving DecidableEq, Repr

variable (system : PtySystem)

/-- The loop of `syscall_fd_read` on a pseudo terminal, up to where it returns
or its task blocks.  In the first case the result is there. -/
def readPty (pid fd capacity : Nat) (canBlock : Bool) :
    Option (Except SyscallError (List UInt8)) × PtySystem :=
  match kernelFdReadPty system pid fd capacity with
  | (.ok, bytes, next) => (some (.ok bytes), next)
  | (.hup, _, next) => (some (.ok []), next)
  | (.wouldBlock, _, next) =>
    match kernelFdArmPtyWaiter next pid fd with
    | (.ok, armed) =>
      match kernelFdReadPty armed pid fd capacity with
      | (.wouldBlock, _, again) =>
        if canBlock then (none, again.setTask pid (.blocked (.read fd capacity)))
        else (some (.error .eBusy), kernelFdCancelPtyWaiter again pid fd)
      | (.ok, bytes, again) => (some (.ok bytes), kernelFdCancelPtyWaiter again pid fd)
      | (.hup, _, again) => (some (.ok []), kernelFdCancelPtyWaiter again pid fd)
      | (_, _, again) => (some (.error .eInval), kernelFdCancelPtyWaiter again pid fd)
    | (_, failed) => (some (.error .eInval), failed)
  | (_, _, next) => (some (.error .eInval), next)

/-- `syscall_fd_read`, on a descriptor of a pseudo terminal -/
def syscallFdRead (pid fd capacity : Nat) (canBlock : Bool) :
    Option (Except SyscallError (List UInt8)) × PtySystem :=
  if boringSyscallFdIoMax < capacity ∨ kernelFdMax ≤ fd then (some (.error .eInval), system)
  else
    match (system.processes pid).fdTable fd with
    | .pty _ access =>
      if kernelFdAccessValid access = false then (some (.error .eInval), system)
      else if access &&& vfsAccessRead = 0 then (some (.error .eAcces), system)
      else if capacity = 0 then (some (.ok []), system)
      else readPty system pid fd capacity canBlock
    | _ => (some (.error .eInval), system)

/-- `syscall_fd_write`, on a descriptor of a pseudo terminal -/
def syscallFdWrite (pid fd : Nat) (bytes : List UInt8) : Except SyscallError Nat × PtySystem :=
  if boringSyscallFdIoMax < bytes.length ∨ kernelFdMax ≤ fd then (.error .eInval, system)
  else
    match (system.processes pid).fdTable fd with
    | .pty _ access =>
      if kernelFdAccessValid access = false then (.error .eInval, system)
      else if access &&& vfsAccessWrite = 0 then (.error .eAcces, system)
      else if bytes = [] then (.ok 0, system)
      else
        match kernelFdWritePty system pid fd bytes with
        | (.ok, transferred, next) => (.ok transferred, next)
        | (.hup, _, next) => (.error .ePipe, next)
        | (.wouldBlock, _, next) => (.error .eBusy, next)
        | (_, _, next) => (.error .eInval, next)
    | _ => (.error .eInval, system)

/-- One watched descriptor in `poll_watches`: whether it is ready, or an error -/
def pollFdWatch (pid fd : Nat) : Option Bool :=
  if kernelFdMax ≤ fd then none
  else
    match (system.processes pid).fdTable fd with
    | .pty _ access =>
      if kernelFdAccessValid access = false ∨ access &&& vfsAccessRead = 0 then none
      else (kernelFdPollPty system pid fd).map fun state => state.readable || state.hup
    | _ => none

/-- The watched descriptors in `poll_watches`: how many are ready, or an error -/
def pollFdWatches (system : PtySystem) (pid : Nat) : List Nat → Option Nat
  | [] => some 0
  | fd :: rest =>
    match pollFdWatch system pid fd, pollFdWatches system pid rest with
    | some ready, some others => some (if ready then others + 1 else others)
    | _, _ => none

variable (pid : Nat)

/-- `poll_watches`, where `others` is what it finds for the watches of other
kinds -/
def pollWatches (watches : List Nat) (others : Option Nat) : Option Nat :=
  match pollFdWatches system pid watches, others with
  | some ready, some more => some (ready + more)
  | _, _ => none

/-- `arm_fd_watches` -/
def armFdWatches (system : PtySystem) (pid : Nat) : List Nat → Bool × PtySystem
  | [] => (true, system)
  | fd :: rest =>
    match kernelFdArmPtyWaiter system pid fd with
    | (.ok, armed) => armFdWatches armed pid rest
    | (_, failed) => (false, failed)

/-- `cancel_fd_watches` -/
def cancelFdWatches (watches : List Nat) : PtySystem :=
  watches.foldl (fun system fd => kernelFdCancelPtyWaiter system pid fd) system

/-- The loop of `BORING_SYS_EVENT_WAIT`, up to where it returns or its task
waits.  A task that cannot block halts until an interrupt and lets others
run: it stays ready, inside of the call. -/
def eventLoop (watches : List Nat) (others : Option Nat)
    (query canBlock : Bool) : Option (Except SyscallError Nat) × PtySystem :=
  match pollWatches system pid watches others with
  | none => (some (.error .eInval), cancelFdWatches system pid watches)
  | some ready =>
    if ready ≠ 0 ∨ query = true then (some (.ok ready), cancelFdWatches system pid watches)
    else
      match armFdWatches system pid watches with
      | (false, failed) => (some (.error .eInval), cancelFdWatches failed pid watches)
      | (true, armed) =>
        let wait := PtyWait.events watches
        (none, armed.setTask pid (if canBlock then .blocked wait else .woken wait))

/-- `m36_pty_create`, with the descriptors of the master and of the slave.
`copied` says whether they can be stored in the memory of the caller. -/
def m36PtyCreate (copied : Bool) : Except SyscallError (Nat × Nat) × PtySystem :=
  let access := vfsAccessRead ||| vfsAccessWrite
  match ptyCreatePair system.pairs with
  | (.error _, pairs) => (.error .eNospc, { system with pairs := pairs })
  | (.ok (master, slave), pairs) =>
    match kernelFdInstallPty { system with pairs := pairs } pid master access with
    | (.error _, failed) =>
      (.error .eNospc, ((failed.closePty master).2.closePty slave).2)
    | (.ok masterFd, first) =>
      match kernelFdInstallPty first pid slave access with
      | (.error _, failed) =>
        (.error .eNospc, (((kernelFdClose failed pid masterFd).2.closePty master).2.closePty slave).2)
      | (.ok slaveFd, second) =>
        match second.closePty master with
        | (.ok, third) =>
          match third.closePty slave with
          | (.ok, fourth) =>
            if copied then (.ok (masterFd, slaveFd), fourth)
            else
              (.error .eFault, (kernelFdClose (kernelFdClose fourth pid masterFd).2 pid slaveFd).2)
          | (_, failed) =>
            (.error .eIo, (kernelFdClose (kernelFdClose failed pid masterFd).2 pid slaveFd).2)
        | (_, failed) =>
          (.error .eIo, (kernelFdClose (kernelFdClose failed pid masterFd).2 pid slaveFd).2)

/-- `process_create`, where the descriptors are concerned -/
def processCreate : PtySystem :=
  { system.setProcess system.nextPid ⟨kernelFdTableInit, .absent⟩ with
    nextPid := system.nextPid + 1 }

/-- `process_discard_unstarted`, where the descriptors are concerned -/
def processDiscardUnstarted : PtySystem :=
  let (_, destroyed) := kernelFdTableDestroy system pid (List.range kernelFdMax)
  { destroyed.setProcess pid ⟨fun _ => .unused, .absent⟩ with nextPid := pid }

/-- The three descriptors that `m36_spawn` clones from the parent -/
def cloneStdio (parent child stdinFd stdoutFd stderrFd : Nat) : Bool × PtySystem :=
  match kernelFdCloneStdio system parent stdinFd child kernelFdStdin vfsAccessRead with
  | (.ok, first) =>
    match kernelFdCloneStdio first parent stdoutFd child kernelFdStdout vfsAccessWrite with
    | (.ok, second) =>
      match kernelFdCloneStdio second parent stderrFd child kernelFdStderr vfsAccessWrite with
      | (.ok, third) => (true, third)
      | (_, failed) => (false, failed)
    | (_, failed) => (false, failed)
  | (_, failed) => (false, failed)

/-- `m36_spawn`, where the descriptors are concerned.  `completes` says whether
everything else that it does succeeds. -/
def m36Spawn (parent stdinFd stdoutFd stderrFd : Nat) (completes : Bool) : PtySystem :=
  let child := system.nextPid
  match cloneStdio (processCreate system) parent child stdinFd stdoutFd stderrFd with
  | (true, cloned) =>
    if completes then cloned.setTask child .running else processDiscardUnstarted cloned child
  | (false, failed) => processDiscardUnstarted failed child

/-- `task_exit_current_process`, where the descriptors are concerned: a table
that cannot be destroyed halts the machine. -/
def taskExitCurrentProcess : PtySystem :=
  match kernelFdTableDestroy system pid (List.range kernelFdMax) with
  | (true, destroyed) => destroyed.setTask pid .absent
  | (false, _) => system

/-- A regular file that is opened takes a slot -/
def kernelFdOpenRegular (pid access : Nat) : PtySystem :=
  match kernelFdFreeSlot system pid kernelFdFirstRegular with
  | none => system
  | some fd => system.setSlot pid fd (.regular access)

/-- What the processes and the kernel do, in any order. -/
inductive PtySystemCall where
  /-- The kernel creates a process and its task. -/
  | launch
  | ptyCreate (pid : Nat) (copied : Bool)
  | spawn (parent stdinFd stdoutFd stderrFd : Nat) (completes : Bool)
  | openRegular (pid access : Nat)
  | close (pid fd : Nat)
  | read (pid fd capacity : Nat) (canBlock : Bool)
  | write (pid fd : Nat) (bytes : List UInt8)
  | eventWait (pid : Nat) (watches : List Nat) (others : Option Nat) (query canBlock : Bool)
  /-- A woken task runs again. -/
  | resume (pid : Nat) (others : Option Nat) (canBlock : Bool)
  /-- Something else wakes a process: a message, an input event, the exit of a child. -/
  | wake (pid : Nat)
  | exit (pid : Nat)

/-- The return of a system call: a task that does not wait runs on. -/
def returnTo {Result : Type} : Option Result × PtySystem → PtySystem
  | (none, system) => system
  | (some _, system) => system.setTask pid .running

/-- A woken task goes on: it takes its waiter off and tries again. -/
def resumeWait (others : Option Nat) (canBlock : Bool) : PtySystem :=
  match (system.processes pid).task with
  | .woken (.read fd capacity) =>
    returnTo pid (readPty (kernelFdCancelPtyWaiter system pid fd) pid fd capacity canBlock)
  | .woken (.events watches) =>
    returnTo pid (eventLoop (cancelFdWatches system pid watches) pid watches others false canBlock)
  | _ => system

/-- The task that makes the call, which must be running for it. -/
def PtySystemCall.caller : PtySystemCall → Option Nat
  | .launch => none
  | .ptyCreate pid _ => some pid
  | .spawn parent _ _ _ _ => some parent
  | .openRegular pid _ => some pid
  | .close pid _ => some pid
  | .read pid _ _ _ => some pid
  | .write pid _ _ => some pid
  | .eventWait pid _ _ _ _ => some pid
  | .resume _ _ _ => none
  | .wake _ => none
  | .exit pid => some pid

def PtySystem.perform : PtySystemCall → PtySystem
  | .launch => (processCreate system).setTask system.nextPid .running
  | .ptyCreate pid copied => (m36PtyCreate system pid copied).2
  | .spawn parent stdinFd stdoutFd stderrFd completes =>
    m36Spawn system parent stdinFd stdoutFd stderrFd completes
  | .openRegular pid access => kernelFdOpenRegular system pid access
  | .close pid fd => (kernelFdClose system pid fd).2
  | .read pid fd capacity canBlock => returnTo pid (syscallFdRead system pid fd capacity canBlock)
  | .write pid fd bytes => (syscallFdWrite system pid fd bytes).2
  | .eventWait pid watches others query canBlock =>
    returnTo pid (eventLoop system pid watches others query canBlock)
  | .resume pid others canBlock => resumeWait system pid others canBlock
  | .wake pid => system.wake (some pid)
  | .exit pid => taskExitCurrentProcess system pid

/-- A call of a task that is not running does not occur. -/
def PtySystem.step (call : PtySystemCall) : PtySystem :=
  match call.caller with
  | none => system.perform call
  | some pid => if (system.processes pid).task = .running then system.perform call else system

/-- Before the first process is created -/
def ptySystemInitial : PtySystem := ⟨ptyInit, fun _ => ⟨fun _ => .unused, .absent⟩, 1⟩

end BoringOS.Pty
