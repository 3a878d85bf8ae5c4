import BoringOS.Tasks.SchedulerTick
import BoringOS.Ipc.PendingOwners
import BoringOS.Pty.WakeUps
import BoringOS.Spawn.SpawnRuns

namespace BoringOS.Blocking

open Tasks (Scheduler TaskCall taskIsRegular taskBlockCurrent)
open Ipc (IpcTables IpcCall IpcError IpcReceived)
open Pty (PtySystem PtySystemCall)
open Spawn (SpawnCall WaitAnswers WaitOutcome)

/-!
# System calls that wait

Four system calls try, block their task when they have to wait, and try again
when it runs again: `syscall_fd_read` on a pseudo terminal, `ipc_receive` and
`service_accept` of `kernel/core/ipc_syscall.c`, and `m36_waitpid`.  Each of
them gives up when `task_block_current` finds no task to run instead.

The kernel here puts together the scheduler and the tables that these calls
look at, as their own modules describe them.  A task that was blocked inside
of a call has that call pending, and goes on with it when it is the current
task again.  Arguments that cannot be copied are left out, as in those modules.

A wake-up is a step of its own that may come at any time, also those that
`kernel/core/ipc.c` and `kernel/core/pty.c` ask for.
-/

def uint32Max : Nat := 2 ^ 32 - 1

/-- The error numbers of `ipc_result_errno` -/
inductive IpcErrno
  | eInval
  | eNoEnt
  | eExist
  | eNospc
  | ePipe
  | eBusy
  | eIo
deriving DecidableEq, Repr

/-- `ipc_result_errno`.  A message that does not fit is reported as `NO_SPACE`. -/
def ipcResultErrno : IpcError → IpcErrno
  | .invalid => .eInval
  | .notFound => .eNoEnt
  | .exists => .eExist
  | .noSpace => .eNospc
  | .payloadTooLong _ => .eNospc
  | .peerClosed => .ePipe
  | .wouldBlock => .eBusy
  | .internal => .eIo

/-- The loop of `service_accept`, up to where it returns or its task blocks -/
def serviceAccept (ipc : IpcTables) (process listener : Nat) (canBlock : Bool) :
    Option (Except IpcErrno Nat) × IpcTables :=
  if uint32Max < listener then (some (.error .eInval), ipc)
  else
    match Ipc.ipcServiceAccept ipc process listener with
    | (.ok endpoint, next) => (some (.ok endpoint), next)
    | (.error .wouldBlock, next) => (if canBlock then none else some (.error .eIo), next)
    | (.error error, next) => (some (.error (ipcResultErrno error)), next)

/-- The loop of `ipc_receive`, up to where it returns or its task blocks -/
def ipcReceive (ipc : IpcTables) (process endpoint capacity : Nat) (canBlock : Bool) :
    Option (Except IpcErrno IpcReceived) × IpcTables :=
  if uint32Max < endpoint ∨ Ipc.ipcInlinePayloadMax < capacity then (some (.error .eInval), ipc)
  else
    match Ipc.ipcReceive ipc process endpoint capacity with
    | (.ok received, next) => (some (.ok received), next)
    | (.error .wouldBlock, next) => (if canBlock then none else some (.error .eIo), next)
    | (.error error, next) => (some (.error (ipcResultErrno error)), next)

inductive BlockingCall
  | fdRead (pid fd capacity : Nat)
  | ipcReceive (process endpoint capacity : Nat)
  | serviceAccept (process listener : Nat)
  | waitpid (parent pid : Nat)
deriving DecidableEq, Repr

inductive CallResult
  | read (result : Except Pty.SyscallError (List UInt8))
  | received (result : Except IpcErrno IpcReceived)
  | accepted (result : Except IpcErrno Nat)
  | waited (result : Except Spawn.SyscallError Nat)
  /-- The older `WAITPID` takes the call. -/
  | legacy

def waitResult : WaitOutcome → Option CallResult
  | .returned result => some (.waited result)
  | .blocked => none
  | .legacy => some .legacy

/-- What the rest of the kernel does during an attempt -/
structure CallAnswers where
  /-- The answer of `address_space_activate` for the task that is to run instead -/
  activates : Bool
  /-- The results of `kfree` in the sweep over the detached children -/
  sweeps : Nat → Spawn.Frees
  wait : WaitAnswers

structure WaitingKernel where
  tasks : Scheduler
  ipc : IpcTables
  pty : PtySystem
  spawn : Spawn.System
  /-- The call that a task is inside of -/
  pending : Nat → Option BlockingCall

namespace WaitingKernel

variable (k : WaitingKernel)

/-- One attempt of a call, from its start or from where it was blocked.  There
is no result if its task is blocked. -/
def attempt (call : BlockingCall) (first : Bool) (answers : CallAnswers) :
    Option CallResult × WaitingKernel :=
  let canBlock := (taskBlockCurrent k.tasks answers.activates).1
  match call with
  | .fdRead pid fd capacity =>
    let read :=
      if first then Pty.syscallFdRead k.pty pid fd capacity canBlock
      else Pty.readPty (Pty.kernelFdCancelPtyWaiter k.pty pid fd) pid fd capacity canBlock
    (read.1.map .read, { k with pty := Pty.returnTo pid read })
  | .ipcReceive process endpoint capacity =>
    let received := ipcReceive k.ipc process endpoint capacity canBlock
    (received.1.map .received, { k with ipc := received.2 })
  | .serviceAccept process listener =>
    let accepted := serviceAccept k.ipc process listener canBlock
    (accepted.1.map .accepted, { k with ipc := accepted.2 })
  | .waitpid parent pid =>
    let wait : WaitAnswers := { answers.wait with blocks := canBlock }
    let waited :=
      if first then
        Spawn.m36Waitpid (Spawn.m36ReapDetached k.spawn answers.sweeps) parent pid wait
      else
        let woken := Spawn.taskWakePid k.spawn parent
        match (woken.processes parent).waiting with
        | some target => Spawn.m36WaitResume woken parent target wait
        | none => (.legacy, woken)
    (waitResult waited.1, { k with spawn := waited.2 })

/-- A cooperative task is in the kernel. -/
def taskCalls : Bool :=
  !k.tasks.halted && !k.tasks.preemptionEnabled && taskIsRegular k.tasks k.tasks.currentTask &&
    (k.tasks.tasks k.tasks.currentTask).contextKind == .cooperative &&
    (k.tasks.tasks k.tasks.currentTask).state == .running

/-- The caller is the current process, and all tables say that it runs. -/
def callerRuns : BlockingCall → Bool
  | .fdRead pid _ _ =>
    pid == k.tasks.currentProcess && decide ((k.pty.processes pid).task = .running)
  | .ipcReceive process _ _ => (k.ipc.buffers.processes process).pid == k.tasks.currentProcess
  | .serviceAccept process _ => (k.ipc.buffers.processes process).pid == k.tasks.currentProcess
  | .waitpid parent _ => parent == k.tasks.currentProcess && Spawn.canCall k.spawn parent

/-- A process that was blocked in `m36_waitpid` has been woken in it. -/
def callerWoken : BlockingCall → Bool
  | .waitpid parent _ =>
    let woken := (Spawn.taskWakePid k.spawn parent).processes parent
    decide (woken.task = some .ready) && woken.waiting.isSome
  | _ => true

end WaitingKernel

/-- What happens next: a task makes one of the four calls, or it goes on with
the one that it is inside of, or anything else. -/
inductive KernelStep
  | call (call : BlockingCall) (answers : CallAnswers)
  | goOn (answers : CallAnswers)
  | tasks (call : TaskCall)
  | ipc (call : IpcCall)
  | pty (call : PtySystemCall)
  | spawn (call : SpawnCall)

namespace WaitingKernel

variable (k : WaitingKernel)

/-- The attempt that a step is, if it is one: the call, and whether it starts -/
def attempted : KernelStep → Option (BlockingCall × Bool × CallAnswers)
  | .call call answers =>
    if (k.taskCalls && (k.pending k.tasks.currentTask).isNone && k.callerRuns call) = true then
      some (call, true, answers)
    else none
  | .goOn answers =>
    match k.pending k.tasks.currentTask with
    | some call =>
      if (k.taskCalls && k.callerWoken call) = true then some (call, false, answers) else none
    | none => none
  | _ => none

/-- The steps besides.  The code of a task that is inside of a call goes on with
that call, and the four calls themselves are attempts. -/
def besides : KernelStep → WaitingKernel
  | .tasks call =>
    if call.byTask = true ∧ k.pending k.tasks.currentTask ≠ none then k
    else { k with tasks := k.tasks.step call }
  | .ipc (.accept _ _) => k
  | .ipc (.receive _ _ _) => k
  | .ipc call => { k with ipc := Ipc.ipcStep k.ipc call }
  | .pty (.read _ _ _ _) => k
  | .pty (.resume pid others canBlock) =>
    match (k.pty.processes pid).task with
    | .woken (.read _ _) => k
    | _ => { k with pty := k.pty.step (.resume pid others canBlock) }
  | .pty call => { k with pty := k.pty.step call }
  | .spawn (.waitpid _ _ _ _) => k
  | .spawn (.resume _ _) => k
  | .spawn call => { k with spawn := call.step k.spawn }
  | _ => k

def step (event : KernelStep) : WaitingKernel :=
  match k.attempted event with
  | none => k.besides event
  | some (call, first, answers) =>
    match k.attempt call first answers with
    | (some _, next) =>
      { next with pending := Function.update k.pending k.tasks.currentTask none }
    | (none, next) =>
      { next with
        tasks := (taskBlockCurrent k.tasks answers.activates).2
        pending := Function.update k.pending k.tasks.currentTask (some call) }

/-- Before the first process, with the processes that there will be -/
def initial (processes : Nat → Tasks.ProcessState) : WaitingKernel where
  tasks := Tasks.taskInit processes
  ipc := Ipc.ipcInitial
  pty := Pty.ptySystemInitial
  spawn := Spawn.System.initial
  pending := fun _ => none

end WaitingKernel

end BoringOS.Blocking
