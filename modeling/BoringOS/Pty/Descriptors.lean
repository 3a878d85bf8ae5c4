import Mathlib.Data.Nat.Count

namespace BoringOS.Pty

/-!
# Pseudo terminals

A transcription of `kernel/core/pty.c`.  The table of pairs is a function from
the slot, and a pointer to a pair is its slot.  A handle names its endpoint by
a value of `PtyEndpoint`, so that no endpoint is out of range.  `pty_init` has
run, and the pointers that its callers pass are valid: the tests for a null
pointer are left out.

Waking a task is the business of the scheduler.  A function that wakes a
waiter also returns the process that it wakes.
-/

def kernelPtyMax : Nat := 8
def kernelPtyRingCapacity : Nat := 4096
def uint32Max : Nat := 2 ^ 32 - 1

/-- `KERNEL_PTY_ENDPOINT_MASTER` and `KERNEL_PTY_ENDPOINT_SLAVE` -/
inductive PtyEndpoint where
  | master
  | slave
deriving DecidableEq, Repr

/-- `struct pty_handle` -/
structure PtyHandle where
  slot : Nat
  endpoint : PtyEndpoint
  generation : Nat
deriving DecidableEq, Repr

/-- `enum pty_result` -/
inductive PtyResult where
  | ok
  | invalid
  | noSpace
  | wouldBlock
  | hup
deriving DecidableEq, Repr

/-- `struct pty_poll_state` -/
structure PtyPollState where
  readable : Bool
  hup : Bool
deriving DecidableEq, Repr

/-- `struct pty_ring` -/
structure PtyRing where
  bytes : Nat → UInt8
  readIndex : Nat
  writeIndex : Nat
  count : Nat

/-- `struct pty_pair` -/
structure PtyPair where
  masterToSlave : PtyRing
  slaveToMaster : PtyRing
  generation : Nat
  refs : PtyEndpoint → Nat
  readWaiterPid : PtyEndpoint → Nat
  used : Bool

/-- `pty_pairs` -/
abbrev PtyPairs := Nat → PtyPair

/-- `ring_clear` -/
def ringClear : PtyRing := ⟨fun _ => 0, 0, 0, 0⟩

variable (pair : PtyPair)

/-- `pair_reset` -/
def pairReset (preserveGeneration : Bool) : PtyPair where
  masterToSlave := ringClear
  slaveToMaster := ringClear
  generation := if preserveGeneration then pair.generation else 0
  refs := fun _ => 0
  readWaiterPid := fun _ => 0
  used := false

variable (pairs : PtyPairs) (handle : PtyHandle)

/-- `pair_from_handle` -/
def pairFromHandle : Option PtyPair :=
  if kernelPtyMax ≤ handle.slot ∨ handle.generation = 0 then none
  else
    let pair := pairs handle.slot
    if pair.used = false ∨ pair.generation ≠ handle.generation ∨ pair.refs handle.endpoint = 0 then
      none
    else some pair

/-- `incoming_ring` -/
def incomingRing : PtyEndpoint → PtyRing
  | .master => pair.slaveToMaster
  | .slave => pair.masterToSlave

/-- `outgoing_ring` -/
def outgoingRing : PtyEndpoint → PtyRing
  | .master => pair.masterToSlave
  | .slave => pair.slaveToMaster

variable (endpoint : PtyEndpoint)

/-- Stores through the pointer that `incoming_ring` returns. -/
def setIncomingRing (ring : PtyRing) : PtyPair :=
  match endpoint with
  | .master => { pair with slaveToMaster := ring }
  | .slave => { pair with masterToSlave := ring }

/-- Stores through the pointer that `outgoing_ring` returns. -/
def setOutgoingRing (ring : PtyRing) : PtyPair :=
  match endpoint with
  | .master => { pair with masterToSlave := ring }
  | .slave => { pair with slaveToMaster := ring }

/-- `peer_endpoint` -/
def peerEndpoint : PtyEndpoint → PtyEndpoint
  | .master => .slave
  | .slave => .master

/-- `wake_endpoint`, with the process that it wakes -/
def wakeEndpoint : Option Nat × PtyPair :=
  let pid := pair.readWaiterPid endpoint
  if pid ≠ 0 then
    (some pid, { pair with readWaiterPid := Function.update pair.readWaiterPid endpoint 0 })
  else (none, pair)

/-- The increments of the generation in `pty_create_pair`, in 32 bits -/
def nextGeneration (generation : Nat) : Nat :=
  let next := (generation + 1) % 2 ^ 32
  if next = 0 then next + 1 else next

/-- The first slot that is not in use, as `pty_create_pair` looks for it -/
def findUnusedPair : Option Nat := (List.range kernelPtyMax).find? fun index => !(pairs index).used

/-- `pty_create_pair`, with the handles of the master and of the slave -/
def ptyCreatePair : Except PtyResult (PtyHandle × PtyHandle) × PtyPairs :=
  match findUnusedPair pairs with
  | none => (.error .noSpace, pairs)
  | some index =>
    let generation := nextGeneration (pairs index).generation
    let pair := { pairReset (pairs index) true with
      generation := generation
      refs := fun _ => 1
      used := true }
    (.ok (⟨index, .master, generation⟩, ⟨index, .slave, generation⟩), Function.update pairs index pair)

/-- `pty_retain` -/
def ptyRetain : PtyResult × PtyPairs :=
  match pairFromHandle pairs handle with
  | none => (.invalid, pairs)
  | some pair =>
    if pair.refs handle.endpoint = uint32Max then (.invalid, pairs)
    else
      let refs := Function.update pair.refs handle.endpoint (pair.refs handle.endpoint + 1)
      (.ok, Function.update pairs handle.slot { pair with refs := refs })

/-- `pty_close` after the reference is dropped: with the last one of an
endpoint its waiter is forgotten and the waiter of its peer woken. -/
def hangUp : Option Nat × PtyPair :=
  if pair.refs endpoint = 0 then
    let waiters := Function.update pair.readWaiterPid endpoint 0
    wakeEndpoint { pair with readWaiterPid := waiters } (peerEndpoint endpoint)
  else (none, pair)

/-- `pty_close` at its end: a pair without references is given back. -/
def resetUnreferenced : PtyPair :=
  if pair.refs .master = 0 ∧ pair.refs .slave = 0 then pairReset pair true else pair

/-- `pty_close`, with the process that it wakes -/
def ptyClose : PtyResult × Option Nat × PtyPairs :=
  match pairFromHandle pairs handle with
  | none => (.invalid, none, pairs)
  | some pair =>
    let refs := Function.update pair.refs handle.endpoint (pair.refs handle.endpoint - 1)
    let (woken, hungUp) := hangUp { pair with refs := refs } handle.endpoint
    (.ok, woken, Function.update pairs handle.slot (resetUnreferenced hungUp))

/-- The loop of `pty_read`, with the bytes that it stores in the buffer and
the ring that it leaves -/
def readLoop : Nat → PtyRing → List UInt8 × PtyRing
  | 0, ring => ([], ring)
  | remaining + 1, ring =>
    if ring.count = 0 then ([], ring)
    else
      let next := { ring with
        readIndex := (ring.readIndex + 1) % kernelPtyRingCapacity
        count := ring.count - 1 }
      let (bytes, last) := readLoop remaining next
      (ring.bytes ring.readIndex :: bytes, last)

/-- `pty_read`, with the bytes that it stores in the buffer -/
def ptyRead (length : Nat) : PtyResult × List UInt8 × PtyPairs :=
  match pairFromHandle pairs handle with
  | none => (.invalid, [], pairs)
  | some pair =>
    if length = 0 then (.ok, [], pairs)
    else
      let (bytes, ring) := readLoop length (incomingRing pair handle.endpoint)
      let next := Function.update pairs handle.slot (setIncomingRing pair handle.endpoint ring)
      if bytes ≠ [] then (.ok, bytes, next)
      else if pair.refs (peerEndpoint handle.endpoint) = 0 then (.hup, [], next)
      else (.wouldBlock, [], next)

/-- The loop of `pty_write`, with the number of bytes that it takes and the
ring that it leaves -/
def writeLoop : List UInt8 → PtyRing → Nat × PtyRing
  | [], ring => (0, ring)
  | byte :: bytes, ring =>
    if kernelPtyRingCapacity ≤ ring.count then (0, ring)
    else
      let next := { ring with
        bytes := Function.update ring.bytes ring.writeIndex byte
        writeIndex := (ring.writeIndex + 1) % kernelPtyRingCapacity
        count := ring.count + 1 }
      let (transferred, last) := writeLoop bytes next
      (transferred + 1, last)

/-- `pty_write`, with the number of bytes that it takes and the process that
it wakes -/
def ptyWrite (bytes : List UInt8) : PtyResult × Nat × Option Nat × PtyPairs :=
  match pairFromHandle pairs handle with
  | none => (.invalid, 0, none, pairs)
  | some pair =>
    if pair.refs (peerEndpoint handle.endpoint) = 0 then (.hup, 0, none, pairs)
    else
      let (transferred, ring) := writeLoop bytes (outgoingRing pair handle.endpoint)
      let written := setOutgoingRing pair handle.endpoint ring
      if transferred ≠ 0 then
        let (woken, last) := wakeEndpoint written (peerEndpoint handle.endpoint)
        (.ok, transferred, woken, Function.update pairs handle.slot last)
      else (.wouldBlock, 0, none, Function.update pairs handle.slot written)

/-- `pty_poll`, which fails where its result is not `PTY_RESULT_OK` -/
def ptyPoll : Option PtyPollState :=
  match pairFromHandle pairs handle with
  | none => none
  | some pair =>
    some ⟨decide ((incomingRing pair handle.endpoint).count ≠ 0),
      decide (pair.refs (peerEndpoint handle.endpoint) = 0)⟩

/-- `pty_arm_read_waiter` -/
def ptyArmReadWaiter (pid : Nat) : PtyResult × PtyPairs :=
  match pairFromHandle pairs handle with
  | none => (.invalid, pairs)
  | some pair =>
    if pid = 0 then (.invalid, pairs)
    else
      let waiters := Function.update pair.readWaiterPid handle.endpoint pid
      (.ok, Function.update pairs handle.slot { pair with readWaiterPid := waiters })

/-- `pty_cancel_read_waiter` -/
def ptyCancelReadWaiter (pid : Nat) : PtyPairs :=
  match pairFromHandle pairs handle with
  | none => pairs
  | some pair =>
    if pair.readWaiterPid handle.endpoint = pid then
      let waiters := Function.update pair.readWaiterPid handle.endpoint 0
      Function.update pairs handle.slot { pair with readWaiterPid := waiters }
    else pairs

/-- The pairs after `pty_init` -/
def ptyInit : PtyPairs := fun _ => ⟨ringClear, ringClear, 0, fun _ => 0, fun _ => 0, false⟩

/-!
## Descriptors and tasks

The functions of `kernel/core/fd.c` on descriptors of pseudo terminals, over a
system of processes.  The descriptor table of a process is a function from the
descriptor.  Only tables of processes that are alive are used, so that
`initialized` is left out; what a regular file or the console does is left out
too, and a regular file can always be closed.

A process has one task.  A task that waits is inside of a system call: it is
blocked, or it has been woken and goes on with that call when it runs again.
-/

def kernelFdMax : Nat := 16
def kernelFdStdin : Nat := 0
def kernelFdStdout : Nat := 1
def kernelFdStderr : Nat := 2
def kernelFdFirstRegular : Nat := 3
def vfsAccessRead : Nat := 1
def vfsAccessWrite : Nat := 2
def vfsAccessMask : Nat := vfsAccessRead ||| vfsAccessWrite

/-- `struct kernel_fd_slot`, by its kind -/
inductive KernelFdSlot where
  | unused
  | consoleInput
  | consoleOutput
  | regular (access : Nat)
  | pty (handle : PtyHandle) (access : Nat)
deriving DecidableEq, Repr

/-- The results of `enum vfs_result` that occur here -/
inductive VfsResult where
  | ok
  | invalidArgument
  | noSpace
  | accessDenied
  | corrupt
deriving DecidableEq, Repr

/-- The system call in which a task waits: a read, or an event wait with the
descriptors that it watches. -/
inductive PtyWait where
  | read (fd capacity : Nat)
  | events (watches : List Nat)
deriving DecidableEq, Repr

/-- Where a task stands.  A woken task is ready to run, but still inside of
its system call. -/
inductive TaskPhase where
  | absent
  | running
  | blocked (wait : PtyWait)
  | woken (wait : PtyWait)
deriving DecidableEq, Repr

structure PtyProcess where
  fdTable : Nat → KernelFdSlot
  task : TaskPhase

structure PtySystem where
  pairs : PtyPairs
  /-- The processes by their pid. -/
  processes : Nat → PtyProcess
  nextPid : Nat

variable (system : PtySystem)

def PtySystem.setProcess (pid : Nat) (process : PtyProcess) : PtySystem :=
  { system with processes := Function.update system.processes pid process }

def PtySystem.setTask (pid : Nat) (task : TaskPhase) : PtySystem :=
  system.setProcess pid { system.processes pid with task := task }

variable (pid fd : Nat)

def PtySystem.setSlot (slot : KernelFdSlot) : PtySystem :=
  let table := Function.update (system.processes pid).fdTable fd slot
  system.setProcess pid { system.processes pid with fdTable := table }

/-- `task_wake_pid` -/
def TaskPhase.wake : TaskPhase → TaskPhase
  | .blocked wait => .woken wait
  | task => task

/-- `task_wake_pid`, for a waiter that `pty.c` wakes -/
def PtySystem.wake : Option Nat → PtySystem
  | none => system
  | some pid => system.setTask pid (system.processes pid).task.wake

/-- `pty_close`, with the wake-up -/
def PtySystem.closePty (handle : PtyHandle) : PtyResult × PtySystem :=
  let (result, woken, pairs) := ptyClose system.pairs handle
  (result, { system with pairs := pairs }.wake woken)

/-- `kernel_fd_access_valid` -/
def kernelFdAccessValid (access : Nat) : Bool := access != 0 && (access &&& vfsAccessMask == access)

/-- `kernel_fd_table_init` -/
def kernelFdTableInit (fd : Nat) : KernelFdSlot :=
  if fd = kernelFdStdin then .consoleInput
  else if fd = kernelFdStdout ∨ fd = kernelFdStderr then .consoleOutput
  else .unused

/-- `kernel_fd_table_destroy`, from the given slots on -/
def kernelFdTableDestroy (system : PtySystem) (pid : Nat) : List Nat → Bool × PtySystem
  | [] => (true, system)
  | fd :: rest =>
    match (system.processes pid).fdTable fd with
    | .unused => kernelFdTableDestroy system pid rest
    | .regular _ =>
      if fd < kernelFdFirstRegular then (false, system)
      else kernelFdTableDestroy (system.setSlot pid fd .unused) pid rest
    | .pty handle _ =>
      match system.closePty handle with
      | (.ok, closed) => kernelFdTableDestroy (closed.setSlot pid fd .unused) pid rest
      | (_, failed) => (false, failed)
    | .consoleInput =>
      if fd = kernelFdStdin then kernelFdTableDestroy (system.setSlot pid fd .unused) pid rest
      else (false, system)
    | .consoleOutput =>
      if fd = kernelFdStdout ∨ fd = kernelFdStderr then
        kernelFdTableDestroy (system.setSlot pid fd .unused) pid rest
      else (false, system)

/-- `kernel_fd_close` -/
def kernelFdClose : VfsResult × PtySystem :=
  if kernelFdMax ≤ fd then (.invalidArgument, system)
  else
    match (system.processes pid).fdTable fd with
    | .unused => (.invalidArgument, system)
    | .regular _ =>
      if fd < kernelFdFirstRegular then (.invalidArgument, system)
      else (.ok, system.setSlot pid fd .unused)
    | .pty handle _ =>
      match system.closePty handle with
      | (.ok, closed) => (.ok, closed.setSlot pid fd .unused)
      | (_, failed) => (.invalidArgument, failed)
    | .consoleInput => (.accessDenied, system)
    | .consoleOutput => (.accessDenied, system)

/-- `kernel_fd_free_slot` -/
def kernelFdFreeSlot (pid first : Nat) : Option Nat :=
  (List.range' first (kernelFdMax - first)).find? fun fd =>
    (system.processes pid).fdTable fd == .unused

/-- `kernel_fd_bind_pty`, once the slot is clear -/
def bindUnused (handle : PtyHandle) (access : Nat) : VfsResult × PtySystem :=
  match ptyRetain system.pairs handle with
  | (.ok, pairs) => (.ok, { system with pairs := pairs }.setSlot pid fd (.pty handle access))
  | (_, pairs) => (.invalidArgument, { system with pairs := pairs })

/-- `kernel_fd_bind_pty` -/
def kernelFdBindPty (handle : PtyHandle) (access : Nat) : VfsResult × PtySystem :=
  if kernelFdMax ≤ fd ∨ kernelFdAccessValid access = false then (.invalidArgument, system)
  else
    match (system.processes pid).fdTable fd with
    | .pty old _ =>
      match system.closePty old with
      | (.ok, closed) => bindUnused (closed.setSlot pid fd .unused) pid fd handle access
      | (_, failed) => (.corrupt, failed)
    | _ => bindUnused (system.setSlot pid fd .unused) pid fd handle access

/-- `kernel_fd_clone_stdio`, from a descriptor of one process to one of another -/
def kernelFdCloneStdio (source sourceFd target targetFd requiredAccess : Nat) :
    VfsResult × PtySystem :=
  if kernelFdMax ≤ sourceFd ∨ kernelFdFirstRegular ≤ targetFd ∨
      kernelFdAccessValid requiredAccess = false then (.invalidArgument, system)
  else
    match (system.processes source).fdTable sourceFd with
    | .pty handle access =>
      if access &&& requiredAccess ≠ requiredAccess then (.accessDenied, system)
      else kernelFdBindPty system target targetFd handle requiredAccess
    | .consoleInput =>
      if vfsAccessRead &&& requiredAccess = requiredAccess ∧ targetFd = kernelFdStdin ∧
          (system.processes target).fdTable targetFd = .consoleInput then (.ok, system)
      else (.accessDenied, system)
    | .consoleOutput =>
      if vfsAccessWrite &&& requiredAccess = requiredAccess ∧ targetFd ≠ kernelFdStdin ∧
          (system.processes target).fdTable targetFd = .consoleOutput then (.ok, system)
      else (.accessDenied, system)
    | _ => (.accessDenied, system)

/-- `kernel_fd_install_pty`, with the descriptor -/
def kernelFdInstallPty (pid : Nat) (handle : PtyHandle) (access : Nat) :
    Except VfsResult Nat × PtySystem :=
  match kernelFdFreeSlot system pid kernelFdFirstRegular with
  | none => (.error .noSpace, system)
  | some fd =>
    match kernelFdBindPty system pid fd handle access with
    | (.ok, bound) => (.ok fd, bound)
    | (result, failed) => (.error result, failed)

/-- `kernel_fd_pty_slot`, with the handle in the slot -/
def kernelFdPtySlot (pid fd access : Nat) : Option PtyHandle :=
  if kernelFdMax ≤ fd then none
  else
    match (system.processes pid).fdTable fd with
    | .pty handle slotAccess => if slotAccess &&& access = 0 then none else some handle
    | _ => none

/-- `kernel_fd_read_pty` -/
def kernelFdReadPty (pid fd length : Nat) : PtyResult × List UInt8 × PtySystem :=
  match kernelFdPtySlot system pid fd vfsAccessRead with
  | none => (.invalid, [], system)
  | some handle =>
    let (result, bytes, pairs) := ptyRead system.pairs handle length
    (result, bytes, { system with pairs := pairs })

/-- `kernel_fd_write_pty`, with the number of bytes that it takes -/
def kernelFdWritePty (bytes : List UInt8) : PtyResult × Nat × PtySystem :=
  match kernelFdPtySlot system pid fd vfsAccessWrite with
  | none => (.invalid, 0, system)
  | some handle =>
    let (result, transferred, woken, pairs) := ptyWrite system.pairs handle bytes
    (result, transferred, { system with pairs := pairs }.wake woken)

/-- `kernel_fd_poll_pty` -/
def kernelFdPollPty : Option PtyPollState :=
  match kernelFdPtySlot system pid fd vfsAccessRead with
  | none => none
  | some handle => ptyPoll system.pairs handle

/-- `kernel_fd_arm_pty_waiter` -/
def kernelFdArmPtyWaiter : PtyResult × PtySystem :=
  match kernelFdPtySlot system pid fd vfsAccessRead with
  | none => (.invalid, system)
  | some handle =>
    let (result, pairs) := ptyArmReadWaiter system.pairs handle pid
    (result, { system with pairs := pairs })

/-- `kernel_fd_cancel_pty_waiter` -/
def kernelFdCancelPtyWaiter : PtySystem :=
  if kernelFdMax ≤ fd then system
  else
    match (system.processes pid).fdTable fd with
    | .pty handle _ => { system with pairs := ptyCancelReadWaiter system.pairs handle pid }
    | _ => system

end BoringOS.Pty
