import BoringOS.Pty.HolderSteps
import BoringOS.Pty.Readers

namespace BoringOS.Pty

open Library

/-!
# The invariant of the system of processes

The holders of handles are the descriptors of all processes, and who waits is
read off the tasks that are blocked.  A step is taken by a process whose task
does not wait, so that the table of a waiting process stays as it is.
-/

/-- No local variable holds a handle. -/
def noLocals : PtyEndpoint → Option PtyHandle := fun _ => none

/-- The handle in a slot -/
def KernelFdSlot.handle : KernelFdSlot → Option PtyHandle
  | .pty handle _ => some handle
  | _ => none

variable (system : PtySystem)

def PtySystem.held (locals : PtyEndpoint → Option PtyHandle) :
    PtyHolder → Option PtyHandle
  | .inl (pid, fd) => ((system.processes pid).fdTable fd).handle
  | .inr endpoint => locals endpoint

/-- The descriptors for which a task waits -/
def PtyWait.watches : PtyWait → List Nat
  | .read fd _ => [fd]
  | .events watches => watches

/-- The endpoints for which a blocked task waits -/
def PtySystem.awaited (pid : Nat) : List PtyHandle :=
  match (system.processes pid).task with
  | .blocked wait => wait.watches.filterMap fun fd => ((system.processes pid).fdTable fd).handle
  | _ => []

/-- Where the kinds of descriptors stand in a table -/
def SlotShaped (fd : Nat) : KernelFdSlot → Prop
  | .unused => True
  | .consoleInput => fd = kernelFdStdin
  | .consoleOutput => fd = kernelFdStdout ∨ fd = kernelFdStderr
  | .regular _ => kernelFdFirstRegular ≤ fd ∧ fd < kernelFdMax
  | .pty _ _ => fd < kernelFdMax

structure SystemSound (system : PtySystem) (locals : PtyEndpoint → Option PtyHandle) : Prop where
  table : PtySound (system.held locals) (fun pid handle => handle ∈ system.awaited pid) system.pairs
  shaped : ∀ pid fd, SlotShaped fd ((system.processes pid).fdTable fd)
  started : 0 < system.nextPid
  fresh : ∀ pid, pid = 0 ∨ system.nextPid ≤ pid → system.processes pid = ⟨fun _ => .unused, .absent⟩

/-- A process whose task is not blocked -/
structure Acting (system : PtySystem) (pid : Nat) : Prop where
  created : 0 < pid ∧ pid < system.nextPid
  notBlocked : ∀ wait, (system.processes pid).task ≠ .blocked wait

section Views

variable (system : PtySystem) (locals : PtyEndpoint → Option PtyHandle) (pid fd : Nat)

theorem setProcess_process (process : PtyProcess) (other : Nat) :
    (system.setProcess pid process).processes other =
      if other = pid then process else system.processes other :=
  Function.update_apply _ _ _ _

variable (slot : KernelFdSlot)

variable (other : Nat)

theorem setSlot_process :
    (system.setSlot pid fd slot).processes other =
      if other = pid then
        ⟨Function.update (system.processes pid).fdTable fd slot, (system.processes pid).task⟩
      else system.processes other :=
  setProcess_process _ _ _ _

variable (task : TaskPhase)

theorem setTask_process (other : Nat) :
    (system.setTask pid task).processes other =
      if other = pid then ⟨(system.processes pid).fdTable, task⟩ else system.processes other :=
  setProcess_process _ _ _ _

theorem setTask_fdTable (other : Nat) :
    ((system.setTask pid task).processes other).fdTable = (system.processes other).fdTable := by
  grind [setTask_process]

theorem setSlot_task :
    ((system.setSlot pid fd slot).processes other).task = (system.processes other).task := by
  grind [setSlot_process]

theorem setSlot_fdTable (other otherFd : Nat) :
    ((system.setSlot pid fd slot).processes other).fdTable otherFd =
      if other = pid ∧ otherFd = fd then slot else (system.processes other).fdTable otherFd := by
  rw [setSlot_process]
  by_cases same : other = pid
  · subst same
    grind
  simp [*]

variable (woken : Option Nat)

theorem wake_fdTable :
    ((system.wake woken).processes other).fdTable = (system.processes other).fdTable := by
  cases woken with
  | none => rfl
  | some pid => exact setTask_fdTable system pid _ other

@[simp] theorem wake_pairs : (system.wake woken).pairs = system.pairs := by
  cases woken <;> rfl

@[simp] theorem wake_nextPid : (system.wake woken).nextPid = system.nextPid := by
  cases woken <;> rfl

@[simp] theorem setSlot_pairs : (system.setSlot pid fd slot).pairs = system.pairs := rfl

theorem held_setTask : (system.setTask pid task).held locals = system.held locals := by
  funext holder
  rcases holder with ⟨-, otherFd⟩ | endpoint
  · exact congrArg (fun table => KernelFdSlot.handle (table otherFd)) (setTask_fdTable _ _ _ _)
  · rfl

theorem held_wake : (system.wake woken).held locals = system.held locals := by
  cases woken with
  | none => rfl
  | some pid => exact held_setTask system locals pid _

theorem held_setSlot : (system.setSlot pid fd slot).held locals =
    Function.update (system.held locals) (.inl (pid, fd)) slot.handle := by
  funext holder
  rcases holder with ⟨-, -⟩ | endpoint
  · rw [Function.update_apply, PtySystem.held, setSlot_fdTable]
    simp only [Sum.inl.injEq, Prod.mk.injEq]
    split
    · rfl
    · rfl
  · rfl

theorem held_locals (endpoint : PtyEndpoint) (value : Option PtyHandle) :
    system.held (Function.update locals endpoint value) =
      Function.update (system.held locals) (.inr endpoint) value := by
  funext holder
  grind [PtySystem.held]

variable {system pid}

theorem mem_awaited {handle : PtyHandle} : handle ∈ system.awaited pid ↔
    ∃ wait fd, (system.processes pid).task = .blocked wait ∧ fd ∈ wait.watches ∧
      ((system.processes pid).fdTable fd).handle = some handle := by
  grind [PtySystem.awaited]

theorem awaited_of_acting (acting : Acting system pid) : system.awaited pid = [] := by
  rw [PtySystem.awaited]
  split
  · rename_i wait isBlocked
    exact absurd isBlocked (acting.notBlocked wait)
  · rfl

theorem awaited_congr {next : PtySystem} {other : Nat}
    (same : next.processes other = system.processes other) :
    next.awaited other = system.awaited other := by
  rw [PtySystem.awaited, PtySystem.awaited, same]

theorem mem_awaited_wake {woken : Option Nat} {other : Nat} {handle : PtyHandle} :
    handle ∈ (system.wake woken).awaited other ↔
      handle ∈ system.awaited other ∧ woken ≠ some other := by
  cases woken with
  | none => exact (and_iff_left (fun impossible => by cases impossible)).symm
  | some pid =>
    by_cases same : other = pid
    · subst same
      refine iff_of_false ?_ (fun both => both.2 rfl)
      rw [mem_awaited]
      rintro ⟨wait, -, isBlocked, -⟩
      rw [PtySystem.wake, setTask_process, if_pos rfl] at isBlocked
      cases task : (system.processes other).task <;> rw [task] at isBlocked <;> cases isBlocked
    · have kept : (system.wake (some pid)).processes other = system.processes other := by
        rw [PtySystem.wake, setTask_process, if_neg same]
      rw [awaited_congr kept]
      grind

end Views

/-- No task is put to sleep, and no process created. -/
structure KeepsActing (system next : PtySystem) : Prop where
  nextPid : next.nextPid = system.nextPid
  acting : ∀ pid, Acting system pid → Acting next pid

theorem KeepsActing.refl : KeepsActing system system := ⟨rfl, fun _ => id⟩

theorem KeepsActing.trans {first second third : PtySystem} (before : KeepsActing first second)
    (after : KeepsActing second third) : KeepsActing first third :=
  ⟨after.nextPid.trans before.nextPid, fun pid acting => after.acting pid (before.acting pid acting)⟩

theorem keepsActing_wake (woken : Option Nat) : KeepsActing system (system.wake woken) := by
  refine ⟨wake_nextPid system woken, fun pid acting => ⟨?_, fun wait isBlocked => ?_⟩⟩
  · rw [wake_nextPid]
    exact acting.created
  · cases woken with
    | none => exact acting.notBlocked wait isBlocked
    | some other =>
      rw [PtySystem.wake, setTask_process] at isBlocked
      split at isBlocked
      · cases task : (system.processes other).task <;> rw [task] at isBlocked <;> cases isBlocked
      · exact acting.notBlocked wait isBlocked

theorem keepsActing_setSlot (pid fd : Nat) (slot : KernelFdSlot) :
    KeepsActing system (system.setSlot pid fd slot) := by
  refine ⟨rfl, fun other acting => ⟨acting.created, fun wait isBlocked => ?_⟩⟩
  rw [setSlot_task] at isBlocked
  exact acting.notBlocked wait isBlocked

theorem keepsActing_pairs (pairs : PtyPairs) : KeepsActing system { system with pairs := pairs } :=
  ⟨rfl, fun _ acting => ⟨acting.created, acting.notBlocked⟩⟩

end BoringOS.Pty
