import BoringOS.Blocking.Calls
import BoringOS.Tasks.SchedulerRuns

namespace BoringOS.Blocking

open Tasks (SchedulerInvariant taskBlockCurrent)

/-!
# Invariants of a kernel with calls that wait

However the attempts of the four calls are interleaved with all else, the parts
of the kernel keep their invariants.
-/

namespace WaitingKernel

/-- The invariants of the parts -/
structure KernelSound (k : WaitingKernel) : Prop where
  tasks : SchedulerInvariant k.tasks
  ipc : Ipc.IpcInvariant k.ipc
  owned : Ipc.PendingOwned k.ipc
  spawn : Spawn.SpawnSound k.spawn

variable {k : WaitingKernel} {call : BlockingCall} {first : Bool} {answers : CallAnswers}
  {event : KernelStep}

theorem attempted_eq_some (attempts : k.attempted event = some (call, first, answers)) :
    k.taskCalls = true ∧ (first = true → k.callerRuns call = true) ∧
      (first = false → k.callerWoken call = true) := by
  cases event with
  | call made given =>
    rw [attempted] at attempts
    grind
  | goOn given =>
    rw [attempted] at attempts
    split at attempts
    · grind
    · cases attempts
  | _ => cases attempts

theorem ipcReceive_tables (ipc : Ipc.IpcTables) (process endpoint capacity : Nat) (canBlock : Bool) :
    (Blocking.ipcReceive ipc process endpoint capacity canBlock).2 = ipc ∨
      (Blocking.ipcReceive ipc process endpoint capacity canBlock).2 =
        Ipc.ipcStep ipc (.receive process endpoint capacity) := by
  rw [Blocking.ipcReceive, Ipc.ipcStep]
  grind

theorem serviceAccept_tables (ipc : Ipc.IpcTables) (process listener : Nat) (canBlock : Bool) :
    (Blocking.serviceAccept ipc process listener canBlock).2 = ipc ∨
      (Blocking.serviceAccept ipc process listener canBlock).2 =
        Ipc.ipcStep ipc (.accept process listener) := by
  rw [Blocking.serviceAccept, Ipc.ipcStep]
  grind

theorem KernelSound.ipcStep (sound : KernelSound k) (made : Ipc.IpcCall) :
    KernelSound { k with ipc := Ipc.ipcStep k.ipc made } :=
  { sound with
    ipc := Ipc.ipcStep_invariant k.ipc made sound.ipc
    owned := Ipc.ipcStep_pendingOwned made sound.ipc sound.owned }

theorem waitpid_sound (sound : Spawn.SpawnSound k.spawn) {parent pid : Nat}
    (runs : first = true → k.callerRuns (.waitpid parent pid) = true)
    (woken : first = false → k.callerWoken (.waitpid parent pid) = true) :
    Spawn.SpawnSound (k.attempt (.waitpid parent pid) first answers).2.spawn := by
  cases first with
  | true =>
    have admitted := runs rfl
    rw [callerRuns, Bool.and_eq_true] at admitted
    exact Spawn.m36Waitpid_sound (Spawn.m36ReapDetached_swept sound answers.sweeps).sound
      (Spawn.canCall_swept sound admitted.2 answers.sweeps) pid _
  | false =>
    have ready := woken rfl
    simp only [callerWoken, Bool.and_eq_true, decide_eq_true_eq] at ready
    simp only [attempt, Bool.false_eq_true, if_false]
    have awake := Spawn.taskWakePid_sound sound parent
    cases isWaiting : ((Spawn.taskWakePid k.spawn parent).processes parent).waiting with
    | none => exact awake
    | some target => exact Spawn.m36WaitResume_sound awake ready.1 isWaiting _

/-- An attempt leaves the scheduler and the pending calls alone. -/
theorem attempt_sound (sound : KernelSound k) (attempts : k.attempted event = some (call, first, answers)) :
    KernelSound (k.attempt call first answers).2 := by
  rcases attempted_eq_some attempts with ⟨-, runs, woken⟩
  cases call with
  | fdRead pid fd capacity => exact { sound with }
  | ipcReceive process endpoint capacity =>
    simp only [attempt]
    rcases ipcReceive_tables k.ipc process endpoint capacity
      (taskBlockCurrent k.tasks answers.activates).1 with same | received
    · rw [same]
      exact sound
    · rw [received]
      exact sound.ipcStep _
  | serviceAccept process listener =>
    simp only [attempt]
    rcases serviceAccept_tables k.ipc process listener
      (taskBlockCurrent k.tasks answers.activates).1 with same | accepted
    · rw [same]
      exact sound
    · rw [accepted]
      exact sound.ipcStep _
  | waitpid parent pid =>
    exact { sound with spawn := waitpid_sound sound.spawn runs woken }

theorem besides_sound (sound : KernelSound k) : KernelSound (k.besides event) := by
  rw [besides.eq_def]
  split
  · split
    · exact sound
    · exact { sound with tasks := (Tasks.step_sound sound.tasks _).invariant }
  · exact sound
  · exact sound
  · exact sound.ipcStep _
  · exact sound
  · split
    · exact sound
    · exact { sound with }
  · exact { sound with }
  · exact sound
  · exact sound
  · exact { sound with spawn := Spawn.step_sound k.spawn _ sound.spawn }
  · exact sound

theorem step_sound (sound : KernelSound k) : KernelSound (k.step event) := by
  rw [step]
  split
  · exact besides_sound sound
  rename_i call first answers attempts
  have after := attempt_sound sound attempts
  split
  · rename_i result next isAttempt
    rw [isAttempt] at after
    exact { after with }
  · rename_i next isAttempt
    rw [isAttempt] at after
    exact ⟨(Tasks.block_sound sound.tasks answers.activates).invariant, after.ipc, after.owned, after.spawn⟩

theorem initial_sound (processes : Nat → Tasks.ProcessState) : KernelSound (initial processes) :=
  ⟨Tasks.taskInit_invariant processes, Ipc.ipcInitial_invariant, Ipc.ipcInitial_pendingOwned,
    Spawn.initial_sound⟩

/-- However the attempts of the calls are interleaved with all else, the scheduler, the
message passing and the processes keep their invariants. -/
theorem waitingKernel_sound (processes : Nat → Tasks.ProcessState) (events : List KernelStep) :
    KernelSound (events.foldl step (initial processes)) :=
  List.foldlRecOn events step (initial_sound processes) fun _ sound _ _ => step_sound sound

end WaitingKernel

end BoringOS.Blocking
