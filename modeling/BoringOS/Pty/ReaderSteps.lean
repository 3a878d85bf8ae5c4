import BoringOS.Pty.DescriptorSteps

namespace BoringOS.Pty

open Library

/-!
# The system calls keep the invariant

Creating terminals and processes only adds and drops holders.  A task is put
to sleep by a read or by an event wait, and by then it is on record for every
endpoint it waits for: nothing is there to read and the peer is present, since
nothing runs between the look at the rings and the sleep.  What it needs for
that is that nobody else sleeps on those endpoints, for the record has room
for one process only.
-/

variable {system : PtySystem} {locals : PtyEndpoint → Option PtyHandle} {pid fd : Nat}
  {handle : PtyHandle}

theorem kernelFdFreeSlot_eq_some {first : Nat} (found : kernelFdFreeSlot system pid first = some fd) :
    first ≤ fd ∧ fd < kernelFdMax ∧ (system.processes pid).fdTable fd = .unused := by
  have inside := List.mem_range'_1.mp (List.mem_of_find?_eq_some found)
  have unused := List.find?_some found
  grind

namespace SystemSound

theorem kernelFdInstallPty (sound : SystemSound system locals) (acting : Acting system pid)
    {endpoint : PtyEndpoint} (keeps : locals endpoint = some handle) (access : Nat) :
    SystemSound (Pty.kernelFdInstallPty system pid handle access).2 locals ∧
      KeepsActing system (Pty.kernelFdInstallPty system pid handle access).2 := by
  rw [Pty.kernelFdInstallPty]
  split
  · exact ⟨sound, KeepsActing.refl _⟩
  rename_i fd found
  have isHeld : system.held locals (.inr endpoint) = some handle := keeps
  have another : (.inr endpoint : PtyHolder) ≠ .inl (pid, fd) :=
    fun impossible => by cases impossible
  rcases sound.kernelFdBindPty acting isHeld another access with ⟨after, kept⟩
  split
  · simp_all
  simp_all

theorem m36PtyCreate (sound : SystemSound system noLocals) (acting : Acting system pid)
    (copied : Bool) : SystemSound (Pty.m36PtyCreate system pid copied).2 noLocals := by
  rw [Pty.m36PtyCreate]
  rcases sound.table.create (fun _ => rfl) with ⟨master, slave, pairs, result, table⟩ | result
  · rw [result]
    have created : SystemSound { system with pairs := pairs } (Function.update
        (Function.update noLocals .master (some master)) .slave (some slave)) := by
      refine ⟨?_, sound.shaped, sound.started, sound.fresh⟩
      rw [held_locals, held_locals]
      exact table
    have acting' := (keepsActing_pairs system pairs).acting pid acting
    have bothClosed : ∀ endpoint, Function.update (Function.update (Function.update
        (Function.update noLocals .master (some master)) .slave (some slave))
          .master none) .slave none endpoint = noLocals endpoint := by
      intro endpoint
      cases endpoint <;> rfl
    have isMaster : Function.update (Function.update noLocals .master (some master)) .slave
        (some slave) .master = some master := rfl
    have isSlave : Function.update (Function.update noLocals .master (some master)) .slave
        (some slave) .slave = some slave := rfl
    have slaveLeft : Function.update (Function.update (Function.update noLocals .master
        (some master)) .slave (some slave)) .master none .slave = some slave := rfl
    -- Closing both local handles leaves no local holder.
    have closeBoth : ∀ system, SystemSound system (Function.update
          (Function.update noLocals .master (some master)) .slave (some slave)) →
        ∃ first, system.closePty master = (.ok, first) ∧ KeepsActing system first ∧
          ∃ second, first.closePty slave = (.ok, second) ∧ KeepsActing first second ∧
            SystemSound second noLocals := by
      intro system before
      rcases before.closeLocal isMaster with ⟨first, closed, middle, kept, -⟩
      rcases middle.closeLocal slaveLeft with ⟨second, closedToo, after, keptToo, -⟩
      rw [funext bothClosed] at after
      exact ⟨first, closed, kept, second, closedToo, keptToo, after⟩
    dsimp only
    rcases created.kernelFdInstallPty acting' isMaster (vfsAccessRead ||| vfsAccessWrite) with
      ⟨first, keptFirst⟩
    split
    · grind
    rename_i masterFd firstSystem installed
    rw [installed] at first keptFirst
    have actingFirst := keptFirst.acting pid acting'
    rcases first.kernelFdInstallPty actingFirst isSlave (vfsAccessRead ||| vfsAccessWrite) with
      ⟨second, keptSecond⟩
    split
    · rcases second.kernelFdClose (keptSecond.acting pid actingFirst) masterFd with ⟨third, -⟩
      grind
    · rename_i slaveFd secondSystem installedToo
      rw [installedToo] at second keptSecond
      rcases closeBoth _ second with ⟨one, closed, keptOne, two, closedToo, keptTwo, after⟩
      rw [closed]
      dsimp only
      rw [closedToo]
      dsimp only
      split
      · exact after
      have actingTwo := keptTwo.acting pid (keptOne.acting pid (keptSecond.acting pid actingFirst))
      rcases after.kernelFdClose actingTwo masterFd with ⟨closedMaster, kept⟩
      exact (closedMaster.kernelFdClose (kept.acting pid actingTwo) slaveFd).1
  · rw [result]
    exact sound

/-- A task changes between states in which it does not wait for an endpoint. -/
theorem setTask (sound : SystemSound system locals) (acting : Acting system pid)
    {task : TaskPhase} (runs : ∀ wait, task ≠ .blocked wait) :
    SystemSound (system.setTask pid task) locals := by
  have created := acting.created
  have acting' : Acting (system.setTask pid task) pid := by
    refine ⟨created, fun wait isBlocked => ?_⟩
    rw [setTask_process, if_pos rfl] at isBlocked
    exact runs wait isBlocked
  have same : ∀ other, (system.setTask pid task).awaited other = system.awaited other := by
    intro other
    by_cases here : other = pid
    · rw [here, awaited_of_acting acting, awaited_of_acting acting']
    · apply awaited_congr
      rw [setTask_process, if_neg here]
  refine ⟨?_, fun other otherFd => ?_, sound.started, fun other isFresh => ?_⟩
  · rw [held_setTask]
    simp only [same]
    exact sound.table
  · rw [setTask_fdTable]
    exact sound.shaped other otherFd
  · have isFresh' : other = 0 ∨ system.nextPid ≤ other := isFresh
    rw [setTask_process, if_neg (by omega)]
    exact sound.fresh other isFresh

theorem kernelFdTableInit_handle (fd : Nat) : (kernelFdTableInit fd).handle = none := by
  rw [kernelFdTableInit]
  split
  · rfl
  · split <;> rfl

theorem kernelFdTableInit_shaped (fd : Nat) : SlotShaped fd (kernelFdTableInit fd) := by
  rw [kernelFdTableInit]
  split
  · assumption
  split
  · assumption
  · trivial

section

variable (sound : SystemSound system locals)
include sound

/-- A process that has no handles takes the place of another one. -/
theorem setProcess {process : PtyProcess} {nextPid : Nat}
    (before : ∀ fd, ((system.processes pid).fdTable fd).handle = none)
    (asleep : ∀ wait, (system.processes pid).task ≠ .blocked wait)
    (after : ∀ fd, (process.fdTable fd).handle = none) (runs : ∀ wait, process.task ≠ .blocked wait)
    (shaped : ∀ fd, SlotShaped fd (process.fdTable fd)) (started : 0 < nextPid)
    (fresh : ∀ other, other = 0 ∨ nextPid ≤ other →
      (system.setProcess pid process).processes other = ⟨fun _ => .unused, .absent⟩) :
    SystemSound { system.setProcess pid process with nextPid := nextPid } locals := by
  have heldSame : (system.setProcess pid process).held locals = system.held locals := by
    funext holder
    rcases holder with ⟨other, otherFd⟩ | endpoint
    · rw [PtySystem.held, PtySystem.held, setProcess_process]
      grind
    · rfl
  have awaitedSame : ∀ other, (system.setProcess pid process).awaited other = system.awaited other := by
    intro other
    by_cases here : other = pid
    · subst here
      have awake : ∀ next : PtySystem, (∀ wait, (next.processes other).task ≠ .blocked wait) →
          next.awaited other = [] := by
        intro next notBlocked
        rw [PtySystem.awaited]
        split
        · simp_all
        · rfl
      simp_all [setProcess_process]
    · apply awaited_congr
      rw [setProcess_process, if_neg here]
  refine ⟨?_, fun other otherFd => ?_, started, fresh⟩
  · change PtySound ((system.setProcess pid process).held locals)
      (fun other handle => handle ∈ (system.setProcess pid process).awaited other) system.pairs
    rw [heldSame]
    simp only [awaitedSame]
    exact sound.table
  · rw [setProcess_process]
    split
    · exact shaped otherFd
    · exact sound.shaped other otherFd

theorem processCreate :
    SystemSound (Pty.processCreate system) locals ∧
      Acting (Pty.processCreate system) system.nextPid ∧
      ∀ other, Acting system other → Acting (Pty.processCreate system) other := by
  have started := sound.started
  have unborn := sound.fresh system.nextPid (Or.inr (Nat.le_refl _))
  refine ⟨sound.setProcess ?_ ?_ kernelFdTableInit_handle ?_ kernelFdTableInit_shaped
    (Nat.succ_pos _) ?_, ⟨⟨started, Nat.lt_succ_self _⟩, ?_⟩, fun other acting => ?_⟩
  · intro fd
    rw [unborn]
    rfl
  · simp [*]
  · intro wait isBlocked
    cases isBlocked
  · intro other isFresh
    rw [setProcess_process, if_neg (by omega)]
    exact sound.fresh other (by omega)
  · intro wait isBlocked
    change ((system.setProcess _ _).processes _).task = _ at isBlocked
    grind [setProcess_process]
  · have created := acting.created
    refine ⟨⟨created.1, Nat.lt_succ_of_lt created.2⟩, fun wait isBlocked => ?_⟩
    change ((system.setProcess _ _).processes _).task = _ at isBlocked
    rw [setProcess_process, if_neg (by omega)] at isBlocked
    exact acting.notBlocked wait isBlocked

theorem processDiscardUnstarted (acting : Acting system pid) (last : system.nextPid = pid + 1) :
    SystemSound (Pty.processDiscardUnstarted system pid) locals := by
  rw [Pty.processDiscardUnstarted]
  rcases sound.kernelFdTableDestroy (List.range kernelFdMax) acting with
    ⟨destroyed, result, after, kept, slots⟩
  rw [result]
  have acting' := kept.acting pid acting
  apply after.setProcess
  · intro fd
    rw [slots]
    split
    · rfl
    rename_i outside
    have shaped := sound.shaped pid fd
    cases slot : (system.processes pid).fdTable fd with
    | pty handle access =>
      rw [slot] at shaped
      exact absurd (List.mem_range.mpr shaped) outside
    | _ => rfl
  · exact acting'.notBlocked
  · exact fun _ => rfl
  · intro wait isBlocked
    cases isBlocked
  · exact fun _ => trivial
  · exact acting.created.1
  · intro other isFresh
    rw [setProcess_process]
    split
    · rfl
    apply after.fresh
    rw [kept.nextPid, last]
    omega

theorem cloneStdio {parent child : Nat}
    (acting : Acting system child) (another : parent ≠ child) (stdinFd stdoutFd stderrFd : Nat) :
    SystemSound (Pty.cloneStdio system parent child stdinFd stdoutFd stderrFd).2 locals ∧
      KeepsActing system (Pty.cloneStdio system parent child stdinFd stdoutFd stderrFd).2 := by
  rw [Pty.cloneStdio]
  rcases sound.kernelFdCloneStdio acting another stdinFd kernelFdStdin vfsAccessRead with
    ⟨firstSound, keptFirst⟩
  split
  · rename_i first result
    rw [result] at firstSound keptFirst
    rcases firstSound.kernelFdCloneStdio (keptFirst.acting child acting) another stdoutFd
      kernelFdStdout vfsAccessWrite with ⟨secondSound, keptSecond⟩
    split
    · rename_i second resultToo
      rw [resultToo] at secondSound keptSecond
      have kept := keptFirst.trans keptSecond
      rcases secondSound.kernelFdCloneStdio (kept.acting child acting) another stderrFd
        kernelFdStderr vfsAccessWrite with ⟨thirdSound, keptThird⟩
      split
      · rename_i third last
        rw [last] at thirdSound keptThird
        exact ⟨thirdSound, kept.trans keptThird⟩
      · rename_i failure failed _ last
        rw [last] at thirdSound keptThird
        exact ⟨thirdSound, kept.trans keptThird⟩
    · rename_i failure failed _ resultToo
      rw [resultToo] at secondSound keptSecond
      exact ⟨secondSound, keptFirst.trans keptSecond⟩
  simp_all

theorem m36Spawn {parent : Nat} (acting : Acting system parent)
    (stdinFd stdoutFd stderrFd : Nat) (completes : Bool) :
    SystemSound (Pty.m36Spawn system parent stdinFd stdoutFd stderrFd completes) locals := by
  have another : parent ≠ system.nextPid := Nat.ne_of_lt acting.created.2
  rcases sound.processCreate with ⟨created, child, -⟩
  rcases created.cloneStdio child another stdinFd stdoutFd stderrFd with ⟨clonedSound, kept⟩
  have child' := kept.acting _ child
  have discarded := clonedSound.processDiscardUnstarted child' kept.nextPid
  rw [Pty.m36Spawn]
  split
  · rename_i cloned result
    rw [result] at clonedSound child' discarded
    split
    · exact clonedSound.setTask child' (fun wait impossible => by cases impossible)
    · exact discarded
  simp_all

theorem taskExitCurrentProcess (acting : Acting system pid) :
    SystemSound (Pty.taskExitCurrentProcess system pid) locals := by
  rw [Pty.taskExitCurrentProcess]
  rcases sound.kernelFdTableDestroy (List.range kernelFdMax) acting with
    ⟨destroyed, result, after, kept, -⟩
  rw [result]
  exact after.setTask (kept.acting pid acting) (fun wait impossible => by cases impossible)

theorem kernelFdOpenRegular (acting : Acting system pid)
    (access : Nat) : SystemSound (Pty.kernelFdOpenRegular system pid access) locals := by
  rw [Pty.kernelFdOpenRegular]
  split
  · exact sound
  rename_i fd found
  rcases kernelFdFreeSlot_eq_some found with ⟨first, inside, unused⟩
  exact sound.setSlot acting (by rw [unused]; rfl) rfl ⟨first, inside⟩

theorem kernelFdReadPty (pid fd length : Nat) :
    SystemSound (Pty.kernelFdReadPty system pid fd length).2.2 locals ∧
      KeepsActing system (Pty.kernelFdReadPty system pid fd length).2.2 := by
  rw [Pty.kernelFdReadPty]
  split
  · exact ⟨sound, KeepsActing.refl _⟩
  · exact ⟨sound.withPairs (sound.table.read _ _), keepsActing_pairs _ _⟩

theorem syscallFdWrite (pid fd : Nat) (bytes : List UInt8) :
    SystemSound (Pty.syscallFdWrite system pid fd bytes).2 locals := by
  have written : SystemSound (Pty.kernelFdWritePty system pid fd bytes).2.2 locals := by
    rw [Pty.kernelFdWritePty]
    split
    · exact sound
    rename_i handle found
    refine ⟨?_, fun other otherFd => ?_, ?_, fun other isFresh => ?_⟩
    · rw [held_wake, wake_pairs]
      exact sound.table.write handle bytes (fun other waited => mem_awaited_wake.mp)
    · rw [wake_fdTable]
      exact sound.shaped other otherFd
    · rw [wake_nextPid]
      exact sound.started
    · rw [wake_nextPid] at isFresh
      exact wake_of_fresh _ (sound.fresh other isFresh)
  rw [Pty.syscallFdWrite]
  split
  · exact sound
  split
  · split
    · exact sound
    grind
  · exact sound

end

end SystemSound

end BoringOS.Pty
