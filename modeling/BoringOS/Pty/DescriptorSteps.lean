import BoringOS.Pty.SystemInvariant

namespace BoringOS.Pty

open Library

/-!
# Descriptors come and go

The functions on descriptor tables keep the invariant, whether they succeed
or fail.  They are called by a process that is not blocked, and none of them
puts a task to sleep.
-/

variable {system : PtySystem} {locals : PtyEndpoint → Option PtyHandle} {pid fd : Nat}
  {handle : PtyHandle}

theorem wake_of_fresh {other : Nat} (woken : Option Nat)
    (isFresh : system.processes other = ⟨fun _ => .unused, .absent⟩) :
    (system.wake woken).processes other = ⟨fun _ => .unused, .absent⟩ := by
  cases woken with
  | none => exact isFresh
  | some pid =>
    rw [PtySystem.wake, setTask_process]
    split
    · rename_i here
      rw [← here, isFresh]
      rfl
    · exact isFresh

namespace SystemSound

theorem withPairs (sound : SystemSound system locals) {pairs : PtyPairs}
    (table : PtySound (system.held locals) (fun pid handle => handle ∈ system.awaited pid) pairs) :
    SystemSound { system with pairs := pairs } locals :=
  ⟨table, sound.shaped, sound.started, sound.fresh⟩

theorem setSlotFresh (sound : SystemSound system locals) (acting : Acting system pid)
    (slot : KernelFdSlot) (other : Nat) (isFresh : other = 0 ∨ system.nextPid ≤ other) :
    (system.setSlot pid fd slot).processes other = ⟨fun _ => .unused, .absent⟩ := by
  have created := acting.created
  rw [setSlot_process, if_neg (by omega)]
  exact sound.fresh other isFresh

theorem setSlotShaped (sound : SystemSound system locals) {slot : KernelFdSlot}
    (shaped : SlotShaped fd slot) (other otherFd : Nat) :
    SlotShaped otherFd (((system.setSlot pid fd slot).processes other).fdTable otherFd) := by
  rw [setSlot_fdTable]
  split
  · grind
  · exact sound.shaped other otherFd

/-- A slot of a process that acts does not matter for those who wait. -/
theorem mem_awaited_setSlot (acting : Acting system pid) (slot : KernelFdSlot) {other : Nat} :
    (system.setSlot pid fd slot).awaited other = system.awaited other := by
  by_cases same : other = pid
  · rw [same, awaited_of_acting acting,
      awaited_of_acting ((keepsActing_setSlot system pid fd slot).acting pid acting)]
  · apply awaited_congr
    rw [setSlot_process, if_neg same]

section

variable (sound : SystemSound system locals)
include sound

theorem setSlot (acting : Acting system pid)
    {slot : KernelFdSlot} (before : ((system.processes pid).fdTable fd).handle = none)
    (after : slot.handle = none) (shaped : SlotShaped fd slot) :
    SystemSound (system.setSlot pid fd slot) locals := by
  refine ⟨?_, sound.setSlotShaped shaped, sound.started, sound.setSlotFresh acting slot⟩
  have heldSame : (system.setSlot pid fd slot).held locals = system.held locals := by
    rw [held_setSlot, after]
    exact Function.update_eq_self_iff.mpr before.symm
  simp only [heldSame, mem_awaited_setSlot acting]
  exact sound.table

theorem wake (woken : Option Nat) : SystemSound (system.wake woken) locals := by
  refine ⟨?_, fun other otherFd => ?_, ?_, ?_⟩
  · rw [held_wake, wake_pairs]
    refine ⟨sound.table.references, fun other handle isWaiting => ?_, fun other handle isWaiting => ?_⟩
    · exact sound.table.waits other handle (mem_awaited_wake.mp isWaiting).1
    · exact sound.table.holders other handle (mem_awaited_wake.mp isWaiting).1
  · rw [wake_fdTable]
    exact sound.shaped other otherFd
  · rw [wake_nextPid]
    exact sound.started
  · intro other isFresh
    rw [wake_nextPid] at isFresh
    exact wake_of_fresh woken (sound.fresh other isFresh)

/-- Closing a handle, up to what is left of its holder.  The new locals and
slot of the closer no longer hold it. -/
theorem closePty {holder : PtyHolder} (holds : system.held locals holder = some handle)
    (idle : ∀ pid fd, holder = .inl (pid, fd) → Acting system pid) :
    ∃ woken pairs, system.closePty handle = (.ok, { system with pairs := pairs }.wake woken) ∧
      PtySound (Function.update (system.held locals) holder none)
        (fun other handle => handle ∈ ({ system with pairs := pairs }.wake woken).awaited other)
        pairs := by
  rcases sound.table.close holds with ⟨woken, pairs, closed, after⟩
  refine ⟨woken, pairs, by rw [PtySystem.closePty, closed], after _ ?_⟩
  intro other handle' isWaiting
  rcases mem_awaited_wake.mp isWaiting with ⟨before, notWoken⟩
  refine ⟨before, notWoken, ?_⟩
  rcases mem_awaited.mp before with ⟨wait, otherFd, isBlocked, -, otherHolds⟩
  refine ⟨.inl (other, otherFd), ?_, otherHolds⟩
  rintro rfl
  exact (idle other otherFd rfl).notBlocked wait isBlocked

theorem closeDescriptor (acting : Acting system pid)
    (holds : ((system.processes pid).fdTable fd).handle = some handle) :
    ∃ closed, system.closePty handle = (.ok, closed) ∧
      SystemSound (closed.setSlot pid fd .unused) locals ∧
      KeepsActing system (closed.setSlot pid fd .unused) ∧
      ∀ other, (closed.processes other).fdTable = (system.processes other).fdTable := by
  have idle : ∀ other otherFd, (Sum.inl (pid, fd) : PtyHolder) = .inl (other, otherFd) →
      Acting system other := by
    intro other otherFd same
    cases same
    exact acting
  rcases sound.closePty (show system.held locals (.inl (pid, fd)) = some handle from holds) idle with
    ⟨woken, pairs, closed, table⟩
  have woken' := keepsActing_wake { system with pairs := pairs } woken
  have acting' := woken'.acting pid ((keepsActing_pairs system pairs).acting pid acting)
  have tables : ∀ other, (({ system with pairs := pairs }.wake woken).processes other).fdTable =
      (system.processes other).fdTable := fun other => wake_fdTable _ _ _
  have sameNext := wake_nextPid { system with pairs := pairs } woken
  refine ⟨_, closed, ⟨?_, fun other otherFd => ?_, ?_, fun other isFresh => ?_⟩, ?_, tables⟩
  · rw [held_setSlot, held_wake]
    simp only [mem_awaited_setSlot acting', setSlot_pairs, wake_pairs]
    exact table
  · rw [setSlot_fdTable]
    split
    · trivial
    · rw [tables]
      exact sound.shaped other otherFd
  · exact sameNext.symm ▸ sound.started
  · have created := acting.created
    have isFresh' : other = 0 ∨ system.nextPid ≤ other := by
      rw [← sameNext]
      exact isFresh
    rw [setSlot_process, if_neg (by omega)]
    exact wake_of_fresh woken (sound.fresh other isFresh')
  · exact (keepsActing_pairs system pairs).trans (woken'.trans (keepsActing_setSlot _ pid fd .unused))

theorem closeLocal {endpoint : PtyEndpoint} (holds : locals endpoint = some handle) :
    ∃ closed, system.closePty handle = (.ok, closed) ∧
      SystemSound closed (Function.update locals endpoint none) ∧ KeepsActing system closed ∧
      ∀ other, (closed.processes other).fdTable = (system.processes other).fdTable := by
  rcases sound.closePty (show system.held locals (.inr endpoint) = some handle from holds)
    (fun _ _ impossible => by cases impossible) with ⟨woken, pairs, closed, table⟩
  refine ⟨_, closed, ⟨?_, fun other otherFd => ?_, ?_, fun other isFresh => ?_⟩,
    (keepsActing_pairs system pairs).trans (keepsActing_wake _ woken), fun other => wake_fdTable _ _ _⟩
  · rw [held_locals, held_wake, wake_pairs]
    exact table
  · rw [wake_fdTable]
    exact sound.shaped other otherFd
  · rw [wake_nextPid]
    exact sound.started
  · rw [wake_nextPid] at isFresh
    exact wake_of_fresh woken (sound.fresh other isFresh)

/-- A clear slot takes a reference to a live handle, or stays clear. -/
theorem bindUnused (acting : Acting system pid) (live : HandleLive system.pairs handle)
    (clear : ((system.processes pid).fdTable fd).handle = none) (inside : fd < kernelFdMax) (access : Nat) :
    SystemSound (Pty.bindUnused system pid fd handle access).2 locals ∧
      KeepsActing system (Pty.bindUnused system pid fd handle access).2 := by
  rw [Pty.bindUnused]
  have free : system.held locals (.inl (pid, fd)) = none := clear
  rcases sound.table.retain live free with ⟨pairs, result, table⟩ | result
  · rw [result]
    have acting' := (keepsActing_pairs system pairs).acting pid acting
    refine ⟨⟨?_, fun other otherFd => ?_, sound.started, fun other isFresh => ?_⟩,
      (keepsActing_pairs system pairs).trans (keepsActing_setSlot _ pid fd _)⟩
    · rw [held_setSlot]
      simp only [mem_awaited_setSlot acting', setSlot_pairs]
      exact table
    · rw [setSlot_fdTable]
      split
      · rename_i here
        rw [here.2]
        exact inside
      · exact sound.shaped other otherFd
    · have created := acting.created
      have isFresh' : other = 0 ∨ system.nextPid ≤ other := isFresh
      rw [setSlot_process, if_neg (by omega)]
      exact sound.fresh other isFresh
  · rw [result]
    exact ⟨sound, KeepsActing.refl _⟩

theorem kernelFdBindPty (acting : Acting system pid)
    {keeper : PtyHolder} (keeps : system.held locals keeper = some handle)
    (another : keeper ≠ .inl (pid, fd)) (access : Nat) :
    SystemSound (Pty.kernelFdBindPty system pid fd handle access).2 locals ∧
      KeepsActing system (Pty.kernelFdBindPty system pid fd handle access).2 := by
  rw [Pty.kernelFdBindPty]
  split
  · exact ⟨sound, KeepsActing.refl _⟩
  rename_i valid
  rw [not_or, Nat.not_le] at valid
  -- What happens once the slot is clear.
  have bound : ∀ cleared, SystemSound cleared locals → KeepsActing system cleared →
      cleared.held locals keeper = some handle → ((cleared.processes pid).fdTable fd).handle = none →
      SystemSound (Pty.bindUnused cleared pid fd handle access).2 locals ∧
        KeepsActing system (Pty.bindUnused cleared pid fd handle access).2 := by
    intro cleared clearedSound kept stillKeeps clear
    rcases clearedSound.bindUnused (kept.acting pid acting)
      (clearedSound.table.references.live stillKeeps) clear valid.1 access with ⟨after, again⟩
    exact ⟨after, kept.trans again⟩
  have nowClear : ∀ system : PtySystem,
      (((system.setSlot pid fd .unused).processes pid).fdTable fd).handle = none := by
    intro system
    rw [setSlot_fdTable, if_pos ⟨rfl, rfl⟩]
    rfl
  split
  · rename_i old oldAccess isPty
    have holds : ((system.processes pid).fdTable fd).handle = some old := by
      rw [isPty]
      rfl
    rcases sound.closeDescriptor acting holds with ⟨closed, result, clearedSound, kept, tables⟩
    rw [result]
    apply bound _ clearedSound kept _ (nowClear closed)
    rw [held_setSlot, Function.update_of_ne another]
    simp_all [PtySystem.held]
  · rename_i notPty
    have holdsNone : ((system.processes pid).fdTable fd).handle = none := by
      cases slot : (system.processes pid).fdTable fd with
      | pty old oldAccess => exact absurd slot (notPty old oldAccess)
      | _ => rfl
    have cleared : SystemSound (system.setSlot pid fd .unused) locals :=
      sound.setSlot acting holdsNone rfl trivial
    simp_all [keepsActing_setSlot, held_setSlot, Function.update_of_ne]

theorem kernelFdCloneStdio {source target : Nat}
    (acting : Acting system target) (another : source ≠ target) (sourceFd targetFd access : Nat) :
    SystemSound (Pty.kernelFdCloneStdio system source sourceFd target targetFd access).2 locals ∧
      KeepsActing system (Pty.kernelFdCloneStdio system source sourceFd target targetFd access).2 := by
  rw [Pty.kernelFdCloneStdio]
  split
  · exact ⟨sound, KeepsActing.refl _⟩
  split
  · rename_i handle sourceAccess isPty
    split
    · exact ⟨sound, KeepsActing.refl _⟩
    have keeps : system.held locals (.inl (source, sourceFd)) = some handle := by
      rw [PtySystem.held, isPty]
      rfl
    apply sound.kernelFdBindPty acting keeps
    simp [*]
  · split <;> exact ⟨sound, KeepsActing.refl _⟩
  · split <;> exact ⟨sound, KeepsActing.refl _⟩
  · exact ⟨sound, KeepsActing.refl _⟩

theorem kernelFdClose (acting : Acting system pid) (fd : Nat) :
    SystemSound (Pty.kernelFdClose system pid fd).2 locals ∧
      KeepsActing system (Pty.kernelFdClose system pid fd).2 := by
  rw [Pty.kernelFdClose]
  split
  · exact ⟨sound, KeepsActing.refl _⟩
  split
  · exact ⟨sound, KeepsActing.refl _⟩
  · rename_i access isRegular
    split
    · exact ⟨sound, KeepsActing.refl _⟩
    refine ⟨sound.setSlot acting ?_ rfl trivial, keepsActing_setSlot _ _ _ _⟩
    rw [isRegular]
    rfl
  · rename_i handle access isPty
    have holds : ((system.processes pid).fdTable fd).handle = some handle := by
      rw [isPty]
      rfl
    rcases sound.closeDescriptor acting holds with ⟨closed, result, after, kept, -⟩
    rw [result]
    exact ⟨after, kept⟩
  · exact ⟨sound, KeepsActing.refl _⟩
  · exact ⟨sound, KeepsActing.refl _⟩

end

theorem kernelFdTableDestroy (slots : List Nat) : ∀ {system : PtySystem},
    SystemSound system locals → Acting system pid →
    ∃ destroyed, Pty.kernelFdTableDestroy system pid slots = (true, destroyed) ∧
      SystemSound destroyed locals ∧ KeepsActing system destroyed ∧
      ∀ fd, (destroyed.processes pid).fdTable fd =
        if fd ∈ slots then .unused else (system.processes pid).fdTable fd := by
  induction slots with
  | nil =>
    intro system sound _
    exact ⟨system, rfl, sound, KeepsActing.refl _, fun fd => (if_neg List.not_mem_nil).symm⟩
  | cons fd rest ih =>
    intro system sound acting
    -- The rest of the table, once the slot is clear.
    have next : ∀ cleared, SystemSound cleared locals → KeepsActing system cleared →
        (∀ other, (cleared.processes pid).fdTable other =
          if other = fd then .unused else (system.processes pid).fdTable other) →
        ∃ destroyed, Pty.kernelFdTableDestroy cleared pid rest = (true, destroyed) ∧
          SystemSound destroyed locals ∧ KeepsActing system destroyed ∧
                ∀ other, (destroyed.processes pid).fdTable other =
            if other ∈ fd :: rest then .unused else (system.processes pid).fdTable other := by
      intro cleared clearedSound kept slots
      rcases ih clearedSound (kept.acting pid acting) with
        ⟨destroyed, result, after, again, slotsAgain⟩
      refine ⟨destroyed, result, after, kept.trans again, fun other => ?_⟩
      rw [slotsAgain, slots]
      simp only [List.mem_cons]
      by_cases here : other = fd
      · simp only [here, true_or, if_true, ite_self]
      · simp only [here, false_or, if_false]
    have setUnused : ∀ other, ((system.setSlot pid fd .unused).processes pid).fdTable other =
        if other = fd then .unused else (system.processes pid).fdTable other := by
      intro other
      rw [setSlot_fdTable]
      simp only [true_and]
    have shaped := sound.shaped pid fd
    rw [Pty.kernelFdTableDestroy]
    cases slot : (system.processes pid).fdTable fd with
    | unused =>
      grind
    | regular access =>
      rw [slot] at shaped
      rw [if_neg (Nat.not_lt.mpr shaped.1)]
      exact next _ (sound.setSlot acting (by rw [slot]; rfl) rfl trivial)
        (keepsActing_setSlot _ _ _ _) setUnused
    | consoleInput =>
      rw [slot] at shaped
      have isStdin : fd = kernelFdStdin := shaped
      rw [if_pos isStdin]
      exact next _ (sound.setSlot acting (by rw [slot]; rfl) rfl trivial)
        (keepsActing_setSlot _ _ _ _) setUnused
    | consoleOutput =>
      rw [slot] at shaped
      have isOutput : fd = kernelFdStdout ∨ fd = kernelFdStderr := shaped
      rw [if_pos isOutput]
      exact next _ (sound.setSlot acting (by rw [slot]; rfl) rfl trivial)
        (keepsActing_setSlot _ _ _ _) setUnused
    | pty handle access =>
      rcases sound.closeDescriptor acting (show KernelFdSlot.handle _ = some handle by
        rw [slot]; rfl) with ⟨closed, result, after, kept, tables⟩
      simp_all [setSlot_fdTable, true_and]

end SystemSound

end BoringOS.Pty
