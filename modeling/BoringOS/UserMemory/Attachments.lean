import BoringOS.UserMemory.BufferSteps

namespace BoringOS.UserMemory

open Library Ipc Memory

/-!
# Attachments, cleanup and processes keep the invariant

An attachment retains its buffer for the message that carries it.  A message
that is received hands its reference on to a handle, and one that is dropped
drops it.
-/

section

variable {memoryMap : List MemmapEntry} {system next : System}

theorem Kept.setRetained {reference : Nat} {value : Option Nat}
    (kept : Kept memoryMap system next) (counts : BuffersSound next.forget
      (Retains (next.setRetained reference value))) :
    SystemSound memoryMap (next.setRetained reference value) where
  counts := counts
  storage := kept.storage.withFrames (kept.storage.frames.shrink rfl fun owner frame has => by
    cases owner <;> exact has) rfl rfl
  ranges := kept.ranges

theorem retains_setRetained (system : System) (reference : Nat) (value : Option Nat)
    (other index : Nat) : Retains (system.setRetained reference value) other index ↔
      if other = reference then value = some index else Retains system other index := by
  simp only [Retains, System.setRetained, Function.update_apply]
  split
  · rfl
  · rfl

theorem userBufferRetain_sound (sound : SystemSound memoryMap system) (process encoded reference : Nat) :
    SystemSound memoryMap (userBufferRetain system process encoded reference).2 := by
  rw [userBufferRetain]
  split
  · exact sound
  split
  · exact sound
  rename_i unused
  rw [ne_eq, not_not] at unused
  split
  · exact sound
  rename_i slot decoded
  dsimp only
  split
  · exact sound
  rename_i object found
  split
  · exact sound
  rcases objectAt_eq_some.mp found with ⟨-, -, isObject⟩
  have kept : Kept memoryMap system (system.setObject
      ((system.processes process).userMemory.handles slot).objectIndex
      { object with referenceCount := object.referenceCount + 1 }) :=
    ⟨sound.storage.setCount isObject fun _ => Nat.succ_pos _, sound.ranges, rfl⟩
  apply kept.setRetained
  rw [forget_setObject]
  have foundCoarse := forget_objectAt system
    ((system.processes process).userMemory.handles slot).objectIndex
  rw [found, Option.map_some] at foundCoarse
  have fresh : ∀ other, ¬ Holds system.forget (Retains system) (.other reference)
      other := by
    intro other holds
    have isRetained : system.retained reference = some other := holds
    rw [unused] at isRetained
    cases isRetained
  refine sound.counts.add sound.counts.processes rfl foundCoarse fresh ?_
  intro holder other
  cases holder with
  | other another =>
    simp only [Holds, retains_setRetained, Holder.other.injEq]
    split
    · rename_i same
      rw [same]
      constructor
      · simp_all
      · rintro (before | ⟨-, rfl⟩)
        · exact absurd before (fresh other)
        · rfl
    · rename_i away
      constructor
      · exact Or.inl
      · rintro (before | ⟨same, -⟩)
        · exact before
        · exact absurd same away
  | _ => simp only [Holds, reduceCtorEq, false_and, or_false]

/-- After a reference is dropped the others are left. -/
theorem holds_dropRetained (system : System) (reference : Nat) (holder : Holder Nat) (index : Nat) :
    Holds system.forget (Retains (system.setRetained reference none)) holder index ↔
      Holds system.forget (Retains system) holder index ∧ holder ≠ .other reference := by
  cases holder with
  | other another =>
    simp only [Holds, retains_setRetained, ne_eq, Holder.other.injEq]
    split
    · simp [*]
    simp [*]
  | _ => simp only [Holds, ne_eq, reduceCtorEq, not_false_eq_true, and_true]

theorem holds_retained {reference index other : Nat} (isRetained : system.retained reference = some index)
    (holds : Holds system.forget (Retains system) (.other reference) other) : other = index := by
  have isOther : system.retained reference = some other := holds
  simp_all

theorem userBufferReleaseRetained_sound (reserved : FirstPageReserved memoryMap)
    (sound : SystemSound memoryMap system) (reference : Nat) (kfree : Bool) :
    SystemSound memoryMap (userBufferReleaseRetained system reference kfree).2 := by
  rw [userBufferReleaseRetained]
  split
  · exact sound
  rename_i index isRetained
  split
  · exact sound
  have holds : Holds system.forget (Retains system) (.other reference) index := isRetained
  have storage : StorageSound memoryMap (system.setRetained reference none) :=
    sound.storage.withFrames (sound.storage.frames.shrink rfl fun owner frame has => by
      cases owner <;> exact has) rfl rfl
  rcases objectUnref_storage reserved storage index kfree with ⟨after, processes, retained⟩
  rcases sound.counts.drop sound.counts.processes rfl holds
    (fun other => holds_retained isRetained) (holds_dropRetained system reference) with
    ⟨final, result, -, counts⟩
  have forgotten := forget_objectUnref (system.setRetained reference none) index kfree
  rw [forget_setRetained, result] at forgotten
  have dropped : SystemSound memoryMap
      (objectUnref (system.setRetained reference none) index kfree).2 := by
    refine ⟨?_, after, ?_⟩
    · rw [forgotten]
      apply counts.congr
      simp_all [Retains]
    · rw [processes]
      exact sound.ranges
  grind

theorem userBufferInstall_sound (sound : SystemSound memoryMap system) (process reference : Nat) :
    SystemSound memoryMap (userBufferInstall system process reference).2 := by
  rw [userBufferInstall]
  split
  · exact sound
  rename_i ready
  split
  · exact sound
  rename_i index isRetained
  split
  · exact sound
  dsimp only
  split
  · exact sound
  rename_i slot isSlot
  have isSlotCoarse : Ipc.findHandleSlot (system.forget.processes process).userMemory =
      some slot := isSlot
  rcases findHandleSlot_eq_some isSlotCoarse with ⟨inside, inactive⟩
  split
  · exact sound
  apply (sound.kept.setHandle process slot _).setRetained
  rw [forget_setHandle]
  have holds : Holds system.forget (Retains system) (.other reference) index := isRetained
  have outside : ∀ other, ¬ Holds system.forget (Retains system) (.handle process slot)
      other := by
    rintro other ⟨-, active, -⟩
    exact Bool.false_ne_true (inactive.symm.trans active)
  have processes : ProcessesSound (system.forget.setHandle process slot
      { (system.processes process).userMemory.handles slot with
        objectIndex := index
        active := true }) :=
    sound.counts.processes.setHandle (sound.counts.processes.generations process slot inside)
      fun _ => processReady_alive ready
  refine sound.counts.handOn processes rfl holds (fun other => holds_retained isRetained) outside ?_
  intro holder other
  rw [holds_setHandle]
  have dropped := holds_dropRetained system reference holder other
  constructor
  · rintro (⟨before, -⟩ | ⟨isFresh, -, -, isIndex⟩)
    · exact Or.inl (dropped.mp before)
    · exact Or.inr ⟨isFresh, isIndex.symm⟩
  · rintro (before | ⟨isFresh, isIndex⟩)
    · refine Or.inl ⟨dropped.mpr before, ?_⟩
      grind
    simp [*]

/-- What every release keeps, a loop keeps, also where it ends early. -/
theorem releaseEach_kept {release : System → Nat → Except UserMemoryError Unit × System}
    {holds : System → Prop} (kept : ∀ system slot, holds system → holds (release system slot).2)
    (slots : List Nat) :
    ∀ {system : System}, holds system → holds (releaseEach release slots system).2 := by
  induction slots with
  | nil => exact fun before => before
  | cons slot rest ih =>
    intro system before
    have here := kept system slot before
    rw [releaseEach]
    split
    · simp_all
    simp_all

theorem userMemoryProcessCleanup_kept {holds : System → Prop} (process : Nat)
    (allocationAnswers mappingAnswers : Nat → Answers) (handleKfree : Nat → Bool)
    (allocations : ∀ system slot, holds system →
      holds (releaseAllocation process allocationAnswers system slot).2)
    (mappings : ∀ system slot, holds system → holds (releaseMapping process mappingAnswers system slot).2)
    (handles : ∀ system slot, holds system →
      holds (releaseHandle process handleKfree system slot).2) (before : holds system) :
    holds (userMemoryProcessCleanup system process allocationAnswers mappingAnswers handleKfree).2 := by
  have freed := releaseEach_kept allocations (List.range userMemoryAllocationMax) before
  rw [userMemoryProcessCleanup]
  split
  · exact before
  split
  · simp_all
  rename_i middle result
  rw [result] at freed
  have unmapped := releaseEach_kept mappings (List.range userMemoryBufferMappingMax) freed
  split
  · simp_all
  rename_i last isLast
  rw [isLast] at unmapped
  have closed := releaseEach_kept handles (List.range userMemoryBufferHandleMax) unmapped
  split
  · simp_all
  grind

theorem releaseAllocation_sound (sound : SystemSound memoryMap system) (process : Nat)
    (answers : Nat → Answers) (slot : Nat) :
    SystemSound memoryMap (releaseAllocation process answers system slot).2 := by
  grind [releaseAllocation, userMemoryFree_sound]

section

variable (reserved : FirstPageReserved memoryMap)
include reserved

theorem releaseMapping_sound
    (sound : SystemSound memoryMap system) (process : Nat) (answers : Nat → Answers) (slot : Nat) :
    SystemSound memoryMap (releaseMapping process answers system slot).2 := by
  grind [releaseMapping, userBufferUnmap_sound]

theorem releaseHandle_sound
    (sound : SystemSound memoryMap system) (process : Nat) (kfree : Nat → Bool) (slot : Nat) :
    SystemSound memoryMap (releaseHandle process kfree system slot).2 := by
  grind [releaseHandle, userBufferClose_sound]

theorem userMemoryProcessCleanup_sound (sound : SystemSound memoryMap system) (process : Nat)
    (allocationAnswers mappingAnswers : Nat → Answers) (handleKfree : Nat → Bool) :
    SystemSound memoryMap (userMemoryProcessCleanup system process allocationAnswers mappingAnswers
      handleKfree).2 :=
  userMemoryProcessCleanup_kept process allocationAnswers mappingAnswers handleKfree
    (fun _ slot before => releaseAllocation_sound before process allocationAnswers slot)
    (fun _ slot before => releaseMapping_sound reserved before process mappingAnswers slot)
    (fun _ slot before => releaseHandle_sound reserved before process handleKfree slot) sound

end

theorem forget_processCreate (system : System) (process pid : Nat) :
    (processCreate system process pid).forget = Ipc.processCreate system.forget process pid := by
  rw [processCreate, Ipc.processCreate]
  have alive : processIsAlive system.forget process = (system.processes process).alive := rfl
  rw [alive]
  split
  · rfl
  · exact forget_setProcess

theorem RangesPlaced.init : RangesPlaced userMemoryProcessStateInit := by
  have nothing : ∀ place range, rangeAt userMemoryProcessStateInit place ≠ some range := by
    intro place range isRange
    cases place with
    | allocation slot =>
      rw [rangeAt] at isRange
      split at isRange
      · rename_i active
        cases active.2
      · cases isRange
    | mapping slot =>
      rw [rangeAt] at isRange
      split at isRange
      · rename_i active
        cases active.2
      · cases isRange
  refine ⟨⟨?_, ?_⟩, ?_⟩
  · simp [*]
  · simp [*]
  · simp [*]

section

variable (sound : SystemSound memoryMap system)
include sound

theorem processCreate_kept (process pid : Nat) :
    SystemSound memoryMap (processCreate system process pid) := by
  have counts := Ipc.processCreate_sound sound.counts process pid
  rw [← forget_processCreate] at counts
  rw [processCreate] at counts ⊢
  split
  · exact sound
  rename_i dead
  rw [if_neg dead] at counts
  refine ⟨counts, ?_, ?_⟩
  · refine sound.storage.withFrames (sound.storage.frames.shrink rfl ?_) rfl rfl
    intro owner frame has
    cases owner with
    | allocation other slot position =>
      change AllocatedPage _ slot position ∧ _ at has
      simp only [System.setProcess, Function.update_apply] at has
      by_cases same : other = process
      · simp_all
      · rw [if_neg same] at has
        exact has
    | _ => exact has
  · intro other
    simp only [System.setProcess, Function.update_apply]
    split
    · exact RangesPlaced.init
    · exact sound.ranges other

theorem processMarkFinished_kept (process : Nat) :
    SystemSound memoryMap (processMarkFinished system process) := by
  have counts := Ipc.processMarkFinished_sound sound.counts process
  rw [processMarkFinished]
  split
  · exact sound
  rename_i finishes
  rw [not_or, Bool.not_eq_false, Bool.not_eq_false] at finishes
  rcases finishes with ⟨alive, empty⟩
  have emptyCoarse : Ipc.userMemoryProcessStateEmpty
      (system.forget.processes process).userMemory = true := by
    rw [userMemoryProcessStateEmpty, Bool.and_eq_true, Bool.and_eq_true] at empty
    rw [Ipc.userMemoryProcessStateEmpty, Bool.and_eq_true]
    exact ⟨empty.1.2, empty.2⟩
  have aliveCoarse : (system.forget.processes process).alive = true := alive
  rw [Ipc.processMarkFinished] at counts
  rw [if_neg (by rw [aliveCoarse, emptyCoarse]; decide)] at counts
  have memory : ∀ other, ((system.setProcess process
      { system.processes process with alive := false }).processes other).userMemory =
        (system.processes other).userMemory ∧ ((system.setProcess process
      { system.processes process with alive := false }).processes other).pages =
        (system.processes other).pages := by
    intro other
    simp only [System.setProcess, Function.update_apply]
    split
    · simp [*]
    · exact ⟨rfl, rfl⟩
  refine ⟨?_, ?_, ?_⟩
  · rw [forget_setProcess]
    exact counts
  · refine sound.storage.withFrames ?_ rfl rfl
    exact sound.storage.frames.tables rfl rfl (fun index active => ⟨active, rfl⟩)
      (fun other => by rw [(memory other).1]) (fun other => (memory other).2)
  · intro other
    rw [(memory other).1]
    exact sound.ranges other

theorem foreignSteps_kept (calls : List ForeignCall) :
    SystemSound memoryMap (foreignSteps system calls) := by
  have only : PagesOnly 0 (fun _ => False) system (foreignSteps system calls) :=
    foreignSteps_pagesOnly 0 _ calls system
  have kept := sound.pagesOnly (foreignSteps_sound calls sound.storage.frames) only
  apply kept.counted
  rw [forget_foreignSteps]
  exact sound.counts

end

end

end BoringOS.UserMemory
