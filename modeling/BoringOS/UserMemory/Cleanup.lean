import BoringOS.UserMemory.BackedSteps

namespace BoringOS.UserMemory

open Library Ipc Memory

/-!
# The cleanup of a process

`m36_exit` ends a process with `user_memory_process_cleanup`, and stops the
kernel when it fails.  The pages and the references are always as the cleanup
expects them.  But `user_memory_free` takes a block of the kernel heap for the
frames that it gives back, so a process with an allocation cannot exit while the
heap has no block.
-/

/-- A place in the tables of a process -/
inductive TableSlot
  | allocation (slot : Nat)
  | mapping (slot : Nat)
  | handle (slot : Nat)
deriving DecidableEq, Repr

/-- The place is in use. -/
def InUse (state : UserMemoryProcessState) : TableSlot → Prop
  | .allocation slot => slot < userMemoryAllocationMax ∧ (state.allocations slot).active = true
  | .mapping slot => slot < userMemoryBufferMappingMax ∧ (state.mappings slot).active = true
  | .handle slot => slot < userMemoryBufferHandleMax ∧ (state.handles slot).active = true

/-- What every run keeps, for a process that can make calls -/
structure CanRelease (memoryMap : List MemmapEntry) (process : Nat) (system : System) : Prop where
  sound : SystemSound memoryMap system
  pages : PagesSound system
  ready : processReady system process = true

/-- The process has let go of these places, and of no others. -/
def Released (process : Nat) (gone : TableSlot → Prop) (system next : System) : Prop :=
  ∀ place, InUse (next.processes process).userMemory place ↔
    InUse (system.processes process).userMemory place ∧ ¬ gone place

/-- A release ends with an error if something is missing, and lets go of the
places otherwise. -/
def Outcome (memoryMap : List MemmapEntry) (process : Nat) (missing : Prop)
    (gone : TableSlot → Prop) (system : System) (result : Except UserMemoryError Unit × System) :
    Prop :=
  (missing ∧ ∃ error, result.1 = .error error) ∨
    ¬ missing ∧ ∃ next, result = (.ok (), next) ∧ CanRelease memoryMap process next ∧
      Released process gone system next

section

variable {memoryMap : List MemmapEntry} {system next : System} {process : Nat}

theorem processReady_of_lives (lives : Lives system next)
    (ready : processReady system process = true) : processReady next process = true := by
  rw [processReady, (lives process).1, (lives process).2]
  exact ready

theorem Outcome.unused (can : CanRelease memoryMap process system) {place : TableSlot}
    (unused : ¬ InUse (system.processes process).userMemory place) (missing : Prop) :
    Outcome memoryMap process (InUse (system.processes process).userMemory place ∧ missing)
      (fun other => other = place) system (.ok (), system) := by
  refine Or.inr ⟨fun both => unused both.1, system, rfl, can, fun other => ?_⟩
  grind

theorem releaseAllocation_outcome (can : CanRelease memoryMap process system) {slot : Nat}
    (inside : slot < userMemoryAllocationMax) (answers : Nat → Answers)
    (takes : (answers slot).kfree = true) :
    Outcome memoryMap process (InUse (system.processes process).userMemory (.allocation slot) ∧
        (answers slot).kmalloc = false) (fun place => place = .allocation slot) system
      (releaseAllocation process answers system slot) := by
  rw [releaseAllocation]
  split
  · refine Outcome.unused can ?_ _
    rintro ⟨-, active⟩
    simp_all
  · rename_i active
    rw [Bool.not_eq_false] at active
    rcases userMemoryFree_of_active can.sound can.pages can.ready inside active (answers slot) with
      ⟨empty, result⟩ | ⟨vector, last, result, only, lives⟩
    · rw [result]
      exact Or.inl ⟨⟨⟨inside, active⟩, empty⟩, _, rfl⟩
    have sound := userMemoryFree_sound can.sound process
      ((system.processes process).userMemory.allocations slot).base (answers slot)
    have pages := userMemoryFree_pages can.sound can.pages process
      ((system.processes process).userMemory.allocations slot).base (answers slot)
    rw [result] at sound pages ⊢
    rw [takes]
    refine Or.inr ⟨fun both => absurd (vector.symm.trans both.2) (by decide), _, rfl,
      ⟨sound, pages, ?_⟩, ?_⟩
    · exact processReady_of_lives (lives.trans (lives_setUserMemory last process _)) can.ready
    · intro place
      rw [System.setAllocation, userMemory_setUserMemory, if_pos rfl, only.userMemory]
      cases place with
      | allocation other =>
        simp only [InUse, Function.update_apply]
        split
        · rename_i same
          simp only [allocationClear, same, Bool.false_eq_true, and_false, not_true_eq_false]
        simp [*]
      | mapping other => simp only [InUse, reduceCtorEq, not_false_eq_true, and_true]
      | handle other => simp only [InUse, reduceCtorEq, not_false_eq_true, and_true]

theorem releaseMapping_outcome (reserved : FirstPageReserved memoryMap)
    (can : CanRelease memoryMap process system) {slot : Nat}
    (inside : slot < userMemoryBufferMappingMax) (answers : Nat → Answers)
    (takes : (answers slot).kfree = true) :
    Outcome memoryMap process
      (InUse (system.processes process).userMemory (.mapping slot) ∧ False)
      (fun place => place = .mapping slot) system
      (releaseMapping process answers system slot) := by
  rw [releaseMapping]
  split
  · refine Outcome.unused can ?_ _
    rintro ⟨-, active⟩
    simp_all
  · rename_i active
    rw [Bool.not_eq_false] at active
    rcases userBufferUnmap_of_active can.sound can.pages can.ready inside active (answers slot) with
      ⟨middle, frames, only, lives, result⟩
    have sound := userBufferUnmap_sound reserved can.sound process
      ((system.processes process).userMemory.mappings slot).base (answers slot)
    have pages := userBufferUnmap_pages reserved can.sound can.pages process
      ((system.processes process).userMemory.mappings slot).base (answers slot)
    have storage : StorageSound memoryMap (middle.setMapping process slot mappingClear) :=
      (can.sound.pagesOnly frames only).storage.setUserMemory rfl
    have present : objectAt (middle.setMapping process slot mappingClear)
        ((system.processes process).userMemory.mappings slot).objectIndex ≠ none := by
      change objectAt middle _ ≠ none
      rw [objectAt, only.objects]
      exact can.sound.mapped_active inside active
    have released := objectUnref_of_present reserved storage present (answers slot).kfree takes
    have processes := objectUnref_processes reserved storage
      ((system.processes process).userMemory.mappings slot).objectIndex (answers slot).kfree
    rcases dropped : objectUnref (middle.setMapping process slot mappingClear)
      ((system.processes process).userMemory.mappings slot).objectIndex (answers slot).kfree with
      ⟨ok, last⟩
    rw [dropped] at released processes result
    subst released
    rw [result] at sound pages ⊢
    refine Or.inr ⟨And.right, last, rfl, ⟨sound, pages, ?_⟩, ?_⟩
    · exact processReady_of_lives ((lives.trans (lives_setUserMemory middle process _)).trans
        (.of_processes processes)) can.ready
    · intro place
      rw [processes, System.setMapping, userMemory_setUserMemory, if_pos rfl, only.userMemory]
      cases place with
      | mapping other =>
        simp only [InUse, Function.update_apply]
        split
        · rename_i same
          simp only [mappingClear, same, Bool.false_eq_true, and_false, not_true_eq_false]
        simp [*]
      | allocation other => simp only [InUse, reduceCtorEq, not_false_eq_true, and_true]
      | handle other => simp only [InUse, reduceCtorEq, not_false_eq_true, and_true]

theorem decodeHandle_of_active (sound : SystemSound memoryMap system) {slot : Nat}
    (inside : slot < userMemoryBufferHandleMax)
    (active : ((system.processes process).userMemory.handles slot).active = true) :
    ∃ encoded, encodeBufferHandle slot
        ((system.processes process).userMemory.handles slot).generation = some encoded ∧
      decodeHandle system process encoded = some slot := by
  have generation : 0 < ((system.processes process).userMemory.handles slot).generation ∧
      ((system.processes process).userMemory.handles slot).generation ≤
        userMemoryHandleGenerationMax := sound.counts.processes.generations process slot inside
  rcases encodeBufferHandle_isSome inside generation with ⟨encoded, isEncoded⟩
  refine ⟨encoded, isEncoded, ?_⟩
  rcases encodeBufferHandle_eq_some isEncoded with ⟨nonzero, low, high, -, positive⟩
  have proper : ¬ (encoded = userMemoryHandleInvalid ∨ slot + 1 = 0 ∨ userMemoryBufferHandleMax < slot + 1 ∨
      ((system.processes process).userMemory.handles slot).generation = 0) := by
    simp only [nonzero, positive, or_false, false_or]
    omega
  have valid : ¬ (((system.processes process).userMemory.handles slot).active = false ∨
      objectAt system ((system.processes process).userMemory.handles slot).objectIndex = none) := by
    simp only [active, sound.handle_active inside active, or_self, Bool.true_eq_false,
      not_false_eq_true]
  simp_all [decodeHandle]

theorem releaseHandle_outcome (reserved : FirstPageReserved memoryMap)
    (can : CanRelease memoryMap process system) {slot : Nat}
    (inside : slot < userMemoryBufferHandleMax) (kfree : Nat → Bool) (takes : kfree slot = true) :
    Outcome memoryMap process (InUse (system.processes process).userMemory (.handle slot) ∧ False)
      (fun place => place = .handle slot) system (releaseHandle process kfree system slot) := by
  rw [releaseHandle]
  split
  · refine Outcome.unused can ?_ _
    rintro ⟨-, active⟩
    simp_all
  · rename_i active
    rw [Bool.not_eq_false] at active
    rcases decodeHandle_of_active can.sound inside active with ⟨encoded, isEncoded, decoded⟩
    rw [isEncoded]
    dsimp only
    have sound := userBufferClose_sound reserved can.sound process encoded (kfree slot)
    have pages := userBufferClose_pages reserved can.sound can.pages process encoded (kfree slot)
    rw [userBufferClose, if_neg (ne_false_of_eq_true can.ready), decoded] at sound pages ⊢
    dsimp only at sound pages ⊢
    have storage := (can.sound.kept.setHandle process slot
      (handleReset ((system.processes process).userMemory.handles slot))).storage
    have present : objectAt (system.setHandle process slot
        (handleReset ((system.processes process).userMemory.handles slot)))
        ((system.processes process).userMemory.handles slot).objectIndex ≠ none :=
      can.sound.handle_active inside active
    have released := objectUnref_of_present reserved storage present (kfree slot) takes
    have processes := objectUnref_processes reserved storage
      ((system.processes process).userMemory.handles slot).objectIndex (kfree slot)
    rcases dropped : objectUnref (system.setHandle process slot
      (handleReset ((system.processes process).userMemory.handles slot)))
      ((system.processes process).userMemory.handles slot).objectIndex (kfree slot) with ⟨ok, last⟩
    rw [dropped] at released processes sound pages
    subst released
    refine Or.inr ⟨And.right, last, rfl, ⟨sound, pages, ?_⟩, ?_⟩
    · exact processReady_of_lives ((lives_setUserMemory system process _).trans
        (.of_processes processes)) can.ready
    · intro place
      rw [processes, System.setHandle, userMemory_setUserMemory, if_pos rfl]
      cases place with
      | handle other =>
        simp only [InUse, Function.update_apply]
        split
        · rename_i same
          simp only [handleReset, same, Bool.false_eq_true, and_false, not_true_eq_false]
        simp [*]
      | allocation other => simp only [InUse, reduceCtorEq, not_false_eq_true, and_true]
      | mapping other => simp only [InUse, reduceCtorEq, not_false_eq_true, and_true]

/-- A loop of the cleanup over the slots of a table: it fails if and only if
something is missing for one of the places in use. -/
theorem releaseEach_outcome {release : System → Nat → Except UserMemoryError Unit × System}
    (place : Nat → TableSlot) (missing : Nat → Prop) (injective : Function.Injective place)
    (slots : List Nat) (distinct : slots.Nodup)
    (each : ∀ slot ∈ slots, ∀ system, CanRelease memoryMap process system →
      Outcome memoryMap process (InUse (system.processes process).userMemory (place slot) ∧
        missing slot) (fun other => other = place slot) system (release system slot)) :
    ∀ {system : System}, CanRelease memoryMap process system → Outcome memoryMap process
        (∃ slot ∈ slots, InUse (system.processes process).userMemory (place slot) ∧ missing slot)
        (fun other => ∃ slot ∈ slots, other = place slot) system
        (releaseEach release slots system) := by
  induction slots with
  | nil =>
    intro system can
    refine Or.inr ⟨?_, system, rfl, can, fun other => ?_⟩
    · nofun
    simp
  | cons slot rest ih =>
    intro system can
    rw [List.nodup_cons] at distinct
    rw [releaseEach]
    rcases each slot List.mem_cons_self system can with
      ⟨lacks, error, failed⟩ | ⟨suffices', middle, result, still, released⟩
    · rcases outcome : release system slot with ⟨value, middle⟩
      rw [outcome] at failed
      change value = .error error at failed
      rw [failed]
      exact Or.inl ⟨⟨slot, List.mem_cons_self, lacks⟩, error, rfl⟩
    · rw [result]
      -- the places of the rest are in use as before
      have sameUse : ∀ other ∈ rest, (InUse (middle.processes process).userMemory (place other) ↔
          InUse (system.processes process).userMemory (place other)) := by
        intro other isOther
        rw [released (place other)]
        constructor
        · exact And.left
        · grind
      rcases ih distinct.2 (fun other isOther => each other (List.mem_cons_of_mem slot isOther))
        still with ⟨⟨other, isOther, used, lacks⟩, failed⟩ | ⟨enough, last, results, ends, others⟩
      · exact Or.inl ⟨⟨other, List.mem_cons_of_mem slot isOther,
          (sameUse other isOther).mp used, lacks⟩, failed⟩
      refine Or.inr ⟨?_, last, results, ends, fun other => ?_⟩
      · simp_all
      · rw [others other, released other]
        grind

/-- The process has nothing left. -/
theorem userMemoryProcessStateEmpty_iff {state : UserMemoryProcessState} :
    userMemoryProcessStateEmpty state = true ↔ ∀ place, ¬ InUse state place := by
  simp only [userMemoryProcessStateEmpty, Bool.and_eq_true, decide_eq_true_iff]
  constructor
  · rintro ⟨⟨allocations, handles⟩, mappings⟩ place used
    cases place with
    | allocation slot => exact Bool.false_ne_true ((allocations slot used.1).symm.trans used.2)
    | mapping slot => exact Bool.false_ne_true ((mappings slot used.1).symm.trans used.2)
    | handle slot => exact Bool.false_ne_true ((handles slot used.1).symm.trans used.2)
  · intro unused
    refine ⟨⟨fun slot inside => ?_, fun slot inside => ?_⟩, fun slot inside => ?_⟩
    · exact Bool.eq_false_iff.mpr fun active => unused (.allocation slot) ⟨inside, active⟩
    · exact Bool.eq_false_iff.mpr fun active => unused (.handle slot) ⟨inside, active⟩
    · exact Bool.eq_false_iff.mpr fun active => unused (.mapping slot) ⟨inside, active⟩

/-- The cleanup succeeded, and nothing of the process is left. -/
def CleansUp (process : Nat) (result : Except UserMemoryError Unit × System) : Prop :=
  result.1 = .ok () ∧ userMemoryProcessStateEmpty (result.2.processes process).userMemory = true

/-- The heap has a block for the frames of every allocation. -/
def HeapServes (system : System) (process : Nat) (answers : Nat → Answers) : Prop :=
  ∀ slot < userMemoryAllocationMax, ((system.processes process).userMemory.allocations slot).active = true →
      (answers slot).kmalloc = true

theorem userMemoryProcessCleanup_iff (reserved : FirstPageReserved memoryMap)
    (can : CanRelease memoryMap process system) (allocationAnswers mappingAnswers : Nat → Answers)
    (handleKfree : Nat → Bool) (takes : ∀ slot, (allocationAnswers slot).kfree = true ∧
      (mappingAnswers slot).kfree = true ∧ handleKfree slot = true) :
    CleansUp process (userMemoryProcessCleanup system process allocationAnswers mappingAnswers
      handleKfree) ↔ HeapServes system process allocationAnswers := by
  rw [userMemoryProcessCleanup, if_neg (ne_false_of_eq_true can.ready)]
  rcases releaseEach_outcome .allocation (fun slot => (allocationAnswers slot).kmalloc = false)
    (fun _ _ same => TableSlot.allocation.inj same) (List.range userMemoryAllocationMax) List.nodup_range
    (fun slot isSlot system can => releaseAllocation_outcome can (List.mem_range.mp isSlot)
      allocationAnswers (takes slot).1) can with
    ⟨⟨slot, isSlot, used, empty⟩, error, failed⟩ | ⟨enough, middle, result, still, freed⟩
  · rcases outcome : releaseEach (releaseAllocation process allocationAnswers)
      (List.range userMemoryAllocationMax) system with ⟨value, middle⟩
    rw [outcome] at failed
    change value = .error error at failed
    rw [failed]
    constructor
    · rintro ⟨⟨⟩, -⟩
    · intro serves
      exact absurd ((serves slot used.1 used.2).symm.trans empty) (by decide)
  · rw [result]
    dsimp only
    rcases releaseEach_outcome .mapping (fun _ => False) (fun _ _ same => TableSlot.mapping.inj same)
      (List.range userMemoryBufferMappingMax) List.nodup_range
      (fun slot isSlot system can => releaseMapping_outcome reserved can (List.mem_range.mp isSlot)
        mappingAnswers (takes slot).2.1) still with
      ⟨⟨slot, -, -, impossible⟩, -⟩ | ⟨-, last, resultLast, ends, unmapped⟩
    · exact impossible.elim
    rw [resultLast]
    dsimp only
    rcases releaseEach_outcome .handle (fun _ => False) (fun _ _ same => TableSlot.handle.inj same)
      (List.range userMemoryBufferHandleMax) List.nodup_range
      (fun slot isSlot system can => releaseHandle_outcome reserved can (List.mem_range.mp isSlot)
        handleKfree (takes slot).2.2) ends with
      ⟨⟨slot, -, -, impossible⟩, -⟩ | ⟨-, final, resultFinal, -, closed⟩
    · exact impossible.elim
    rw [resultFinal]
    have empty : userMemoryProcessStateEmpty (final.processes process).userMemory = true := by
      rw [userMemoryProcessStateEmpty_iff]
      intro place used
      rw [closed place, unmapped place, freed place] at used
      rcases used with ⟨⟨⟨isUsed, noAllocation⟩, noMapping⟩, noHandle⟩
      cases place with
      | allocation slot => exact noAllocation ⟨slot, List.mem_range.mpr isUsed.1, rfl⟩
      | mapping slot => exact noMapping ⟨slot, List.mem_range.mpr isUsed.1, rfl⟩
      | handle slot => exact noHandle ⟨slot, List.mem_range.mpr isUsed.1, rfl⟩
    dsimp only
    rw [if_neg (ne_false_of_eq_true empty)]
    constructor
    · intro _ slot inside active
      rw [← Bool.not_eq_false]
      exact fun none => enough ⟨slot, List.mem_range.mpr inside, ⟨inside, active⟩, none⟩
    · exact fun _ => ⟨rfl, empty⟩

/-- A process can exit in every run, whatever it has left behind, as long as
`kmalloc` has a block for each of its allocations.  Here `kfree` takes back the
blocks that `kmalloc` has given. -/
theorem user_memory_cleanup_exact (memoryMap : List MemmapEntry)
    (reserved : FirstPageReserved memoryMap) (accepted : (pmmInit memoryMap).1 = true)
    (calls : List UserMemoryCall) (process : Nat)
    (alive : ((run UserMemoryCall.step (System.initial memoryMap) calls).processes process).alive =
      true) (allocationAnswers mappingAnswers : Nat → Answers) (handleKfree : Nat → Bool)
    (takes : ∀ slot, (allocationAnswers slot).kfree = true ∧ (mappingAnswers slot).kfree = true ∧
      handleKfree slot = true) :
    CleansUp process (userMemoryProcessCleanup
        (run UserMemoryCall.step (System.initial memoryMap) calls) process allocationAnswers
        mappingAnswers handleKfree) ↔
      HeapServes (run UserMemoryCall.step (System.initial memoryMap) calls) process
        allocationAnswers := by
  rcases run_pages reserved accepted calls with ⟨sound, pages⟩
  apply userMemoryProcessCleanup_iff reserved ⟨sound, pages, ?_⟩ _ _ _ takes
  rw [processReady, alive, pages.ready process alive]
  rfl

theorem threePageMap_reserved : FirstPageReserved threePageMap := by
  intro entry isEntry _
  rw [List.mem_singleton.mp isEntry]
  decide

/-- A process with a buffer, a mapping of it and an allocation exits. -/
theorem user_memory_cleanup_exact_served :
    CleansUp 0 (userMemoryProcessCleanup (run UserMemoryCall.step (System.initial threePageMap)
      [.processCreate 0 1, .create 0 4096 generous, .map 0 257 generous,
        .allocate 0 4096 generous]) 0 (fun _ => generous) (fun _ => generous) fun _ => true) :=
  (user_memory_cleanup_exact threePageMap threePageMap_reserved (by decide) _ 0 (by decide) _ _ _
    fun _ => ⟨rfl, rfl, rfl⟩).mpr fun _ _ _ => rfl

/-- With one page allocated and an empty heap, the cleanup fails. -/
theorem cleanup_without_heap_fails :
    ((run UserMemoryCall.step (System.initial threePageMap)
        [.processCreate 0 1, .allocate 0 4096 generous]).processes 0).alive = true ∧
      ¬ CleansUp 0 (userMemoryProcessCleanup (run UserMemoryCall.step
        (System.initial threePageMap) [.processCreate 0 1, .allocate 0 4096 generous]) 0
        (fun _ => { generous with kmalloc := false }) (fun _ => generous) fun _ => true) := by
  refine ⟨by decide, fun cleans => ?_⟩
  rcases run_pages threePageMap_reserved (by decide)
    [.processCreate 0 1, .allocate 0 4096 generous] with ⟨sound, pages⟩
  rw [userMemoryProcessCleanup_iff threePageMap_reserved ⟨sound, pages, by decide⟩ _ _ _
    fun _ => ⟨rfl, rfl, rfl⟩] at cleans
  have served := cleans 0 (by decide) (by decide)
  cases served

end

section

variable {memoryMap : List MemmapEntry} {system : System}

/-! ## Isolation -/

/-- Who owns the frame behind a page of a range -/
def pageOwner (system : System) (process : Nat) : RangeSlot → Nat → FrameOwner
  | .allocation slot, position => .allocation process slot position
  | .mapping slot, position =>
    .buffer ((system.processes process).userMemory.mappings slot).objectIndex position

/-- The page at this position of a range of the process shows the frame. -/
def Shows (system : System) (process : Nat) (place : RangeSlot) (position frame : Nat) : Prop :=
  ∃ range, rangeAt (system.processes process).userMemory place = some range ∧ position < range.2 ∧
    (system.processes process).pages (pageAddress range.1 position) = some ⟨frame, true, false⟩

theorem AllSound.shows (both : AllSound memoryMap system) {process : Nat} {place : RangeSlot}
    {range : PageRange} {position : Nat}
    (isRange : rangeAt (system.processes process).userMemory place = some range)
    (inside : position < range.2) : ∃ frame, Shows system process place position frame ∧
      Owns system [] (pageOwner system process place position) frame := by
  have backed := both.2.backed process place range isRange
  cases place with
  | allocation slot =>
    rcases rangeAt_allocation_eq_some isRange with ⟨inTable, active, rfl⟩
    rcases backed position inside with ⟨frame, shown⟩
    exact ⟨frame, ⟨_, isRange, inside, shown⟩, ⟨inTable, active, inside⟩, _, shown, rfl⟩
  | mapping slot =>
    rcases rangeAt_mapping_eq_some isRange with ⟨inTable, active, rfl⟩
    rcases backed with ⟨length, shown⟩
    have isFrame := List.getElem?_eq_getElem (length.symm ▸ inside)
    refine ⟨_, ⟨_, isRange, inside, ?_⟩,
      active_of_objectAt (both.1.mapped_active inTable active), isFrame⟩
    rw [← shown position _ isFrame, Nat.zero_add]

theorem AllSound.owned (both : AllSound memoryMap system) {process : Nat} {place : RangeSlot}
    {position frame : Nat} (shown : Shows system process place position frame) :
    Owns system [] (pageOwner system process place position) frame := by
  rcases shown with ⟨range, isRange, inside, isPage⟩
  rcases both.shows isRange inside with ⟨other, ⟨_, isOther, -, otherPage⟩, owned⟩
  cases isRange.symm.trans isOther
  cases isPage.symm.trans otherPage
  exact owned

/-- Every page of a range has a frame, which no page of another range shows, except
where a buffer is mapped more than once. -/
structure Isolated (system : System) : Prop where
  backed : ∀ process place range,
    rangeAt (system.processes process).userMemory place = some range →
      ∀ position < range.2, ∃ frame, Shows system process place position frame
  held : ∀ process place position frame, Shows system process place position frame →
    pmmFrameTaken system.pmm frame = true ∧ system.foreign frame = false
  apart : ∀ process place position other otherPlace otherPosition frame,
    Shows system process place position frame →
    Shows system other otherPlace otherPosition frame → position = otherPosition ∧
      ((process = other ∧ place = otherPlace) ∨ ∃ slot otherSlot,
        place = .mapping slot ∧ otherPlace = .mapping otherSlot ∧
          ((system.processes process).userMemory.mappings slot).objectIndex =
            ((system.processes other).userMemory.mappings otherSlot).objectIndex)

/-- Whatever the processes allocate, share, map and release, and whatever fails
on the way, no range of a process shows the memory of another one or of the kernel. -/
theorem user_pages_isolated (memoryMap : List MemmapEntry) (reserved : FirstPageReserved memoryMap)
    (accepted : (pmmInit memoryMap).1 = true) (calls : List UserMemoryCall) :
    Isolated (run UserMemoryCall.step (System.initial memoryMap) calls) := by
  have both := run_pages reserved accepted calls
  generalize run UserMemoryCall.step (System.initial memoryMap) calls = system at both
  have ledger := both.1.storage.frames.ledger
  constructor
  case backed =>
    intro process place range isRange position inside
    rcases both.shows isRange inside with ⟨frame, shown, -⟩
    exact ⟨frame, shown⟩
  case held =>
    intro process place position frame shown
    refine ⟨ledger.taken _ _ (both.owned shown), Bool.eq_false_iff.mpr fun foreign => ?_⟩
    have same := ledger.unique _ (.outside frame) frame (both.owned shown) ⟨rfl, foreign⟩
    cases place <;> cases same
  case apart =>
    intro process place position other otherPlace otherPosition frame shown otherShown
    have same := ledger.unique _ _ frame (both.owned shown) (both.owned otherShown)
    cases place <;> cases otherPlace <;> simp_all [pageOwner]

theorem user_pages_isolated_shared :
    Isolated (run UserMemoryCall.step (System.initial threePageMap)
      [.processCreate 0 1, .processCreate 1 2, .create 0 4096 generous, .map 0 257 generous,
        .retain 0 257 5, .install 1 5, .map 1 257 generous, .allocate 1 4096 generous]) :=
  user_pages_isolated threePageMap threePageMap_reserved (by decide) _

end

end BoringOS.UserMemory
