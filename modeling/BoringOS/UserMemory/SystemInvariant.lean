import BoringOS.UserMemory.LowestRange
import BoringOS.UserMemory.Projection
import BoringOS.UserMemory.Storage

namespace BoringOS.UserMemory

open Library Ipc Memory

/-!
# The invariant of user memory

The counts of references are right, the storage of the buffers is sound, and in
every process the active ranges lie apart in the arena, and start with pages.
-/

/-- A place for a range in the tables of a process -/
inductive RangeSlot
  | allocation (slot : Nat)
  | mapping (slot : Nat)
deriving DecidableEq, Repr

/-- The range in this place, if it is active -/
def rangeAt (state : UserMemoryProcessState) : RangeSlot → Option PageRange
  | .allocation slot =>
    if slot < userMemoryAllocationMax ∧ (state.allocations slot).active = true then
      some ((state.allocations slot).base, (state.allocations slot).pageCount)
    else none
  | .mapping slot =>
    if slot < userMemoryBufferMappingMax ∧ (state.mappings slot).active = true then
      some ((state.mappings slot).base, (state.mappings slot).pageCount)
    else none

structure RangesSound (state : UserMemoryProcessState) : Prop where
  inside : ∀ place range, rangeAt state place = some range → InArena range
  apart : ∀ first second firstRange secondRange, rangeAt state first = some firstRange →
    rangeAt state second = some secondRange → first ≠ second → Apart firstRange secondRange

structure RangesPlaced (state : UserMemoryProcessState) : Prop extends RangesSound state where
  aligned : ∀ place range, rangeAt state place = some range → range.1 % userMemoryPageSize = 0

/-- Who holds the references that are no handles and no mappings -/
def Retains (system : System) (reference index : Nat) : Prop :=
  system.retained reference = some index

structure SystemSound (memoryMap : List MemmapEntry) (system : System) : Prop where
  counts : BuffersSound system.forget (Retains system)
  storage : StorageSound memoryMap system
  ranges : ∀ process, RangesPlaced (system.processes process).userMemory

section

variable {memoryMap : List MemmapEntry} {system next : System} {state state' : UserMemoryProcessState}

theorem mem_activeRanges {place : RangeSlot} {range : PageRange}
    (isRange : rangeAt state place = some range) : range ∈ activeRanges state := by
  rw [activeRanges, List.mem_append, List.mem_filterMap, List.mem_filterMap]
  cases place with
  | allocation slot =>
    rw [rangeAt] at isRange
    grind
  | mapping slot =>
    rw [rangeAt] at isRange
    grind

theorem RangesPlaced.placed (sound : RangesPlaced state) : Placed state := by
  intro range isIn
  have isRange : ∃ place, rangeAt state place = some range := by
    rw [activeRanges, List.mem_append, List.mem_filterMap, List.mem_filterMap] at isIn
    rcases isIn with ⟨slot, inside, isRange⟩ | ⟨slot, inside, isRange⟩
    · refine ⟨.allocation slot, ?_⟩
      rw [rangeAt, ← isRange]
      simp only [List.mem_range.mp inside, true_and]
    · refine ⟨.mapping slot, ?_⟩
      rw [rangeAt, ← isRange]
      simp only [List.mem_range.mp inside, true_and]
  rcases isRange with ⟨place, isRange⟩
  exact ⟨sound.inside place range isRange, sound.aligned place range isRange⟩

theorem RangesPlaced.fewer (sound : RangesPlaced state)
    (same : ∀ place range, rangeAt state' place = some range → rangeAt state place = some range) :
    RangesPlaced state' where
  aligned place range isRange := sound.aligned place range (same place range isRange)
  inside place range isRange := sound.inside place range (same place range isRange)
  apart first second firstRange secondRange isFirst isSecond :=
    sound.apart first second firstRange secondRange (same first firstRange isFirst)
      (same second secondRange isSecond)

theorem RangesPlaced.more (sound : RangesPlaced state) {pageCount base : Nat} (fresh : RangeSlot)
    (found : findVirtualRange state pageCount = some base)
    (same : ∀ place range, rangeAt state' place = some range →
      rangeAt state place = some range ∧ place ≠ fresh ∨
        place = fresh ∧ range = (base, pageCount)) : RangesPlaced state' := by
  have lowest := findVirtualRange_lowest sound.placed pageCount
  rw [found] at lowest
  rcases lowest with ⟨⟨aligned, inArena, apart⟩, -⟩
  refine ⟨⟨?_, ?_⟩, ?_⟩
  · intro place range isRange
    rcases same place range isRange with ⟨before, -⟩ | ⟨-, rfl⟩
    · exact sound.inside place range before
    · exact inArena
  · intro first second firstRange secondRange isFirst isSecond different
    rcases same first firstRange isFirst with ⟨firstBefore, -⟩ | ⟨rfl, rfl⟩
    · rcases same second secondRange isSecond with ⟨secondBefore, -⟩ | ⟨-, rfl⟩
      · exact sound.apart first second firstRange secondRange firstBefore secondBefore different
      · exact apart firstRange (mem_activeRanges firstBefore)
    · rcases same second secondRange isSecond with ⟨secondBefore, -⟩ | ⟨isFresh, -⟩
      · exact (apart secondRange (mem_activeRanges secondBefore)).symm
      · exact absurd isFresh.symm different
  · intro place range isRange
    rcases same place range isRange with ⟨before, -⟩ | ⟨-, rfl⟩
    · exact sound.aligned place range before
    · exact aligned

theorem notAllocated_of_found {pageCount base : Nat}
    (found : findVirtualRange state pageCount = some base) : NotAllocated state base pageCount := by
  rintro slot position ⟨inside, active, isPage⟩ ⟨other, isOther, same⟩
  have isRange : rangeAt state (.allocation slot) =
      some ((state.allocations slot).base, (state.allocations slot).pageCount) :=
    if_pos ⟨inside, active⟩
  have apart := (findVirtualRange_eq_some found).2 _ (mem_activeRanges isRange)
  simp only [Apart, PageRange.limit, userMemoryPageSize] at apart
  simp only [allocationAddress, pageAddress, userMemoryPageSize] at same
  omega

theorem userMemory_setUserMemory (system : System) (process : Nat) (memory : UserMemoryProcessState)
    (other : Nat) : ((system.setUserMemory process memory).processes other).userMemory =
      if other = process then memory else (system.processes other).userMemory := by
  simp only [System.setUserMemory, System.setProcess, Function.update_apply]
  split
  · rfl
  · rfl

theorem pages_setUserMemory (system : System) (process : Nat) (memory : UserMemoryProcessState)
    (other : Nat) : ((system.setUserMemory process memory).processes other).pages =
      (system.processes other).pages := by
  simp only [System.setUserMemory, System.setProcess, Function.update_apply]
  grind

/-- A change of the tables that leaves the allocations as they are does not
concern the frames. -/
theorem StorageSound.setUserMemory (sound : StorageSound memoryMap system) {process : Nat}
    {memory : UserMemoryProcessState}
    (same : memory.allocations = (system.processes process).userMemory.allocations) :
    StorageSound memoryMap (system.setUserMemory process memory) := by
  refine sound.withFrames ?_ rfl rfl
  refine sound.frames.tables rfl rfl (fun index active => ⟨active, rfl⟩) ?_ ?_
  · intro other
    rw [userMemory_setUserMemory]
    grind
  · exact pages_setUserMemory system process memory

variable (memory : UserMemoryProcessState)

theorem rangeAt_setHandles (handles : Nat → BufferHandle)
    (place : RangeSlot) : rangeAt { memory with handles := handles } place = rangeAt memory place := by
  cases place <;> rfl

/-- The ranges after a mapping was entered in a free slot, or cleared -/
theorem rangeAt_setMapping (slot : Nat) (mapping : UserMemoryBufferMapping) (place : RangeSlot) :
    rangeAt { memory with mappings := Function.update memory.mappings slot mapping } place =
      if place = .mapping slot then
        if slot < userMemoryBufferMappingMax ∧ mapping.active = true then
          some (mapping.base, mapping.pageCount)
        else none
      else rangeAt memory place := by
  cases place with
  | allocation other => rfl
  | mapping other =>
    by_cases same : other = slot
    · rw [same, if_pos rfl, rangeAt]
      simp only [Function.update_self]
    simp_all [rangeAt, Function.update_of_ne]

theorem rangeAt_setAllocation (slot : Nat) (allocation : UserMemoryAllocation) (place : RangeSlot) :
    rangeAt { memory with allocations := Function.update memory.allocations slot allocation } place =
      if place = .allocation slot then
        if slot < userMemoryAllocationMax ∧ allocation.active = true then
          some (allocation.base, allocation.pageCount)
        else none
      else rangeAt memory place := by
  cases place with
  | mapping other => rfl
  | allocation other =>
    by_cases same : other = slot
    · rw [same, if_pos rfl, rangeAt]
      simp only [Function.update_self]
    simp_all [rangeAt, Function.update_of_ne]

variable {memory} {slot : Nat} {place : RangeSlot} {range : PageRange}

theorem rangeAt_clearMapping (isRange : rangeAt
    { memory with mappings := Function.update memory.mappings slot mappingClear } place =
      some range) : place ≠ .mapping slot ∧ rangeAt memory place = some range := by
  rw [rangeAt_setMapping] at isRange
  split at isRange
  · simp [mappingClear] at isRange
  · rename_i away
    exact ⟨away, isRange⟩

theorem rangeAt_clearAllocation (isRange : rangeAt
    { memory with allocations := Function.update memory.allocations slot allocationClear } place =
      some range) : place ≠ .allocation slot ∧ rangeAt memory place = some range := by
  rw [rangeAt_setAllocation] at isRange
  split at isRange
  · simp [allocationClear] at isRange
  · rename_i away
    exact ⟨away, isRange⟩

/-- The ranges of all processes after the tables of one of them have changed -/
theorem ranges_setUserMemory (sound : ∀ process, RangesPlaced (system.processes process).userMemory)
    {process : Nat} {memory : UserMemoryProcessState} (here : RangesPlaced memory) (other : Nat) :
    RangesPlaced ((system.setUserMemory process memory).processes other).userMemory := by
  grind [userMemory_setUserMemory]

/-- What a call leaves besides the counts: the storage and the ranges are sound,
and nobody else retains a buffer. -/
structure Kept (memoryMap : List MemmapEntry) (system next : System) : Prop where
  storage : StorageSound memoryMap next
  ranges : ∀ process, RangesPlaced (next.processes process).userMemory
  retained : next.retained = system.retained

theorem SystemSound.kept (sound : SystemSound memoryMap system) : Kept memoryMap system system :=
  ⟨sound.storage, sound.ranges, rfl⟩

theorem Kept.counted (kept : Kept memoryMap system next)
    (counts : BuffersSound next.forget (Retains system)) : SystemSound memoryMap next where
  counts := by
    apply counts.congr
    intro reference index
    rw [Retains, Retains, kept.retained]
  storage := kept.storage
  ranges := kept.ranges

/-- Pages have changed, frames have been taken and given back, and the tables are the same. -/
theorem SystemSound.pagesOnly (sound : SystemSound memoryMap system) {process : Nat}
    {touched : Nat → Prop} (frames : FramesSound memoryMap next [])
    (only : PagesOnly process touched system next) : Kept memoryMap system next where
  storage := sound.storage.withFrames frames only.objects only.books
  ranges other := by
    rw [only.userMemory]
    exact sound.ranges other
  retained := only.retained

/-- A call came to nothing: at most pages have changed that lie apart from the ranges. -/
structure Undone (memoryMap : List MemmapEntry) (process : Nat) (system next : System) : Prop where
  frames : FramesSound memoryMap next []
  forget : next.forget = system.forget
  pages : ∃ base count, PagesOnly process (PageOf base count) system next ∧
    ∀ range ∈ activeRanges (system.processes process).userMemory, Apart range (base, count)

theorem SystemSound.undone (sound : SystemSound memoryMap system) (process : Nat) :
    Undone memoryMap process system system :=
  ⟨sound.storage.frames, rfl, 0, 0, .refl system, fun _ _ => Or.inr (Nat.zero_le _)⟩

theorem Undone.sound {process : Nat} (undone : Undone memoryMap process system next)
    (sound : SystemSound memoryMap system) : SystemSound memoryMap next := by
  rcases undone.pages with ⟨base, count, only, -⟩
  apply (sound.pagesOnly undone.frames only).counted
  rw [undone.forget]
  exact sound.counts

end

/-!
## Allocations keep the invariant
-/

section

variable {memoryMap : List MemmapEntry} {system next : System}

theorem findAllocationExact_eq_some {state : UserMemoryProcessState} {base slot : Nat}
    (found : findAllocationExact state base = some slot) :
    slot < userMemoryAllocationMax ∧ (state.allocations slot).active = true ∧
      (state.allocations slot).base = base := by
  simp_all [findAllocationExact, List.mem_range, Bool.and_eq_true, beq_iff_eq]

theorem allocation_setAllocation (system : System) (process slot : Nat)
    (allocation : UserMemoryAllocation) (other another : Nat) :
    ((system.setAllocation process slot allocation).processes other).userMemory.allocations another =
      if other = process ∧ another = slot then allocation
      else (system.processes other).userMemory.allocations another := by
  rw [System.setAllocation, userMemory_setUserMemory]
  by_cases isProcess : other = process
  · rw [if_pos isProcess]
    grind
  simp [*]

/-- Only the entry that was written has other frames. -/
theorem owns_setAllocation {pending : List Nat} {process slot : Nat}
    {allocation : UserMemoryAllocation} {other another position frame : Nat}
    (has : Owns (system.setAllocation process slot allocation) pending
      (.allocation other another position) frame) :
    (other = process ∧ another = slot) ∧ allocation.active = true ∧ position < allocation.pageCount ∧
        (∃ page, (system.processes process).pages (pageAddress allocation.base position) =
          some page ∧ page.frame = frame) ∨
      ¬ (other = process ∧ another = slot) ∧
        Owns system pending (.allocation other another position) frame := by
  change AllocatedPage _ another position ∧ _ at has
  simp only [AllocatedPage, allocationAddress, allocation_setAllocation] at has
  rw [System.setAllocation, pages_setUserMemory] at has
  rcases has with ⟨⟨inside, active, isPage⟩, shown⟩
  by_cases isIt : other = process ∧ another = slot
  · simp_all
  · rw [if_neg isIt] at active isPage shown
    exact Or.inr ⟨isIt, ⟨inside, active, isPage⟩, shown⟩

/-- The pending frames become those of the new allocation, whose pages show them. -/
theorem setAllocation_sound {frames : List Nat} (sound : FramesSound memoryMap system frames)
    {process slot base pageCount : Nat} (shown : RangeShows system process base 0 frames)
    (length : frames.length = pageCount) :
    FramesSound memoryMap (system.setAllocation process slot ⟨base, pageCount, true⟩) [] := by
  have here : ∀ position frame, position < pageCount →
      (∃ page, (system.processes process).pages (pageAddress base position) = some page ∧
        page.frame = frame) → frames[position]? = some frame := by
    rintro position frame isPage ⟨page, isShown, rfl⟩
    rw [← length] at isPage
    have known := shown position frames[position] (List.getElem?_eq_getElem isPage)
    rw [Nat.zero_add, isShown, Option.some.injEq] at known
    rw [List.getElem?_eq_getElem isPage, known]
  refine sound.relabel (fun owner => match owner with
    | .allocation other another position =>
      if other = process ∧ another = slot then .pending position
      else .allocation other another position
    | other => other) rfl ?_ ?_
  · intro owner frame has
    cases owner with
    | allocation other another position =>
      rcases owns_setAllocation has with ⟨isIt, -, isPage, isFrame⟩ | ⟨isOther, before⟩
      · grind [Owns]
      grind [Owns]
    | pending position => cases has
    | _ => exact has
  · intro first second frame hasFirst hasSecond same
    cases first with
    | pending position => cases hasFirst
    | allocation other another place =>
      cases second with
      | pending position => cases hasSecond
      | allocation otherSecond anotherSecond placeSecond =>
        grind
      | _ =>
        grind
    | _ =>
      grind

/-- Nobody owns more when an allocation is cleared. -/
theorem clearAllocation_sound (sound : FramesSound memoryMap system []) (process slot : Nat) :
    FramesSound memoryMap (system.setAllocation process slot allocationClear) [] := by
  refine sound.shrink rfl ?_
  intro owner frame has
  cases owner with
  | allocation other another position =>
    rcases owns_setAllocation has with ⟨-, active, -⟩ | ⟨-, before⟩
    · cases active
    · exact before
  | _ => exact has

section

variable (sound : SystemSound memoryMap system)
include sound

theorem userMemoryAllocate_cases (process size : Nat) (answers : Answers) :
    Undone memoryMap process system (userMemoryAllocate system process size answers).2 ∨
      ∃ slot base pageCount frames middle,
        findVirtualRange (system.processes process).userMemory pageCount = some base ∧
        FramesSound memoryMap middle frames ∧ PagesAdded process base pageCount system middle ∧
        middle.forget = system.forget ∧ frames.length = pageCount ∧
        RangeShows middle process base 0 frames ∧
        (userMemoryAllocate system process size answers).2 =
          middle.setAllocation process slot ⟨base, pageCount, true⟩ := by
  have nothing := sound.undone process
  rw [userMemoryAllocate]
  split
  · exact Or.inl nothing
  split
  · exact Or.inl nothing
  rename_i pageCount isCount
  dsimp only
  split
  · rename_i slot base isSlot isBase
    split
    · exact Or.inl nothing
    rcases result : allocatePages answers process base pageCount 0 system with
      ⟨frames, mapped, ok, middle⟩
    have same := forget_allocatePages answers process base pageCount 0 system
    rw [result] at same
    rcases allocatePages_sound answers pageCount 0 sound.storage.frames
      (notAllocated_of_found isBase) (Nat.le_of_eq (Nat.zero_add pageCount)) frames mapped ok
      middle result with ⟨pending, added, bound, complete⟩
    cases ok with
    | false =>
      rcases rollbackMappings_sound process base mapped pending bound with
        ⟨unmapped, onlyUnmapped⟩
      rcases freeFrameVector_sound process (PageOf base pageCount) frames unmapped with
        ⟨freed, onlyFreed⟩
      exact Or.inl ⟨freed, by simp [same], base, pageCount,
        (added.toPagesOnly.trans onlyUnmapped).trans onlyFreed,
        (findVirtualRange_eq_some isBase).2⟩
    | true =>
      rcases complete rfl with ⟨length, shown⟩
      exact Or.inr ⟨slot, base, pageCount, frames, middle, isBase, pending, added, same,
        length, shown, rfl⟩
  · exact Or.inl nothing

theorem userMemoryAllocate_sound (process size : Nat) (answers : Answers) :
    SystemSound memoryMap (userMemoryAllocate system process size answers).2 := by
  rcases userMemoryAllocate_cases sound process size answers with undone |
    ⟨slot, base, pageCount, frames, middle, isBase, pending, added, same, length, shown, result⟩
  · exact undone.sound sound
  rw [result]
  have kept := sound.pagesOnly pending.forgetPending added.toPagesOnly
  have entered : Kept memoryMap system
      (middle.setAllocation process slot ⟨base, pageCount, true⟩) := by
    refine ⟨?_, ?_, kept.retained⟩
    · exact kept.storage.withFrames (setAllocation_sound pending shown length) rfl rfl
    · apply ranges_setUserMemory kept.ranges
      rw [added.userMemory]
      apply (sound.ranges process).more (.allocation slot) isBase
      intro place range isRange
      rw [rangeAt_setAllocation] at isRange
      split at isRange
      · simp_all
      simp [*]
  apply entered.counted
  rw [forget_setAllocation, same]
  exact sound.counts

/-- The frames that an allocation shows are unmapped and given back. -/
theorem allocation_taken {process slot : Nat} {frames : List Nat}
    (inside : slot < userMemoryAllocationMax)
    (active : ((system.processes process).userMemory.allocations slot).active = true)
    (isFrames : queryPages system process
      ((system.processes process).userMemory.allocations slot).base
      ((system.processes process).userMemory.allocations slot).pageCount 0 = some frames)
    (answers : Answers) :
    let allocation := (system.processes process).userMemory.allocations slot
    ∃ middle last, unmapPages answers process allocation.base allocation.pageCount 0 system =
        (true, middle) ∧ freeFrames frames middle = (true, last) ∧ FramesSound memoryMap last [] ∧
      PagesOnly process (PageOf allocation.base allocation.pageCount) system last ∧
      last.forget = system.forget := by
  rcases queryPages_eq_some _ 0 frames isFrames with ⟨length, shown⟩
  rcases unmapPages_takes answers frames 0 sound.storage.frames inside active
    (by rw [Nat.zero_add, length]) shown with ⟨middle, result, pending⟩
  rw [length] at result
  rcases unmapPages_sound answers process _ _ _ 0 sound.storage.frames
    (Nat.le_of_eq (Nat.zero_add _)) true middle result with ⟨-, only⟩
  rcases freeFrames_sound frames pending with ⟨last, freed, after, tables⟩
  have unmapped := forget_unmapPages answers process
    ((system.processes process).userMemory.allocations slot).base
    ((system.processes process).userMemory.allocations slot).pageCount 0 system
  rw [result] at unmapped
  have given := forget_freeFrames frames middle
  rw [freed] at given
  refine ⟨middle, last, result, freed, after, only.trans ?_, given.trans unmapped⟩
  rw [tables]
  exact .of_tables rfl rfl rfl rfl

theorem userMemoryFree_cases (process base : Nat) (answers : Answers) :
    (userMemoryFree system process base answers).2 = system ∨
      ∃ slot last, slot < userMemoryAllocationMax ∧
        ((system.processes process).userMemory.allocations slot).active = true ∧
        FramesSound memoryMap last [] ∧ PagesOnly process
          (PageOf ((system.processes process).userMemory.allocations slot).base
            ((system.processes process).userMemory.allocations slot).pageCount) system last ∧
        last.forget = system.forget ∧ (userMemoryFree system process base answers).2 =
          last.setAllocation process slot allocationClear := by
  rw [userMemoryFree]
  split
  · exact Or.inl rfl
  split
  · exact Or.inl rfl
  split
  · exact Or.inl rfl
  rename_i slot isSlot
  rcases findAllocationExact_eq_some isSlot with ⟨inside, active, isBase⟩
  dsimp only
  split
  · exact Or.inl rfl
  split
  · exact Or.inl rfl
  rename_i frames isFrames
  subst isBase
  rcases allocation_taken sound inside active isFrames answers with
    ⟨middle, last, result, freed, after, only, same⟩
  rw [result]
  dsimp only
  rw [freed]
  exact Or.inr ⟨slot, last, inside, active, after, only, same, rfl⟩

theorem userMemoryFree_sound (process base : Nat)
    (answers : Answers) : SystemSound memoryMap (userMemoryFree system process base answers).2 := by
  rcases userMemoryFree_cases sound process base answers with
    same | ⟨slot, last, inside, active, after, only, same, result⟩
  · rw [same]
    exact sound
  rw [result]
  have kept := sound.pagesOnly after only
  have cleared : Kept memoryMap system (last.setAllocation process slot allocationClear) := by
    refine ⟨?_, ?_, kept.retained⟩
    · exact kept.storage.withFrames (clearAllocation_sound after process slot) rfl rfl
    · apply ranges_setUserMemory kept.ranges
      rw [only.userMemory]
      exact (sound.ranges process).fewer fun _ _ isRange => (rangeAt_clearAllocation isRange).2
  apply cleared.counted
  rw [forget_setAllocation, same]
  exact sound.counts

end

end

end BoringOS.UserMemory
