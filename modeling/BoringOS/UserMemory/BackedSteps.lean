import BoringOS.UserMemory.BackedRanges

namespace BoringOS.UserMemory

open Library Ipc Memory

/-!
# Every call keeps the pages behind the ranges

A call changes pages in the one range that it has found or that it releases.
This range lies apart from all the others, so it only has to be seen to itself:
the pages of a new range have just been mapped, and a range whose pages vanish
is taken out of the tables.
-/

section

variable {memoryMap : List MemmapEntry} {system next : System}

/-! ## Pages of a mapping -/

/-- The pages of a mapping show the frames of the buffer. -/
theorem mapPages_shows {pending : List Nat} {process : Nat} (answers : Answers) {base count : Nat}
    (frames : List Nat) :
    ∀ index {system : System}, FramesSound memoryMap system pending →
      NotAllocated (system.processes process).userMemory base count →
      index + frames.length ≤ count →
      ∀ mapped next, mapPages answers process base frames index system = (mapped, true, next) →
        RangeShows next process base index frames := by
  induction frames with
  | nil =>
    nofun
  | cons frame rest ih =>
    intro index system sound free inside mapped next result
    rw [List.length_cons] at inside
    have before := foreignSteps_sound (answers.between index) sound
    have others := foreignSteps_pagesAdded process system (answers.between index) base count
    rw [mapPages] at result
    split at result
    · cases result
    rename_i shown isMapped
    rcases mapPage_sound before (free.added others) (by omega) isMapped with ⟨here, mappedHere⟩
    have same := others.trans mappedHere
    split at result
    · cases result
    rename_i isShown
    rw [ne_eq, not_not] at isShown
    rcases mapPages_sound answers rest (index + 1) here (free.added same) (by omega) mapped
      true next result with ⟨-, following, -⟩
    exact RangeShows.cons (following.kept _ _ isShown)
      (ih (index + 1) here (free.added same) (by omega) mapped next result)

/-- The check before the unmapping passes on the pages of a mapping. -/
theorem pagesShow_of_shows {process index base : Nat} {object : UserMemoryBufferObject}
    (found : objectAt system index = some object)
    (shows : RangeShows system process base 0 object.frames) (left : Nat) :
    ∀ position, position + left ≤ object.frames.length →
      pagesShow system process index base left position = true := by
  induction left with
  | zero => exact fun _ _ => rfl
  | succ left ih =>
    intro position inside
    have isFrame : object.frames[position]? = some object.frames[position] :=
      List.getElem?_eq_getElem (by omega)
    have isShown := shows position _ isFrame
    rw [Nat.zero_add] at isShown
    rw [pagesShow, found, isShown]
    grind

theorem unmapPages_of_shown (answers : Answers) (process base left : Nat) :
    ∀ index (system : System), (∀ position < left,
        (system.processes process).pages (pageAddress base (index + position)) ≠ none) →
      (unmapPages answers process base left index system).1 = true := by
  induction left with
  | zero => exact fun _ _ _ => rfl
  | succ left ih =>
    intro index system shown
    have others : PagesOnly process (fun _ => False) system
        (foreignSteps system (answers.between index)) := foreignSteps_pagesOnly process _ _ system
    have same : ∀ address, ((foreignSteps system (answers.between index)).processes process).pages
        address = (system.processes process).pages address :=
      fun address => others.pages process address fun both => both.2
    have here := shown 0 (Nat.succ_pos left)
    rw [Nat.add_zero] at here
    rw [unmapPages, unmapPage, same, if_neg here]
    apply ih
    grind [pages_setPage, pageAddress_injective]

/-! ## Allocations -/

/-- The entry of a new allocation, whose pages show frames -/
theorem backed_setAllocation {process slot base pageCount : Nat} {frames : List Nat}
    (shown : RangeShows system process base 0 frames) (length : frames.length = pageCount) :
    Backed (system.setAllocation process slot ⟨base, pageCount, true⟩) process
      (.allocation slot) := by
  have entry := allocation_setAllocation system process slot ⟨base, pageCount, true⟩ process slot
  rw [if_pos ⟨rfl, rfl⟩] at entry
  simp only [Backed, entry]
  rw [System.setAllocation, pages_setUserMemory]
  intro position inside
  rw [← length] at inside
  have isShown := shown position _ (List.getElem?_eq_getElem inside)
  simp_all

theorem sameEntry_setAllocation (memory : UserMemoryProcessState) {slot : Nat}
    {allocation : UserMemoryAllocation} {place : RangeSlot} (away : place ≠ .allocation slot) :
    SameEntry memory
      { memory with allocations := Function.update memory.allocations slot allocation } place := by
  cases place with
  | mapping another => rfl
  | allocation another => exact Function.update_of_ne (fun same => away (by rw [same])) ..

theorem sameEntry_setMapping (memory : UserMemoryProcessState) {slot : Nat}
    {mapping : UserMemoryBufferMapping} {place : RangeSlot} (away : place ≠ .mapping slot) :
    SameEntry memory
      { memory with mappings := Function.update memory.mappings slot mapping } place := by
  cases place with
  | allocation another => rfl
  | mapping another => exact Function.update_of_ne (fun same => away (by rw [same])) ..

theorem mapping_setMapping (system : System) (process slot : Nat) (mapping : UserMemoryBufferMapping) :
    ((system.setMapping process slot mapping).processes process).userMemory.mappings slot =
      mapping := by
  rw [System.setMapping, userMemory_setUserMemory, if_pos rfl]
  exact Function.update_self ..

/-- The entry of a new mapping, whose pages show the frames of the buffer -/
theorem backed_setMapping {process slot base index : Nat} {object counted : UserMemoryBufferObject}
    (shown : RangeShows system process base 0 object.frames)
    (same : counted.frames = object.frames := by rfl) :
    Backed ((system.setObject index counted).setMapping process slot
      ⟨base, object.frames.length, index, true⟩) process (.mapping slot) := by
  have entry := mapping_setMapping (system.setObject index counted) process slot
  have frames : (((system.setObject index counted).setMapping process slot
      ⟨base, object.frames.length, index, true⟩).objects index).frames = object.frames := by
    change (Function.update system.objects index counted index).frames = object.frames
    rw [Function.update_self, same]
  simp only [Backed, entry, frames]
  refine ⟨trivial, ?_⟩
  rw [RangeShows, System.setMapping, pages_setUserMemory]
  exact shown

theorem userMemoryAllocate_pages (sound : SystemSound memoryMap system) (pages : PagesSound system)
    (process size : Nat) (answers : Answers) :
    PagesSound (userMemoryAllocate system process size answers).2 := by
  have after := userMemoryAllocate_sound sound process size answers
  rcases userMemoryAllocate_cases sound process size answers with undone |
    ⟨slot, base, pageCount, frames, middle, isBase, -, added, same, length, shown, result⟩
  · exact pages.undone sound undone
  rw [result] at after ⊢
  refine pages.step sound after (.of_forget (by rw [forget_setAllocation, same]))
    (.of_objects added.objects) ?_
  intro other place range isRange
  by_cases isFresh : other = process ∧ place = .allocation slot
  · grind [backed_setAllocation]
  refine Or.inl (rangeKept_setUserMemory middle added.userMemory added.pages isRange ?_)
  intro isProcess isHere
  have away : place ≠ .allocation slot := fun same => isFresh ⟨isProcess, same⟩
  rw [rangeAt_setAllocation, if_neg away, added.userMemory] at isHere
  refine ⟨isHere, ?_, (findVirtualRange_eq_some isBase).2 range (mem_activeRanges isHere)⟩
  rw [added.userMemory]
  exact sameEntry_setAllocation _ away

/-! ## Freeing -/

variable {state : UserMemoryProcessState}

theorem baseInArena_of_range (sound : RangesSound state)
    {place : RangeSlot} {range : PageRange} (isRange : rangeAt state place = some range) :
    baseInArena range.1 = true := by
  have inside := sound.inside place range isRange
  simp only [InArena, PageRange.limit, userMemoryPageSize, userMemoryArenaBase,
    userMemoryArenaLimit] at inside
  rw [baseInArena, Bool.and_eq_true, Bool.and_eq_true, bne_iff_ne, decide_eq_true_iff,
    decide_eq_true_iff, userMemoryArenaBase, userMemoryArenaLimit]
  omega

theorem place_of_base (sound : RangesSound state)
    {first second : RangeSlot} {firstRange secondRange : PageRange}
    (isFirst : rangeAt state first = some firstRange)
    (isSecond : rangeAt state second = some secondRange) (same : firstRange.1 = secondRange.1) :
    first = second := by
  by_contra different
  have apart := sound.apart first second firstRange secondRange isFirst isSecond different
  have firstInside := sound.inside first firstRange isFirst
  have secondInside := sound.inside second secondRange isSecond
  grind [InArena, Apart, PageRange.limit, userMemoryPageSize]

theorem findAllocationExact_of_active (sound : RangesSound state)
    {slot : Nat} (inside : slot < userMemoryAllocationMax)
    (active : (state.allocations slot).active = true) :
    findAllocationExact state (state.allocations slot).base = some slot := by
  cases found : findAllocationExact state (state.allocations slot).base with
  | none =>
    rw [findAllocationExact, List.find?_eq_none] at found
    grind
  | some other =>
    rcases findAllocationExact_eq_some found with ⟨otherInside, otherActive, same⟩
    have isIt := place_of_base sound (rangeAt_allocation otherInside otherActive)
      (rangeAt_allocation inside active) same
    rw [RangeSlot.allocation.inj isIt]

theorem findMappingExact_eq_some {base slot : Nat} (found : findMappingExact state base = some slot) :
    slot < userMemoryBufferMappingMax ∧ (state.mappings slot).active = true ∧
      (state.mappings slot).base = base := by
  simp_all [findMappingExact, List.mem_range, Bool.and_eq_true, beq_iff_eq]

theorem findMappingExact_of_active (sound : RangesSound state)
    {slot : Nat} (inside : slot < userMemoryBufferMappingMax)
    (active : (state.mappings slot).active = true) :
    findMappingExact state (state.mappings slot).base = some slot := by
  cases found : findMappingExact state (state.mappings slot).base with
  | none =>
    rw [findMappingExact, List.find?_eq_none] at found
    grind
  | some other =>
    rcases findMappingExact_eq_some found with ⟨otherInside, otherActive, same⟩
    have isIt := place_of_base sound (rangeAt_mapping otherInside otherActive)
      (rangeAt_mapping inside active) same
    rw [RangeSlot.mapping.inj isIt]

theorem pmmFrameTaken_aligned {pmm : Pmm} {frame : Nat} (taken : pmmFrameTaken pmm frame = true) :
    frame % pmmPageSize = 0 := by
  by_contra unaligned
  rw [pmmFrameTaken, pmmFindFrame, if_pos unaligned] at taken
  cases taken

/-- Pages that show frames pass the check of a release. -/
theorem queryPages_of_shown (system : System) (process base left : Nat) :
    ∀ index, (∀ position < left, ∃ frame, (system.processes process).pages
        (pageAddress base (index + position)) = some ⟨frame, true, false⟩ ∧ frame % pmmPageSize = 0) →
      ∃ frames, queryPages system process base left index = some frames := by
  induction left with
  | zero => exact fun _ _ => ⟨[], rfl⟩
  | succ left ih =>
    intro index shown
    rcases shown 0 (Nat.succ_pos left) with ⟨frame, isShown, aligned⟩
    have rest := ih (index + 1) fun position inside => by
      grind
    rcases rest with ⟨frames, found⟩
    have offset : frame &&& (userMemoryPageSize - 1) = 0 :=
      (Nat.and_two_pow_sub_one_eq_mod frame 12).trans aligned
    simp_all [queryPages]

section

variable (sound : SystemSound memoryMap system)
include sound

/-- An active allocation is freed as soon as there is memory for its frames. -/
theorem userMemoryFree_of_active (pages : PagesSound system)
    {process slot : Nat} (ready : processReady system process = true)
    (inside : slot < userMemoryAllocationMax)
    (active : ((system.processes process).userMemory.allocations slot).active = true)
    (answers : Answers) :
    answers.kmalloc = false ∧ userMemoryFree system process
        ((system.processes process).userMemory.allocations slot).base answers =
          (.error .noMemory, system) ∨
      answers.kmalloc = true ∧ ∃ last, userMemoryFree system process
          ((system.processes process).userMemory.allocations slot).base answers =
            (if answers.kfree = false then .error .internal else .ok (),
              last.setAllocation process slot allocationClear) ∧
        PagesOnly process (PageOf ((system.processes process).userMemory.allocations slot).base
          ((system.processes process).userMemory.allocations slot).pageCount) system last ∧
        Lives system last := by
  have isRange := rangeAt_allocation inside active
  have inArena := baseInArena_of_range (sound.ranges process).toRangesSound isRange
  rw [userMemoryFree, if_neg (ne_false_of_eq_true ready), if_neg (ne_false_of_eq_true inArena),
    findAllocationExact_of_active (sound.ranges process).toRangesSound inside active]
  dsimp only
  cases vector : answers.kmalloc with
  | false => exact Or.inl ⟨rfl, rfl⟩
  | true =>
    right
    refine ⟨rfl, ?_⟩
    have backed := pages.backed process (.allocation slot) _ isRange
    rcases queryPages_of_shown system process _ _ 0 fun position here => by
      rcases backed position here with ⟨frame, isShown⟩
      rw [Nat.zero_add]
      have taken := sound.storage.frames.ledger.taken (.allocation process slot position) frame
        ⟨⟨inside, active, here⟩, _, isShown, rfl⟩
      exact ⟨frame, isShown, pmmFrameTaken_aligned taken⟩ with ⟨frames, isFrames⟩
    rcases allocation_taken sound inside active isFrames answers with
      ⟨middle, last, result, freed, -, only, same⟩
    rw [isFrames]
    rw [result]
    dsimp only
    rw [freed]
    exact ⟨last, rfl, only, .of_forget same⟩

theorem userMemoryFree_pages (pages : PagesSound system) (process base : Nat) (answers : Answers) :
    PagesSound (userMemoryFree system process base answers).2 := by
  have after := userMemoryFree_sound sound process base answers
  rcases userMemoryFree_cases sound process base answers with
    same | ⟨slot, last, inside, active, -, only, same, result⟩
  · rw [same]
    exact pages
  rw [result] at after ⊢
  refine pages.step sound after (.of_forget (by rw [forget_setAllocation, same]))
    (.of_objects only.objects) ?_
  intro other place range isRange
  refine Or.inl (rangeKept_setUserMemory last only.userMemory only.pages isRange ?_)
  intro isProcess isHere
  rcases rangeAt_clearAllocation isHere with ⟨away, isHere⟩
  rw [only.userMemory] at isHere ⊢
  exact ⟨isHere, sameEntry_setAllocation _ away, (sound.ranges process).apart place
    (.allocation slot) range _ isHere (rangeAt_allocation inside active) away⟩

/-! ## Buffers -/

theorem userBufferCreate_pages (pages : PagesSound system) (process size : Nat) (answers : Answers) :
    PagesSound (userBufferCreate system process size answers).2 := by
  have after := userBufferCreate_sound sound process size answers
  rcases userBufferCreate_cases sound process size answers with undone |
    ⟨index, slot, frames, middle, handle, -, inactive, -, only, same, result, -⟩
  · exact pages.undone sound undone
  rw [result] at after ⊢
  refine pages.sameRanges sound after
    ((Lives.of_forget same).trans (lives_setUserMemory _ process _)) ?_ ?_
  · rw [← only.objects] at inactive
    have entered := BuffersKept.setObject middle index ⟨size, frames, 1, true⟩ (Or.inl inactive)
    intro other wasActive
    rw [← only.objects] at wasActive ⊢
    exact entered other wasActive
  · intro other
    have entered := sameRanges_setHandle (enterBuffer middle index size frames) process slot handle other
    refine ⟨entered.1.trans ?_, entered.2.1.trans ?_, entered.2.2.trans ?_⟩
    · exact funext fun address => only.pages other address And.right
    · exact congrArg _ (only.userMemory other)
    · exact congrArg _ (only.userMemory other)

theorem userBufferMap_pages (pages : PagesSound system) (process encoded : Nat) (answers : Answers) :
    PagesSound (userBufferMap system process encoded answers).2 := by
  have after := userBufferMap_sound sound process encoded answers
  rcases userBufferMap_cases sound process encoded answers with undone |
    ⟨index, object, slot, base, mapped, middle, isObject, isBase, isMapped, same, result, -⟩
  · exact pages.undone sound undone
  rcases mapPages_sound answers object.frames 0 sound.storage.frames
    (notAllocated_of_found isBase) (Nat.le_of_eq (Nat.zero_add _)) mapped true middle isMapped with
    ⟨-, added, -⟩
  have shows := mapPages_shows answers object.frames 0 sound.storage.frames
    (notAllocated_of_found isBase) (Nat.le_of_eq (Nat.zero_add _)) mapped middle isMapped
  rw [result] at after ⊢
  refine pages.step sound after
    ((Lives.of_forget same).trans (lives_setUserMemory _ process _)) ?_ ?_
  · have counted := BuffersKept.setObject middle index
      { object with referenceCount := object.referenceCount + 1 }
      (Or.inr (Or.inr (by rw [added.objects, isObject])))
    intro other wasActive
    rw [← added.objects] at wasActive ⊢
    exact counted other wasActive
  · intro other place range isRange
    by_cases isFresh : other = process ∧ place = .mapping slot
    · simp_all [backed_setMapping]
    refine Or.inl (rangeKept_setUserMemory (middle.setObject index
      { object with referenceCount := object.referenceCount + 1 })
      added.userMemory added.pages isRange ?_)
    intro isProcess isHere
    have away : place ≠ .mapping slot := fun same => isFresh ⟨isProcess, same⟩
    rw [rangeAt_setMapping, if_neg away] at isHere
    change rangeAt (middle.processes process).userMemory place = some range at isHere
    rw [added.userMemory] at isHere
    refine ⟨isHere, ?_, (findVirtualRange_eq_some isBase).2 range (mem_activeRanges isHere)⟩
    change SameEntry _ { (middle.processes process).userMemory with
      mappings := Function.update (middle.processes process).userMemory.mappings slot _ } place
    rw [added.userMemory]
    exact sameEntry_setMapping _ away

end

/-- The buffer that a mapping or a handle refers to is released with its last
reference, and its storage only waits for the heap. -/
theorem objectUnref_of_present (reserved : FirstPageReserved memoryMap)
    (storage : StorageSound memoryMap system) {index : Nat} (present : objectAt system index ≠ none)
    (kfree : Bool) (takes : kfree = true) : (objectUnref system index kfree).1 = true := by
  rcases Option.ne_none_iff_exists'.mp present with ⟨object, found⟩
  rcases objectAt_eq_some.mp found with ⟨-, active, isObject⟩
  have positive := storage.referenced index active
  rw [isObject] at positive active
  rw [objectUnref, found]
  dsimp only
  rw [if_neg (Nat.ne_of_gt positive)]
  split
  · rename_i last
    rw [last]
    rcases releaseStorage_sound reserved storage isObject active kfree with ⟨next, result, -⟩
    rw [result]
    exact takes
  · rfl

theorem userBufferUnmap_of_active (sound : SystemSound memoryMap system)
    (pages : PagesSound system) {process slot : Nat} (ready : processReady system process = true)
    (inside : slot < userMemoryBufferMappingMax)
    (active : ((system.processes process).userMemory.mappings slot).active = true) (answers : Answers) :
    let mapping := (system.processes process).userMemory.mappings slot
    ∃ middle, FramesSound memoryMap middle [] ∧
      PagesOnly process (PageOf mapping.base mapping.pageCount) system middle ∧ Lives system middle ∧
      userBufferUnmap system process mapping.base answers =
        match objectUnref (middle.setMapping process slot mappingClear) mapping.objectIndex answers.kfree with
        | (false, next) => (.error .internal, next)
        | (true, next) => (.ok (), next) := by
  have isRange := rangeAt_mapping inside active
  have inArena := baseInArena_of_range (sound.ranges process).toRangesSound isRange
  have backed := pages.backed process (.mapping slot) _ isRange
  rcases Option.ne_none_iff_exists'.mp (sound.mapped_active inside active) with ⟨object, found⟩
  rcases objectAt_eq_some.mp found with ⟨-, -, isObject⟩
  simp only [Backed, isObject] at backed
  have passes := pagesShow_of_shows found backed.2 _ 0 (Nat.le_of_eq (Nat.zero_add _))
  have unmapped := unmapPages_of_shown answers process
    ((system.processes process).userMemory.mappings slot).base
    ((system.processes process).userMemory.mappings slot).pageCount 0 system fun position here => by
      rw [← backed.1] at here
      have isShown := backed.2 position _ (List.getElem?_eq_getElem here)
      grind
  rcases result : unmapPages answers process ((system.processes process).userMemory.mappings slot).base
    ((system.processes process).userMemory.mappings slot).pageCount 0 system with ⟨ok, middle⟩
  rw [result] at unmapped
  subst unmapped
  rcases unmapPages_sound answers process _ _ _ 0 sound.storage.frames
    (Nat.le_of_eq (Nat.zero_add _)) true middle result with ⟨frames, only⟩
  refine ⟨middle, frames, only, ?_, ?_⟩
  · grind [Lives.of_forget, forget_unmapPages]
  · rw [userBufferUnmap, if_neg (ne_false_of_eq_true ready), if_neg (ne_false_of_eq_true inArena),
      findMappingExact_of_active (sound.ranges process).toRangesSound inside active]
    grind

section

variable (reserved : FirstPageReserved memoryMap)
include reserved

theorem objectUnref_processes (storage : StorageSound memoryMap system) (index : Nat) (kfree : Bool) :
    (objectUnref system index kfree).2.processes = system.processes :=
  (objectUnref_storage reserved storage index kfree).2.1

theorem userBufferUnmap_pages
    (sound : SystemSound memoryMap system) (pages : PagesSound system) (process base : Nat)
    (answers : Answers) : PagesSound (userBufferUnmap system process base answers).2 := by
  have after := userBufferUnmap_sound reserved sound process base answers
  by_cases ready : processReady system process = false
  · rw [userBufferUnmap, if_pos ready]
    exact pages
  cases found : findMappingExact (system.processes process).userMemory base with
  | none =>
    rw [userBufferUnmap, if_neg ready, found]
    grind
  | some slot =>
    rcases findMappingExact_eq_some found with ⟨inside, active, rfl⟩
    rw [Bool.not_eq_false] at ready
    rcases userBufferUnmap_of_active sound pages ready inside active answers with
      ⟨middle, frames, only, lives, result⟩
    let cleared := middle.setMapping process slot mappingClear
    let index := ((system.processes process).userMemory.mappings slot).objectIndex
    have final : (userBufferUnmap system process
        ((system.processes process).userMemory.mappings slot).base answers).2 =
          (objectUnref cleared index answers.kfree).2 := by
      rw [result]
      rcases objectUnref cleared index answers.kfree with ⟨ok, -⟩
      cases ok <;> rfl
    have storage : StorageSound memoryMap cleared :=
      (sound.pagesOnly frames only).storage.setUserMemory rfl
    have processes := objectUnref_processes reserved storage index answers.kfree
    rw [final] at after ⊢
    refine pages.step sound after ?_ ?_ ?_
    · exact (lives.trans (lives_setUserMemory middle process _)).trans (.of_processes processes)
    · intro other wasActive isActive
      have kept := objectUnref_buffers cleared index answers.kfree other
      rw [← only.objects] at wasActive ⊢
      exact kept wasActive isActive
    · intro other place range isRange
      rw [processes] at isRange
      refine Or.inl (RangeKept.of_processes (rangeKept_setUserMemory middle
        only.userMemory only.pages isRange ?_) processes)
      intro isProcess isHere
      rcases rangeAt_clearMapping isHere with ⟨away, isHere⟩
      rw [only.userMemory] at isHere ⊢
      exact ⟨isHere, sameEntry_setMapping _ away, (sound.ranges process).apart place
        (.mapping slot) range _ isHere (rangeAt_mapping inside active) away⟩

theorem userBufferClose_pages
    (sound : SystemSound memoryMap system) (pages : PagesSound system) (process encoded : Nat)
    (kfree : Bool) : PagesSound (userBufferClose system process encoded kfree).2 := by
  have after := userBufferClose_sound reserved sound process encoded kfree
  rw [userBufferClose] at after ⊢
  split
  · exact pages
  rename_i ready
  rw [if_neg ready] at after
  split
  · exact pages
  rename_i slot decoded
  rw [decoded] at after
  dsimp only at after ⊢
  let handle := (system.processes process).userMemory.handles slot
  let reset := system.setHandle process slot (handleReset handle)
  have storage := (sound.kept.setHandle process slot (handleReset handle)).storage
  have processes := objectUnref_processes reserved storage handle.objectIndex kfree
  have buffers := objectUnref_buffers reset handle.objectIndex kfree
  rcases result : objectUnref reset handle.objectIndex kfree with ⟨ok, last⟩
  rw [result] at processes buffers
  have kept : ∀ sound', PagesSound last := fun sound' => by
    refine pages.sameRanges sound sound' ?_ buffers ?_
    · exact (lives_setUserMemory system process _).trans (.of_processes processes)
    · intro other
      rw [processes]
      exact sameRanges_setHandle system process slot (handleReset handle) other
  rw [result] at after
  cases ok with
  | false => exact kept after
  | true => exact kept after

end

/-! ## Attachments and processes -/

theorem userBufferRetain_pages (sound : SystemSound memoryMap system) (pages : PagesSound system)
    (process encoded reference : Nat) :
    PagesSound (userBufferRetain system process encoded reference).2 := by
  have after := userBufferRetain_sound sound process encoded reference
  have processes : (userBufferRetain system process encoded reference).2.processes =
      system.processes := by
    simp only [userBufferRetain]
    repeat' split
    all_goals rfl
  have buffers : BuffersKept system (userBufferRetain system process encoded reference).2 := by
    rw [userBufferRetain]
    split
    · exact .of_objects rfl
    split
    · exact .of_objects rfl
    split
    · exact .of_objects rfl
    dsimp only
    split
    · exact .of_objects rfl
    rename_i object found
    split
    · exact .of_objects rfl
    · exact BuffersKept.setObject system _ _
        (Or.inr (Or.inr (by rw [(objectAt_eq_some.mp found).2.2])))
  exact pages.sameRanges sound after (.of_processes processes) buffers (.of_processes processes)

theorem userBufferReleaseRetained_pages (reserved : FirstPageReserved memoryMap)
    (sound : SystemSound memoryMap system) (pages : PagesSound system) (reference : Nat)
    (kfree : Bool) : PagesSound (userBufferReleaseRetained system reference kfree).2 := by
  have after := userBufferReleaseRetained_sound reserved sound reference kfree
  rw [userBufferReleaseRetained] at after ⊢
  split
  · exact pages
  rename_i index isRetained
  rw [isRetained] at after
  dsimp only at after
  split
  · exact pages
  rename_i present
  rw [if_neg present] at after
  have storage : StorageSound memoryMap (system.setRetained reference none) :=
    sound.storage.withFrames (sound.storage.frames.shrink rfl fun owner frame has => by
      cases owner <;> exact has) rfl rfl
  have processes := objectUnref_processes reserved storage index kfree
  have buffers := objectUnref_buffers (system.setRetained reference none) index kfree
  rcases result : objectUnref (system.setRetained reference none) index kfree with ⟨ok, last⟩
  rw [result] at processes buffers after
  have kept : ∀ sound', PagesSound last := fun sound' =>
    pages.sameRanges sound sound' (.of_processes processes) buffers (.of_processes processes)
  grind

section

variable (sound : SystemSound memoryMap system)
include sound

theorem userBufferInstall_pages (pages : PagesSound system)
    (process reference : Nat) : PagesSound (userBufferInstall system process reference).2 := by
  have after := userBufferInstall_sound sound process reference
  rw [userBufferInstall] at after ⊢
  split
  · exact pages
  rename_i ready
  rw [if_neg ready] at after
  split
  · exact pages
  rename_i index isRetained
  rw [isRetained] at after
  dsimp only at after
  split
  · exact pages
  rename_i present
  rw [if_neg present] at after
  dsimp only at after ⊢
  split
  · exact pages
  rename_i slot isSlot
  rw [isSlot] at after
  dsimp only at after
  split
  · exact pages
  rename_i encoded isEncoded
  rw [isEncoded] at after
  exact pages.sameRanges sound after (lives_setUserMemory system process _)
    (.of_objects rfl) (sameRanges_setHandle system process slot _)

theorem processCreate_pages (pages : PagesSound system)
    (process pid : Nat) : PagesSound (processCreate system process pid) := by
  have after := processCreate_kept sound process pid
  rw [processCreate] at after ⊢
  split
  · exact pages
  rename_i dead
  rw [if_neg dead] at after
  constructor
  · intro other
    simp only [System.setProcess, Function.update_apply]
    split
    · exact fun _ => rfl
    · exact pages.ready other
  · intro other place range isRange
    by_cases same : other = process
    · simp only [System.setProcess, Function.update_apply, if_pos same] at isRange
      cases place with
      | allocation slot => cases (rangeAt_allocation_eq_some isRange).2.1
      | mapping slot => cases (rangeAt_mapping_eq_some isRange).2.1
    · simp only [System.setProcess, Function.update_apply, if_neg same] at isRange
      refine (pages.backed other place range isRange).kept sound after (.of_objects rfl)
        ⟨isRange, ?_, fun address _ => ?_⟩
      · simp only [System.setProcess, Function.update_apply, if_neg same]
        cases place <;> rfl
      · simp only [System.setProcess, Function.update_apply, if_neg same]

theorem processMarkFinished_pages (pages : PagesSound system)
    (process : Nat) : PagesSound (processMarkFinished system process) := by
  have after := processMarkFinished_kept sound process
  rw [processMarkFinished] at after ⊢
  split
  · exact pages
  rename_i finishes
  rw [if_neg finishes] at after
  have same : SameRanges system (system.setProcess process
      { system.processes process with alive := false }) := by
    intro other
    simp only [System.setProcess, Function.update_apply]
    split
    · simp [*]
    · exact ⟨rfl, rfl, rfl⟩
  constructor
  · intro other
    simp only [System.setProcess, Function.update_apply]
    split
    · intro impossible
      cases impossible
    · exact pages.ready other
  · intro other place range isRange
    have kept := same.rangeKept isRange
    exact (pages.backed other place range kept.before).kept sound after (.of_objects rfl) kept

theorem foreignSteps_pages (pages : PagesSound system)
    (calls : List ForeignCall) : PagesSound (foreignSteps system calls) := by
  have only : PagesOnly 0 (PageOf 0 0) system (foreignSteps system calls) :=
    foreignSteps_pagesOnly 0 _ calls system
  refine pages.step sound (foreignSteps_kept sound calls)
    (.of_forget (forget_foreignSteps system calls)) (.of_objects only.objects) ?_
  intro other place range isRange
  rw [only.userMemory] at isRange
  refine Or.inl (rangeKept_of_apart only.userMemory only.pages isRange fun _ => ?_)
  exact Or.inr (Nat.zero_le _)

end

/-! ## Runs -/

/-- Both parts of the invariant -/
def AllSound (memoryMap : List MemmapEntry) (system : System) : Prop :=
  SystemSound memoryMap system ∧ PagesSound system

theorem userMemoryProcessCleanup_pages (reserved : FirstPageReserved memoryMap)
    (both : AllSound memoryMap system) (process : Nat)
    (allocationAnswers mappingAnswers : Nat → Answers) (handleKfree : Nat → Bool) :
    AllSound memoryMap (userMemoryProcessCleanup system process allocationAnswers mappingAnswers
      handleKfree).2 := by
  refine userMemoryProcessCleanup_kept process allocationAnswers mappingAnswers handleKfree ?_ ?_ ?_ both
  · rintro system slot ⟨sound, pages⟩
    refine ⟨releaseAllocation_sound sound process allocationAnswers slot, ?_⟩
    grind [releaseAllocation, userMemoryFree_pages]
  · rintro system slot ⟨sound, pages⟩
    refine ⟨releaseMapping_sound reserved sound process mappingAnswers slot, ?_⟩
    grind [releaseMapping, userBufferUnmap_pages]
  · rintro system slot ⟨sound, pages⟩
    refine ⟨releaseHandle_sound reserved sound process handleKfree slot, ?_⟩
    grind [releaseHandle, userBufferClose_pages]

theorem step_pages (reserved : FirstPageReserved memoryMap) (system : System)
    (call : UserMemoryCall) (both : AllSound memoryMap system) :
    AllSound memoryMap (call.step system) := by
  rcases both with ⟨sound, pages⟩
  refine ⟨step_sound reserved system call sound, ?_⟩
  cases call with
  | create process size answers => exact userBufferCreate_pages sound pages process size answers
  | map process encoded answers => exact userBufferMap_pages sound pages process encoded answers
  | unmap process base answers =>
    exact userBufferUnmap_pages reserved sound pages process base answers
  | close process encoded kfree =>
    exact userBufferClose_pages reserved sound pages process encoded kfree
  | retain process encoded reference =>
    exact userBufferRetain_pages sound pages process encoded reference
  | releaseRetained reference kfree =>
    exact userBufferReleaseRetained_pages reserved sound pages reference kfree
  | install process reference => exact userBufferInstall_pages sound pages process reference
  | allocate process size answers =>
    exact userMemoryAllocate_pages sound pages process size answers
  | free process base answers => exact userMemoryFree_pages sound pages process base answers
  | cleanup process allocationAnswers mappingAnswers handleKfree =>
    exact (userMemoryProcessCleanup_pages reserved ⟨sound, pages⟩ process allocationAnswers
      mappingAnswers handleKfree).2
  | processCreate process pid => exact processCreate_pages sound pages process pid
  | processMarkFinished process => exact processMarkFinished_pages sound pages process
  | others calls => exact foreignSteps_pages sound pages calls

theorem initial_pages (memoryMap : List MemmapEntry) : PagesSound (System.initial memoryMap) where
  ready _ alive := by cases alive
  backed process place range isRange := by
    cases place with
    | allocation slot => nofun
    | mapping slot => cases (rangeAt_mapping_eq_some isRange).2.1

theorem run_pages (reserved : FirstPageReserved memoryMap)
    (accepted : (pmmInit memoryMap).1 = true) (calls : List UserMemoryCall) :
    AllSound memoryMap (run UserMemoryCall.step (System.initial memoryMap) calls) :=
  run_invariant (step_pages reserved) calls _ ⟨initial_sound accepted, initial_pages memoryMap⟩

end

end BoringOS.UserMemory
