import BoringOS.UserMemory.UserMemoryRuns

namespace BoringOS.UserMemory

open Library Ipc Memory

/-!
# The pages behind the ranges

The invariant of user memory says who owns a frame that a page shows.  Here the
other direction is added: the pages of every active range are there.  An
allocation shows a frame on each of its pages, and a mapping shows the frames of
its buffer in their order.  So the checks that a release makes on the pages
before it unmaps them succeed.
-/

/-- The pages of the range in this place are there. -/
def Backed (system : System) (process : Nat) : RangeSlot → Prop
  | .allocation slot =>
    let allocation := (system.processes process).userMemory.allocations slot
    ∀ position < allocation.pageCount, ∃ frame, (system.processes process).pages
      (pageAddress allocation.base position) = some ⟨frame, true, false⟩
  | .mapping slot =>
    let mapping := (system.processes process).userMemory.mappings slot
    let object := system.objects mapping.objectIndex
    object.frames.length = mapping.pageCount ∧ RangeShows system process mapping.base 0 object.frames

structure PagesSound (system : System) : Prop where
  ready : ∀ process, (system.processes process).alive = true →
    (system.processes process).addressSpaceReady = true
  backed : ∀ process place range,
    rangeAt (system.processes process).userMemory place = some range → Backed system process place

/-- The entry in this place is the same. -/
def SameEntry (state state' : UserMemoryProcessState) : RangeSlot → Prop
  | .allocation slot => state'.allocations slot = state.allocations slot
  | .mapping slot => state'.mappings slot = state.mappings slot

/-- The process is alive, and has an address space, as before. -/
def Lives (system next : System) : Prop :=
  ∀ process, (next.processes process).alive = (system.processes process).alive ∧
    (next.processes process).addressSpaceReady = (system.processes process).addressSpaceReady

/-- A buffer that is there before and after has the same frames. -/
def BuffersKept (system next : System) : Prop :=
  ∀ index, (system.objects index).active = true → (next.objects index).active = true →
    (next.objects index).frames = (system.objects index).frames

/-- A range that was there, with its entry and its pages -/
structure RangeKept (system next : System) (process : Nat) (place : RangeSlot) (range : PageRange) :
    Prop where
  before : rangeAt (system.processes process).userMemory place = some range
  entry : SameEntry (system.processes process).userMemory (next.processes process).userMemory place
  pages : ∀ address, PageOf range.1 range.2 address →
    (next.processes process).pages address = (system.processes process).pages address

section

variable {memoryMap : List MemmapEntry} {system next : System} {process : Nat}

variable {state : UserMemoryProcessState}

variable {slot : Nat}

theorem rangeAt_allocation
    (inside : slot < userMemoryAllocationMax) (active : (state.allocations slot).active = true) :
    rangeAt state (.allocation slot) =
      some ((state.allocations slot).base, (state.allocations slot).pageCount) :=
  if_pos ⟨inside, active⟩

theorem rangeAt_mapping
    (inside : slot < userMemoryBufferMappingMax) (active : (state.mappings slot).active = true) :
    rangeAt state (.mapping slot) =
      some ((state.mappings slot).base, (state.mappings slot).pageCount) :=
  if_pos ⟨inside, active⟩

variable {range : PageRange}

theorem rangeAt_allocation_eq_some (isRange : rangeAt state (.allocation slot) = some range) :
    slot < userMemoryAllocationMax ∧ (state.allocations slot).active = true ∧
      range = ((state.allocations slot).base, (state.allocations slot).pageCount) := by
  rw [rangeAt] at isRange
  simp_all

theorem rangeAt_mapping_eq_some (isRange : rangeAt state (.mapping slot) = some range) :
    slot < userMemoryBufferMappingMax ∧ (state.mappings slot).active = true ∧
      range = ((state.mappings slot).base, (state.mappings slot).pageCount) := by
  rw [rangeAt] at isRange
  simp_all

theorem Apart.pages {first second : PageRange} (apart : Apart first second) {address : Nat}
    (isFirst : PageOf first.1 first.2 address) : ¬ PageOf second.1 second.2 address := by
  rintro ⟨secondPosition, secondInside, same⟩
  rcases isFirst with ⟨firstPosition, firstInside, rfl⟩
  grind [pageAddress, userMemoryPageSize, Apart, PageRange.limit]

theorem SystemSound.mapped_active (sound : SystemSound memoryMap system)
    (inside : slot < userMemoryBufferMappingMax)
    (active : ((system.processes process).userMemory.mappings slot).active = true) :
    objectAt system ((system.processes process).userMemory.mappings slot).objectIndex ≠ none := by
  have holds : Holds system.forget (Retains system) (.mapping process slot)
      ((system.processes process).userMemory.mappings slot).objectIndex := ⟨inside, active, rfl⟩
  intro absent
  have positive := sound.counts.positive holds
  rw [references, forget_objectAt, absent] at positive
  exact Nat.lt_irrefl 0 positive

theorem SystemSound.handle_active (sound : SystemSound memoryMap system)
    (inside : slot < userMemoryBufferHandleMax)
    (active : ((system.processes process).userMemory.handles slot).active = true) :
    objectAt system ((system.processes process).userMemory.handles slot).objectIndex ≠ none := by
  have holds : Holds system.forget (Retains system) (.handle process slot)
      ((system.processes process).userMemory.handles slot).objectIndex := ⟨inside, active, rfl⟩
  intro absent
  have positive := sound.counts.positive holds
  rw [references, forget_objectAt, absent] at positive
  exact Nat.lt_irrefl 0 positive

theorem active_of_objectAt {index : Nat} (present : objectAt system index ≠ none) :
    (system.objects index).active = true := by
  rcases Option.ne_none_iff_exists'.mp present with ⟨object, found⟩
  exact (objectAt_eq_some.mp found).2.1

theorem Backed.kept {place : RangeSlot} {range : PageRange} (backed : Backed system process place)
    (sound : SystemSound memoryMap system) (after : SystemSound memoryMap next)
    (buffers : BuffersKept system next) (kept : RangeKept system next process place range) :
    Backed next process place := by
  rcases kept with ⟨before, entry, pages⟩
  cases place with
  | allocation slot =>
    rcases rangeAt_allocation_eq_some before with ⟨-, -, rfl⟩
    change (next.processes process).userMemory.allocations slot = _ at entry
    simp only [Backed, entry] at backed ⊢
    intro position inside
    rcases backed position inside with ⟨frame, shown⟩
    exact ⟨frame, (pages _ ⟨position, inside, rfl⟩).trans shown⟩
  | mapping slot =>
    rcases rangeAt_mapping_eq_some before with ⟨inside, active, rfl⟩
    change (next.processes process).userMemory.mappings slot = _ at entry
    have wasThere := active_of_objectAt (sound.mapped_active inside active)
    have isThere := active_of_objectAt (after.mapped_active inside (by rw [entry]; exact active))
    rw [entry] at isThere
    have frames := buffers _ wasThere isThere
    simp only [Backed, entry, frames] at backed ⊢
    refine ⟨backed.1, ?_⟩
    intro position frame isFrame
    refine (pages _ ⟨position, ?_, ?_⟩).trans (backed.2 position frame isFrame)
    · grind
    · rw [Nat.zero_add]

theorem PagesSound.step (pages : PagesSound system) (sound : SystemSound memoryMap system)
    (after : SystemSound memoryMap next) (lives : Lives system next)
    (buffers : BuffersKept system next) (places : ∀ process place range,
      rangeAt (next.processes process).userMemory place = some range →
        RangeKept system next process place range ∨ Backed next process place) :
    PagesSound next where
  ready process alive := by
    rw [(lives process).1] at alive
    rw [(lives process).2]
    exact pages.ready process alive
  backed process place range isRange := by
    rcases places process place range isRange with kept | backed
    · exact (pages.backed process place range kept.before).kept sound after buffers kept
    · exact backed

theorem Lives.of_processes (same : next.processes = system.processes) : Lives system next := by
  intro process
  rw [same]
  exact ⟨rfl, rfl⟩

theorem Lives.trans {middle : System} (first : Lives system middle) (second : Lives middle next) :
    Lives system next :=
  fun process => ⟨(second process).1.trans (first process).1, (second process).2.trans (first process).2⟩

/-- Pages do not show in what the bookkeeping of references sees. -/
theorem Lives.of_forget (same : next.forget = system.forget) : Lives system next := by
  intro process
  have processes := congrArg (fun buffers : Buffers => buffers.processes process) same
  exact ⟨congrArg Process.alive processes, congrArg Process.addressSpaceReady processes⟩

theorem lives_setUserMemory (system : System) (process : Nat) (memory : UserMemoryProcessState) :
    Lives system (system.setUserMemory process memory) := by
  intro other
  simp only [System.setUserMemory, System.setProcess, Function.update_apply]
  grind

theorem BuffersKept.of_objects (same : next.objects = system.objects) : BuffersKept system next := by
  intro index _ _
  rw [same]

/-- An object was written that has the frames of the one before it, or that
follows a free one. -/
theorem BuffersKept.setObject (system : System) (index : Nat) (object : UserMemoryBufferObject)
    (same : (system.objects index).active = false ∨ object.active = false ∨
      object.frames = (system.objects index).frames) :
    BuffersKept system (system.setObject index object) := by
  intro other wasActive isActive
  simp only [System.setObject, Function.update_apply] at isActive ⊢
  grind

theorem releaseFrames_objects (serial : Nat) (frames : List Nat) :
    ∀ system : System, (releaseFrames serial frames system).2.objects = system.objects := by
  induction frames with
  | nil => exact fun _ => rfl
  | cons frame rest ih =>
    intro system
    rw [releaseFrames]
    split
    · exact ih system
    grind [freeFrame]

/-- Dropping a reference changes one object, which keeps its frames or vanishes. -/
theorem objectUnref_buffers (system : System) (index : Nat) (kfree : Bool) :
    BuffersKept system (objectUnref system index kfree).2 := by
  rw [objectUnref]
  split
  · exact .of_objects rfl
  rename_i object found
  rcases objectAt_eq_some.mp found with ⟨-, -, isObject⟩
  have sameFrames : BuffersKept system (system.setObject index
      { object with referenceCount := object.referenceCount - 1 }) :=
    .setObject system index _ (Or.inr (Or.inr (by rw [isObject])))
  split
  · exact .of_objects rfl
  split
  · rw [objectReleaseStorage]
    split
    · exact sameFrames
    intro other wasActive isActive
    simp only [System.setObject, Function.update_apply] at isActive ⊢
    split
    · rename_i same
      rw [if_pos same] at isActive
      cases isActive
    simp_all [releaseFrames_objects]
  · exact sameFrames

/-- The pages of a process, and its entries for ranges, are the same. -/
def SameRanges (system next : System) : Prop :=
  ∀ process, (next.processes process).pages = (system.processes process).pages ∧
    (next.processes process).userMemory.allocations =
      (system.processes process).userMemory.allocations ∧
    (next.processes process).userMemory.mappings = (system.processes process).userMemory.mappings

theorem SameRanges.of_processes (same : next.processes = system.processes) :
    SameRanges system next := by
  intro process
  rw [same]
  exact ⟨rfl, rfl, rfl⟩

theorem sameRanges_setHandle (system : System) (process slot : Nat) (handle : BufferHandle) :
    SameRanges system (system.setHandle process slot handle) := by
  intro other
  rw [System.setHandle, pages_setUserMemory, userMemory_setUserMemory]
  grind

variable {place : RangeSlot}

theorem SameRanges.rangeKept (same : SameRanges system next)
    (isRange : rangeAt (next.processes process).userMemory place = some range) :
    RangeKept system next process place range := by
  rcases same process with ⟨pages, allocations, mappings⟩
  refine ⟨?_, ?_, fun address _ => by rw [pages]⟩
  · simp_all [rangeAt]
  · cases place with
    | allocation slot => rw [SameEntry, allocations]
    | mapping slot => rw [SameEntry, mappings]

theorem rangeKept_of_apart {base count other : Nat}
    (tables : ∀ other, (next.processes other).userMemory = (system.processes other).userMemory)
    (pages : ∀ other address, ¬ (other = process ∧ PageOf base count address) →
      (next.processes other).pages address = (system.processes other).pages address)
    (isRange : rangeAt (system.processes other).userMemory place = some range)
    (away : other = process → Apart range (base, count)) :
    RangeKept system next other place range where
  before := isRange
  entry := by
    rw [tables]
    cases place <;> rfl
  pages address isPage := by
    apply pages
    rintro ⟨same, touched⟩
    exact (away same).pages isPage touched

theorem rangeKept_setUserMemory (next : System) {base count other : Nat} {memory : UserMemoryProcessState}
    (tables : ∀ other, (next.processes other).userMemory = (system.processes other).userMemory)
    (pages : ∀ other address, ¬ (other = process ∧ PageOf base count address) →
      (next.processes other).pages address = (system.processes other).pages address)
    (isRange : rangeAt ((next.setUserMemory process memory).processes other).userMemory place =
      some range) (here : other = process → rangeAt memory place = some range →
      rangeAt (system.processes process).userMemory place = some range ∧
        SameEntry (system.processes process).userMemory memory place ∧ Apart range (base, count)) :
    RangeKept system (next.setUserMemory process memory) other place range := by
  rw [userMemory_setUserMemory] at isRange
  by_cases isProcess : other = process
  · rw [if_pos isProcess] at isRange
    rcases here isProcess isRange with ⟨before, entry, apart⟩
    subst isProcess
    have kept := rangeKept_of_apart tables pages before fun _ => apart
    refine ⟨before, ?_, fun address isPage => ?_⟩
    · rw [userMemory_setUserMemory, if_pos rfl]
      exact entry
    · rw [pages_setUserMemory]
      exact kept.pages address isPage
  · rw [if_neg isProcess, tables] at isRange
    have kept := rangeKept_of_apart tables pages isRange fun same => absurd same isProcess
    refine ⟨isRange, ?_, fun address isPage => ?_⟩
    · rw [userMemory_setUserMemory, if_neg isProcess]
      exact kept.entry
    · rw [pages_setUserMemory]
      exact kept.pages address isPage

theorem RangeKept.of_processes {middle : System} (kept : RangeKept system middle process place range)
    (same : next.processes = middle.processes) : RangeKept system next process place range := by
  refine ⟨kept.before, ?_, ?_⟩
  · rw [same]
    exact kept.entry
  · rw [same]
    exact kept.pages

/-- A call that leaves the ranges and their pages as they are -/
theorem PagesSound.sameRanges (pages : PagesSound system) (sound : SystemSound memoryMap system)
    (after : SystemSound memoryMap next) (lives : Lives system next)
    (buffers : BuffersKept system next) (same : SameRanges system next) : PagesSound next :=
  pages.step sound after lives buffers fun _ _ _ isRange => Or.inl (same.rangeKept isRange)

theorem PagesSound.undone (pages : PagesSound system) (sound : SystemSound memoryMap system)
    (undone : Undone memoryMap process system next) : PagesSound next := by
  rcases undone.pages with ⟨base, count, only, away⟩
  refine pages.step sound (undone.sound sound) (.of_forget undone.forget) (.of_objects only.objects) ?_
  intro other place range isRange
  rw [only.userMemory] at isRange
  refine Or.inl (rangeKept_of_apart only.userMemory only.pages isRange ?_)
  rintro rfl
  exact away range (mem_activeRanges isRange)

end

end BoringOS.UserMemory
