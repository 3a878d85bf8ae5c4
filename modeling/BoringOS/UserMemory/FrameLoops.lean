import BoringOS.UserMemory.Frames

namespace BoringOS.UserMemory

open Library Ipc Memory

/-!
# Loops over pages and frames

Every loop of the calls keeps the ledger of frames.  It changes pages of one
process at the addresses of one range, and nothing else in the tables.
-/

/-- The addresses of the pages of a range -/
def PageOf (base count address : Nat) : Prop :=
  ∃ position < count, address = pageAddress base position

theorem pageAddress_injective {base first second : Nat}
    (same : pageAddress base first = pageAddress base second) : first = second := by
  simp only [pageAddress, userMemoryPageSize] at same
  omega

/-- No page of the range belongs to an allocation. -/
def NotAllocated (state : UserMemoryProcessState) (base count : Nat) : Prop :=
  ∀ slot position, AllocatedPage state slot position →
    ¬ PageOf base count (allocationAddress state slot position)

/-- Only the allocator, and pages of the process at these addresses, have changed. -/
structure PagesOnly (process : Nat) (touched : Nat → Prop) (system next : System) : Prop where
  objects : next.objects = system.objects
  retained : next.retained = system.retained
  books : next.books = system.books
  userMemory : ∀ other, (next.processes other).userMemory = (system.processes other).userMemory
  pages : ∀ other address, ¬ (other = process ∧ touched address) →
    (next.processes other).pages address = (system.processes other).pages address

namespace PagesOnly

variable {process : Nat} {touched : Nat → Prop} {system middle next : System}

theorem refl (system : System) : PagesOnly process touched system system :=
  ⟨rfl, rfl, rfl, fun _ => rfl, fun _ _ _ => rfl⟩

theorem trans (first : PagesOnly process touched system middle)
    (second : PagesOnly process touched middle next) : PagesOnly process touched system next where
  objects := second.objects.trans first.objects
  retained := second.retained.trans first.retained
  books := second.books.trans first.books
  userMemory other := (second.userMemory other).trans (first.userMemory other)
  pages other address away := (second.pages other address away).trans (first.pages other address away)

theorem of_tables (processes : next.processes = system.processes)
    (objects : next.objects = system.objects) (retained : next.retained = system.retained)
    (books : next.books = system.books) : PagesOnly process touched system next where
  objects := objects
  retained := retained
  books := books
  userMemory other := by rw [processes]
  pages other address _ := by rw [processes]

end PagesOnly

section

variable {memoryMap : List MemmapEntry} {system next : System} {pending : List Nat}
  {process : Nat} {touched : Nat → Prop}

/-! ## One page or one frame -/

theorem allocFrame_pagesOnly {frame : Option Nat} (result : allocFrame system = (frame, next)) :
    PagesOnly process touched system next := by
  cases result
  exact .of_tables rfl rfl rfl rfl

theorem foreignSteps_pagesOnly (process : Nat) (touched : Nat → Prop) (calls : List ForeignCall) :
    ∀ system, PagesOnly process touched system (foreignSteps system calls) := by
  induction calls with
  | nil => exact .refl
  | cons call rest ih =>
    intro system
    refine PagesOnly.trans ?_ (ih (foreignStep system call))
    cases call with
    | alloc minimum maximum =>
      rw [foreignStep]
      split
      · exact .of_tables rfl rfl rfl rfl
      · exact .of_tables rfl rfl rfl rfl
    | free frame =>
      rw [foreignStep]
      split
      · exact .refl system
      · exact .of_tables rfl rfl rfl rfl

theorem pages_setPage (system : System) (process address : Nat) (page : Option UserPage)
    (other another : Nat) : ((system.setPage process address page).processes other).pages another =
      if other = process ∧ another = address then page
      else (system.processes other).pages another := by
  simp only [System.setPage, System.setProcess, Function.update_apply]
  by_cases same : other = process
  · subst same
    grind
  · simp only [same, if_false, false_and]

theorem userMemory_setPage (system : System) (process address : Nat) (page : Option UserPage)
    (other : Nat) : ((system.setPage process address page).processes other).userMemory =
      (system.processes other).userMemory := by
  simp only [System.setPage, System.setProcess, Function.update_apply]
  grind

variable {address : Nat}

theorem setPage_pagesOnly (isTouched : touched address) (page : Option UserPage) :
    PagesOnly process touched system (system.setPage process address page) where
  objects := rfl
  retained := rfl
  books := rfl
  userMemory := userMemory_setPage system process address page
  pages other another away := by
    rw [pages_setPage]
    grind

/-- Nobody owns more after a page has vanished, or has appeared outside of the
allocations. -/
theorem setPage_sound (sound : FramesSound memoryMap system pending)
    {page : Option UserPage} (harmless : page = none ∨ ∀ slot position,
      AllocatedPage (system.processes process).userMemory slot position →
        allocationAddress (system.processes process).userMemory slot position ≠ address) :
    FramesSound memoryMap (system.setPage process address page) pending := by
  refine sound.shrink rfl ?_
  intro owner frame has
  cases owner with
  | allocation other slot position =>
    rcases has with ⟨isPage, shown, isShown, isFrame⟩
    rw [userMemory_setPage] at isPage isShown
    refine ⟨isPage, shown, ?_, isFrame⟩
    rw [pages_setPage] at isShown
    split at isShown
    · grind
    · exact isShown
  | _ => exact has

theorem unmapPage_sound (sound : FramesSound memoryMap system pending)
    {unmapped : Bool} (result : unmapPage system process address = (unmapped, next)) :
    FramesSound memoryMap next pending := by
  grind [unmapPage, setPage_sound]

theorem unmapPage_pagesOnly (isTouched : touched address) {unmapped : Bool}
    (result : unmapPage system process address = (unmapped, next)) :
    PagesOnly process touched system next := by
  rw [unmapPage] at result
  split at result
  · cases result
    exact .refl system
  · cases result
    exact setPage_pagesOnly isTouched none

theorem mapPage_eq_some {page : UserPage} {possible : Bool}
    (result : mapPage system process address page possible = some next) :
    (system.processes process).pages address = none ∧
      next = system.setPage process address (some page) := by
  rw [mapPage] at result
  simp_all

/-! ## Giving back -/

theorem rollbackMappings_sound (process base : Nat) {count : Nat} (mapped : Nat) :
    ∀ {system : System}, FramesSound memoryMap system pending → mapped ≤ count →
      FramesSound memoryMap (rollbackMappings process base mapped system) pending ∧
        PagesOnly process (PageOf base count) system
          (rollbackMappings process base mapped system) := by
  induction mapped with
  | zero => exact fun sound _ => ⟨sound, .refl _⟩
  | succ mapped ih =>
    intro system sound inside
    have here : PagesOnly process (PageOf base count) system
        (unmapPage system process (pageAddress base mapped)).2 :=
      unmapPage_pagesOnly ⟨mapped, inside, rfl⟩ rfl
    rcases ih (unmapPage_sound sound rfl) (Nat.le_of_succ_le inside) with ⟨after, rest⟩
    exact ⟨after, here.trans rest⟩

/-- The pending frames are given back, from the last to the first. -/
theorem freeFrameVector_sound (process : Nat) (touched : Nat → Prop) (frames : List Nat) :
    ∀ {system : System}, FramesSound memoryMap system frames →
      FramesSound memoryMap (freeFrameVector system frames) [] ∧
        PagesOnly process touched system (freeFrameVector system frames) := by
  induction frames using List.reverseRecOn with
  | nil => exact fun sound => ⟨sound, .refl _⟩
  | append_singleton rest frame ih =>
    intro system sound
    rw [freeFrameVector, List.reverse_append, List.reverse_singleton, List.singleton_append,
      List.foldl_cons]
    split
    · rcases freeFrame_last sound with ⟨next, result, after, tables⟩
      rw [result]
      rcases ih after with ⟨last, others⟩
      refine ⟨last, PagesOnly.trans ?_ others⟩
      rw [tables]
      exact .of_tables rfl rfl rfl rfl
    · apply ih
      apply sound.shrink rfl
      intro owner other has
      cases owner with
      | pending position =>
        have before : position < rest.length := (List.getElem?_eq_some_iff.mp has).1
        exact (List.getElem?_append_left before).trans has
      | _ => exact has

theorem freeFrames_sound (frames : List Nat) :
    ∀ {system : System}, FramesSound memoryMap system frames →
      ∃ next, freeFrames frames system = (true, next) ∧ FramesSound memoryMap next [] ∧
        next = { system with pmm := next.pmm } := by
  induction frames with
  | nil => exact fun {system} sound => ⟨system, rfl, sound, rfl⟩
  | cons frame rest ih =>
    grind [freeFrame_first, freeFrames]

/-- The frames of a buffer are given back, and the books record each of them once. -/
theorem releaseFrames_sound (reserved : FirstPageReserved memoryMap) (serial : Nat) (frames : List Nat) :
    ∀ {system : System}, FramesSound memoryMap system frames →
      ∃ next, releaseFrames serial frames system = (true, next) ∧ FramesSound memoryMap next [] ∧
        next = { system with
          pmm := next.pmm
          books := { system.books with
            freed := system.books.freed ++ frames.map fun frame => (serial, frame) } } := by
  induction frames with
  | nil =>
    intro system sound
    refine ⟨system, rfl, sound, ?_⟩
    rw [List.map_nil, List.append_nil]
  | cons frame rest ih =>
    intro system sound
    have has : Owns system (frame :: rest) (.pending 0) frame := List.getElem?_cons_zero
    have nonzero : frame ≠ 0 := sound.nonzero reserved has
    rcases freeFrame_first sound with ⟨middle, result, after, tables⟩
    have recorded : FramesSound memoryMap { middle with
        books := { middle.books with
          freed := middle.books.freed ++ [(serial, frame)] } } rest := after.shrink rfl
      fun owner other has => by cases owner <;> exact has
    grind [releaseFrames]

/-- Clearing the object does not depend on the frames that are given back. -/
theorem releaseFrames_setObject (serial index : Nat) (object : UserMemoryBufferObject) (frames : List Nat) :
    ∀ system : System, releaseFrames serial frames (system.setObject index object) =
      ((releaseFrames serial frames system).1,
        (releaseFrames serial frames system).2.setObject index object) := by
  induction frames with
  | nil => exact fun system => rfl
  | cons frame rest ih =>
    intro system
    simp only [releaseFrames]
    split
    · rw [ih]
    rcases free : pmmFreeFrame system.pmm frame with ⟨freed, pmm⟩
    have here : freeFrame system frame = (freed, { system with pmm := pmm }) := by
      rw [freeFrame, free]
    have there : freeFrame (system.setObject index object) frame =
        (freed, ({ system with pmm := pmm } : System).setObject index object) := by
      change ((pmmFreeFrame system.pmm frame).1, _) = _
      rw [free]
      exact congrArg (Prod.mk freed) (by simp only [System.setObject, free])
    rw [here, there]
    cases freed with
    | false => simp [*]
    | true =>
      exact ih { system with
        pmm := pmm
        books := { system.books with
          freed := system.books.freed ++ [(serial, frame)] } }

/-! ## Taking -/

/-- Pages of the range may have appeared, and none has vanished. -/
structure PagesAdded (process base count : Nat) (system next : System) : Prop
    extends PagesOnly process (PageOf base count) system next where
  kept : ∀ address page, (system.processes process).pages address = some page →
    (next.processes process).pages address = some page

variable {base count : Nat}

theorem PagesAdded.trans {middle : System} (first : PagesAdded process base count system middle)
    (second : PagesAdded process base count middle next) :
    PagesAdded process base count system next where
  toPagesOnly := first.toPagesOnly.trans second.toPagesOnly
  kept address page shown := second.kept address page (first.kept address page shown)

/-- Nothing is added when the pages are the same. -/
theorem PagesAdded.of_none (only : ∀ {touched : Nat → Prop}, PagesOnly process touched system next) :
    PagesAdded process base count system next where
  toPagesOnly := only
  kept address page shown := by
    have same : PagesOnly process (fun _ => False) system next := only
    rw [same.pages process address fun both => both.2]
    exact shown

theorem foreignSteps_pagesAdded (process : Nat) (system : System) (calls : List ForeignCall)
    (base count : Nat) : PagesAdded process base count system (foreignSteps system calls) :=
  .of_none (foreignSteps_pagesOnly process _ calls system)

theorem NotAllocated.added {base count : Nat}
    (free : NotAllocated (system.processes process).userMemory base count)
    (added : PagesAdded process base count system next) :
    NotAllocated (next.processes process).userMemory base count := by
  rw [added.userMemory]
  exact free

/-- A page that is mapped in a range without allocations -/
theorem mapPage_sound (sound : FramesSound memoryMap system pending) {base count index : Nat}
    (free : NotAllocated (system.processes process).userMemory base count) (inside : index < count)
    {page : UserPage} {possible : Bool}
    (result : mapPage system process (pageAddress base index) page possible = some next) :
    FramesSound memoryMap next pending ∧ PagesAdded process base count system next := by
  have isPage : PageOf base count (pageAddress base index) := ⟨index, inside, rfl⟩
  rcases mapPage_eq_some result with ⟨wasFree, rfl⟩
  refine ⟨setPage_sound sound (Or.inr ?_), setPage_pagesOnly isPage _, ?_⟩
  · intro slot position isAllocated isAddress
    exact free slot position isAllocated (isAddress ▸ isPage)
  grind [pages_setPage]

theorem allocateFrames_sound (process : Nat) (touched : Nat → Prop) (answers : Answers) (left : Nat) :
    ∀ index {system : System} {pending : List Nat}, FramesSound memoryMap system pending →
      ∀ frames next, allocateFrames answers left index system = (frames, next) →
        FramesSound memoryMap next (pending ++ frames) ∧ PagesOnly process touched system next := by
  induction left with
  | zero =>
    intro index system pending sound frames next result
    cases result
    rw [List.append_nil]
    exact ⟨sound, .refl system⟩
  | succ left ih =>
    intro index system pending sound frames next result
    have before := foreignSteps_sound (answers.between index) sound
    have others := foreignSteps_pagesOnly process touched (answers.between index) system
    rw [allocateFrames] at result
    split at result
    · rename_i middle failed
      cases result
      rw [List.append_nil]
      exact ⟨allocFrame_none before failed, others.trans (allocFrame_pagesOnly failed)⟩
    · rename_i frame middle allocated
      have here := allocFrame_sound before allocated
      have same := others.trans (allocFrame_pagesOnly allocated)
      split at result
      · grind
      rcases more : allocateFrames answers left (index + 1) middle with ⟨rest, final⟩
      rw [more] at result
      cases result
      rcases ih (index + 1) here rest next more with ⟨after, following⟩
      rw [List.append_assoc] at after
      exact ⟨after, same.trans following⟩

/-- The pages of a range show these frames, from a position on. -/
def RangeShows (system : System) (process base index : Nat) (frames : List Nat) : Prop :=
  ∀ position frame, frames[position]? = some frame →
    (system.processes process).pages (pageAddress base (index + position)) =
      some ⟨frame, true, false⟩

theorem RangeShows.cons {base index frame : Nat} {rest : List Nat}
    (first : (system.processes process).pages (pageAddress base index) = some ⟨frame, true, false⟩)
    (others : RangeShows system process base (index + 1) rest) :
    RangeShows system process base index (frame :: rest) := by
  intro position other isOther
  cases position with
  | zero =>
    cases isOther
    exact first
  | succ position =>
    have found := others position other isOther
    grind

variable (answers : Answers)

/-- The pages of a new allocation are taken from the range that was found. -/
theorem allocatePages_sound (left : Nat) :
    ∀ index {system : System} {pending : List Nat}, FramesSound memoryMap system pending →
      NotAllocated (system.processes process).userMemory base count → index + left ≤ count →
      ∀ frames mapped ok next,
        allocatePages answers process base left index system = (frames, mapped, ok, next) →
          FramesSound memoryMap next (pending ++ frames) ∧
          PagesAdded process base count system next ∧ mapped ≤ count ∧
          (ok = true → frames.length = left ∧ RangeShows next process base index frames) := by
  induction left with
  | zero =>
    intro index system pending sound free inside frames mapped ok next result
    cases result
    rw [List.append_nil]
    refine ⟨sound, .of_none (.refl system), inside, ?_⟩
    exact fun _ => ⟨rfl, fun position frame impossible => by cases impossible⟩
  | succ left ih =>
    intro index system pending sound free inside frames mapped ok next result
    have bound : index ≤ count := by omega
    have before := foreignSteps_sound (answers.between index) sound
    have others := foreignSteps_pagesAdded process system (answers.between index) base count
    rw [allocatePages] at result
    split at result
    · rename_i middle failed
      cases result
      rw [List.append_nil]
      refine ⟨allocFrame_none before failed, ?_, bound, fun impossible => by cases impossible⟩
      exact others.trans (.of_none (allocFrame_pagesOnly failed))
    · rename_i frame middle allocated
      have here := allocFrame_sound before allocated
      have same := others.trans (.of_none (allocFrame_pagesOnly allocated))
      split at result
      · simp_all
      split at result
      · simp_all
      rename_i shown isMapped
      rcases mapPage_sound here (free.added same) (by omega) isMapped with
        ⟨soundMapped, mappedHere⟩
      have sameMapped := same.trans mappedHere
      split at result
      · grind
      rename_i isShown
      rw [ne_eq, not_not] at isShown
      rcases more : allocatePages answers process base left (index + 1) shown with
        ⟨rest, mappedRest, okRest, final⟩
      rw [more] at result
      cases result
      rcases ih (index + 1) soundMapped (free.added sameMapped) (by omega) rest mapped ok
        next more with ⟨after, following, boundRest, complete⟩
      rw [List.append_assoc] at after
      refine ⟨after, sameMapped.trans following, boundRest, ?_⟩
      intro isOk
      rcases complete isOk with ⟨length, pagesRest⟩
      refine ⟨by rw [List.length_cons, length], ?_⟩
      exact RangeShows.cons (following.kept _ _ isShown) pagesRest

/-- The pages of a mapping show frames of the buffer, and nobody owns more. -/
theorem mapPages_sound (frames : List Nat) :
    ∀ index {system : System}, FramesSound memoryMap system pending →
      NotAllocated (system.processes process).userMemory base count →
      index + frames.length ≤ count →
      ∀ mapped ok next, mapPages answers process base frames index system = (mapped, ok, next) →
        FramesSound memoryMap next pending ∧ PagesAdded process base count system next ∧
          mapped ≤ count := by
  induction frames with
  | nil =>
    intro index system sound free inside mapped ok next result
    cases result
    exact ⟨sound, .of_none (.refl system), inside⟩
  | cons frame rest ih =>
    intro index system sound free inside mapped ok next result
    rw [List.length_cons] at inside
    have before := foreignSteps_sound (answers.between index) sound
    have others := foreignSteps_pagesAdded process system (answers.between index) base count
    rw [mapPages] at result
    split at result
    · grind
    rename_i shown isMapped
    rcases mapPage_sound before (free.added others) (by omega) isMapped with ⟨here, mappedHere⟩
    have same := others.trans mappedHere
    split at result
    · grind
    rcases ih (index + 1) here (free.added same) (by omega) mapped ok next result with
      ⟨after, following, bound⟩
    exact ⟨after, same.trans following, bound⟩

/-! ## Unmapping -/

theorem unmapPages_sound (process base count left : Nat) :
    ∀ index {system : System}, FramesSound memoryMap system pending → index + left ≤ count →
      ∀ ok next, unmapPages answers process base left index system = (ok, next) →
        FramesSound memoryMap next pending ∧ PagesOnly process (PageOf base count) system next := by
  induction left with
  | zero =>
    intro index system sound inside ok next result
    cases result
    exact ⟨sound, .refl system⟩
  | succ left ih =>
    intro index system sound inside ok next result
    have before := foreignSteps_sound (answers.between index) sound
    have others := foreignSteps_pagesOnly process (PageOf base count) (answers.between index) system
    have isPage : PageOf base count (pageAddress base index) := ⟨index, by omega, rfl⟩
    rw [unmapPages] at result
    split at result
    · rename_i middle unmapped
      cases result
      exact ⟨unmapPage_sound before unmapped, others.trans (unmapPage_pagesOnly isPage unmapped)⟩
    · rename_i middle unmapped
      rcases ih (index + 1) (unmapPage_sound before unmapped) (by omega) ok next result with
        ⟨after, following⟩
      exact ⟨after, (others.trans (unmapPage_pagesOnly isPage unmapped)).trans following⟩

/-- The frames that the pages show, from a position on -/
def PagesShow (system : System) (process base index : Nat) (frames : List Nat) : Prop :=
  ∀ position frame, frames[position]? = some frame →
    ∃ page, (system.processes process).pages (pageAddress base (index + position)) = some page ∧
      page.frame = frame

theorem queryPages_eq_some {base : Nat} (left : Nat) :
    ∀ index frames, queryPages system process base left index = some frames →
      frames.length = left ∧ PagesShow system process base index frames := by
  induction left with
  | zero =>
    intro index frames result
    cases result
    exact ⟨rfl, fun position frame impossible => by cases impossible⟩
  | succ left ih =>
    intro index frames result
    rw [queryPages] at result
    split at result
    · cases result
    split at result
    · cases result
    split at result
    · cases result
    rename_i rest isRest
    cases result
    rcases ih (index + 1) rest isRest with ⟨length, shown⟩
    refine ⟨by rw [List.length_cons, length], ?_⟩
    intro position frame isFrame
    cases position with
    | zero =>
      simp_all
    | succ position =>
      have found := shown position frame isFrame
      grind

theorem unmapPage_takes (sound : FramesSound memoryMap system pending) (process : Nat)
    {slot position : Nat} {page : UserPage} (isPage : AllocatedPage (system.processes process).userMemory slot position)
    (isShown : (system.processes process).pages
      (allocationAddress (system.processes process).userMemory slot position) = some page) :
    FramesSound memoryMap (system.setPage process
      (allocationAddress (system.processes process).userMemory slot position) none)
        (pending ++ [page.frame]) := by
  have has : Owns system pending (.allocation process slot position) page.frame :=
    ⟨isPage, page, isShown, rfl⟩
  have before : ∀ owner frame, Owns (system.setPage process
      (allocationAddress (system.processes process).userMemory slot position) none)
        (pending ++ [page.frame]) owner frame →
      Owns system pending owner frame ∧ owner ≠ .allocation process slot position ∨
        owner = .pending pending.length ∧ frame = page.frame := by
    intro owner frame hasFrame
    rcases owns_pending_append hasFrame with old | new
    · left
      cases owner with
      | allocation other another place =>
        rcases old with ⟨isOther, shown, otherShown, isFrame⟩
        rw [userMemory_setPage] at isOther otherShown
        rw [pages_setPage] at otherShown
        split at otherShown
        · cases otherShown
        refine ⟨⟨isOther, shown, otherShown, isFrame⟩, ?_⟩
        grind
      | _ => exact ⟨old, fun impossible => by cases impossible⟩
    · exact Or.inr new
  have fresh : ∀ frame, ¬ Owns system pending (.pending pending.length) frame := by
    intro frame isPending
    exact absurd (List.getElem?_eq_some_iff.mp isPending).1 (Nat.lt_irrefl _)
  classical
  refine sound.relabel (fun owner => if owner = .pending pending.length then
    .allocation process slot position else owner) rfl ?_ ?_
  · intro owner frame hasFrame
    rcases before owner frame hasFrame with ⟨old, -⟩ | ⟨rfl, rfl⟩
    · grind
    · rw [if_pos rfl]
      exact has
  · grind

theorem unmapPages_takes {slot : Nat} (frames : List Nat) :
    ∀ index {system : System} {pending : List Nat}, FramesSound memoryMap system pending →
      slot < userMemoryAllocationMax →
      ((system.processes process).userMemory.allocations slot).active = true →
      index + frames.length = ((system.processes process).userMemory.allocations slot).pageCount →
      PagesShow system process ((system.processes process).userMemory.allocations slot).base index frames →
      ∃ next, unmapPages answers process
          ((system.processes process).userMemory.allocations slot).base frames.length index system =
            (true, next) ∧
        FramesSound memoryMap next (pending ++ frames) := by
  induction frames with
  | nil =>
    intro index system pending sound inside active length shown
    refine ⟨system, rfl, ?_⟩
    rw [List.append_nil]
    exact sound
  | cons frame rest ih =>
    intro index system pending sound inside active length shown
    rw [List.length_cons] at length
    have before := foreignSteps_sound (answers.between index) sound
    have others : PagesOnly process (fun _ => False) system
        (foreignSteps system (answers.between index)) := foreignSteps_pagesOnly process _ _ system
    have otherPages : ∀ address, ((foreignSteps system
        (answers.between index)).processes process).pages address =
          (system.processes process).pages address :=
      fun address => others.pages process address fun both => both.2
    rcases shown 0 frame rfl with ⟨page, isShown, rfl⟩
    have isPage : AllocatedPage (system.processes process).userMemory slot index :=
      ⟨inside, active, by omega⟩
    have stillShown := (otherPages _).trans isShown
    have isPageStill : AllocatedPage ((foreignSteps system
        (answers.between index)).processes process).userMemory slot index := by
      rw [others.userMemory]
      exact isPage
    have taken := unmapPage_takes before process isPageStill (by rw [others.userMemory]; exact stillShown)
    have memory : (((foreignSteps system (answers.between index)).setPage process
        (pageAddress ((system.processes process).userMemory.allocations slot).base index)
        none).processes process).userMemory = (system.processes process).userMemory := by
      rw [userMemory_setPage, others.userMemory]
    rw [allocationAddress, others.userMemory] at taken
    have following := ih (index + 1) taken inside (by rw [memory]; exact active) (by rw [memory]; omega)
      (by
        intro position another isAnother
        rcases shown (position + 1) another isAnother with ⟨otherPage, isOther, isFrame⟩
        grind [pages_setPage, pageAddress_injective])
    simp_all [List.length_cons, unmapPages, unmapPage]

end

end BoringOS.UserMemory
