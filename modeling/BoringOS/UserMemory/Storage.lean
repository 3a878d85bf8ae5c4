import BoringOS.UserMemory.FrameLoops

namespace BoringOS.UserMemory

open Library Ipc Memory

/-!
# The frames of the buffers

A buffer is live from its creation until its last reference is dropped.  Until
then none of its frames has been given back for it, and from then on all of them
have, each of them once.  The books say which frames these are.
-/

/-- The frames that were given back for a buffer -/
def freedFor (books : BufferBooks) (serial : Nat) : List Nat :=
  (books.freed.filter fun entry => entry.1 == serial).map Prod.snd

theorem freedFor_append (books : BufferBooks) (serial : Nat) (frames : List Nat) (other : Nat) :
    freedFor { books with
      freed := books.freed ++ frames.map fun frame => (serial, frame) } other =
        freedFor books other ++ if other = serial then frames else [] := by
  have here : ((frames.map fun frame => (serial, frame)).filter fun entry => entry.1 == other).map
      Prod.snd = if other = serial then frames else [] := by
    induction frames with
    | nil =>
      split
      · rfl
      · rfl
    | cons frame rest ih =>
      grind
  simp only [freedFor, List.filter_append, List.map_append, here]

structure BooksSound (objects : Nat → UserMemoryBufferObject) (books : BufferBooks) : Prop where
  current : ∀ index, (objects index).active = true →
    books.created[books.serial index]? = some (objects index).frames
  apart : ∀ first second, (objects first).active = true → (objects second).active = true →
    books.serial first = books.serial second → first = second
  live : ∀ index, (objects index).active = true → freedFor books (books.serial index) = []
  dead : ∀ serial frames, books.created[serial]? = some frames →
    (∀ index, (objects index).active = true → books.serial index ≠ serial) →
      freedFor books serial = frames
  future : ∀ serial, books.created.length ≤ serial → freedFor books serial = []
  distinct : ∀ frames ∈ books.created, frames.Nodup

/-- The buffers own their frames, they are live while they are referenced, and
the books are right. -/
structure StorageSound (memoryMap : List MemmapEntry) (system : System) : Prop where
  frames : FramesSound memoryMap system []
  inside : ∀ index, (system.objects index).active = true → index < userMemoryBufferObjectMax
  referenced : ∀ index, (system.objects index).active = true →
    0 < (system.objects index).referenceCount
  books : BooksSound system.objects system.books

section

variable {memoryMap : List MemmapEntry} {system next : System}

theorem BooksSound.congr {objects objects' : Nat → UserMemoryBufferObject} {books : BufferBooks}
    (sound : BooksSound objects books) (active : ∀ index, (objects' index).active = (objects index).active)
    (frames : ∀ index, (objects' index).frames = (objects index).frames) :
    BooksSound objects' books where
  current index isActive := by
    rw [active] at isActive
    rw [frames]
    exact sound.current index isActive
  apart first second isFirst isSecond := by
    rw [active] at isFirst isSecond
    exact sound.apart first second isFirst isSecond
  live index isActive := by
    rw [active] at isActive
    exact sound.live index isActive
  dead serial created isCreated nobody :=
    sound.dead serial created isCreated fun index isActive =>
      nobody index ((active index).trans isActive)
  future := sound.future
  distinct := sound.distinct

/-- The tables of the processes change, and the buffers do not. -/
theorem StorageSound.withFrames (sound : StorageSound memoryMap system)
    (frames : FramesSound memoryMap next []) (objects : next.objects = system.objects)
    (books : next.books = system.books) : StorageSound memoryMap next where
  frames := frames
  inside := by
    rw [objects]
    exact sound.inside
  referenced := by
    rw [objects]
    exact sound.referenced
  books := by
    rw [objects, books]
    exact sound.books

theorem FramesSound.tables {pending : List Nat} (sound : FramesSound memoryMap system pending)
    (samePmm : next.pmm = system.pmm) (others : next.foreign = system.foreign)
    (objects : ∀ index, (next.objects index).active = true → (system.objects index).active = true ∧
        (next.objects index).frames = (system.objects index).frames)
    (allocations : ∀ process, (next.processes process).userMemory.allocations =
      (system.processes process).userMemory.allocations)
    (pages : ∀ process, (next.processes process).pages = (system.processes process).pages) :
    FramesSound memoryMap next pending := by
  apply sound.shrink samePmm
  intro owner frame has
  cases owner with
  | buffer index position =>
    rcases has with ⟨active, isFrame⟩
    rcases objects index active with ⟨wasActive, sameFrames⟩
    rw [sameFrames] at isFrame
    exact ⟨wasActive, isFrame⟩
  | allocation process slot position =>
    change AllocatedPage _ _ _ ∧ _ at has
    simp only [AllocatedPage, allocationAddress, allocations, pages] at has
    exact has
  | outside held =>
    rcases has with ⟨rfl, isForeign⟩
    rw [others] at isForeign
    exact ⟨rfl, isForeign⟩
  | pending position => exact has

variable {object : UserMemoryBufferObject}

/-- A reference is added or dropped, and another one is left. -/
theorem StorageSound.setCount (sound : StorageSound memoryMap system) {index : Nat}
    (isObject : system.objects index = object) {count : Nat} (positive : object.active = true → 0 < count) :
    StorageSound memoryMap (system.setObject index { object with referenceCount := count }) := by
  have active : ∀ other, ((system.setObject index
      { object with referenceCount := count }).objects other).active = (system.objects other).active := by
    intro other
    simp only [System.setObject, Function.update_apply]
    split
    · rename_i same
      rw [same, isObject]
    · rfl
  have frames : ∀ other, ((system.setObject index
      { object with referenceCount := count }).objects other).frames = (system.objects other).frames := by
    intro other
    simp only [System.setObject, Function.update_apply]
    split
    · rename_i same
      rw [same, isObject]
    · rfl
  refine ⟨?_, ?_, ?_, sound.books.congr active frames⟩
  · refine sound.frames.tables rfl rfl ?_ (fun _ => rfl) (fun _ => rfl)
    simp [*]
  · intro other isActive
    rw [active] at isActive
    exact sound.inside other isActive
  · intro other isActive
    have wasActive := (active other).symm.trans isActive
    simp only [System.setObject, Function.update_apply]
    split
    · simp_all
    · exact sound.referenced other wasActive

theorem objectAt_eq_some {index : Nat} :
    objectAt system index = some object ↔
      index < userMemoryBufferObjectMax ∧ (system.objects index).active = true ∧
        system.objects index = object := by
  rw [objectAt]
  split
  · constructor
    · intro impossible
      cases impossible
    grind
  simp_all

/-- The frames of a buffer without references are given back, and the books close it. -/
theorem releaseStorage_sound (reserved : FirstPageReserved memoryMap)
    (sound : StorageSound memoryMap system) {index : Nat}
    (isObject : system.objects index = object) (active : object.active = true) (kfree : Bool) :
    ∃ next, objectReleaseStorage (system.setObject index { object with referenceCount := 0 }) index
        kfree = (kfree, next) ∧ StorageSound memoryMap next ∧
      next.processes = system.processes ∧ next.retained = system.retained := by
  let cleared := system.setObject index objectClear
  have pending : FramesSound memoryMap cleared object.frames := by
    refine sound.frames.relabel (fun owner => match owner with
      | .pending position => .buffer index position
      | other => other) rfl ?_ ?_
    · intro owner frame has
      cases owner with
      | pending position =>
        refine ⟨?_, ?_⟩
        · rw [isObject]
          exact active
        · rw [isObject]
          exact has
      | buffer other position =>
        rcases has with ⟨isActive, isFrame⟩
        change (Function.update system.objects index objectClear other).active = true at isActive
        change (Function.update system.objects index objectClear other).frames[position]? =
          some frame at isFrame
        by_cases same : other = index
        · rw [same, Function.update_self] at isActive
          cases isActive
        · rw [Function.update_of_ne same] at isActive isFrame
          exact ⟨isActive, isFrame⟩
      | _ => exact has
    · intro first second frame hasFirst hasSecond same
      have notBuffer : ∀ position, ¬ Owns cleared object.frames (.buffer index position) frame := by
        rintro position ⟨isActive, -⟩
        change (Function.update system.objects index objectClear index).active = true at isActive
        rw [Function.update_self] at isActive
        cases isActive
      cases first <;> cases second <;> cases same
      · rfl
      · exact absurd hasFirst (notBuffer _)
      · rfl
      · rfl
      · exact absurd hasSecond (notBuffer _)
      · rfl
  rcases releaseFrames_sound reserved (system.books.serial index) object.frames pending with
    ⟨next, result, frames, tables⟩
  have commuted := releaseFrames_setObject (system.books.serial index) index objectClear
    object.frames (system.setObject index { object with referenceCount := 0 })
  have twice : (system.setObject index { object with referenceCount := 0 }).setObject index
      objectClear = cleared := by
    simp only [cleared, System.setObject, Function.update_idem]
  rw [twice, result, Prod.mk.injEq] at commuted
  rcases commuted with ⟨freed, isNext⟩
  refine ⟨next, ?_, ?_, ?_, ?_⟩
  · have releasable : ¬ (((system.setObject index { object with referenceCount := 0 }).objects
        index).active = false ∨ ((system.setObject index { object with referenceCount := 0 }).objects
          index).referenceCount ≠ 0) := by
      simp only [System.setObject, Function.update_self, active, Bool.true_eq_false, ne_eq,
        not_true_eq_false, or_self, not_false_eq_true]
    rw [objectReleaseStorage, if_neg releasable]
    have isFrames : ((system.setObject index { object with referenceCount := 0 }).objects
        index).frames = object.frames := by
      simp only [System.setObject, Function.update_self]
    rw [isFrames]
    change (((releaseFrames (system.books.serial index) object.frames _).1 && kfree),
      (releaseFrames (system.books.serial index) object.frames _).2.setObject index objectClear) = _
    rw [← freed, ← isNext, Bool.true_and]
  · have objects : next.objects = Function.update system.objects index objectClear := by
      rw [tables]
      rfl
    have books : next.books = { system.books with
        freed := system.books.freed ++
          object.frames.map fun frame => (system.books.serial index, frame) } := by
      rw [tables]
      rfl
    have others : ∀ other, (next.objects other).active = true →
        other ≠ index ∧ next.objects other = system.objects other := by
      intro other isActive
      rw [objects] at isActive ⊢
      by_cases same : other = index
      · rw [same, Function.update_self] at isActive
        cases isActive
      · simp [*]
    have wasActive : (system.objects index).active = true := by
      rw [isObject]
      exact active
    refine ⟨frames, ?_, ?_, ?_⟩
    · intro other isActive
      rcases others other isActive with ⟨-, same⟩
      rw [same] at isActive
      exact sound.inside other isActive
    · intro other isActive
      rcases others other isActive with ⟨-, same⟩
      rw [same] at isActive ⊢
      exact sound.referenced other isActive
    · rw [books]
      constructor
      · intro other isActive
        rcases others other isActive with ⟨-, same⟩
        rw [same] at isActive ⊢
        exact sound.books.current other isActive
      · intro first second isFirst isSecond same
        rw [(others first isFirst).2] at isFirst
        rw [(others second isSecond).2] at isSecond
        exact sound.books.apart first second isFirst isSecond same
      · intro other isActive
        rcases others other isActive with ⟨away, same⟩
        rw [same] at isActive
        rw [freedFor_append, if_neg, List.append_nil]
        · exact sound.books.live other isActive
        · intro sameSerial
          exact away (sound.books.apart other index isActive wasActive sameSerial)
      · intro serial created isCreated nobody
        rw [freedFor_append]
        split
        · rename_i isSerial
          have current := sound.books.current index wasActive
          rw [isSerial, sound.books.live index wasActive, List.nil_append]
          grind
        · rw [List.append_nil]
          apply sound.books.dead serial created isCreated
          intro other isActive sameSerial
          by_cases same : other = index
          · grind
          apply nobody other _ sameSerial
          rw [objects, Function.update_of_ne same]
          exact isActive
      · intro serial beyond
        rw [freedFor_append, if_neg, List.append_nil]
        · exact sound.books.future serial beyond
        · have current := sound.books.current index wasActive
          grind
      · exact sound.books.distinct
  · rw [tables]
    rfl
  · rw [tables]
    rfl

/-- Dropping a reference keeps the storage sound, and gives the frames back with
the last one. -/
theorem objectUnref_storage (reserved : FirstPageReserved memoryMap)
    (sound : StorageSound memoryMap system) (index : Nat) (kfree : Bool) :
    StorageSound memoryMap (objectUnref system index kfree).2 ∧
      (objectUnref system index kfree).2.processes = system.processes ∧
      (objectUnref system index kfree).2.retained = system.retained := by
  rw [objectUnref]
  split
  · exact ⟨sound, rfl, rfl⟩
  rename_i object found
  rcases objectAt_eq_some.mp found with ⟨-, active, isObject⟩
  have isActive : object.active = true := by
    rw [← isObject]
    exact active
  split
  · exact ⟨sound, rfl, rfl⟩
  split
  · rcases releaseStorage_sound reserved sound isObject isActive kfree with
      ⟨next, result, after, processes, retained⟩
    simp_all
  · rename_i isLeft
    exact ⟨sound.setCount isObject fun _ => Nat.pos_of_ne_zero isLeft, rfl, rfl⟩

end

end BoringOS.UserMemory
