import BoringOS.UserMemory.SystemInvariant

namespace BoringOS.UserMemory

open Library Ipc Memory

/-!
# Buffers keep the invariant
-/

section

variable {memoryMap : List MemmapEntry} {system next : System}

theorem findObjectSlot_eq_some {index : Nat} (found : findObjectSlot system = some index) :
    index < userMemoryBufferObjectMax ∧ (system.objects index).active = false := by
  simp_all [findObjectSlot, List.mem_range]

theorem FramesSound.pending_nodup {pending : List Nat}
    (sound : FramesSound memoryMap system pending) : pending.Nodup := by
  rw [List.nodup_iff_getElem?_ne_getElem?]
  intro first second before inside same
  have isSecond : pending[second]? = some pending[second] := List.getElem?_eq_getElem inside
  have isFirst : pending[first]? = some pending[second] := same.trans isSecond
  have one := sound.ledger.unique (.pending first) (.pending second) _ isFirst isSecond
  simp_all

/-- The state after a creation, before the handle is written -/
def enterBuffer (system : System) (index size : Nat) (frames : List Nat) : System :=
  { system.setObject index ⟨size, frames, 1, true⟩ with
    books := { system.books with
      created := system.books.created ++ [frames]
      serial := Function.update system.books.serial index system.books.created.length } }

theorem enterBuffer_books (sound : BooksSound system.objects system.books) {index size : Nat}
    {frames : List Nat} (inactive : (system.objects index).active = false)
    (distinct : frames.Nodup) :
    BooksSound (enterBuffer system index size frames).objects
      (enterBuffer system index size frames).books := by
  have others : ∀ other, other ≠ index →
      (enterBuffer system index size frames).objects other = system.objects other ∧
      (enterBuffer system index size frames).books.serial other = system.books.serial other :=
    fun other away => ⟨Function.update_of_ne away _ _, Function.update_of_ne away _ _⟩
  have here : (enterBuffer system index size frames).objects index = ⟨size, frames, 1, true⟩ ∧
      (enterBuffer system index size frames).books.serial index = system.books.created.length :=
    ⟨Function.update_self .., Function.update_self ..⟩
  have bound : ∀ other, (system.objects other).active = true →
      system.books.serial other < system.books.created.length := fun other isActive =>
    (List.getElem?_eq_some_iff.mp (sound.current other isActive)).1
  constructor
  · intro other isActive
    by_cases same : other = index
    · rw [same, here.1, here.2]
      exact List.getElem?_concat_length
    rw [(others other same).1] at isActive ⊢
    rw [(others other same).2]
    exact (List.getElem?_append_left (bound other isActive)).trans (sound.current other isActive)
  · intro first second isFirst isSecond same
    by_cases firstNew : first = index <;> by_cases secondNew : second = index
    · rw [firstNew, secondNew]
    · grind
    · grind
    · rw [(others first firstNew).1] at isFirst
      rw [(others second secondNew).1] at isSecond
      rw [(others first firstNew).2, (others second secondNew).2] at same
      exact sound.apart first second isFirst isSecond same
  · intro other isActive
    by_cases same : other = index
    · rw [same, here.2]
      exact sound.future _ (Nat.le_refl _)
    rw [(others other same).1] at isActive
    rw [(others other same).2]
    exact sound.live other isActive
  · intro serial created isCreated nobody
    have notNew : serial ≠ system.books.created.length := by
      intro isNew
      apply nobody index
      · rw [here.1]
      · rw [here.2, isNew]
    change (system.books.created ++ [frames])[serial]? = some created at isCreated
    have inside := (List.getElem?_eq_some_iff.mp isCreated).1
    rw [List.length_append, List.length_singleton] at inside
    rw [List.getElem?_append_left (by omega)] at isCreated
    apply sound.dead serial created isCreated
    grind
  · intro serial beyond
    change (system.books.created ++ [frames]).length ≤ serial at beyond
    rw [List.length_append] at beyond
    exact sound.future serial (Nat.le_of_add_right_le beyond)
  · intro created isCreated
    rcases List.mem_append.mp isCreated with before | isNew
    · exact sound.distinct created before
    simp_all

theorem enterBuffer_storage (sound : StorageSound memoryMap system) {index size : Nat}
    {frames : List Nat} (pending : FramesSound memoryMap system frames)
    (inside : index < userMemoryBufferObjectMax) (inactive : (system.objects index).active = false) :
    StorageSound memoryMap (enterBuffer system index size frames) := by
  have others : ∀ other, other ≠ index →
      (enterBuffer system index size frames).objects other = system.objects other :=
    fun other away => Function.update_of_ne away _ _
  have here : (enterBuffer system index size frames).objects index = ⟨size, frames, 1, true⟩ :=
    Function.update_self ..
  refine ⟨?_, ?_, ?_, enterBuffer_books sound.books inactive pending.pending_nodup⟩
  · refine pending.relabel (fun owner => match owner with
      | .buffer other position => if other = index then .pending position else .buffer other position
      | other => other) rfl ?_ ?_
    · intro owner frame has
      cases owner with
      | buffer other position =>
        rcases has with ⟨isActive, isFrame⟩
        change Owns system frames (if _ then _ else _) frame
        split
        · rename_i same
          rw [same, here] at isFrame
          exact isFrame
        · rename_i away
          rw [others other away] at isActive isFrame
          exact ⟨isActive, isFrame⟩
      | pending position => cases has
      | _ => exact has
    · intro first second frame hasFirst hasSecond same
      cases first with
      | pending position => cases hasFirst
      | buffer other position =>
        cases second with
        | pending position => cases hasSecond
        | buffer otherSecond positionSecond =>
          grind
        | _ =>
          grind
      | _ =>
        grind
  · intro other isActive
    by_cases same : other = index
    · rw [same]
      exact inside
    · rw [others other same] at isActive
      exact sound.inside other isActive
  · intro other isActive
    by_cases same : other = index
    · rw [same, here]
      exact Nat.one_pos
    · rw [others other same] at isActive ⊢
      exact sound.referenced other isActive

/-- A handle is written, and nothing of the storage or the ranges changes. -/
theorem Kept.setHandle (kept : Kept memoryMap system next) (process slot : Nat)
    (handle : BufferHandle) : Kept memoryMap system (next.setHandle process slot handle) where
  storage := kept.storage.setUserMemory rfl
  ranges := by
    apply ranges_setUserMemory kept.ranges
    apply (kept.ranges process).fewer
    simp [rangeAt_setHandles]
  retained := kept.retained

/-- A creation comes to nothing, or enters the buffer and writes its handle. -/
theorem userBufferCreate_cases (sound : SystemSound memoryMap system) (process size : Nat)
    (answers : Answers) :
    Undone memoryMap process system (userBufferCreate system process size answers).2 ∨
      ∃ index slot frames middle handle, index < userMemoryBufferObjectMax ∧
        (system.objects index).active = false ∧ FramesSound memoryMap middle frames ∧
        PagesOnly process (fun _ => False) system middle ∧ middle.forget = system.forget ∧
        (userBufferCreate system process size answers).2 =
          (enterBuffer middle index size frames).setHandle process slot handle ∧
        (userBufferCreate system process size answers).2.forget =
          (Ipc.userBufferCreate system.forget process true).2 := by
  have nothing := sound.undone process
  rw [userBufferCreate, Ipc.userBufferCreate, forget_processReady]
  split
  · exact Or.inl nothing
  split
  · exact Or.inl nothing
  rename_i pageCount isCount
  rw [forget_findObjectSlot]
  dsimp only
  rw [forget_findHandleSlot]
  rcases isIndex : findObjectSlot system with _ | index
  · exact Or.inl nothing
  rcases isSlot : findHandleSlot (system.processes process).userMemory with _ | slot
  · exact Or.inl nothing
  rcases findObjectSlot_eq_some isIndex with ⟨inside, inactive⟩
  dsimp only
  split
  · exact Or.inl nothing
  rcases result : allocateFrames answers pageCount 0 system with ⟨frames, middle⟩
  have same := forget_allocateFrames answers pageCount 0 system
  rw [result] at same
  dsimp only at same ⊢
  have allocated := fun touched => allocateFrames_sound process touched answers pageCount 0
    sound.storage.frames frames middle result
  have pending := (allocated (PageOf 0 0)).1
  rcases freeFrameVector_sound process (PageOf 0 0) frames pending with ⟨freed, onlyFreed⟩
  have failed : Undone memoryMap process system (freeFrameVector middle frames) :=
    ⟨freed, by rw [forget_freeFrameVector, same], 0, 0,
      (allocated (PageOf 0 0)).2.trans onlyFreed, fun _ _ => Or.inr (Nat.zero_le _)⟩
  have sameHandles : (middle.processes process).userMemory.handles =
      (system.processes process).userMemory.handles := by
    rw [← forget_handles, same, forget_handles]
  split
  · exact Or.inl failed
  rw [sameHandles, forget_handles]
  cases encodeBufferHandle slot
    ((system.processes process).userMemory.handles slot).generation with
  | none => exact Or.inl failed
  | some encoded =>
    refine Or.inr ⟨index, slot, frames, middle, _, inside, inactive, pending,
      (allocated _).2, same, rfl, ?_⟩
    have updated := forget_setHandle
      (middle.setObject index ⟨size, frames, 1, true⟩) process slot
      { (system.processes process).userMemory.handles slot with
        objectIndex := index
        active := true }
    rw [forget_setObject, same] at updated
    exact updated

theorem userBufferCreate_sound (sound : SystemSound memoryMap system) (process size : Nat)
    (answers : Answers) : SystemSound memoryMap (userBufferCreate system process size answers).2 := by
  rcases userBufferCreate_cases sound process size answers with undone |
    ⟨index, slot, frames, middle, handle, inside, inactive, pending, only, -, result, forgotten⟩
  · exact undone.sound sound
  have kept := sound.pagesOnly pending.forgetPending only
  have entered : Kept memoryMap system (enterBuffer middle index size frames) := by
    refine ⟨?_, kept.ranges, kept.retained⟩
    apply enterBuffer_storage kept.storage pending inside
    rw [only.objects]
    exact inactive
  have counts := Ipc.userBufferCreate_sound sound.counts process true
  rw [← forgotten, result] at counts
  rw [result]
  exact (entered.setHandle process slot handle).counted counts

/-- A mapping is written over a free slot, or cleared. -/
theorem Kept.setMapping (kept : Kept memoryMap system next) {process slot : Nat}
    {mapping : UserMemoryBufferMapping}
    (admitted : mapping.active = false ∨ findVirtualRange (next.processes process).userMemory
      mapping.pageCount = some mapping.base) :
    Kept memoryMap system (next.setMapping process slot mapping) where
  storage := kept.storage.setUserMemory rfl
  ranges := by
    apply ranges_setUserMemory kept.ranges
    rcases admitted with inactive | found
    · apply (kept.ranges process).fewer
      simp_all [rangeAt_setMapping]
    apply (kept.ranges process).more (.mapping slot) found
    intro place range isRange
    rw [rangeAt_setMapping] at isRange
    split at isRange
    · simp_all
    simp [*]
  retained := kept.retained

/-- A mapping comes to nothing, or the pages are there, the reference is counted
and the entry written. -/
theorem userBufferMap_cases (sound : SystemSound memoryMap system) (process encoded : Nat)
    (answers : Answers) :
    Undone memoryMap process system (userBufferMap system process encoded answers).2 ∨
      ∃ index object slot base mapped middle, system.objects index = object ∧
        findVirtualRange (system.processes process).userMemory object.frames.length = some base ∧
        mapPages answers process base object.frames 0 system = (mapped, true, middle) ∧
        middle.forget = system.forget ∧ (userBufferMap system process encoded answers).2 =
          (middle.setObject index
            { object with referenceCount := object.referenceCount + 1 }).setMapping process slot
            ⟨base, object.frames.length, index, true⟩ ∧
        (userBufferMap system process encoded answers).2.forget =
          (Ipc.userBufferMap system.forget process encoded (some base)).2 := by
  have nothing := sound.undone process
  rw [userBufferMap]
  split
  · exact Or.inl nothing
  rename_i ready
  split
  · exact Or.inl nothing
  rename_i handleSlot decoded
  dsimp only
  split
  · rename_i object slot found isSlot
    split
    · exact Or.inl nothing
    rename_i base isBase
    rcases result : mapPages answers process base object.frames 0 system with
      ⟨mapped, ok, middle⟩
    have same := forget_mapPages answers process base object.frames 0 system
    rw [result] at same
    rcases mapPages_sound answers object.frames 0 sound.storage.frames
      (notAllocated_of_found isBase) (Nat.le_of_eq (Nat.zero_add _)) mapped ok middle result
      with ⟨frames, added, bound⟩
    rcases rollbackMappings_sound process base mapped frames bound with
      ⟨unmapped, onlyUnmapped⟩
    have failed : Undone memoryMap process system
        (rollbackMappings process base mapped middle) :=
      ⟨unmapped, by rw [forget_rollbackMappings, same], base, _,
        added.toPagesOnly.trans onlyUnmapped, (findVirtualRange_eq_some isBase).2⟩
    cases ok with
    | false => exact Or.inl failed
    | true =>
      dsimp only
      split
      · exact Or.inl failed
      refine Or.inr ⟨_, object, slot, base, mapped, middle,
        (objectAt_eq_some.mp found).2.2, isBase, result, same, rfl, ?_⟩
      rw [Ipc.userBufferMap, forget_processReady, if_neg ready, forget_decodeHandle, decoded]
      simp_all [forget_objectAt, forget_handles, forget_findMappingSlot]
  · exact Or.inl nothing

theorem userBufferMap_sound (sound : SystemSound memoryMap system) (process encoded : Nat)
    (answers : Answers) : SystemSound memoryMap (userBufferMap system process encoded answers).2 := by
  rcases userBufferMap_cases sound process encoded answers with undone |
    ⟨index, object, slot, base, mapped, middle, isObject, isBase, pages, -, result, forgotten⟩
  · exact undone.sound sound
  rcases mapPages_sound answers object.frames 0 sound.storage.frames
    (notAllocated_of_found isBase) (Nat.le_of_eq (Nat.zero_add _)) mapped true middle pages with
    ⟨frames, added, -⟩
  have kept := sound.pagesOnly frames added.toPagesOnly
  have counted : Kept memoryMap system (middle.setObject index
      { object with referenceCount := object.referenceCount + 1 }) := by
    refine ⟨?_, kept.ranges, kept.retained⟩
    apply kept.storage.setCount
    · rw [added.objects]
      exact isObject
    · exact fun _ => Nat.succ_pos _
  have counts := Ipc.userBufferMap_sound sound.counts process encoded (some base)
  rw [← forgotten, result] at counts
  rw [result]
  refine Kept.counted (counted.setMapping (Or.inr ?_)) counts
  change findVirtualRange (middle.processes process).userMemory _ = _
  rw [added.userMemory]
  exact isBase

/-- A reference is dropped, and the ranges are the same. -/
theorem Kept.objectUnref (kept : Kept memoryMap system next)
    (reserved : FirstPageReserved memoryMap) (index : Nat) (kfree : Bool) :
    Kept memoryMap system (objectUnref next index kfree).2 := by
  rcases objectUnref_storage reserved kept.storage index kfree with ⟨storage, processes, retained⟩
  refine ⟨storage, ?_, retained.trans kept.retained⟩
  rw [processes]
  exact kept.ranges

section

variable (reserved : FirstPageReserved memoryMap)
include reserved

theorem userBufferUnmap_kept (sound : SystemSound memoryMap system) (process base : Nat) (answers : Answers) :
    Kept memoryMap system (userBufferUnmap system process base answers).2 := by
  rw [userBufferUnmap]
  split
  · exact sound.kept
  split
  · exact sound.kept
  split
  · exact sound.kept
  rename_i slot isSlot
  dsimp only
  split
  · exact sound.kept
  rcases result : unmapPages answers process base
    ((system.processes process).userMemory.mappings slot).pageCount 0 system with ⟨ok, middle⟩
  rcases unmapPages_sound answers process base _ _ 0 sound.storage.frames
    (Nat.le_of_eq (Nat.zero_add _)) ok middle result with ⟨frames, only⟩
  have kept := sound.pagesOnly frames only
  cases ok with
  | false => exact kept
  | true =>
    have cleared : Kept memoryMap system (middle.setMapping process slot mappingClear) :=
      kept.setMapping (Or.inl rfl)
    have dropped := cleared.objectUnref reserved
      ((system.processes process).userMemory.mappings slot).objectIndex answers.kfree
    grind

theorem userBufferUnmap_sound
    (sound : SystemSound memoryMap system) (process base : Nat) (answers : Answers) :
    SystemSound memoryMap (userBufferUnmap system process base answers).2 := by
  apply (userBufferUnmap_kept reserved sound process base answers).counted
  rcases forget_userBufferUnmap system process base answers with same | unmapped
  · rw [same]
    exact sound.counts
  · rw [unmapped]
    exact Ipc.userBufferUnmap_sound sound.counts process base true

theorem userBufferClose_kept (sound : SystemSound memoryMap system) (process encoded : Nat) (kfree : Bool) :
    Kept memoryMap system (userBufferClose system process encoded kfree).2 := by
  rw [userBufferClose]
  split
  · exact sound.kept
  split
  · exact sound.kept
  rename_i slot decoded
  have dropped := (sound.kept.setHandle process slot
    (handleReset ((system.processes process).userMemory.handles slot))).objectUnref reserved
      ((system.processes process).userMemory.handles slot).objectIndex kfree
  grind

theorem userBufferClose_sound (sound : SystemSound memoryMap system) (process encoded : Nat) (kfree : Bool) :
    SystemSound memoryMap (userBufferClose system process encoded kfree).2 := by
  apply (userBufferClose_kept reserved sound process encoded kfree).counted
  rw [forget_userBufferClose]
  exact Ipc.userBufferClose_sound sound.counts process encoded

end

end

end BoringOS.UserMemory
