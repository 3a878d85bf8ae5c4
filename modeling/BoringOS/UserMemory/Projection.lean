import BoringOS.Ipc.BufferCalls
import BoringOS.UserMemory.Buffers

namespace BoringOS.UserMemory

open Ipc Memory

/-!
# The calls without frames

Forgetting frames, sizes and ranges turns every call into the call that
`Ipc.UserBuffers` transcribes, with the outcome of the forgotten part as its
parameter.  The counts of references are inherited from there.
-/

variable {system : System}

@[simp] theorem forget_setObject (system : System) (index : Nat) (object : UserMemoryBufferObject) :
    (system.setObject index object).forget =
      system.forget.setObject index ⟨object.referenceCount, object.active⟩ := by
  simp only [System.forget, System.setObject, Buffers.setObject, Buffers.mk.injEq, true_and]
  funext other
  by_cases same : other = index
  · rw [same, Function.update_self, Function.update_self]
  · rw [Function.update_of_ne same, Function.update_of_ne same]

theorem forget_setProcess {process : Nat} {owner : UserProcess} :
    (system.setProcess process owner).forget = system.forget.setProcess process
      ⟨owner.alive, owner.pid, owner.addressSpaceReady, owner.userMemory.handles,
        fun slot => ⟨(owner.userMemory.mappings slot).base,
          (owner.userMemory.mappings slot).objectIndex,
          (owner.userMemory.mappings slot).active⟩⟩ := by
  simp only [System.forget, System.setProcess, Buffers.setProcess, Buffers.mk.injEq, and_true]
  grind

/-- A change of a process that nobody sees. -/
theorem forget_setProcess_same {process : Nat} {owner : UserProcess}
    (alive : owner.alive = (system.processes process).alive)
    (pid : owner.pid = (system.processes process).pid)
    (ready : owner.addressSpaceReady = (system.processes process).addressSpaceReady)
    (handles : owner.userMemory.handles = (system.processes process).userMemory.handles)
    (mappings : owner.userMemory.mappings = (system.processes process).userMemory.mappings) :
    (system.setProcess process owner).forget = system.forget := by
  rw [forget_setProcess, alive, pid, ready, handles, mappings]
  simp only [Buffers.setProcess]
  congr 1
  exact Function.update_eq_self process system.forget.processes

@[simp] theorem forget_setAllocation (system : System) (process slot : Nat)
    (allocation : UserMemoryAllocation) :
    (system.setAllocation process slot allocation).forget = system.forget :=
  forget_setProcess_same rfl rfl rfl rfl rfl

@[simp] theorem forget_setPage (system : System) (process address : Nat) (page : Option UserPage) :
    (system.setPage process address page).forget = system.forget :=
  forget_setProcess_same rfl rfl rfl rfl rfl

@[simp] theorem forget_setHandle (system : System) (process slot : Nat) (handle : BufferHandle) :
    (system.setHandle process slot handle).forget = system.forget.setHandle process slot handle :=
  forget_setProcess

@[simp] theorem forget_setMapping (system : System) (process slot : Nat) (mapping : UserMemoryBufferMapping) :
    (system.setMapping process slot mapping).forget =
      system.forget.setMapping process slot ⟨mapping.base, mapping.objectIndex, mapping.active⟩ := by
  have mappings : (fun other =>
      let entry := Function.update (system.processes process).userMemory.mappings slot mapping other
      (⟨entry.base, entry.objectIndex, entry.active⟩ : BufferMapping)) =
      Function.update (system.forget.processes process).userMemory.mappings slot
        ⟨mapping.base, mapping.objectIndex, mapping.active⟩ := by
    funext other
    by_cases same : other = slot
    · simp [*]
    · rw [Function.update_of_ne same, Function.update_of_ne same]
      rfl
  rw [System.setMapping, System.setUserMemory, forget_setProcess, Buffers.setMapping, ← mappings]
  rfl

@[simp] theorem forget_setRetained (system : System) (reference : Nat) (value : Option Nat) :
    (system.setRetained reference value).forget = system.forget := rfl

variable {next : System}

theorem forget_allocFrame {frame : Option Nat}
    (allocated : allocFrame system = (frame, next)) : next.forget = system.forget := by
  cases allocated
  rfl

theorem forget_freeFrame {frame : Nat} {freed : Bool}
    (result : freeFrame system frame = (freed, next)) : next.forget = system.forget := by
  cases result
  rfl

theorem forget_foreignStep (system : System) (call : ForeignCall) :
    (foreignStep system call).forget = system.forget := by
  cases call with
  | alloc minimum maximum =>
    rw [foreignStep]
    split <;> rfl
  | free frame =>
    rw [foreignStep]
    split <;> rfl

@[simp] theorem forget_foreignSteps (system : System) (calls : List ForeignCall) :
    (foreignSteps system calls).forget = system.forget := by
  induction calls generalizing system with
  | nil => rfl
  | cons call rest ih =>
    exact (ih (foreignStep system call)).trans (forget_foreignStep system call)

theorem forget_mapPage {process address : Nat} {page : UserPage} {possible : Bool}
    (mapped : mapPage system process address page possible = some next) :
    next.forget = system.forget := by
  rw [mapPage] at mapped
  split at mapped
  · cases mapped
  · cases mapped
    simp

theorem forget_unmapPage {process address : Nat} {unmapped : Bool}
    (result : unmapPage system process address = (unmapped, next)) :
    next.forget = system.forget := by
  rw [unmapPage] at result
  split at result
  · cases result
    rfl
  · cases result
    simp

@[simp] theorem forget_rollbackMappings (process base mappedPages : Nat) :
    ∀ system : System, (rollbackMappings process base mappedPages system).forget =
      system.forget := by
  induction mappedPages with
  | zero => exact fun system => rfl
  | succ mappedPages ih =>
    intro system
    rw [rollbackMappings, ih]
    exact forget_unmapPage rfl

@[simp] theorem forget_freeFrameVector (system : System) (frames : List Nat) :
    (freeFrameVector system frames).forget = system.forget := by
  rw [freeFrameVector]
  induction frames.reverse generalizing system with
  | nil => rfl
  | cons frame rest ih =>
    rw [List.foldl_cons, ih]
    split <;> rfl

theorem forget_releaseFrames (serial : Nat) (frames : List Nat) :
    ∀ system : System, (releaseFrames serial frames system).2.forget = system.forget := by
  induction frames with
  | nil => exact fun system => rfl
  | cons frame rest ih =>
    intro system
    rw [releaseFrames]
    split
    · exact ih system
    split
    · grind [forget_freeFrame]
    rename_i next freed
    rw [ih, ← forget_freeFrame freed]
    rfl

variable (answers : Answers)

@[simp] theorem forget_allocateFrames (left : Nat) :
    ∀ index (system : System), (allocateFrames answers left index system).2.forget =
      system.forget := by
  induction left with
  | zero => exact fun index system => rfl
  | succ left ih =>
    intro index system
    rw [allocateFrames]
    grind [forget_allocFrame, forget_foreignSteps]

@[simp] theorem forget_allocatePages (process base left : Nat) :
    ∀ index (system : System), (allocatePages answers process base left index system).2.2.2.forget =
      system.forget := by
  induction left with
  | zero => exact fun index system => rfl
  | succ left ih =>
    intro index system
    rw [allocatePages]
    split
    · grind [forget_allocFrame, forget_foreignSteps]
    rename_i frame next allocated
    have same := (forget_allocFrame allocated).trans (forget_foreignSteps system _)
    split
    · exact same
    grind [forget_mapPage]

@[simp] theorem forget_mapPages (process base : Nat) (frames : List Nat) :
    ∀ index (system : System), (mapPages answers process base frames index system).2.2.forget =
      system.forget := by
  induction frames with
  | nil => exact fun index system => rfl
  | cons frame rest ih =>
    intro index system
    rw [mapPages]
    split
    · exact forget_foreignSteps system _
    grind [forget_mapPage, forget_foreignSteps]

@[simp] theorem forget_unmapPages (process base left : Nat) :
    ∀ index (system : System), (unmapPages answers process base left index system).2.forget =
      system.forget := by
  induction left with
  | zero => exact fun index system => rfl
  | succ left ih =>
    intro index system
    rw [unmapPages]
    grind [forget_unmapPage, forget_foreignSteps]

@[simp] theorem forget_freeFrames (frames : List Nat) :
    ∀ system : System, (freeFrames frames system).2.forget = system.forget := by
  induction frames with
  | nil => exact fun system => rfl
  | cons frame rest ih =>
    intro system
    rw [freeFrames]
    split
    · rename_i next failed
      exact forget_freeFrame failed
    · rename_i next freed
      exact (ih next).trans (forget_freeFrame freed)

theorem forget_objectAt (system : System) (index : Nat) :
    Ipc.objectAt system.forget index = (objectAt system index).map fun object =>
      ⟨object.referenceCount, object.active⟩ := by
  rw [Ipc.objectAt, objectAt]
  change (if userMemoryBufferObjectMax ≤ index ∨ (system.objects index).active = false then _
    else _) = _
  split <;> rfl

theorem forget_objectAt_eq_none {index : Nat} :
    Ipc.objectAt system.forget index = none ↔ objectAt system index = none := by
  rw [forget_objectAt, Option.map_eq_none_iff]

theorem forget_decodeHandle (system : System) (process encoded : Nat) :
    decodeBufferHandle system.forget process encoded = decodeHandle system process encoded := by
  simp only [decodeBufferHandle, decodeHandle, forget_objectAt_eq_none]
  rfl

@[simp] theorem forget_objectUnref (system : System) (index : Nat) (kfree : Bool) :
    (objectUnref system index kfree).2.forget = (Ipc.objectUnref system.forget index).2 := by
  rw [objectUnref, Ipc.objectUnref, forget_objectAt]
  cases found : objectAt system index with
  | none => rfl
  | some object =>
    dsimp only [Option.map_some]
    split
    · rfl
    split
    · rename_i last
      have active : object.active = true := by
        rw [objectAt] at found
        split at found
        · cases found
        · simp_all
      have releasable : ¬ (((system.setObject index
          { object with referenceCount := object.referenceCount - 1 }).objects index).active =
            false ∨ ((system.setObject index
          { object with referenceCount := object.referenceCount - 1 }).objects
            index).referenceCount ≠ 0) := by
        simp only [System.setObject, Function.update_self, active, last, Bool.true_eq_false,
          ne_eq, not_true_eq_false, or_self, not_false_eq_true]
      rw [objectReleaseStorage, if_neg releasable]
      rw [forget_setObject, forget_releaseFrames, forget_setObject]
      simp only [Buffers.setObject, Function.update_idem]
      rfl
    · rw [forget_setObject]

theorem forget_processReady (system : System) (process : Nat) :
    Ipc.processReady system.forget process = processReady system process := rfl

theorem forget_objectUnref_eq {index : Nat} {kfree released released' : Bool}
    {next' : Buffers} (full : objectUnref system index kfree = (released, next))
    (coarse : Ipc.objectUnref system.forget index = (released', next')) : next.forget = next' := by
  grind [forget_objectUnref]

theorem forget_userBufferClose (system : System) (process encoded : Nat) (kfree : Bool) :
    (userBufferClose system process encoded kfree).2.forget =
      (Ipc.userBufferClose system.forget process encoded).2 := by
  rw [userBufferClose, Ipc.userBufferClose, forget_processReady, forget_decodeHandle]
  split
  · rfl
  cases decodeHandle system process encoded with
  | none => rfl
  | some slot =>
    dsimp only
    rcases full : objectUnref _ _ kfree with ⟨released, next⟩
    rcases coarse : Ipc.objectUnref _ _ with ⟨released', next'⟩
    rw [← forget_setHandle] at coarse
    have same := forget_objectUnref_eq full coarse
    grind

theorem forget_findObjectSlot (system : System) :
    Ipc.findObjectSlot system.forget = findObjectSlot system := rfl

theorem forget_findHandleSlot (system : System) (process : Nat) :
    Ipc.findHandleSlot (system.forget.processes process).userMemory =
      findHandleSlot (system.processes process).userMemory := rfl

theorem forget_findMappingSlot (system : System) (process : Nat) :
    Ipc.findMappingSlot (system.forget.processes process).userMemory =
      findMappingSlot (system.processes process).userMemory := rfl

theorem forget_findMappingExact (system : System) (process base : Nat) :
    Ipc.findMappingExact (system.forget.processes process).userMemory base =
      findMappingExact (system.processes process).userMemory base := rfl

theorem forget_handles (system : System) (process : Nat) :
    (system.forget.processes process).userMemory.handles =
      (system.processes process).userMemory.handles := rfl

/-- An unmapping that fails before the reference is dropped leaves the references as they are. -/
theorem forget_userBufferUnmap (system : System) (process base : Nat) (answers : Answers) :
    (userBufferUnmap system process base answers).2.forget = system.forget ∨
      (userBufferUnmap system process base answers).2.forget =
        (Ipc.userBufferUnmap system.forget process base true).2 := by
  rw [userBufferUnmap]
  split
  · exact Or.inl rfl
  rename_i ready
  split
  · exact Or.inl rfl
  split
  · exact Or.inl rfl
  rename_i slot isSlot
  dsimp only
  split
  · exact Or.inl rfl
  have kept := forget_unmapPages answers process base
    ((system.processes process).userMemory.mappings slot).pageCount 0 system
  split
  · simp_all
  rename_i next result
  rw [result] at kept
  rw [Ipc.userBufferUnmap, forget_processReady, if_neg ready]
  dsimp only
  rw [forget_findMappingExact, isSlot]
  dsimp only
  rcases full : objectUnref _ _ answers.kfree with ⟨released, last⟩
  rcases coarse : Ipc.objectUnref _ _ with ⟨released', last'⟩
  have cleared : (next.setMapping process slot mappingClear).forget =
      system.forget.setMapping process slot Ipc.mappingClear := by
    rw [forget_setMapping, kept]
    rfl
  rw [← cleared] at coarse
  have same := forget_objectUnref_eq full coarse
  grind

end BoringOS.UserMemory
