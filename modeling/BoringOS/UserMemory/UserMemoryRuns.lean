import BoringOS.Memory.PmmRuns
import BoringOS.UserMemory.Attachments

namespace BoringOS.UserMemory

open Library Ipc Memory

/-!
# Runs of user memory

Any sequence of calls, by any processes and with any answers of the rest of the
kernel, starting with empty tables over an allocator that has just been
initialized.
-/

inductive UserMemoryCall
  | create (process size : Nat) (answers : Answers)
  | map (process encoded : Nat) (answers : Answers)
  | unmap (process base : Nat) (answers : Answers)
  | close (process encoded : Nat) (kfree : Bool)
  | retain (process encoded reference : Nat)
  | releaseRetained (reference : Nat) (kfree : Bool)
  | install (process reference : Nat)
  | allocate (process size : Nat) (answers : Answers)
  | free (process base : Nat) (answers : Answers)
  | cleanup (process : Nat) (allocationAnswers mappingAnswers : Nat → Answers)
      (handleKfree : Nat → Bool)
  | processCreate (process pid : Nat)
  | processMarkFinished (process : Nat)
  | others (calls : List ForeignCall)

def UserMemoryCall.step (system : System) : UserMemoryCall → System
  | .create process size answers => (userBufferCreate system process size answers).2
  | .map process encoded answers => (userBufferMap system process encoded answers).2
  | .unmap process base answers => (userBufferUnmap system process base answers).2
  | .close process encoded kfree => (userBufferClose system process encoded kfree).2
  | .retain process encoded reference => (userBufferRetain system process encoded reference).2
  | .releaseRetained reference kfree => (userBufferReleaseRetained system reference kfree).2
  | .install process reference => (userBufferInstall system process reference).2
  | .allocate process size answers => (userMemoryAllocate system process size answers).2
  | .free process base answers => (userMemoryFree system process base answers).2
  | .cleanup process allocationAnswers mappingAnswers handleKfree =>
    (userMemoryProcessCleanup system process allocationAnswers mappingAnswers handleKfree).2
  | .processCreate process pid => UserMemory.processCreate system process pid
  | .processMarkFinished process => UserMemory.processMarkFinished system process
  | .others calls => foreignSteps system calls

/-- No process, no buffer, and an allocator over the memory map -/
def System.initial (memoryMap : List MemmapEntry) : System where
  processes := fun _ => ⟨false, 0, false, userMemoryProcessStateInit, fun _ => none⟩
  objects := fun _ => objectClear
  retained := fun _ => none
  pmm := (pmmInit memoryMap).2
  foreign := fun _ => false
  books := ⟨[], fun _ => 0, []⟩

section

variable {memoryMap : List MemmapEntry} {system : System}

theorem step_sound (reserved : FirstPageReserved memoryMap) (system : System)
    (call : UserMemoryCall) (sound : SystemSound memoryMap system) :
    SystemSound memoryMap (call.step system) := by
  cases call with
  | create process size answers => exact userBufferCreate_sound sound process size answers
  | map process encoded answers => exact userBufferMap_sound sound process encoded answers
  | unmap process base answers => exact userBufferUnmap_sound reserved sound process base answers
  | close process encoded kfree => exact userBufferClose_sound reserved sound process encoded kfree
  | retain process encoded reference =>
    exact userBufferRetain_sound sound process encoded reference
  | releaseRetained reference kfree =>
    exact userBufferReleaseRetained_sound reserved sound reference kfree
  | install process reference => exact userBufferInstall_sound sound process reference
  | allocate process size answers => exact userMemoryAllocate_sound sound process size answers
  | free process base answers => exact userMemoryFree_sound sound process base answers
  | cleanup process allocationAnswers mappingAnswers handleKfree =>
    exact userMemoryProcessCleanup_sound reserved sound process _ _ _
  | processCreate process pid => exact processCreate_kept sound process pid
  | processMarkFinished process => exact processMarkFinished_kept sound process
  | others calls => exact foreignSteps_kept sound calls

theorem initial_sound (accepted : (pmmInit memoryMap).1 = true) :
    SystemSound memoryMap (System.initial memoryMap) where
  counts := by
    refine ⟨fun index => ?_, ?_, ?_⟩
    · have absent : objectAt (System.initial memoryMap) index = none := if_pos (Or.inr rfl)
      rw [references, forget_objectAt, absent]
      apply Counted.none
      rintro (_ | _ | _)
      · rintro ⟨-, ⟨⟩, -⟩
      · rintro ⟨-, ⟨⟩, -⟩
      · rintro ⟨⟩
    · intro process slot inside
      exact ⟨Nat.one_pos, (by decide : 1 ≤ userMemoryHandleGenerationMax)⟩
    · intro process dead
      rfl
  storage := by
    have unowned : ∀ owner frame, ¬ Owns (System.initial memoryMap) [] owner frame := by
      rintro (_ | _ | _ | _) frame owned
      · cases owned.1
      · cases owned.1.2.1
      · cases owned.2
      · cases owned
    refine ⟨⟨(pmmInit_spec accepted).1, ?_, ?_⟩, ?_, ?_, ?_⟩
    · exact fun owner frame owned => absurd owned (unowned owner frame)
    · exact fun owner _ frame owned => absurd owned (unowned owner frame)
    · rintro index ⟨⟩
    · rintro index ⟨⟩
    · constructor
      · rintro index ⟨⟩
      · rintro _ _ ⟨⟩
      · rintro index ⟨⟩
      · rintro _ _ ⟨⟩
      · intro serial beyond
        rfl
      rintro _ ⟨⟩
  ranges process := RangesPlaced.init

theorem run_sound (reserved : FirstPageReserved memoryMap)
    (accepted : (pmmInit memoryMap).1 = true) (calls : List UserMemoryCall) :
    SystemSound memoryMap (run UserMemoryCall.step (System.initial memoryMap) calls) :=
  run_invariant (step_sound reserved) calls _ (initial_sound accepted)

/-- A handle, a mapping or a retained reference of the buffer -/
def HoldsBuffer (system : System) (index : Nat) : Holder Nat → Prop
  | .handle process slot =>
    let handle := (system.processes process).userMemory.handles slot
    slot < userMemoryBufferHandleMax ∧ handle.active = true ∧ handle.objectIndex = index
  | .mapping process slot =>
    let mapping := (system.processes process).userMemory.mappings slot
    slot < userMemoryBufferMappingMax ∧ mapping.active = true ∧ mapping.objectIndex = index
  | .other reference => system.retained reference = some index

/-- The frame is one of the buffer in this slot. -/
def FrameOfBuffer (system : System) (index position frame : Nat) : Prop :=
  (system.objects index).active = true ∧ (system.objects index).frames[position]? = some frame

/-- The buffer with this number is in the slot. -/
def InSlot (system : System) (serial index : Nat) : Prop :=
  (system.objects index).active = true ∧ system.books.serial index = serial

structure BuffersExact (system : System) : Prop where
  /-- The count of a buffer is the number of those who hold it, and nobody holds
  a buffer that is not there. -/
  counted : ∀ index, Counted (HoldsBuffer system index)
    (if (system.objects index).active = true then (system.objects index).referenceCount else 0)
  /-- A buffer is there as long as it is held. -/
  referenced : ∀ index, (system.objects index).active = true →
    0 < (system.objects index).referenceCount
  /-- The frames of the buffers are different ones, and all of them are taken. -/
  disjoint : ∀ first firstPosition second secondPosition frame,
    FrameOfBuffer system first firstPosition frame →
      FrameOfBuffer system second secondPosition frame →
        first = second ∧ firstPosition = secondPosition
  taken : ∀ index position frame, FrameOfBuffer system index position frame →
    pmmFrameTaken system.pmm frame = true
  /-- No frame of a buffer that is there has been given back, and each frame of
  a buffer that was there has been given back once. -/
  freed : ∀ serial frames, system.books.created[serial]? = some frames → frames.Nodup ∧
    ((∃ index, InSlot system serial index ∧ (system.objects index).frames = frames ∧
        freedFor system.books serial = []) ∨
      (∀ index, ¬ InSlot system serial index) ∧ freedFor system.books serial = frames)
  ranges : ∀ process, RangesSound (system.processes process).userMemory

theorem SystemSound.exact (sound : SystemSound memoryMap system) : BuffersExact system where
  counted index := by
    have count : references system.forget index =
        if (system.objects index).active = true then (system.objects index).referenceCount
        else 0 := by
      rw [references, forget_objectAt]
      cases found : objectAt system index with
      | none =>
        rw [if_neg]
        · rfl
        · intro active
          have present := objectAt_eq_some.mpr ⟨sound.storage.inside index active, active, rfl⟩
          grind
      | some object =>
        rcases objectAt_eq_some.mp found with ⟨-, active, rfl⟩
        rw [if_pos active]
        rfl
    rw [← count]
    apply (sound.counts.counted index).congr
    intro holder
    cases holder with
    | handle process slot => exact Iff.rfl
    | mapping process slot => exact Iff.rfl
    | other reference => exact Iff.rfl
  referenced := sound.storage.referenced
  disjoint first firstPosition second secondPosition frame isFirst isSecond := by
    have same := sound.storage.frames.ledger.unique (.buffer first firstPosition)
      (.buffer second secondPosition) frame isFirst isSecond
    exact FrameOwner.buffer.inj same
  taken index position frame isFrame :=
    sound.storage.frames.ledger.taken (.buffer index position) frame isFrame
  freed serial frames created := by
    refine ⟨sound.storage.books.distinct frames (List.mem_of_getElem? created), ?_⟩
    by_cases isLive : ∃ index, InSlot system serial index
    · left
      rcases isLive with ⟨index, active, rfl⟩
      have current := sound.storage.books.current index active
      refine ⟨index, ⟨active, rfl⟩, Option.some.inj (current.symm.trans created), ?_⟩
      exact sound.storage.books.live index active
    · right
      have nobody : ∀ index, ¬ InSlot system serial index := fun index inSlot =>
        isLive ⟨index, inSlot⟩
      exact ⟨nobody, sound.storage.books.dead serial frames created fun index active same =>
        nobody index ⟨active, same⟩⟩
  ranges process := (sound.ranges process).toRangesSound

/-- Whatever the processes do with their buffers, the counts, the frames and the
ranges are right. -/
theorem user_buffers_exact (memoryMap : List MemmapEntry) (reserved : FirstPageReserved memoryMap)
    (accepted : (pmmInit memoryMap).1 = true) (calls : List UserMemoryCall) :
    BuffersExact (run UserMemoryCall.step (System.initial memoryMap) calls) :=
  (run_sound reserved accepted calls).exact

/-- The rest of the kernel has all that is asked for. -/
def generous : Answers := ⟨true, true, fun _ => true, fun _ => true, fun _ => []⟩

/-- Two processes share a buffer of two pages, and both let go of it. -/
theorem user_buffers_exact_shared :
    BuffersExact (run UserMemoryCall.step (System.initial threePageMap)
      [.processCreate 0 1, .processCreate 1 2, .create 0 8192 generous, .map 0 257 generous,
        .retain 0 257 5, .install 1 5, .close 1 257 true, .cleanup 0 (fun _ => generous)
        (fun _ => generous) fun _ => true]) :=
  user_buffers_exact threePageMap (by
    intro entry isEntry _
    rw [List.mem_singleton.mp isEntry]
    decide) (by decide) _

/-- Wherever the active ranges of a process are, the search for pages ends with
the lowest fit, and fails only if nothing fits; and the active ranges are never
anywhere but at pages of the arena. -/
theorem find_virtual_range_lowest :
    (∀ state, Placed state → ∀ pageCount,
      FindsLowest state pageCount (findVirtualRange state pageCount)) ∧
    ∀ memoryMap, FirstPageReserved memoryMap → (pmmInit memoryMap).1 = true → ∀ calls process, Placed
        ((run UserMemoryCall.step (System.initial memoryMap) calls).processes process).userMemory :=
  ⟨fun _ => findVirtualRange_lowest, fun _ reserved accepted calls process =>
    ((run_sound reserved accepted calls).ranges process).placed⟩

/-- An allocation of two pages, and a buffer of two pages behind a hole of one -/
def holedState : UserMemoryProcessState where
  allocations := fun slot =>
    if slot = 0 then ⟨userMemoryArenaBase, 2, true⟩ else allocationClear
  handles := userMemoryProcessStateInit.handles
  mappings := fun slot =>
    if slot = 5 then ⟨userMemoryArenaBase + 3 * 4096, 2, 0, true⟩ else mappingClear

/-- One page fits into the hole, and two pages fit behind the buffer. -/
theorem find_virtual_range_lowest_holed :
    FindsLowest holedState 1 (findVirtualRange holedState 1) ∧
      findVirtualRange holedState 1 = some (userMemoryArenaBase + 2 * 4096) ∧
        findVirtualRange holedState 2 = some (userMemoryArenaBase + 5 * 4096) := by
  refine ⟨find_virtual_range_lowest.1 holedState ?_ 1, by decide, by decide⟩
  unfold Placed InArena PageRange.limit
  decide

end

end BoringOS.UserMemory
