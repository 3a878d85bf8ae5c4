import BoringOS.UserMemory.Ranges

namespace BoringOS.UserMemory

open Ipc Memory

/-!
# User memory with its frames

The rest of `kernel/core/user_memory.c`, with the frames of the physical
allocator behind the buffers and the pages that show them to the processes.
`Ipc.UserBuffers` transcribes the same calls without frames, sizes and ranges.

The page tables of a process are a partial function from addresses to pages.
Whether they can take a page, and whether the kernel heap has a block, are
answers that the calls are given.  Other parts of the kernel allocate frames,
for page tables for instance, and give back what they have allocated; they may
do so before every page of a call.

The books at the end of the state are no part of the source: they number the
buffers in the order of their creation, and record which frames have been given
back for which buffer.
-/

/-- `struct user_memory_buffer_object`.  The number of pages is the length of
the frame vector. -/
structure UserMemoryBufferObject where
  sizeBytes : Nat
  frames : List Nat
  referenceCount : Nat
  active : Bool
deriving DecidableEq, Repr

/-- What `ring3_user_query_mapping` says about a page -/
structure UserPage where
  frame : Nat
  writable : Bool
  executable : Bool
deriving DecidableEq, Repr

/-- The parts of `struct process` that are read here, with the pages of user
memory in its address space -/
structure UserProcess where
  alive : Bool
  pid : Nat
  addressSpaceReady : Bool
  userMemory : UserMemoryProcessState
  pages : Nat → Option UserPage

/-- The buffers that were ever created, by their frames -/
structure BufferBooks where
  created : List (List Nat)
  /-- The number of the buffer in an object slot -/
  serial : Nat → Nat
  /-- The frames that were given back, with the number of their buffer -/
  freed : List (Nat × Nat)

structure System where
  processes : Nat → UserProcess
  objects : Nat → UserMemoryBufferObject
  /-- The `struct user_buffer_retained_ref` variables of the callers -/
  retained : Nat → Option Nat
  pmm : Pmm
  /-- The frames of the other parts of the kernel -/
  foreign : Nat → Bool
  books : BufferBooks

/-- A call of another part of the kernel on the frame allocator -/
inductive ForeignCall
  | alloc (minimum maximum : Nat)
  | free (frame : Nat)
deriving DecidableEq, Repr

/-- What the rest of the kernel does during a call, by page where there are several -/
structure Answers where
  kmalloc : Bool
  kfree : Bool
  zeroFrame : Nat → Bool
  mapPage : Nat → Bool
  between : Nat → List ForeignCall

/-- What `object_clear` leaves -/
def objectClear : UserMemoryBufferObject := ⟨0, [], 0, false⟩

/-- `user_memory_process_state_init` -/
def userMemoryProcessStateInit : UserMemoryProcessState where
  allocations := fun _ => allocationClear
  handles := fun _ => ⟨userMemoryObjectNone, 1, false⟩
  mappings := fun _ => mappingClear

variable (state : UserMemoryProcessState)

/-- `user_memory_process_state_empty` -/
def userMemoryProcessStateEmpty : Bool :=
  decide (∀ slot < userMemoryAllocationMax, (state.allocations slot).active = false) &&
    decide (∀ slot < userMemoryBufferHandleMax, (state.handles slot).active = false) &&
    decide (∀ slot < userMemoryBufferMappingMax, (state.mappings slot).active = false)

namespace System

variable (system : System)

def setProcess (process : Nat) (value : UserProcess) : System :=
  { system with processes := Function.update system.processes process value }

def setObject (index : Nat) (value : UserMemoryBufferObject) : System :=
  { system with objects := Function.update system.objects index value }

def setRetained (reference : Nat) (value : Option Nat) : System :=
  { system with retained := Function.update system.retained reference value }

def setUserMemory (process : Nat) (value : UserMemoryProcessState) : System :=
  system.setProcess process { system.processes process with userMemory := value }

def setAllocation (process slot : Nat) (value : UserMemoryAllocation) : System :=
  let memory := (system.processes process).userMemory
  system.setUserMemory process
    { memory with allocations := Function.update memory.allocations slot value }

def setHandle (process slot : Nat) (value : BufferHandle) : System :=
  let memory := (system.processes process).userMemory
  system.setUserMemory process
    { memory with handles := Function.update memory.handles slot value }

def setMapping (process slot : Nat) (value : UserMemoryBufferMapping) : System :=
  let memory := (system.processes process).userMemory
  system.setUserMemory process
    { memory with mappings := Function.update memory.mappings slot value }

def setPage (process address : Nat) (value : Option UserPage) : System :=
  let owner := system.processes process
  system.setProcess process
    { owner with pages := Function.update owner.pages address value }

/-- What the bookkeeping of references sees -/
def forget : Ipc.Buffers where
  processes := fun process =>
    let owner := system.processes process
    ⟨owner.alive, owner.pid, owner.addressSpaceReady, owner.userMemory.handles,
      fun slot =>
        let mapping := owner.userMemory.mappings slot
        ⟨mapping.base, mapping.objectIndex, mapping.active⟩⟩
  objects := fun index => ⟨(system.objects index).referenceCount, (system.objects index).active⟩

end System

/-! ## Frames and pages -/

variable (system : System)

/-- Another part of the kernel allocates a frame, or gives back one of its own. -/
def foreignStep : ForeignCall → System
  | .alloc minimum maximum =>
    match pmmAllocFrameInRange system.pmm minimum maximum with
    | (none, pmm) => { system with pmm := pmm }
    | (some frame, pmm) =>
      { system with
        pmm := pmm
        foreign := Function.update system.foreign frame true }
  | .free frame =>
    if system.foreign frame = false then system
    else
      { system with
        pmm := (pmmFreeFrame system.pmm frame).2
        foreign := Function.update system.foreign frame false }

def foreignSteps (calls : List ForeignCall) : System := calls.foldl foreignStep system

/-- `pmm_alloc_frame`, in the state of the system -/
def allocFrame : Option Nat × System :=
  ((pmmAllocFrame system.pmm).1, { system with pmm := (pmmAllocFrame system.pmm).2 })

/-- `pmm_free_frame`, in the state of the system -/
def freeFrame (frame : Nat) : Bool × System :=
  ((pmmFreeFrame system.pmm frame).1, { system with pmm := (pmmFreeFrame system.pmm frame).2 })

/-- `ring3_user_map_page_permissions`.  A page that is there is not replaced. -/
def mapPage (process address : Nat) (page : UserPage) (possible : Bool) : Option System :=
  if possible = false ∨ (system.processes process).pages address ≠ none then none
  else some (system.setPage process address (some page))

/-- `address_space_unmap_page` -/
def unmapPage (process address : Nat) : Bool × System :=
  if (system.processes process).pages address = none then (false, system)
  else (true, system.setPage process address none)

/-- The address of a page of a range -/
def pageAddress (base index : Nat) : Nat := base + index * userMemoryPageSize

/-- `rollback_mappings` -/
def rollbackMappings (process base : Nat) : (mappedPages : Nat) → System → System
  | 0, system => system
  | mappedPages + 1, system =>
    rollbackMappings process base mappedPages (unmapPage system process (pageAddress base mappedPages)).2

/-- `free_frame_vector`, for the allocated frames from the last to the first -/
def freeFrameVector (frames : List Nat) : System :=
  frames.reverse.foldl (fun system frame => if frame ≠ 0 then (freeFrame system frame).2 else system) system

/-- The loop of `object_release_storage` over the frames.  The books record
every frame that is given back for the buffer. -/
def releaseFrames (serial : Nat) : List Nat → System → Bool × System
  | [], system => (true, system)
  | frame :: rest, system =>
    if frame = 0 then (false, (releaseFrames serial rest system).2)
    else
      match freeFrame system frame with
      | (false, system) => (false, (releaseFrames serial rest system).2)
      | (true, system) =>
        releaseFrames serial rest
          { system with
            books := { system.books with
              freed := system.books.freed ++ [(serial, frame)] } }

/-- `object_release_storage` -/
def objectReleaseStorage (index : Nat) (kfree : Bool) : Bool × System :=
  let object := system.objects index
  if object.active = false ∨ object.referenceCount ≠ 0 then (false, system)
  else
    let (ok, system) := releaseFrames (system.books.serial index) object.frames system
    (ok && kfree, system.setObject index objectClear)

/-! ## Tables -/

variable (process : Nat)

/-- `process_ready` -/
def processReady : Bool :=
  (system.processes process).alive && (system.processes process).addressSpaceReady

/-- `find_allocation_slot` -/
def findAllocationSlot : Option Nat :=
  (List.range userMemoryAllocationMax).find? fun slot => !(state.allocations slot).active

/-- `find_mapping_slot` -/
def findMappingSlot : Option Nat :=
  (List.range userMemoryBufferMappingMax).find? fun slot => !(state.mappings slot).active

/-- `find_allocation_exact` -/
def findAllocationExact (base : Nat) : Option Nat :=
  (List.range userMemoryAllocationMax).find? fun slot =>
    (state.allocations slot).active && (state.allocations slot).base == base

/-- `find_mapping_exact` -/
def findMappingExact (base : Nat) : Option Nat :=
  (List.range userMemoryBufferMappingMax).find? fun slot =>
    (state.mappings slot).active && (state.mappings slot).base == base

/-- `object_at` -/
def objectAt (index : Nat) : Option UserMemoryBufferObject :=
  if userMemoryBufferObjectMax ≤ index ∨ (system.objects index).active = false then none
  else some (system.objects index)

/-- `find_object_slot` -/
def findObjectSlot : Option Nat :=
  (List.range userMemoryBufferObjectMax).find? fun index => !(system.objects index).active

/-- `find_handle_slot` -/
def findHandleSlot : Option Nat :=
  (List.range userMemoryBufferHandleMax).find? fun slot => !(state.handles slot).active

/-- `decode_handle`, with the slot of the handle as result -/
def decodeHandle (process encoded : Nat) : Option Nat :=
  let low := encoded &&& userMemoryHandleSlotMask
  let generation := encoded >>> userMemoryHandleSlotBits
  if encoded = userMemoryHandleInvalid ∨ low = 0 ∨ userMemoryBufferHandleMax < low ∨ generation = 0 then none
  else
    let handle := (system.processes process).userMemory.handles (low - 1)
    if handle.active = false ∨ handle.generation ≠ generation ∨
        objectAt system handle.objectIndex = none then none
    else some (low - 1)

/-- `object_unref` -/
def objectUnref (index : Nat) (kfree : Bool) : Bool × System :=
  match objectAt system index with
  | none => (false, system)
  | some object =>
    if object.referenceCount = 0 then (false, system)
    else
      let system := system.setObject index
        { object with referenceCount := object.referenceCount - 1 }
      if object.referenceCount - 1 = 0 then objectReleaseStorage system index kfree
      else (true, system)

/-! ## Allocations of a process -/

/-- The loop of `user_memory_allocate`: the frames that were allocated, how many
pages were mapped, and whether all went well. -/
def allocatePages (answers : Answers) (process base : Nat) :
    (left index : Nat) → System → List Nat × Nat × Bool × System
  | 0, index, system => ([], index, true, system)
  | left + 1, index, system =>
    match allocFrame (foreignSteps system (answers.between index)) with
    | (none, system) => ([], index, false, system)
    | (some frame, system) =>
      if answers.zeroFrame index = false then ([frame], index, false, system)
      else
        match mapPage system process (pageAddress base index) ⟨frame, true, false⟩
            (answers.mapPage index) with
        | none => ([frame], index, false, system)
        | some system =>
          if (system.processes process).pages (pageAddress base index) ≠
              some ⟨frame, true, false⟩ then ([frame], index + 1, false, system)
          else
            let (frames, mapped, ok, system) :=
              allocatePages answers process base left (index + 1) system
            (frame :: frames, mapped, ok, system)

/-- `user_memory_allocate` -/
def userMemoryAllocate (process size : Nat) (answers : Answers) :
    Except UserMemoryError Nat × System :=
  if processReady system process = false then (.error .notInitialized, system)
  else
    match pageCountForSize size userMemoryAnonMaxBytes with
    | none => (.error .invalid, system)
    | some pageCount =>
      let memory := (system.processes process).userMemory
      match findAllocationSlot memory, findVirtualRange memory pageCount with
      | some slot, some base =>
        if answers.kmalloc = false then (.error .noMemory, system)
        else
          match allocatePages answers process base pageCount 0 system with
          | (frames, mapped, false, system) =>
            (.error .noMemory, freeFrameVector (rollbackMappings process base mapped system) frames)
          | (_, _, true, system) =>
            (if answers.kfree = false then .error .internal else .ok base,
              system.setAllocation process slot ⟨base, pageCount, true⟩)
      | _, _ => (.error .noSpace, system)

/-- The loop of `user_memory_free` over the pages: their frames, if all of them
are as expected. -/
def queryPages (system : System) (process base : Nat) : (left index : Nat) → Option (List Nat)
  | 0, _ => some []
  | left + 1, index =>
    match (system.processes process).pages (pageAddress base index) with
    | none => none
    | some page =>
      if page.writable = false ∨ page.executable = true ∨
          page.frame &&& (userMemoryPageSize - 1) ≠ 0 then none
      else
        match queryPages system process base left (index + 1) with
        | none => none
        | some frames => some (page.frame :: frames)

/-- The loop over the pages that are unmapped, in `user_memory_free` and
`user_buffer_unmap` -/
def unmapPages (answers : Answers) (process base : Nat) :
    (left index : Nat) → System → Bool × System
  | 0, _, system => (true, system)
  | left + 1, index, system =>
    match unmapPage (foreignSteps system (answers.between index)) process (pageAddress base index) with
    | (false, system) => (false, system)
    | (true, system) => unmapPages answers process base left (index + 1) system

/-- The loop of `user_memory_free` over the frames -/
def freeFrames : List Nat → System → Bool × System
  | [], system => (true, system)
  | frame :: rest, system =>
    match freeFrame system frame with
    | (false, system) => (false, system)
    | (true, system) => freeFrames rest system

/-- The check of `user_memory_free` and `user_buffer_unmap` on a base -/
def baseInArena (base : Nat) : Bool :=
  base != 0 && decide (userMemoryArenaBase ≤ base) && decide (base < userMemoryArenaLimit)

/-- `user_memory_free` -/
def userMemoryFree (process base : Nat) (answers : Answers) :
    Except UserMemoryError Unit × System :=
  if processReady system process = false then (.error .notInitialized, system)
  else if baseInArena base = false then (.error .invalid, system)
  else
    match findAllocationExact (system.processes process).userMemory base with
    | none => (.error .invalid, system)
    | some slot =>
      let pageCount := ((system.processes process).userMemory.allocations slot).pageCount
      if answers.kmalloc = false then (.error .noMemory, system)
      else
        match queryPages system process base pageCount 0 with
        | none => (.error .internal, system)
        | some frames =>
          match unmapPages answers process base pageCount 0 system with
          | (false, system) => (.error .internal, system)
          | (true, system) =>
            match freeFrames frames system with
            | (false, system) => (.error .internal, system)
            | (true, system) =>
              (if answers.kfree = false then .error .internal else .ok (),
                system.setAllocation process slot allocationClear)

/-! ## Buffers of a process -/

/-- The loop of `user_buffer_create`: the frames that were allocated. -/
def allocateFrames (answers : Answers) : (left index : Nat) → System → List Nat × System
  | 0, _, system => ([], system)
  | left + 1, index, system =>
    match allocFrame (foreignSteps system (answers.between index)) with
    | (none, system) => ([], system)
    | (some frame, system) =>
      if answers.zeroFrame index = false then ([frame], system)
      else
        let (frames, system) := allocateFrames answers left (index + 1) system
        (frame :: frames, system)

/-- `user_buffer_create`.  The books enter the new buffer. -/
def userBufferCreate (process size : Nat) (answers : Answers) :
    Except UserMemoryError Nat × System :=
  if processReady system process = false then (.error .notInitialized, system)
  else
    match pageCountForSize size userMemoryBufferMaxBytes with
    | none => (.error .invalid, system)
    | some pageCount =>
      match findObjectSlot system, findHandleSlot (system.processes process).userMemory with
      | some index, some slot =>
        if answers.kmalloc = false then (.error .noMemory, system)
        else
          match allocateFrames answers pageCount 0 system with
          | (frames, system) =>
            let handle := (system.processes process).userMemory.handles slot
            if frames.length ≠ pageCount then
              (.error .noMemory, freeFrameVector system frames)
            else
              match encodeBufferHandle slot handle.generation with
              | none => (.error .internal, freeFrameVector system frames)
              | some encoded =>
                (.ok encoded,
                  { (system.setObject index ⟨size, frames, 1, true⟩).setHandle process slot
                      { handle with
                        objectIndex := index
                        active := true } with
                    books := { system.books with
                      created := system.books.created ++ [frames]
                      serial := Function.update system.books.serial index
                        system.books.created.length } })
      | _, _ => (.error .noSpace, system)

/-- The loop of `user_buffer_map`: how many pages were mapped, and whether all
went well. -/
def mapPages (answers : Answers) (process base : Nat) :
    List Nat → (index : Nat) → System → Nat × Bool × System
  | [], index, system => (index, true, system)
  | frame :: rest, index, system =>
    match mapPage (foreignSteps system (answers.between index)) process (pageAddress base index)
        ⟨frame, true, false⟩ (answers.mapPage index) with
    | none => (index, false, foreignSteps system (answers.between index))
    | some system =>
      if (system.processes process).pages (pageAddress base index) ≠
          some ⟨frame, true, false⟩ then (index + 1, false, system)
      else mapPages answers process base rest (index + 1) system

/-- `user_buffer_map` -/
def userBufferMap (process encoded : Nat) (answers : Answers) :
    Except UserMemoryError Nat × System :=
  if processReady system process = false then (.error .notInitialized, system)
  else
    match decodeHandle system process encoded with
    | none => (.error .invalid, system)
    | some handleSlot =>
      let memory := (system.processes process).userMemory
      let index := (memory.handles handleSlot).objectIndex
      match objectAt system index, findMappingSlot memory with
      | some object, some slot =>
        match findVirtualRange memory object.frames.length with
        | none => (.error .noSpace, system)
        | some base =>
          match mapPages answers process base object.frames 0 system with
          | (mapped, false, system) =>
            (.error .noMemory, rollbackMappings process base mapped system)
          | (mapped, true, system) =>
            if object.referenceCount = uint32Max then
              (.error .noSpace, rollbackMappings process base mapped system)
            else
              (.ok base,
                (system.setObject index
                  { object with
                    referenceCount := object.referenceCount + 1 }).setMapping process slot
                  ⟨base, object.frames.length, index, true⟩)
      | _, _ => (.error .noSpace, system)

/-- The loop of `user_buffer_unmap` over the pages, before any is unmapped -/
def pagesShow (system : System) (process objectIndex base : Nat) : (left index : Nat) → Bool
  | 0, _ => true
  | left + 1, index =>
    match objectAt system objectIndex, (system.processes process).pages (pageAddress base index) with
    | some object, some page =>
      if object.frames[index]? = some page.frame ∧ page.writable = true ∧ page.executable = false then
        pagesShow system process objectIndex base left (index + 1)
      else false
    | _, _ => false

/-- `user_buffer_unmap` -/
def userBufferUnmap (process base : Nat) (answers : Answers) :
    Except UserMemoryError Unit × System :=
  if processReady system process = false then (.error .notInitialized, system)
  else if baseInArena base = false then (.error .invalid, system)
  else
    match findMappingExact (system.processes process).userMemory base with
    | none => (.error .invalid, system)
    | some slot =>
      let mapping := (system.processes process).userMemory.mappings slot
      if pagesShow system process mapping.objectIndex base mapping.pageCount 0 = false then
        (.error .internal, system)
      else
        match unmapPages answers process base mapping.pageCount 0 system with
        | (false, system) => (.error .internal, system)
        | (true, system) =>
          match objectUnref (system.setMapping process slot mappingClear) mapping.objectIndex
              answers.kfree with
          | (false, system) => (.error .internal, system)
          | (true, system) => (.ok (), system)

/-- `user_buffer_close` -/
def userBufferClose (process encoded : Nat) (kfree : Bool) : Except UserMemoryError Unit × System :=
  if processReady system process = false then (.error .notInitialized, system)
  else
    match decodeHandle system process encoded with
    | none => (.error .invalid, system)
    | some slot =>
      let handle := (system.processes process).userMemory.handles slot
      match objectUnref (system.setHandle process slot (handleReset handle)) handle.objectIndex kfree with
      | (false, system) => (.error .internal, system)
      | (true, system) => (.ok (), system)

/-! ## Attachments -/

/-- `user_buffer_retain`.  Its only caller, `ipc_send`, passes a reference that it has
just cleared; an active one, of which the source would drop the count, is refused. -/
def userBufferRetain (process encoded reference : Nat) : Except UserMemoryError Unit × System :=
  if processReady system process = false then (.error .notInitialized, system)
  else if system.retained reference ≠ none then (.error .invalid, system)
  else
    match decodeHandle system process encoded with
    | none => (.error .invalid, system)
    | some slot =>
      let index := ((system.processes process).userMemory.handles slot).objectIndex
      match objectAt system index with
      | none => (.error .internal, system)
      | some object =>
        if object.referenceCount = uint32Max then (.error .noSpace, system)
        else
          (.ok (),
            (system.setObject index
              { object with
                referenceCount := object.referenceCount + 1 }).setRetained reference
              (some index))

/-- `user_buffer_release_retained` -/
def userBufferReleaseRetained (reference : Nat) (kfree : Bool) :
    Except UserMemoryError Unit × System :=
  match system.retained reference with
  | none => (.error .invalid, system)
  | some index =>
    if objectAt system index = none then (.error .invalid, system)
    else
      match objectUnref (system.setRetained reference none) index kfree with
      | (false, system) => (.error .internal, system)
      | (true, system) => (.ok (), system)

/-- `user_buffer_prepare_install` followed by `user_buffer_commit_install`, with
the encoded handle.  Nothing changes between the two. -/
def userBufferInstall (process reference : Nat) : Except UserMemoryError Nat × System :=
  if processReady system process = false then (.error .notInitialized, system)
  else
    match system.retained reference with
    | none => (.error .invalid, system)
    | some index =>
      if objectAt system index = none then (.error .invalid, system)
      else
        let memory := (system.processes process).userMemory
        match findHandleSlot memory with
        | none => (.error .noSpace, system)
        | some slot =>
          match encodeBufferHandle slot (memory.handles slot).generation with
          | none => (.error .internal, system)
          | some encoded =>
            (.ok encoded,
              (system.setHandle process slot
                { memory.handles slot with
                  objectIndex := index
                  active := true }).setRetained reference none)

/-! ## Cleanup -/

/-- A loop of `user_memory_process_cleanup`: it ends with the first error. -/
def releaseEach (release : System → Nat → Except UserMemoryError Unit × System) :
    List Nat → System → Except UserMemoryError Unit × System
  | [], system => (.ok (), system)
  | slot :: rest, system =>
    match release system slot with
    | (.error error, system) => (.error error, system)
    | (.ok (), system) => releaseEach release rest system

/-- The allocation in the slot, if there is one, is freed. -/
def releaseAllocation (answers : Nat → Answers) (system : System) (slot : Nat) :
    Except UserMemoryError Unit × System :=
  let allocation := (system.processes process).userMemory.allocations slot
  if allocation.active = false then (.ok (), system)
  else userMemoryFree system process allocation.base (answers slot)

/-- The mapping in the slot, if there is one, is unmapped. -/
def releaseMapping (answers : Nat → Answers) (system : System) (slot : Nat) :
    Except UserMemoryError Unit × System :=
  let mapping := (system.processes process).userMemory.mappings slot
  if mapping.active = false then (.ok (), system)
  else userBufferUnmap system process mapping.base (answers slot)

/-- The handle in the slot, if there is one, is closed. -/
def releaseHandle (kfree : Nat → Bool) (system : System) (slot : Nat) :
    Except UserMemoryError Unit × System :=
  let handle := (system.processes process).userMemory.handles slot
  if handle.active = false then (.ok (), system)
  else
    match encodeBufferHandle slot handle.generation with
    | none => (.error .internal, system)
    | some encoded => userBufferClose system process encoded (kfree slot)

/-- `user_memory_process_cleanup`, with answers for every slot -/
def userMemoryProcessCleanup (allocationAnswers mappingAnswers : Nat → Answers) (handleKfree : Nat → Bool) :
    Except UserMemoryError Unit × System :=
  if processReady system process = false then (.error .notInitialized, system)
  else
    match releaseEach (releaseAllocation process allocationAnswers)
        (List.range userMemoryAllocationMax) system with
    | (.error error, system) => (.error error, system)
    | (.ok (), system) =>
      match releaseEach (releaseMapping process mappingAnswers)
          (List.range userMemoryBufferMappingMax) system with
      | (.error error, system) => (.error error, system)
      | (.ok (), system) =>
        match releaseEach (releaseHandle process handleKfree)
            (List.range userMemoryBufferHandleMax) system with
        | (.error error, system) => (.error error, system)
        | (.ok (), system) =>
          if userMemoryProcessStateEmpty (system.processes process).userMemory = false then
            (.error .internal, system)
          else (.ok (), system)

/-! ## Processes -/

/-- `process_create`, at an address where no process lives: the address space is new. -/
def processCreate (process pid : Nat) : System :=
  if (system.processes process).alive = true then system
  else system.setProcess process ⟨true, pid, true, userMemoryProcessStateInit, fun _ => none⟩

/-- `process_mark_finished` -/
def processMarkFinished : System :=
  let owner := system.processes process
  if owner.alive = false ∨ userMemoryProcessStateEmpty owner.userMemory = false then system
  else system.setProcess process { owner with alive := false }

end BoringOS.UserMemory
