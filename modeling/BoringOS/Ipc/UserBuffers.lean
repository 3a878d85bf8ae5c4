import Mathlib.Data.Nat.Count

namespace BoringOS.Ipc

/-!
# Shared buffers and their references

A transcription of the reference keeping of `kernel/core/user_memory.c`.  A
buffer object is used through handles and mappings of processes and through
the retained references of queued messages, and it keeps the number of all of
them.  What lies behind an object, its frames and its size, is left out; where
the allocation of frames or the mapping of pages can fail, the outcome is a
parameter.  The user memory system is initialized throughout.

A process is named by the address of its object.  The object lives on as long
as the process does, and a later process may use the same address.
-/

def kernelBootstrapPid : Nat := 0
def userMemoryBufferHandleMax : Nat := 32
def userMemoryBufferMappingMax : Nat := 32
def userMemoryBufferObjectMax : Nat := 64
def userMemoryHandleInvalid : Nat := 0
def userMemoryHandleSlotBits : Nat := 8
def userMemoryHandleSlotMask : Nat := 0xff
def userMemoryHandleGenerationMax : Nat := 0x00ffffff
def userMemoryObjectNone : Nat := 0xffffffff
def uint32Max : Nat := 0xffffffff

/-- The failures of `enum user_memory_result` -/
inductive UserMemoryError where
  | invalid
  | noSpace
  | noMemory
  | internal
  | notInitialized
deriving DecidableEq, Repr

/-- `struct user_memory_buffer_handle` -/
structure BufferHandle where
  objectIndex : Nat
  generation : Nat
  active : Bool
deriving DecidableEq, Repr

/-- `struct user_memory_buffer_mapping` -/
structure BufferMapping where
  base : Nat
  objectIndex : Nat
  active : Bool
deriving DecidableEq, Repr

/-- `struct user_memory_process_state` -/
structure UserMemory where
  handles : Nat → BufferHandle
  mappings : Nat → BufferMapping

/-- The parts of `struct process` that are read here. -/
structure Process where
  alive : Bool
  pid : Nat
  addressSpaceReady : Bool
  userMemory : UserMemory

/-- `struct user_memory_buffer_object` -/
structure BufferObject where
  referenceCount : Nat
  active : Bool
deriving DecidableEq, Repr

structure Buffers where
  processes : Nat → Process
  objects : Nat → BufferObject

/-- `mapping_clear` -/
def mappingClear : BufferMapping := ⟨0, userMemoryObjectNone, false⟩

/-- `object_clear` -/
def objectClear : BufferObject := ⟨0, false⟩

/-- `user_memory_process_state_init` -/
def userMemoryProcessStateInit : UserMemory where
  handles := fun _ => ⟨userMemoryObjectNone, 1, false⟩
  mappings := fun _ => mappingClear

variable (memory : UserMemory)

/-- `user_memory_process_state_empty` -/
def userMemoryProcessStateEmpty : Bool :=
  decide (∀ slot < userMemoryBufferHandleMax, (memory.handles slot).active = false) &&
    decide (∀ slot < userMemoryBufferMappingMax, (memory.mappings slot).active = false)

namespace Buffers

def setProcess (buffers : Buffers) (process : Nat) (value : Process) : Buffers :=
  { buffers with processes := Function.update buffers.processes process value }

def setObject (buffers : Buffers) (index : Nat) (value : BufferObject) : Buffers :=
  { buffers with objects := Function.update buffers.objects index value }

def setHandle (buffers : Buffers) (process slot : Nat) (handle : BufferHandle) : Buffers :=
  let owner := buffers.processes process
  buffers.setProcess process
    { owner with
      userMemory := { owner.userMemory with
        handles := Function.update owner.userMemory.handles slot handle } }

def setMapping (buffers : Buffers) (process slot : Nat) (mapping : BufferMapping) : Buffers :=
  let owner := buffers.processes process
  buffers.setProcess process
    { owner with
      userMemory := { owner.userMemory with
        mappings := Function.update owner.userMemory.mappings slot mapping } }

end Buffers

variable (buffers : Buffers) (process : Nat)

/-- `process_is_alive` -/
def processIsAlive : Bool := (buffers.processes process).alive

/-- `process_ready` -/
def processReady : Bool :=
  processIsAlive buffers process && (buffers.processes process).addressSpaceReady

/-- `process_create`, at an address where no process lives -/
def processCreate (process pid : Nat) : Buffers :=
  if processIsAlive buffers process = true then buffers
  else buffers.setProcess process ⟨true, pid, true, userMemoryProcessStateInit⟩

/-- `process_mark_finished` -/
def processMarkFinished : Buffers :=
  let owner := buffers.processes process
  if owner.alive = false ∨ userMemoryProcessStateEmpty owner.userMemory = false then buffers
  else buffers.setProcess process { owner with alive := false }

/-- `next_generation` of `user_memory.c` -/
def nextBufferGeneration (generation : Nat) : Nat :=
  if generation = 0 ∨ userMemoryHandleGenerationMax ≤ generation then 1 else generation + 1

/-- `handle_reset`, with the generation advanced -/
def handleReset (handle : BufferHandle) : BufferHandle :=
  ⟨userMemoryObjectNone, nextBufferGeneration handle.generation, false⟩

/-- `object_at` -/
def objectAt (index : Nat) : Option BufferObject :=
  if userMemoryBufferObjectMax ≤ index ∨ (buffers.objects index).active = false then none
  else some (buffers.objects index)

/-- `find_object_slot` -/
def findObjectSlot : Option Nat :=
  (List.range userMemoryBufferObjectMax).find? fun index => !(buffers.objects index).active

/-- `find_handle_slot` -/
def findHandleSlot : Option Nat :=
  (List.range userMemoryBufferHandleMax).find? fun slot => !(memory.handles slot).active

/-- `find_mapping_slot` -/
def findMappingSlot : Option Nat :=
  (List.range userMemoryBufferMappingMax).find? fun slot => !(memory.mappings slot).active

/-- `find_mapping_exact` -/
def findMappingExact (base : Nat) : Option Nat :=
  (List.range userMemoryBufferMappingMax).find? fun slot =>
    (memory.mappings slot).active && (memory.mappings slot).base == base

/-- `encode_handle` of `user_memory.c` -/
def encodeBufferHandle (slot generation : Nat) : Option Nat :=
  if userMemoryBufferHandleMax ≤ slot ∨ generation = 0 ∨ userMemoryHandleGenerationMax < generation then none
  else
    let encoded := (generation <<< userMemoryHandleSlotBits) ||| (slot + 1)
    if encoded = userMemoryHandleInvalid then none else some encoded

/-- `decode_handle` of `user_memory.c`, with the slot of the handle as result -/
def decodeBufferHandle (process encoded : Nat) : Option Nat :=
  let low := encoded &&& userMemoryHandleSlotMask
  let generation := encoded >>> userMemoryHandleSlotBits
  if encoded = userMemoryHandleInvalid ∨ low = 0 ∨ userMemoryBufferHandleMax < low ∨ generation = 0 then none
  else
    let handle := (buffers.processes process).userMemory.handles (low - 1)
    if handle.active = false ∨ handle.generation ≠ generation ∨
        objectAt buffers handle.objectIndex = none then none
    else some (low - 1)

/-- `object_unref`.  Giving back the frames of an object that is no longer
referenced has no part in the state. -/
def objectUnref (index : Nat) : Bool × Buffers :=
  match objectAt buffers index with
  | none => (false, buffers)
  | some object =>
    if object.referenceCount = 0 then (false, buffers)
    else if object.referenceCount - 1 = 0 then (true, buffers.setObject index objectClear)
    else
      (true, buffers.setObject index { object with referenceCount := object.referenceCount - 1 })

/-- `user_buffer_create`, where `allocated` says whether the frames of the
buffer could be allocated -/
def userBufferCreate (allocated : Bool) : Except UserMemoryError Nat × Buffers :=
  if processReady buffers process = false then (.error .notInitialized, buffers)
  else
    let memory := (buffers.processes process).userMemory
    match findObjectSlot buffers, findHandleSlot memory with
    | some index, some slot =>
      if allocated = false then (.error .noMemory, buffers)
      else
        let handle := memory.handles slot
        match encodeBufferHandle slot handle.generation with
        | none => (.error .internal, buffers)
        | some encoded =>
          (.ok encoded, (buffers.setObject index ⟨1, true⟩).setHandle process slot
              { handle with
                objectIndex := index
                active := true })
    | _, _ => (.error .noSpace, buffers)

/-- `user_buffer_map`, where `mapped` is the base at which the pages could be
mapped -/
def userBufferMap (process encoded : Nat) (mapped : Option Nat) :
    Except UserMemoryError Nat × Buffers :=
  if processReady buffers process = false then (.error .notInitialized, buffers)
  else
    match decodeBufferHandle buffers process encoded with
    | none => (.error .invalid, buffers)
    | some handleSlot =>
      let memory := (buffers.processes process).userMemory
      let index := (memory.handles handleSlot).objectIndex
      match objectAt buffers index, findMappingSlot memory with
      | some object, some slot =>
        match mapped with
        | none => (.error .noMemory, buffers)
        | some base =>
          if object.referenceCount = uint32Max then (.error .noSpace, buffers)
          else
            (.ok base,
              (buffers.setObject index
                { object with
                  referenceCount := object.referenceCount + 1 }).setMapping process slot
                ⟨base, index, true⟩)
      | _, _ => (.error .noSpace, buffers)

/-- `user_buffer_unmap`, where `unmapped` says whether the pages were as
expected and could be unmapped -/
def userBufferUnmap (process base : Nat) (unmapped : Bool) :
    Except UserMemoryError Unit × Buffers :=
  if processReady buffers process = false then (.error .notInitialized, buffers)
  else
    let memory := (buffers.processes process).userMemory
    match findMappingExact memory base with
    | none => (.error .invalid, buffers)
    | some slot =>
      if unmapped = false then (.error .internal, buffers)
      else
        match objectUnref (buffers.setMapping process slot mappingClear)
            (memory.mappings slot).objectIndex with
        | (false, buffers) => (.error .internal, buffers)
        | (true, buffers) => (.ok (), buffers)

/-- `user_buffer_close` -/
def userBufferClose (process encoded : Nat) : Except UserMemoryError Unit × Buffers :=
  if processReady buffers process = false then (.error .notInitialized, buffers)
  else
    match decodeBufferHandle buffers process encoded with
    | none => (.error .invalid, buffers)
    | some slot =>
      let handle := (buffers.processes process).userMemory.handles slot
      match objectUnref (buffers.setHandle process slot (handleReset handle)) handle.objectIndex with
      | (false, buffers) => (.error .internal, buffers)
      | (true, buffers) => (.ok (), buffers)

/-! ## Retained references

A `struct user_buffer_retained_ref` is kept as the index of its object, where
it is active.
-/

variable (reference : Option Nat)

/-- `user_buffer_retained_ref_active` -/
def userBufferRetainedRefActive : Bool :=
  match reference with
  | none => false
  | some index => (objectAt buffers index).isSome

/-- `user_buffer_retain` -/
def userBufferRetain (process encoded : Nat) : Except UserMemoryError Nat × Buffers :=
  if processReady buffers process = false then (.error .notInitialized, buffers)
  else
    match decodeBufferHandle buffers process encoded with
    | none => (.error .invalid, buffers)
    | some slot =>
      let index := ((buffers.processes process).userMemory.handles slot).objectIndex
      match objectAt buffers index with
      | none => (.error .internal, buffers)
      | some object =>
        if object.referenceCount = uint32Max then (.error .noSpace, buffers)
        else
          (.ok index, buffers.setObject index
              { object with referenceCount := object.referenceCount + 1 })

/-- `user_buffer_release_retained`.  The caller's reference is cleared. -/
def userBufferReleaseRetained : Buffers :=
  match reference with
  | none => buffers
  | some index =>
    if (objectAt buffers index).isSome then (objectUnref buffers index).2 else buffers

/-- `struct user_buffer_install_ticket` -/
structure InstallTicket where
  objectIndex : Nat
  generation : Nat
  slot : Nat
deriving DecidableEq, Repr

/-- `user_buffer_prepare_install` -/
def userBufferPrepareInstall : Except UserMemoryError (InstallTicket × Nat) :=
  if processReady buffers process = false then .error .notInitialized
  else
    match reference with
    | none => .error .invalid
    | some index =>
      if (objectAt buffers index).isNone then .error .invalid
      else
        let memory := (buffers.processes process).userMemory
        match findHandleSlot memory with
        | none => .error .noSpace
        | some slot =>
          match encodeBufferHandle slot (memory.handles slot).generation with
          | none => .error .internal
          | some encoded => .ok (⟨index, (memory.handles slot).generation, slot⟩, encoded)

/-- `user_buffer_commit_install`.  The caller's reference is cleared. -/
def userBufferCommitInstall (ticket : InstallTicket) : Except UserMemoryError Buffers :=
  if processReady buffers process = false then .error .notInitialized
  else
    match reference with
    | none => .error .invalid
    | some index =>
      if (objectAt buffers index).isNone ∨ userMemoryBufferHandleMax ≤ ticket.slot ∨
          ticket.objectIndex ≠ index ∨ (objectAt buffers ticket.objectIndex).isNone then
        .error .invalid
      else
        let handle := (buffers.processes process).userMemory.handles ticket.slot
        if handle.active = true ∨ handle.generation ≠ ticket.generation then .error .noSpace
        else
          .ok (buffers.setHandle process ticket.slot
            { handle with
              objectIndex := ticket.objectIndex
              active := true })

end BoringOS.Ipc
