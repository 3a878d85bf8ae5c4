import BoringOS.BoringFs.Utf8
import BoringOS.Library.Loops

namespace BoringOS.BoringFs

open Library

/-!
# The structural validator

A transcription of `libs/boringfs/validate.c`.  The six passes read the volume
through a source whose reads may fail, and stop at the first violation with
its code and its place.  The two arrays of the workspace are functions from
their indices.
-/

/-- `struct boringfs_source` -/
structure ByteSource where
  size : Nat
  read : (offset length : Nat) → Option (List UInt8)

/-- The failures of `enum boringfs_validation_result`. -/
inductive ValidationResult where
  | truncatedVolume
  | badMagic
  | unsupportedVersion
  | unsupportedFeature
  | badSuperblock
  | badLayout
  | badBitmap
  | badObjectRecord
  | badExtent
  | extentOverlap
  | badDirectoryRecord
  | invalidUtf8
  | duplicateName
  | orphanObject
  | multipleReference
  | parentMismatch
  | directoryCycle
  | allocationLeak
  | insufficientWorkspace
deriving DecidableEq, Repr

/-- `struct boringfs_validation_error` -/
structure ValidationError where
  code : ValidationResult
  objectId : Nat
  block : Nat
  directoryRecordIndex : Nat
deriving DecidableEq, Repr

/-- The sizes of the two arrays of `struct boringfs_validation_workspace`. -/
structure ValidationWorkspace where
  blockOwnerCount : Nat
  objectReferenceCountCount : Nat
deriving DecidableEq, Repr

def locationNone32 : Nat := uint32Max
def locationNone64 : Nat := uint64Max

abbrev Checked := Except ValidationError

/-- A failure that concerns an object. -/
def objectFailure (code : ValidationResult) (objectId : Nat) : ValidationError :=
  ⟨code, objectId, locationNone32, locationNone64⟩

/-- A failure that concerns a block. -/
def blockFailure (code : ValidationResult) (block : Nat) : ValidationError :=
  ⟨code, locationNone32, block, locationNone64⟩

/-- A failure that concerns a record of a directory. -/
def recordFailure (code : ValidationResult) (objectId index : Nat) : ValidationError :=
  ⟨code, objectId, locationNone32, index⟩

/-! ## Arithmetic and reads -/

def checkedAddU32 (left right : Nat) : Option Nat :=
  if uint32Max - right < left then none else some (left + right)

def checkedAddU64 (left right : Nat) : Option Nat :=
  if uint64Max - right < left then none else some (left + right)

def checkedMulU64 (left right : Nat) : Option Nat :=
  if left ≠ 0 ∧ uint64Max / left < right then none else some (left * right)

variable (source : ByteSource)

/-- `source_read_exact` -/
def sourceReadExact (offset length : Nat) : Option (List UInt8) :=
  if source.size < offset ∨ source.size - offset < length then none
  else if length = 0 then some []
  else source.read offset length

/-- The mask of the bit of a block in its byte. -/
def bitMask (block : Nat) : UInt8 := 1 <<< UInt8.ofNat (block % 8)

variable (superblock : BoringfsSuperblock)

/-- `bitmap_bit` -/
def bitmapBit (block : Nat) :
    Option Bool := do
  let bitmapBase ← checkedMulU64 superblock.bitmapStart boringfsBlockSize
  let absolute ← checkedAddU64 bitmapBase (block / 8)
  let bytes ← sourceReadExact source absolute 1
  return (bytes.getD 0 0 &&& bitMask block) != 0

variable (objectId : Nat)

/-- `read_object_record` -/
def readObjectRecord : Option (List UInt8) :=
  if objectId = boringfsNullObjectId ∨ superblock.objectCount < objectId then none
  else do
    let tableBase ← checkedMulU64 superblock.objectTableStart boringfsBlockSize
    let slotOffset ← checkedMulU64 (objectId - 1) boringfsObjectRecordSize
    let absolute ← checkedAddU64 tableBase slotOffset
    sourceReadExact source absolute boringfsObjectRecordSize

/-- `decode_object_id` -/
def decodeObjectId : Option BoringfsObject :=
  (readObjectRecord source superblock objectId).map boringfsDecodeObject

/-- The loops of `logical_object_read` over the extents of an object.  The
inner loop takes all that an extent can give in its first round. -/
def logicalReadLoop (source : ByteSource) : List BoringfsExtent → (offset remaining : Nat) →
    Option (List UInt8)
  | [], _, remaining => if remaining = 0 then some [] else none
  | extent :: others, offset, remaining =>
    if remaining = 0 then some []
    else do
      let extentBytes ← checkedMulU64 extent.blockCount boringfsBlockSize
      if extentBytes ≤ offset then logicalReadLoop source others (offset - extentBytes) remaining
      else
        let chunk := min remaining (extentBytes - offset)
        let physicalBase ← checkedMulU64 extent.startBlock boringfsBlockSize
        let physical ← checkedAddU64 physicalBase offset
        let bytes ← sourceReadExact source physical chunk
        let rest ← logicalReadLoop source others 0 (remaining - chunk)
        return bytes ++ rest

/-- `logical_object_read` -/
def logicalObjectRead (object : BoringfsObject) (offset length : Nat) : Option (List UInt8) :=
  logicalReadLoop source (object.extents.take object.extentCount) offset length

/-! ## The superblock -/

/-- The loop over the reserved bytes behind the header. -/
def reservedLoop (source : ByteSource) : (fuel offset : Nat) → Checked Unit
  | 0, _ => .ok ()
  | fuel + 1, offset =>
    if offset < boringfsBlockSize then
      let chunk := min (boringfsBlockSize - offset) 256
      match sourceReadExact source offset chunk with
      | none => .error (blockFailure .badSuperblock 0)
      | some bytes =>
        if bytesAllZero bytes = false then .error (blockFailure .badSuperblock 0)
        else reservedLoop source fuel (offset + chunk)
    else .ok ()

/-- The layout that `validate_superblock` computes: the block of the object
table, its length, and the first data block. -/
def expectedLayout (expectedBitmapBlocks : Nat) :
    Option (Nat × Nat × Nat) := do
  let tableStart ← checkedAddU32 1 expectedBitmapBlocks
  let objectBytes ← checkedMulU64 superblock.objectCount boringfsObjectRecordSize
  let rounded ← checkedAddU64 objectBytes (boringfsBlockSize - 1)
  let tableBlocks := rounded / boringfsBlockSize
  if uint32Max < tableBlocks then none
  else
    let dataStart ← checkedAddU32 tableStart tableBlocks
    return (tableStart, tableBlocks, dataStart)

/-- The second half of `validate_superblock`. -/
def validateLayout : Checked Unit :=
  if uint32Max - (boringfsBitmapBlockBits - 1) < superblock.totalBlocks then
    .error (blockFailure .badLayout 0)
  else
    let expectedBitmapBlocks :=
      (superblock.totalBlocks + (boringfsBitmapBlockBits - 1)) / boringfsBitmapBlockBits
    match expectedLayout superblock expectedBitmapBlocks with
    | none => .error (blockFailure .badLayout 0)
    | some (tableStart, tableBlocks, dataStart) =>
      if superblock.bitmapStart ≠ 1 ∨ superblock.bitmapBlocks ≠ expectedBitmapBlocks ∨
          superblock.objectTableStart ≠ tableStart ∨
          superblock.objectTableBlocks ≠ tableBlocks ∨ superblock.dataStart ≠ dataStart ∨
          superblock.totalBlocks < superblock.dataStart then
        .error (blockFailure .badLayout 0)
      else
        match checkedMulU64 superblock.totalBlocks boringfsBlockSize with
        | none => .error (blockFailure .badLayout 0)
        | some declaredBytes =>
          if source.size < declaredBytes then
            .error (blockFailure .truncatedVolume superblock.totalBlocks)
          else
            match checkedMulU64 superblock.bitmapBlocks boringfsBitmapBlockBits with
            | none => .error (blockFailure .badLayout 0)
            | some storageBits =>
              if storageBits < superblock.totalBlocks then
                .error (blockFailure .badLayout 0)
              else .ok ()

/-- The fields that `validate_superblock` compares with constants. -/
def badSuperblockFields : Bool :=
  superblock.headerSize != boringfsSuperblockHeaderSize ||
    superblock.blockShift != boringfsBlockShift || superblock.flags != 0 ||
    superblock.totalBlocks == 0 || decide (boringfsMaxBlocks < superblock.totalBlocks) ||
    decide (superblock.objectCount < boringfsMinObjects) ||
    decide (boringfsMaxObjects < superblock.objectCount) ||
    superblock.rootObjectId != boringfsRootObjectId ||
    superblock.objectRecordSize != boringfsObjectRecordSize ||
    superblock.directoryRecordSize != boringfsDirectoryRecordSize

/-- `validate_superblock` -/
def validateSuperblock : Checked BoringfsSuperblock :=
  if source.size < boringfsBlockSize then .error (blockFailure .truncatedVolume 0)
  else
    match sourceReadExact source 0 boringfsSuperblockHeaderSize with
    | none => .error (blockFailure .badSuperblock 0)
    | some superblockBytes =>
      let superblock := boringfsDecodeSuperblock superblockBytes
      if superblock.magic ≠ boringfsMagic then .error (blockFailure .badMagic 0)
      else if superblock.formatMajor ≠ boringfsFormatMajor ∨
          superblock.formatMinor ≠ boringfsFormatMinor then
        .error (blockFailure .unsupportedVersion 0)
      else if superblock.featureCompat ≠ 0 ∨ superblock.featureRoCompat ≠ 0 ∨
          superblock.featureIncompat ≠ 0 then
        .error (blockFailure .unsupportedFeature 0)
      else if badSuperblockFields superblock = true ∨
          bytesAllZero (slice superblockBytes 64 64) = false then
        .error (blockFailure .badSuperblock 0)
      else
        match reservedLoop source boringfsBlockSize boringfsSuperblockHeaderSize with
        | .error failure => .error failure
        | .ok () =>
          match validateLayout source superblock with
          | .error failure => .error failure
          | .ok () => .ok superblock

/-! ## The bitmap -/

/-- The owners of the blocks, by block. -/
abbrev BlockOwners := Nat → Nat

/-- A block outside of the data region has to be allocated. -/
def requireAllocated (block : Nat) : Checked Unit :=
  match bitmapBit source superblock block with
  | some true => .ok ()
  | _ =>
    .error (blockFailure .badBitmap (if block ≤ uint32Max then block else locationNone32))

/-- One round of the loop over the metadata blocks. -/
def claimMetadata (block : Nat) (blockOwner : BlockOwners) : Checked BlockOwners :=
  match requireAllocated source superblock block with
  | .error failure => .error failure
  | .ok () => .ok (Function.update blockOwner block uint32Max)

variable (blockOwner : BlockOwners)

/-- `validate_bitmap_metadata_and_tail` -/
def validateBitmapMetadataAndTail : Checked BlockOwners :=
  match forRange (claimMetadata source superblock) superblock.dataStart 0 blockOwner with
  | .error failure => .error failure
  | .ok blockOwner =>
    match checkedMulU64 superblock.bitmapBlocks boringfsBitmapBlockBits with
    | none => .error (blockFailure .badLayout 0)
    | some storageBits =>
      match forRange (fun block _ => requireAllocated source superblock block)
          (storageBits - superblock.totalBlocks) superblock.totalBlocks () with
      | .error failure => .error failure
      | .ok () => .ok blockOwner

/-! ## Objects and extents -/

/-- One block of an extent: nobody owns it yet, and it is allocated. -/
def claimBlock (objectId block : Nat) (blockOwner : BlockOwners) : Checked BlockOwners :=
  if blockOwner block ≠ 0 then .error ⟨.extentOverlap, objectId, block, locationNone64⟩
  else
    match bitmapBit source superblock block with
    | some true => .ok (Function.update blockOwner block objectId)
    | _ => .error ⟨.badBitmap, objectId, block, locationNone64⟩

/-- The bounds of an extent, with its end and the capacity after it. -/
def extentBounds (extent : BoringfsExtent) (capacity : Nat) : Option (Nat × Nat) :=
  if extent.blockCount = 0 ∨ extent.startBlock < superblock.dataStart then none
  else do
    let endBlock ← checkedAddU32 extent.startBlock extent.blockCount
    if superblock.totalBlocks < endBlock then none
    else
      let extentBytes ← checkedMulU64 extent.blockCount boringfsBlockSize
      let newCapacity ← checkedAddU64 capacity extentBytes
      return (endBlock, newCapacity)

/-- One round of the loop over the eight extents of a record. -/
def validateExtent (raw : List UInt8) (object : BoringfsObject) (index : Nat) (state : Nat × BlockOwners) :
    Checked (Nat × BlockOwners) :=
  if object.extentCount ≤ index then
    if bytesAllZero (slice raw (24 + index * boringfsExtentRecordSize) boringfsExtentRecordSize) = false then
      .error (objectFailure .badObjectRecord objectId)
    else .ok state
  else
    let extent := object.extents.getD index ⟨0, 0⟩
    match extentBounds superblock extent state.1 with
    | none => .error ⟨.badExtent, objectId, extent.startBlock, locationNone64⟩
    | some (endBlock, newCapacity) =>
      match forRange (claimBlock source superblock objectId) (endBlock - extent.startBlock)
          extent.startBlock state.2 with
      | .error failure => .error failure
      | .ok blockOwner => .ok (newCapacity, blockOwner)

/-- The fields of a record that do not concern extents. -/
def badObjectFields (raw : List UInt8) (object : BoringfsObject) : Bool :=
  object.state != boringfsObjectAllocated ||
    (object.type != boringfsTypeRegular && object.type != boringfsTypeDirectory) ||
    object.flags != 0 || object.objectId != objectId || object.parentObjectId == boringfsNullObjectId ||
    decide (superblock.objectCount < object.parentObjectId) ||
    decide (boringfsMaxExtents < object.extentCount) ||
    !bytesAllZero (slice raw 14 2) || !bytesAllZero (slice raw 88 40)

/-- One round of `validate_objects_and_extents`. -/
def validateObject : Checked BlockOwners :=
  match readObjectRecord source superblock objectId with
  | none => .error (objectFailure .truncatedVolume objectId)
  | some raw =>
    if bytesAllZero raw = true then
      if objectId = boringfsRootObjectId then .error (objectFailure .badObjectRecord objectId)
      else .ok blockOwner
    else
      let object := boringfsDecodeObject raw
      if badObjectFields superblock objectId raw object = true then
        .error (objectFailure .badObjectRecord objectId)
      else if objectId = boringfsRootObjectId ∧ (object.type ≠ boringfsTypeDirectory ∨
          object.parentObjectId ≠ boringfsRootObjectId) then
        .error (objectFailure .badObjectRecord objectId)
      else if object.type = boringfsTypeDirectory ∧ object.sizeBytes % boringfsDirectoryRecordSize ≠ 0 then
        .error (objectFailure .badDirectoryRecord objectId)
      else if object.type = boringfsTypeRegular ∧ uint32Max < object.sizeBytes then
        .error (objectFailure .badObjectRecord objectId)
      else
        match forRange (validateExtent source superblock objectId raw object)
            boringfsMaxExtents 0 (0, blockOwner) with
        | .error failure => .error failure
        | .ok (capacity, blockOwner) =>
          if capacity < object.sizeBytes then
            .error (objectFailure .badObjectRecord objectId)
          else .ok blockOwner

/-- `validate_objects_and_extents` -/
def validateObjectsAndExtents : Checked BlockOwners :=
  forRange (validateObject source superblock) superblock.objectCount 1 blockOwner

/-! ## Parents -/

/-- The loop that follows the parents of an object. -/
def parentWalk (source : ByteSource) (superblock : BoringfsSuperblock) (objectId : Nat) :
    (steps cursor : Nat) → Checked Unit
  | 0, _ => .error (objectFailure .directoryCycle objectId)
  | steps + 1, cursor =>
    if cursor = boringfsRootObjectId then .ok ()
    else
      match decodeObjectId source superblock cursor with
      | none => .error (objectFailure .badObjectRecord objectId)
      | some current =>
        if current.state ≠ boringfsObjectAllocated ∨ current.parentObjectId = boringfsNullObjectId ∨
            superblock.objectCount < current.parentObjectId then
          .error (objectFailure .badObjectRecord objectId)
        else if current.parentObjectId = cursor then
          .error (objectFailure .directoryCycle objectId)
        else parentWalk source superblock objectId steps current.parentObjectId

/-- One round of `validate_parents_and_cycles`. -/
def validateParent : Checked Unit :=
  match decodeObjectId source superblock objectId with
  | none => .error (objectFailure .badObjectRecord objectId)
  | some object =>
    if object.state = boringfsObjectFree then .ok ()
    else
      match decodeObjectId source superblock object.parentObjectId with
      | none => .error (objectFailure .badObjectRecord objectId)
      | some parent =>
        if parent.state ≠ boringfsObjectAllocated ∨ parent.type ≠ boringfsTypeDirectory then
          .error (objectFailure .badObjectRecord objectId)
        else parentWalk source superblock objectId (superblock.objectCount + 1) objectId

/-- `validate_parents_and_cycles` -/
def validateParentsAndCycles : Checked Unit :=
  match decodeObjectId source superblock boringfsRootObjectId with
  | none => .error (objectFailure .badObjectRecord boringfsRootObjectId)
  | some root =>
    if root.state ≠ boringfsObjectAllocated ∨ root.type ≠ boringfsTypeDirectory ∨
        root.parentObjectId ≠ boringfsRootObjectId then
      .error (objectFailure .badObjectRecord boringfsRootObjectId)
    else
      forRange (fun objectId _ => validateParent source superblock objectId)
        (superblock.objectCount - 1) 2 ()

/-! ## Directories -/

/-- `directory_name_valid` -/
def directoryNameValid (record : BoringfsDirectoryRecord) : Bool :=
  if record.nameLength = 0 ∨ boringfsMaxFilename < record.nameLength then false
  else if record.name.take record.nameLength = [0x2e] ∨
      record.name.take record.nameLength = [0x2e, 0x2e] then false
  else (record.name.take record.nameLength).all fun byte => byte != 0 && byte != 0x2f

/-- `read_directory_record` -/
def readDirectoryRecord (directory : BoringfsObject) (recordIndex : Nat) : Checked (List UInt8) :=
  match checkedMulU64 recordIndex boringfsDirectoryRecordSize with
  | none => .error (recordFailure .badDirectoryRecord directory.objectId recordIndex)
  | some logicalOffset =>
    match logicalObjectRead source directory logicalOffset boringfsDirectoryRecordSize with
    | none => .error (recordFailure .badDirectoryRecord directory.objectId recordIndex)
    | some raw => .ok raw

/-- One round of the loop over the records before a record. -/
def validatePrevious (directoryId : Nat) (directory : BoringfsObject)
    (recordIndex : Nat) (record : BoringfsDirectoryRecord) (previousIndex : Nat) : Checked Unit :=
  match readDirectoryRecord source directory previousIndex with
  | .error failure => .error failure
  | .ok previousRaw =>
    if bytesAllZero previousRaw = true then .ok ()
    else
      let previous := boringfsDecodeDirectoryRecord previousRaw
      if previous.nameLength = record.nameLength ∧
          previous.name.take record.nameLength = record.name.take record.nameLength then
        .error (recordFailure .duplicateName directoryId recordIndex)
      else .ok ()

/-- The fields of a directory record that are checked without its target. -/
def badDirectoryRecordFields (raw : List UInt8) (record : BoringfsDirectoryRecord) : Bool :=
  record.objectId == boringfsNullObjectId || decide (superblock.objectCount < record.objectId) ||
    record.flags != 0 ||
    (record.typeHint != boringfsTypeRegular && record.typeHint != boringfsTypeDirectory) ||
    !bytesAllZero (slice raw 248 8) || !directoryNameValid record

/-- One record of a directory, and the references to objects after it. -/
def validateDirectoryRecord (directoryId : Nat) (directory : BoringfsObject) (recordIndex : Nat)
    (referenceCount : Nat → Nat) : Checked (Nat → Nat) :=
  match readDirectoryRecord source directory recordIndex with
  | .error failure => .error failure
  | .ok raw =>
    if bytesAllZero raw = true then .ok referenceCount
    else
      let record := boringfsDecodeDirectoryRecord raw
      if badDirectoryRecordFields superblock raw record = true then
        .error (recordFailure .badDirectoryRecord directoryId recordIndex)
      else if bytesAllZero (record.name.drop record.nameLength) = false then
        .error (recordFailure .badDirectoryRecord directoryId recordIndex)
      else if boringfsUtf8Valid (record.name.take record.nameLength) = false then
        .error (recordFailure .invalidUtf8 directoryId recordIndex)
      else
        match decodeObjectId source superblock record.objectId with
        | none => .error (recordFailure .badDirectoryRecord directoryId recordIndex)
        | some target =>
          if target.state ≠ boringfsObjectAllocated ∨ target.type ≠ record.typeHint then
            .error (recordFailure .badDirectoryRecord directoryId recordIndex)
          else if record.objectId = boringfsRootObjectId then
            .error (recordFailure .multipleReference boringfsRootObjectId recordIndex)
          else if target.parentObjectId ≠ directoryId then
            .error (recordFailure .parentMismatch record.objectId recordIndex)
          else
            match forRange (fun previousIndex _ => validatePrevious source directoryId directory
                recordIndex record previousIndex) recordIndex 0 () with
            | .error failure => .error failure
            | .ok () =>
              if referenceCount (record.objectId - 1) ≠ 0 then
                .error (recordFailure .multipleReference record.objectId recordIndex)
              else .ok (Function.update referenceCount (record.objectId - 1) 1)

/-- One round of `validate_directories`. -/
def validateDirectory (directoryId : Nat) (referenceCount : Nat → Nat) : Checked (Nat → Nat) :=
  match decodeObjectId source superblock directoryId with
  | none => .error (objectFailure .badObjectRecord directoryId)
  | some directory =>
    if directory.state ≠ boringfsObjectAllocated ∨ directory.type ≠ boringfsTypeDirectory then
      .ok referenceCount
    else
      forRange (validateDirectoryRecord source superblock directoryId directory)
        (directory.sizeBytes / boringfsDirectoryRecordSize) 0 referenceCount

/-- `validate_directories` -/
def validateDirectories (referenceCount : Nat → Nat) : Checked (Nat → Nat) :=
  forRange (validateDirectory source superblock) superblock.objectCount 1 referenceCount

/-! ## References and ownership -/

/-- One round of `validate_references`. -/
def validateReference (referenceCount : Nat → Nat) (objectId : Nat) : Checked Unit :=
  match decodeObjectId source superblock objectId with
  | none => .error (objectFailure .badObjectRecord objectId)
  | some object =>
    if object.state = boringfsObjectAllocated ∧ referenceCount (objectId - 1) ≠ 1 then
      .error (objectFailure .orphanObject objectId)
    else if object.state = boringfsObjectFree ∧ referenceCount (objectId - 1) ≠ 0 then
      .error (objectFailure .badDirectoryRecord objectId)
    else .ok ()

/-- `validate_references` -/
def validateReferences (referenceCount : Nat → Nat) : Checked Unit :=
  if referenceCount 0 ≠ 0 then .error (objectFailure .multipleReference boringfsRootObjectId)
  else
    forRange (fun objectId _ => validateReference source superblock referenceCount objectId)
      (superblock.objectCount - 1) 2 ()

/-- One round of `validate_allocation_ownership`. -/
def validateOwnership (block : Nat) : Checked Unit :=
  match bitmapBit source superblock block with
  | none => .error (blockFailure .badBitmap block)
  | some allocated =>
    if allocated = true ∧ blockOwner block = 0 then .error (blockFailure .allocationLeak block)
    else .ok ()

/-- `validate_allocation_ownership` -/
def validateAllocationOwnership : Checked Unit :=
  forRange (fun block _ => validateOwnership source superblock blockOwner block)
    (superblock.totalBlocks - superblock.dataStart) superblock.dataStart ()

/-- The passes behind the superblock, on cleared arrays. -/
def validateContents : Checked Unit := do
  let blockOwner ← validateBitmapMetadataAndTail source superblock fun _ => 0
  let blockOwner ← validateObjectsAndExtents source superblock blockOwner
  validateParentsAndCycles source superblock
  let referenceCount ← validateDirectories source superblock fun _ => 0
  validateReferences source superblock referenceCount
  validateAllocationOwnership source superblock blockOwner

/-- `boringfs_validate_source` -/
def boringfsValidateSource (workspace : ValidationWorkspace) : Checked Unit :=
  match validateSuperblock source with
  | .error failure => .error failure
  | .ok superblock =>
    if workspace.blockOwnerCount < superblock.totalBlocks ∨
        workspace.objectReferenceCountCount < superblock.objectCount then
      .error ⟨.insufficientWorkspace, locationNone32, locationNone32, locationNone64⟩
    else validateContents source superblock

end BoringOS.BoringFs
