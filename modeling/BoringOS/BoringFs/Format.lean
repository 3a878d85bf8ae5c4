import BoringOS.Library.LittleEndian

namespace BoringOS.BoringFs

open Library

/-!
# Records of the volume format

A transcription of `libs/boringfs/codec.c`: the superblock, the records of the
object table, and the records of a directory.  All numbers are stored lowest
byte first.
-/

def boringfsMagic : List UInt8 := [0x42, 0x4f, 0x52, 0x49, 0x4e, 0x47, 0x46, 0x53]
def boringfsBlockSize : Nat := 4096
def boringfsBlockShift : Nat := 12
def boringfsSuperblockHeaderSize : Nat := 128
def boringfsObjectRecordSize : Nat := 128
def boringfsDirectoryRecordSize : Nat := 256
def boringfsExtentRecordSize : Nat := 8
def boringfsRootObjectId : Nat := 1
def boringfsNullObjectId : Nat := 0
def boringfsMaxExtents : Nat := 8
def boringfsMaxFilename : Nat := 240
def boringfsMaxBlocks : Nat := 1048576
def boringfsMinObjects : Nat := 64
def boringfsMaxObjects : Nat := 16384
def boringfsFormatMajor : Nat := 0
def boringfsFormatMinor : Nat := 1
def boringfsBitmapBlockBits : Nat := 32768
def boringfsObjectFree : Nat := 0
def boringfsObjectAllocated : Nat := 1
def boringfsTypeNone : Nat := 0
def boringfsTypeRegular : Nat := 1
def boringfsTypeDirectory : Nat := 2
def uint32Max : Nat := 0xffffffff
def uint64Max : Nat := 0xffffffffffffffff

/-- `struct boringfs_extent` -/
structure BoringfsExtent where
  startBlock : Nat
  blockCount : Nat
deriving DecidableEq, Repr

/-- `struct boringfs_superblock` -/
structure BoringfsSuperblock where
  magic : List UInt8
  formatMajor : Nat
  formatMinor : Nat
  headerSize : Nat
  blockShift : Nat
  flags : Nat
  totalBlocks : Nat
  bitmapStart : Nat
  bitmapBlocks : Nat
  objectTableStart : Nat
  objectTableBlocks : Nat
  objectCount : Nat
  rootObjectId : Nat
  dataStart : Nat
  objectRecordSize : Nat
  directoryRecordSize : Nat
  featureCompat : Nat
  featureRoCompat : Nat
  featureIncompat : Nat
deriving DecidableEq, Repr

/-- `struct boringfs_object` -/
structure BoringfsObject where
  state : Nat
  type : Nat
  flags : Nat
  objectId : Nat
  parentObjectId : Nat
  extentCount : Nat
  sizeBytes : Nat
  extents : List BoringfsExtent
deriving DecidableEq, Repr

/-- `struct boringfs_directory_record` -/
structure BoringfsDirectoryRecord where
  objectId : Nat
  nameLength : Nat
  typeHint : Nat
  flags : Nat
  name : List UInt8
deriving DecidableEq, Repr

variable (bytes : List UInt8)

/-- `bytes_all_zero` -/
def bytesAllZero : Bool := bytes.all (· == 0)

/-- `zero_bytes` -/
def zeroBytes (length : Nat) : List UInt8 := List.replicate length 0

/-- `boringfs_decode_superblock` on as many bytes as it needs. -/
def boringfsDecodeSuperblock : BoringfsSuperblock where
  magic := slice bytes 0 8
  formatMajor := loadLe (slice bytes 8 2)
  formatMinor := loadLe (slice bytes 10 2)
  headerSize := loadLe (slice bytes 12 2)
  blockShift := loadLe (slice bytes 14 1)
  flags := loadLe (slice bytes 15 1)
  totalBlocks := loadLe (slice bytes 16 4)
  bitmapStart := loadLe (slice bytes 20 4)
  bitmapBlocks := loadLe (slice bytes 24 4)
  objectTableStart := loadLe (slice bytes 28 4)
  objectTableBlocks := loadLe (slice bytes 32 4)
  objectCount := loadLe (slice bytes 36 4)
  rootObjectId := loadLe (slice bytes 40 4)
  dataStart := loadLe (slice bytes 44 4)
  objectRecordSize := loadLe (slice bytes 48 2)
  directoryRecordSize := loadLe (slice bytes 50 2)
  featureCompat := loadLe (slice bytes 52 4)
  featureRoCompat := loadLe (slice bytes 56 4)
  featureIncompat := loadLe (slice bytes 60 4)

/-- `boringfs_decode_extent` -/
def boringfsDecodeExtent : BoringfsExtent := ⟨loadLe (slice bytes 0 4), loadLe (slice bytes 4 4)⟩

/-- `boringfs_decode_object` on as many bytes as it needs. -/
def boringfsDecodeObject : BoringfsObject where
  state := loadLe (slice bytes 0 1)
  type := loadLe (slice bytes 1 1)
  flags := loadLe (slice bytes 2 2)
  objectId := loadLe (slice bytes 4 4)
  parentObjectId := loadLe (slice bytes 8 4)
  extentCount := loadLe (slice bytes 12 2)
  sizeBytes := loadLe (slice bytes 16 8)
  extents := (List.range boringfsMaxExtents).map fun index =>
    boringfsDecodeExtent (slice bytes (24 + index * boringfsExtentRecordSize) boringfsExtentRecordSize)

/-- `boringfs_decode_directory_record` on as many bytes as it needs. -/
def boringfsDecodeDirectoryRecord : BoringfsDirectoryRecord where
  objectId := loadLe (slice bytes 0 4)
  nameLength := loadLe (slice bytes 4 2)
  typeHint := loadLe (slice bytes 6 1)
  flags := loadLe (slice bytes 7 1)
  name := slice bytes 8 boringfsMaxFilename

/-- `boringfs_encode_superblock` into a whole block, which nothing refuses. -/
def boringfsEncodeSuperblock (value : BoringfsSuperblock) : List UInt8 :=
  value.magic ++ storeLe 2 value.formatMajor ++ storeLe 2 value.formatMinor ++
    storeLe 2 value.headerSize ++ storeLe 1 value.blockShift ++ storeLe 1 value.flags ++
    storeLe 4 value.totalBlocks ++ storeLe 4 value.bitmapStart ++ storeLe 4 value.bitmapBlocks ++
    storeLe 4 value.objectTableStart ++ storeLe 4 value.objectTableBlocks ++
    storeLe 4 value.objectCount ++ storeLe 4 value.rootObjectId ++ storeLe 4 value.dataStart ++
    storeLe 2 value.objectRecordSize ++ storeLe 2 value.directoryRecordSize ++
    storeLe 4 value.featureCompat ++ storeLe 4 value.featureRoCompat ++
    storeLe 4 value.featureIncompat ++ zeroBytes (boringfsBlockSize - 64)

variable (value : BoringfsObject)

/-- `free_object_value_is_zero` -/
def freeObjectValueIsZero : Bool :=
  value.type == boringfsTypeNone && value.flags == 0 && value.objectId == 0 &&
    value.parentObjectId == 0 && value.extentCount == 0 && value.sizeBytes == 0 &&
    value.extents.all fun extent => extent.startBlock == 0 && extent.blockCount == 0

/-- `boringfs_encode_extent` -/
def boringfsEncodeExtent (value : BoringfsExtent) : List UInt8 :=
  storeLe 4 value.startBlock ++ storeLe 4 value.blockCount

/-- The place of an extent in an encoded object, zero where the object has
no such extent. -/
def encodedExtent (index : Nat) : List UInt8 :=
  if index < value.extentCount then boringfsEncodeExtent (value.extents.getD index ⟨0, 0⟩)
  else zeroBytes boringfsExtentRecordSize

/-- The fields that `boringfs_encode_object` stores in front of the extents. -/
def encodedObjectHeader : List UInt8 :=
  storeLe 1 value.state ++ storeLe 1 value.type ++ storeLe 2 value.flags ++
    storeLe 4 value.objectId ++ storeLe 4 value.parentObjectId ++ storeLe 2 value.extentCount ++
    zeroBytes 2 ++ storeLe 8 value.sizeBytes

/-- `boringfs_encode_object` -/
def boringfsEncodeObject : Option (List UInt8) :=
  if value.state = boringfsObjectFree then
    if freeObjectValueIsZero value = true then some (zeroBytes boringfsObjectRecordSize) else none
  else if value.state ≠ boringfsObjectAllocated ∨ boringfsMaxExtents < value.extentCount then none
  else
    some (encodedObjectHeader value ++
      (List.range boringfsMaxExtents).flatMap (encodedExtent value) ++ zeroBytes 40)

/-- `unused_directory_value_is_zero` -/
def unusedDirectoryValueIsZero (value : BoringfsDirectoryRecord) : Bool :=
  value.nameLength == 0 && value.typeHint == 0 && value.flags == 0 && bytesAllZero value.name

/-- `boringfs_encode_directory_record` -/
def boringfsEncodeDirectoryRecord (value : BoringfsDirectoryRecord) : Option (List UInt8) :=
  if value.objectId = boringfsNullObjectId then
    if unusedDirectoryValueIsZero value = true then some (zeroBytes boringfsDirectoryRecordSize)
    else none
  else if value.nameLength = 0 ∨ boringfsMaxFilename < value.nameLength then none
  else
    some (storeLe 4 value.objectId ++ storeLe 2 value.nameLength ++ storeLe 1 value.typeHint ++
      storeLe 1 value.flags ++
      (value.name.take value.nameLength ++ zeroBytes (boringfsMaxFilename - value.nameLength)) ++ zeroBytes 8)

end BoringOS.BoringFs
