import BoringOS.BoringFs.Utf8
import BoringOS.Library.ByteVolume

namespace BoringOS.BoringFs

open Library

/-!
# Well-formed volumes

The format document describes a volume by what its parts mean: a superblock
whose fields follow from two of them, a bit for every block, a table of
objects, and the contents of objects, which the blocks of their extents make
up.  A volume is well formed when these parts agree.  Nothing below refers to
the order in which an implementation looks at them.
-/

def superblockOf (volume : ByteVolume) : BoringfsSuperblock :=
  boringfsDecodeSuperblock (volume.read 0 boringfsSuperblockHeaderSize)

/-- The parts of a volume behind its superblock: the bits of the allocation
bitmap, the records of the object table, and the bytes of the data region, by
their positions in the volume. -/
structure VolumeContents where
  bit : Nat → Bool
  record : Nat → List UInt8
  byte : ByteVolume

/-- The slot of an object in the object table. -/
def recordOffset (superblock : BoringfsSuperblock) (objectId : Nat) : Nat :=
  superblock.objectTableStart * boringfsBlockSize + (objectId - 1) * boringfsObjectRecordSize

/-- The byte of the bitmap that holds the bit of a block. -/
def bitmapOffset (superblock : BoringfsSuperblock) (block : Nat) : Nat :=
  superblock.bitmapStart * boringfsBlockSize + block / 8

/-- Outside of the bitmap, the table and the data region there is nothing. -/
def contentsOf (superblock : BoringfsSuperblock) (volume : ByteVolume) : VolumeContents where
  bit block :=
    if block < superblock.bitmapBlocks * boringfsBitmapBlockBits then
      (volume (bitmapOffset superblock block)).toNat.testBit (block % 8)
    else false
  record objectId :=
    if 1 ≤ objectId ∧ objectId ≤ superblock.objectCount then
      volume.read (recordOffset superblock objectId) boringfsObjectRecordSize
    else zeroBytes boringfsObjectRecordSize
  byte position :=
    if superblock.dataStart * boringfsBlockSize ≤ position ∧
        position < superblock.totalBlocks * boringfsBlockSize then volume position
    else 0

/-- The blocks of an extent. -/
def BoringfsExtent.blocks (extent : BoringfsExtent) : List Nat :=
  List.range' extent.startBlock extent.blockCount

/-- The extents that an object uses. -/
def BoringfsObject.liveExtents (object : BoringfsObject) : List BoringfsExtent :=
  object.extents.take object.extentCount

/-- The blocks of an object, in the order of its contents. -/
def BoringfsObject.blocks (object : BoringfsObject) : List Nat :=
  object.liveExtents.flatMap BoringfsExtent.blocks

/-- The number of directory records that fit into the size of a directory. -/
def BoringfsObject.slots (object : BoringfsObject) : Nat :=
  object.sizeBytes / boringfsDirectoryRecordSize

namespace VolumeContents

variable (contents : VolumeContents)

def object (objectId : Nat) : BoringfsObject := boringfsDecodeObject (contents.record objectId)

/-- A free record is entirely zero. -/
def Live (objectId : Nat) : Prop := bytesAllZero (contents.record objectId) = false

def LiveDirectory (objectId : Nat) : Prop :=
  contents.Live objectId ∧ (contents.object objectId).type = boringfsTypeDirectory

/-- The bytes that some blocks hold one after another. -/
def bytesOf (blocks : List Nat) : ByteVolume := fun offset =>
  match blocks[offset / boringfsBlockSize]? with
  | none => 0
  | some block => contents.byte (block * boringfsBlockSize + offset % boringfsBlockSize)

/-- The logical contents of an object. -/
def logical (objectId : Nat) : ByteVolume := contents.bytesOf (contents.object objectId).blocks

/-- A record of a directory. -/
def entryBytes (directoryId slot : Nat) : List UInt8 :=
  (contents.logical directoryId).read (slot * boringfsDirectoryRecordSize) boringfsDirectoryRecordSize

def entry (directoryId slot : Nat) : BoringfsDirectoryRecord :=
  boringfsDecodeDirectoryRecord (contents.entryBytes directoryId slot)

variable {contents}

theorem bytesOf_append_left {first second : List Nat} {offset : Nat}
    (inside : offset < first.length * boringfsBlockSize) :
    contents.bytesOf (first ++ second) offset = contents.bytesOf first offset := by
  have inFirst : offset / boringfsBlockSize < first.length :=
    (Nat.div_lt_iff_lt_mul (by decide)).mpr inside
  rw [bytesOf, bytesOf, List.getElem?_append_left inFirst]

theorem bytesOf_append_right {first second : List Nat} {offset : Nat} :
    contents.bytesOf (first ++ second) (first.length * boringfsBlockSize + offset) =
      contents.bytesOf second offset := by
  have position : (first.length * boringfsBlockSize + offset) / boringfsBlockSize =
      first.length + offset / boringfsBlockSize := by
    rw [Nat.mul_comm, Nat.mul_add_div (by decide)]
  have rest : (first.length * boringfsBlockSize + offset) % boringfsBlockSize =
      offset % boringfsBlockSize := by
    rw [Nat.mul_comm, Nat.mul_add_mod]
  rw [bytesOf, bytesOf, position, rest, List.getElem?_append_right (Nat.le_add_right _ _),
    Nat.add_sub_cancel_left]

theorem bytesOf_range' {start count offset : Nat} (inside : offset < count * boringfsBlockSize) :
    contents.bytesOf (List.range' start count) offset =
      contents.byte (start * boringfsBlockSize + offset) := by
  have below : offset / boringfsBlockSize < count := (Nat.div_lt_iff_lt_mul (by decide)).mpr inside
  have position : (start + offset / boringfsBlockSize) * boringfsBlockSize +
      offset % boringfsBlockSize = start * boringfsBlockSize + offset := by
    rw [Nat.add_mul, Nat.add_assoc, Nat.mul_comm (offset / boringfsBlockSize), Nat.div_add_mod]
  rw [bytesOf, List.getElem?_range' below, Nat.one_mul]
  exact congrArg contents.byte position

end VolumeContents

/-- The bytes that some extents hold. -/
def capacityOf (extents : List BoringfsExtent) : Nat :=
  (extents.flatMap BoringfsExtent.blocks).length * boringfsBlockSize

/-- The place of a byte of an object: the byte of the extent that contains it
whose number is what the extents in front leave over. -/
def bytePlace : List BoringfsExtent → Nat → Nat
  | [], offset => offset
  | extent :: others, offset =>
    if offset < extent.blockCount * boringfsBlockSize then
      extent.startBlock * boringfsBlockSize + offset
    else bytePlace others (offset - extent.blockCount * boringfsBlockSize)

/-- The bytes of an object on a volume. -/
def extentVolume (volume : ByteVolume) (extents : List BoringfsExtent) : ByteVolume :=
  fun offset => volume (bytePlace extents offset)

/-- A range does not leave the extents. -/
def InsideExtents (extents : List BoringfsExtent) (offset length : Nat) : Prop :=
  length = 0 ∨ offset + length ≤ capacityOf extents

variable {extent : BoringfsExtent} {others extents : List BoringfsExtent}

theorem capacityOf_cons : capacityOf (extent :: others) =
    extent.blockCount * boringfsBlockSize + capacityOf others := by
  rw [capacityOf, capacityOf, List.flatMap_cons, List.length_append, Nat.add_mul,
    BoringfsExtent.blocks, List.length_range']

theorem bytePlace_here {offset : Nat} (here : offset < extent.blockCount * boringfsBlockSize) :
    bytePlace (extent :: others) offset = extent.startBlock * boringfsBlockSize + offset :=
  if_pos here

theorem bytePlace_behind (offset : Nat) :
    bytePlace (extent :: others) (extent.blockCount * boringfsBlockSize + offset) =
      bytePlace others offset := by
  rw [bytePlace, if_neg (Nat.not_lt.mpr (Nat.le_add_right _ _)), Nat.add_sub_cancel_left]

theorem bytePlace_block {offset : Nat} (inside : offset < capacityOf extents) :
    bytePlace extents offset / boringfsBlockSize ∈ extents.flatMap BoringfsExtent.blocks := by
  induction extents generalizing offset with
  | nil =>
    exact absurd inside (Nat.not_lt_zero _)
  | cons extent others ih =>
    rw [capacityOf_cons] at inside
    rw [List.flatMap_cons, List.mem_append]
    by_cases here : offset < extent.blockCount * boringfsBlockSize
    · left
      have below := (Nat.div_lt_iff_lt_mul (by decide)).mpr here
      rw [bytePlace_here here, Nat.mul_comm, Nat.mul_add_div (by decide),
        BoringfsExtent.blocks, List.mem_range'_1]
      exact ⟨Nat.le_add_right _ _, Nat.add_lt_add_left below _⟩
    · right
      rcases Nat.exists_eq_add_of_le (Nat.not_lt.mp here) with ⟨rest, rfl⟩
      rw [bytePlace_behind]
      exact ih (by omega)

/-- A range splits where its first extent ends. -/
theorem read_extentVolume {volume : ByteVolume} {offset remaining chunk : Nat}
    (here : offset < extent.blockCount * boringfsBlockSize)
    (isChunk : min remaining (extent.blockCount * boringfsBlockSize - offset) = chunk) :
    (extentVolume volume (extent :: others)).read offset remaining =
      volume.read (extent.startBlock * boringfsBlockSize + offset) chunk ++
        (extentVolume volume others).read 0 (remaining - chunk) := by
  have total : remaining = chunk + (remaining - chunk) := by omega
  conv => lhs; rw [total, ByteVolume.read_add]
  apply congrArg₂ (· ++ ·)
  · apply ByteVolume.read_congr
    intro index below
    rw [extentVolume, bytePlace_here (by omega), Nat.add_assoc]
  · apply ByteVolume.read_congr
    intro index below
    have behind : offset + chunk + index = extent.blockCount * boringfsBlockSize + index := by
      omega
    rw [extentVolume, behind, bytePlace_behind, extentVolume, Nat.zero_add]

theorem read_extentVolume_behind {volume : ByteVolume} (offset remaining : Nat) :
    (extentVolume volume (extent :: others)).read
        (extent.blockCount * boringfsBlockSize + offset) remaining =
      (extentVolume volume others).read offset remaining := by
  apply ByteVolume.read_congr
  intro index _
  rw [extentVolume, Nat.add_assoc, bytePlace_behind, extentVolume]

theorem insideExtents_behind {offset length : Nat} :
    InsideExtents (extent :: others) (extent.blockCount * boringfsBlockSize + offset) length ↔
      InsideExtents others offset length := by
  rw [InsideExtents, InsideExtents, capacityOf_cons, Nat.add_assoc, Nat.add_le_add_iff_left]

theorem insideExtents_split {offset remaining chunk : Nat}
    (here : offset < extent.blockCount * boringfsBlockSize)
    (isChunk : min remaining (extent.blockCount * boringfsBlockSize - offset) = chunk) :
    InsideExtents (extent :: others) offset remaining ↔
      InsideExtents others 0 (remaining - chunk) := by
  rw [InsideExtents, InsideExtents, capacityOf_cons]
  omega

theorem VolumeContents.bytesOf_blocks {contents : VolumeContents} {offset : Nat}
    (inside : offset < capacityOf extents) :
    contents.bytesOf (extents.flatMap BoringfsExtent.blocks) offset =
      contents.byte (bytePlace extents offset) := by
  induction extents generalizing offset with
  | nil =>
    exact absurd inside (Nat.not_lt_zero _)
  | cons extent others ih =>
    have length : extent.blocks.length = extent.blockCount := List.length_range'
    rw [capacityOf_cons] at inside
    rw [List.flatMap_cons]
    by_cases here : offset < extent.blockCount * boringfsBlockSize
    · rw [bytesOf_append_left (by rw [length]; exact here), BoringfsExtent.blocks,
        bytesOf_range' here, bytePlace_here here]
    rcases Nat.exists_eq_add_of_le (Nat.not_lt.mp here) with ⟨rest, rfl⟩
    rw [bytePlace_behind, ← length, bytesOf_append_right]
    exact ih (by omega)

def ceilDiv (value divisor : Nat) : Nat := (value + (divisor - 1)) / divisor

/-- The superblock follows the layout of its block and object counts. -/
structure SuperblockSound (superblock : BoringfsSuperblock) : Prop where
  magic : superblock.magic = boringfsMagic
  version : superblock.formatMajor = 0 ∧ superblock.formatMinor = 1
  features : superblock.featureCompat = 0 ∧ superblock.featureRoCompat = 0 ∧
    superblock.featureIncompat = 0
  headerSize : superblock.headerSize = 128
  blockShift : superblock.blockShift = 12
  flags : superblock.flags = 0
  recordSizes : superblock.objectRecordSize = 128 ∧ superblock.directoryRecordSize = 256
  root : superblock.rootObjectId = 1
  blocks : 1 ≤ superblock.totalBlocks ∧ superblock.totalBlocks ≤ 1048576
  objects : 64 ≤ superblock.objectCount ∧ superblock.objectCount ≤ 16384
  bitmapStart : superblock.bitmapStart = 1
  bitmapBlocks : superblock.bitmapBlocks = ceilDiv superblock.totalBlocks 32768
  objectTableStart : superblock.objectTableStart = superblock.bitmapStart + superblock.bitmapBlocks
  objectTableBlocks : superblock.objectTableBlocks = ceilDiv (superblock.objectCount * 128) 4096
  dataStart : superblock.dataStart = superblock.objectTableStart + superblock.objectTableBlocks
  fits : superblock.dataStart ≤ superblock.totalBlocks

end BoringOS.BoringFs
