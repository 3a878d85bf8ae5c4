import BoringOS.BoringFs.Format

namespace BoringOS.BoringFs

open Library

/-!
# Round trips of the three records

Decoding gives back what has been encoded.  An encoder drops the extents behind
the count of an object and the bytes behind the length of a name, so these come
back as zero.  In the other direction an encoder stores again what a record
holds, as long as the bytes that no field reads are zero.
-/

/-- A value of `struct boringfs_extent` -/
structure BoringfsExtent.Representable (extent : BoringfsExtent) : Prop where
  startBlock : extent.startBlock < 256 ^ 4
  blockCount : extent.blockCount < 256 ^ 4

/-- A value of `struct boringfs_superblock` -/
structure BoringfsSuperblock.Representable (superblock : BoringfsSuperblock) : Prop where
  magic : superblock.magic.length = 8
  formatMajor : superblock.formatMajor < 256 ^ 2
  formatMinor : superblock.formatMinor < 256 ^ 2
  headerSize : superblock.headerSize < 256 ^ 2
  blockShift : superblock.blockShift < 256 ^ 1
  flags : superblock.flags < 256 ^ 1
  totalBlocks : superblock.totalBlocks < 256 ^ 4
  bitmapStart : superblock.bitmapStart < 256 ^ 4
  bitmapBlocks : superblock.bitmapBlocks < 256 ^ 4
  objectTableStart : superblock.objectTableStart < 256 ^ 4
  objectTableBlocks : superblock.objectTableBlocks < 256 ^ 4
  objectCount : superblock.objectCount < 256 ^ 4
  rootObjectId : superblock.rootObjectId < 256 ^ 4
  dataStart : superblock.dataStart < 256 ^ 4
  objectRecordSize : superblock.objectRecordSize < 256 ^ 2
  directoryRecordSize : superblock.directoryRecordSize < 256 ^ 2
  featureCompat : superblock.featureCompat < 256 ^ 4
  featureRoCompat : superblock.featureRoCompat < 256 ^ 4
  featureIncompat : superblock.featureIncompat < 256 ^ 4

/-- A value of `struct boringfs_object` -/
structure BoringfsObject.Representable (object : BoringfsObject) : Prop where
  state : object.state < 256 ^ 1
  type : object.type < 256 ^ 1
  flags : object.flags < 256 ^ 2
  objectId : object.objectId < 256 ^ 4
  parentObjectId : object.parentObjectId < 256 ^ 4
  extentCount : object.extentCount < 256 ^ 2
  sizeBytes : object.sizeBytes < 256 ^ 8
  slots : object.extents.length = boringfsMaxExtents
  extents : ∀ extent ∈ object.extents, extent.Representable

/-- A value of `struct boringfs_directory_record` -/
structure BoringfsDirectoryRecord.Representable (record : BoringfsDirectoryRecord) : Prop where
  objectId : record.objectId < 256 ^ 4
  nameLength : record.nameLength < 256 ^ 2
  typeHint : record.typeHint < 256 ^ 1
  flags : record.flags < 256 ^ 1
  name : record.name.length = boringfsMaxFilename

variable (object : BoringfsObject)

/-- The object without the extents behind its count -/
def BoringfsObject.cleared : BoringfsObject :=
  { object with
    extents := (List.range boringfsMaxExtents).map fun index =>
      if index < object.extentCount then object.extents.getD index ⟨0, 0⟩ else ⟨0, 0⟩ }

/-- The record without the bytes behind the length of its name -/
def BoringfsDirectoryRecord.padded (record : BoringfsDirectoryRecord) : BoringfsDirectoryRecord :=
  { record with
    name := record.name.take record.nameLength ++ zeroBytes (boringfsMaxFilename - record.nameLength) }

@[simp] theorem length_zeroBytes (length : Nat) : (zeroBytes length).length = length :=
  List.length_replicate

/-- The number in front of a record -/
theorem slice_number (width value : Nat) (rest : List UInt8) :
    slice (storeLe width value ++ rest) 0 width = storeLe width value :=
  slice_head (length_storeLe width value)

/-- The number that ends a record -/
theorem slice_lastNumber (width value : Nat) :
    slice (storeLe width value) 0 width = storeLe width value := by
  rw [slice, List.drop_zero, List.take_of_length_le (Nat.le_of_eq (length_storeLe width value))]

theorem slice_behind_number {width offset : Nat} (behind : width ≤ offset) (value : Nat)
    (rest : List UInt8) (count : Nat) :
    slice (storeLe width value ++ rest) offset count = slice rest (offset - width) count := by
  rw [slice_append (by rw [length_storeLe]; exact behind), length_storeLe]

theorem decodeSuperblock_encodeSuperblock {superblock : BoringfsSuperblock}
    (representable : superblock.Representable) :
    boringfsDecodeSuperblock (boringfsEncodeSuperblock superblock) = superblock := by
  have behindMagic : ∀ (rest : List UInt8) {offset count : Nat}, 8 ≤ offset →
      slice (superblock.magic ++ rest) offset count = slice rest (offset - 8) count := by
    intro rest offset count behind
    rw [slice_append (by rw [representable.magic]; exact behind), representable.magic]
  unfold boringfsDecodeSuperblock boringfsEncodeSuperblock
  simp (disch := decide) only [List.append_assoc, slice_head representable.magic, behindMagic,
    slice_number, slice_behind_number, Nat.reduceSub, loadLe_storeLe representable.formatMajor,
    loadLe_storeLe representable.formatMinor, loadLe_storeLe representable.headerSize,
    loadLe_storeLe representable.blockShift, loadLe_storeLe representable.flags,
    loadLe_storeLe representable.totalBlocks, loadLe_storeLe representable.bitmapStart,
    loadLe_storeLe representable.bitmapBlocks, loadLe_storeLe representable.objectTableStart,
    loadLe_storeLe representable.objectTableBlocks, loadLe_storeLe representable.objectCount,
    loadLe_storeLe representable.rootObjectId, loadLe_storeLe representable.dataStart,
    loadLe_storeLe representable.objectRecordSize, loadLe_storeLe representable.directoryRecordSize,
    loadLe_storeLe representable.featureCompat, loadLe_storeLe representable.featureRoCompat,
    loadLe_storeLe representable.featureIncompat]

/-- An extent in a table that holds only the used ones -/
theorem decodeExtent_encodedExtent {object : BoringfsObject}
    (representable : object.Representable) (index : Nat) :
    boringfsDecodeExtent (encodedExtent object index) =
      if index < object.extentCount then object.extents.getD index ⟨0, 0⟩ else ⟨0, 0⟩ := by
  rw [encodedExtent]
  by_cases used : index < object.extentCount
  · have fits : (object.extents.getD index ⟨0, 0⟩).Representable := by
      rw [List.getD_eq_getElem?_getD]
      cases found : object.extents[index]? with
      | none => exact ⟨by decide, by decide⟩
      | some extent => exact representable.extents extent (List.mem_of_getElem? found)
    rw [if_pos used, if_pos used]
    generalize object.extents.getD index ⟨0, 0⟩ = extent at fits
    have second : slice (storeLe 4 extent.startBlock ++ storeLe 4 extent.blockCount) 4 4 =
        storeLe 4 extent.blockCount := by
      rw [slice_behind_number (Nat.le_refl 4), slice_lastNumber]
    rw [boringfsDecodeExtent, boringfsEncodeExtent, slice_number, second,
      loadLe_storeLe fits.startBlock, loadLe_storeLe fits.blockCount]
  · rw [if_neg used, if_neg used]
    rfl

theorem length_encodedExtent (index : Nat) :
    (encodedExtent object index).length = boringfsExtentRecordSize := by
  rw [encodedExtent]
  split
  · rfl
  · exact length_zeroBytes _

theorem length_encodedObjectHeader : (encodedObjectHeader object).length = 24 := by
  rfl

variable {bytes : List UInt8}

theorem decodeObject_encodeObject {object : BoringfsObject}
    (representable : object.Representable)
    (encoded : boringfsEncodeObject object = some bytes) :
    boringfsDecodeObject bytes = object.cleared := by
  rw [boringfsEncodeObject] at encoded
  by_cases free : object.state = boringfsObjectFree
  · rw [if_pos free] at encoded
    by_cases zero : freeObjectValueIsZero object = true
    · rw [if_pos zero] at encoded
      cases encoded
      simp only [freeObjectValueIsZero, Bool.and_eq_true, beq_iff_eq] at zero
      rcases zero with ⟨⟨⟨⟨⟨⟨type, flags⟩, objectId⟩, parent⟩, count⟩, size⟩, -⟩
      simp only [BoringfsObject.cleared, free, type, flags, objectId, parent, count, size,
        Nat.not_lt_zero, if_false]
      decide
    grind
  · rw [if_neg free] at encoded
    by_cases refused : object.state ≠ boringfsObjectAllocated ∨ boringfsMaxExtents < object.extentCount
    · grind
    rw [if_neg refused] at encoded
    cases encoded
    have table : ∀ index ∈ List.range boringfsMaxExtents,
        boringfsDecodeExtent (slice (encodedObjectHeader object ++
          ((List.range boringfsMaxExtents).flatMap (encodedExtent object) ++ zeroBytes 40))
            (24 + index * boringfsExtentRecordSize) boringfsExtentRecordSize) =
          if index < object.extentCount then object.extents.getD index ⟨0, 0⟩
          else ⟨0, 0⟩ := by
      intro index inTable
      have below := List.mem_range.mp inTable
      have wide := length_flatMap_range (length_encodedExtent object) boringfsMaxExtents
      have inside : index * boringfsExtentRecordSize + boringfsExtentRecordSize ≤
          boringfsMaxExtents * boringfsExtentRecordSize := by
        rw [← Nat.succ_mul]
        exact Nat.mul_le_mul_right _ below
      rw [slice_append (by rw [length_encodedObjectHeader]; omega), length_encodedObjectHeader,
        Nat.add_sub_cancel_left, slice_append_left (by omega),
        slice_flatMap_range (length_encodedExtent object) below, decodeExtent_encodedExtent representable]
    rw [boringfsDecodeObject, List.append_assoc, List.map_congr_left table]
    have behindZeros : ∀ (rest : List UInt8), slice (zeroBytes 2 ++ rest) 2 8 = slice rest 0 8 :=
      fun rest => slice_append (Nat.le_of_eq (length_zeroBytes 2))
    unfold encodedObjectHeader
    simp (disch := decide) only [List.append_assoc, slice_number, slice_behind_number,
      Nat.reduceSub, behindZeros, loadLe_storeLe representable.state,
      loadLe_storeLe representable.type, loadLe_storeLe representable.flags,
      loadLe_storeLe representable.objectId, loadLe_storeLe representable.parentObjectId,
      loadLe_storeLe representable.extentCount, loadLe_storeLe representable.sizeBytes,
      BoringfsObject.cleared]

theorem decodeDirectoryRecord_encodeDirectoryRecord {record : BoringfsDirectoryRecord}
    (representable : record.Representable) (encoded : boringfsEncodeDirectoryRecord record = some bytes) :
    boringfsDecodeDirectoryRecord bytes = record.padded := by
  rw [boringfsEncodeDirectoryRecord] at encoded
  by_cases unused : record.objectId = boringfsNullObjectId
  · rw [if_pos unused] at encoded
    by_cases zero : unusedDirectoryValueIsZero record = true
    · rw [if_pos zero] at encoded
      cases encoded
      simp only [unusedDirectoryValueIsZero, Bool.and_eq_true, beq_iff_eq] at zero
      rcases zero with ⟨⟨⟨nameLength, typeHint⟩, flags⟩, -⟩
      simp only [BoringfsDirectoryRecord.padded, unused, nameLength, typeHint, flags, List.take_zero]
      decide +kernel
    grind
  · rw [if_neg unused] at encoded
    by_cases refused : record.nameLength = 0 ∨ boringfsMaxFilename < record.nameLength
    · grind
    rw [if_neg refused] at encoded
    cases encoded
    have bounded : record.nameLength ≤ boringfsMaxFilename :=
      Nat.le_of_not_lt fun long => refused (Or.inr long)
    have field : (record.name.take record.nameLength ++
        zeroBytes (boringfsMaxFilename - record.nameLength)).length = boringfsMaxFilename := by
      rw [List.length_append, length_zeroBytes,
        List.length_take_of_le (Nat.le_trans bounded (Nat.le_of_eq representable.name.symm))]
      omega
    rw [BoringfsDirectoryRecord.padded]
    unfold boringfsDecodeDirectoryRecord
    generalize record.name.take record.nameLength ++
      zeroBytes (boringfsMaxFilename - record.nameLength) = name at field
    simp (disch := decide) only [List.append_assoc, slice_number, slice_behind_number,
      Nat.reduceSub, loadLe_storeLe representable.objectId,
      loadLe_storeLe representable.nameLength, loadLe_storeLe representable.typeHint,
      loadLe_storeLe representable.flags, slice_head field]

theorem eq_zeroBytes_of_allZero (zero : bytesAllZero bytes = true) :
    bytes = zeroBytes bytes.length := by
  rw [bytesAllZero, List.all_eq_true] at zero
  refine List.eq_replicate_iff.mpr ⟨rfl, fun byte member => ?_⟩
  exact beq_iff_eq.mp (zero byte member)

theorem slice_reserved {offset width : Nat} (inside : offset + width ≤ bytes.length)
    (zero : bytesAllZero (slice bytes offset width) = true) :
    slice bytes offset width = zeroBytes width := by
  grind [eq_zeroBytes_of_allZero, length_slice]

theorem encodeSuperblock_decodeSuperblock {header : List UInt8} (enough : 64 ≤ header.length) :
    boringfsEncodeSuperblock (boringfsDecodeSuperblock header) =
      slice header 0 64 ++ zeroBytes (boringfsBlockSize - 64) := by
  have field : ∀ offset width, offset + width ≤ 64 →
      storeLe width (loadLe (slice header offset width)) = slice header offset width :=
    fun offset width inside => storeLe_slice (Nat.le_trans inside enough)
  have joined : ∀ offset first second, slice header offset first ++
      slice header (offset + first) second = slice header offset (first + second) :=
    fun offset first second => (slice_add header offset first second).symm
  unfold boringfsEncodeSuperblock boringfsDecodeSuperblock
  simp [*]

theorem encodeObject_decodeObject {raw : List UInt8} (length : raw.length = boringfsObjectRecordSize)
    (allocated : (boringfsDecodeObject raw).state = boringfsObjectAllocated)
    (count : (boringfsDecodeObject raw).extentCount ≤ boringfsMaxExtents)
    (reserved : bytesAllZero (slice raw 14 2) = true ∧ bytesAllZero (slice raw 88 40) = true)
    (unused : ∀ index, (boringfsDecodeObject raw).extentCount ≤ index →
      index < boringfsMaxExtents → bytesAllZero (slice raw
        (24 + index * boringfsExtentRecordSize) boringfsExtentRecordSize) = true) :
    boringfsEncodeObject (boringfsDecodeObject raw) = some raw := by
  have wide : raw.length = 128 := length
  have notFree : (boringfsDecodeObject raw).state ≠ boringfsObjectFree := by
    rw [allocated]
    decide
  have admitted : ¬ ((boringfsDecodeObject raw).state ≠ boringfsObjectAllocated ∨
      boringfsMaxExtents < (boringfsDecodeObject raw).extentCount) := by
    rintro (other | large)
    · exact other allocated
    · exact absurd large (Nat.not_lt.mpr count)
  have field : ∀ offset width, offset + width ≤ 128 →
      storeLe width (loadLe (slice raw offset width)) = slice raw offset width :=
    fun offset width inside => storeLe_slice (by omega)
  have joined : ∀ offset first second, slice raw offset first ++
      slice raw (offset + first) second = slice raw offset (first + second) :=
    fun offset first second => (slice_add raw offset first second).symm
  have header : encodedObjectHeader (boringfsDecodeObject raw) = slice raw 0 24 := by
    have zeros := slice_reserved (by omega) reserved.1
    unfold encodedObjectHeader boringfsDecodeObject
    simp (disch := decide) only [field]
    rw [← zeros, joined 0 1 1, joined 0 2 2, joined 0 4 4, joined 0 8 4, joined 0 12 2,
      joined 0 14 2, joined 0 16 8]
  have table : (List.range boringfsMaxExtents).flatMap (encodedExtent (boringfsDecodeObject raw)) =
      slice raw 24 64 := by
    have whole := flatMap_range_slice raw 24 boringfsExtentRecordSize boringfsMaxExtents
    refine (congrArg List.flatten (List.map_congr_left fun index inTable => ?_)).trans whole
    have below := List.mem_range.mp inTable
    have inside : 24 + index * boringfsExtentRecordSize + boringfsExtentRecordSize ≤ 128 := by
      have small : index < 8 := below
      unfold boringfsExtentRecordSize
      omega
    rw [encodedExtent]
    by_cases used : index < (boringfsDecodeObject raw).extentCount
    · have found : (boringfsDecodeObject raw).extents.getD index ⟨0, 0⟩ =
          boringfsDecodeExtent (slice raw (24 + index * boringfsExtentRecordSize)
            boringfsExtentRecordSize) := by
        rw [boringfsDecodeObject, List.getD_eq_getElem?_getD, List.getElem?_map, List.getElem?_range below]
        rfl
      generalize 24 + index * boringfsExtentRecordSize = offset at inside found
      have inside' : offset + 8 ≤ 128 := inside
      have lower : slice (slice raw offset 8) 0 4 = slice raw (offset + 0) 4 :=
        slice_slice (by decide)
      have upper : slice (slice raw offset 8) 4 4 = slice raw (offset + 4) 4 :=
        slice_slice (by decide)
      rw [found, boringfsEncodeExtent, boringfsDecodeExtent]
      unfold boringfsExtentRecordSize
      grind
    · simp_all [slice_reserved, Nat.le_of_not_lt]
  have tail := slice_reserved (by omega) reserved.2
  have whole := slice_all raw
  rw [wide] at whole
  rw [boringfsEncodeObject, if_neg notFree, if_neg admitted, header, table, ← tail,
    joined 0 24 64, joined 0 88 40, whole]

theorem encodeDirectoryRecord_decodeDirectoryRecord {raw : List UInt8}
    (length : raw.length = boringfsDirectoryRecordSize)
    (used : (boringfsDecodeDirectoryRecord raw).objectId ≠ boringfsNullObjectId)
    (named : (boringfsDecodeDirectoryRecord raw).nameLength ≠ 0 ∧
      (boringfsDecodeDirectoryRecord raw).nameLength ≤ boringfsMaxFilename)
    (reserved : bytesAllZero (slice raw 248 8) = true)
    (padding : bytesAllZero ((boringfsDecodeDirectoryRecord raw).name.drop
      (boringfsDecodeDirectoryRecord raw).nameLength) = true) :
    boringfsEncodeDirectoryRecord (boringfsDecodeDirectoryRecord raw) = some raw := by
  have wide : raw.length = 256 := length
  have admitted : ¬ ((boringfsDecodeDirectoryRecord raw).nameLength = 0 ∨
      boringfsMaxFilename < (boringfsDecodeDirectoryRecord raw).nameLength) := by
    rintro (none | long)
    · exact named.1 none
    · exact absurd long (Nat.not_lt.mpr named.2)
  have field : ∀ offset width, offset + width ≤ 256 →
      storeLe width (loadLe (slice raw offset width)) = slice raw offset width :=
    fun offset width inside => storeLe_slice (by omega)
  have joined : ∀ offset first second, slice raw offset first ++
      slice raw (offset + first) second = slice raw offset (first + second) :=
    fun offset first second => (slice_add raw offset first second).symm
  have name : (boringfsDecodeDirectoryRecord raw).name.take (boringfsDecodeDirectoryRecord raw).nameLength ++
      zeroBytes (boringfsMaxFilename - (boringfsDecodeDirectoryRecord raw).nameLength) =
        slice raw 8 boringfsMaxFilename := by
    have zeros := eq_zeroBytes_of_allZero padding
    have isName : (boringfsDecodeDirectoryRecord raw).name = slice raw 8 boringfsMaxFilename := rfl
    rw [List.length_drop, isName, length_slice (by rw [wide]; decide)] at zeros
    rw [isName, ← zeros, List.take_append_drop]
  have tail := slice_reserved (by omega) reserved
  have whole := slice_all raw
  rw [boringfsEncodeDirectoryRecord, if_neg used, if_neg admitted, name, ← tail]
  unfold boringfsDecodeDirectoryRecord
  simp (disch := decide) only [field]
  have last := joined 0 248 8
  simp_all [boringfsMaxFilename]

end BoringOS.BoringFs
