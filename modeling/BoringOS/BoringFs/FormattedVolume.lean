import BoringOS.BoringFs.Formatter

namespace BoringOS.BoringFs

open Library

/-!
# The formatted volume

What the formatter writes is described part by part: the superblock, the bits,
the record of the root, and zero bytes behind it.  From this description every
pass of the validator succeeds, and there is nothing in the volume but an empty
root directory.
-/

/-- A bit of the bitmap behind the superblock -/
def bitAt (volume : ByteVolume) (bit : Nat) : Bool :=
  (volume (boringfsBlockSize + bit / 8)).toNat.testBit (bit % 8)

/-! ## Setting bits -/

theorem setBitmapBit_bitAt (volume : ByteVolume) (bitIndex bit : Nat) :
    bitAt (setBitmapBit volume bitIndex) bit = (bitAt volume bit || decide (bitIndex = bit)) := by
  rw [bitAt, bitAt, setBitmapBit]
  by_cases sameByte : bit / 8 = bitIndex / 8
  · rw [sameByte, Function.update_self, UInt8.toNat_or, Nat.testBit_or, bitMask_toNat, Nat.testBit_two_pow]
    congr 1
    rw [decide_eq_decide]
    omega
  grind

/-- The loop sets the bits outside of the data region, and no other ones. -/
theorem setBitmapBits_bitAt (geometry : BoringfsGeometry) (count bit : Nat) :
    ∀ start volume, bitAt (setBitmapBits geometry count start volume) bit =
      (bitAt volume bit || decide (start ≤ bit ∧ bit < start + count ∧
        (bit < geometry.dataStart ∨ geometry.totalBlocks ≤ bit))) := by
  induction count with
  | zero =>
    simp_all [setBitmapBits, decide_eq_false, Bool.or_false]
  | succ count ih =>
    intro start volume
    have first : bitAt (if start < geometry.dataStart ∨ geometry.totalBlocks ≤ start then
        setBitmapBit volume start else volume) bit = (bitAt volume bit ||
          decide (start = bit ∧ (bit < geometry.dataStart ∨ geometry.totalBlocks ≤ bit))) := by
      by_cases reserved : start < geometry.dataStart ∨ geometry.totalBlocks ≤ start
      · rw [if_pos reserved, setBitmapBit_bitAt]
        grind
      · grind
    rw [setBitmapBits, ih, first, Bool.or_assoc, ← Bool.decide_or]
    grind

/-- The loop leaves all bytes alone that hold no bit of its range. -/
theorem setBitmapBits_outside (geometry : BoringfsGeometry) {position : Nat} (count : Nat) :
    ∀ start volume, (∀ bit, start ≤ bit → bit < start + count →
        boringfsBlockSize + bit / 8 ≠ position) →
      setBitmapBits geometry count start volume position = volume position := by
  induction count with
  | zero => exact fun _ _ _ => rfl
  | succ count ih =>
    intro start volume outside
    rw [setBitmapBits, ih _ _ fun bit lower upper => outside bit (by omega) (by omega)]
    split
    · exact Function.update_of_ne (outside start (Nat.le_refl _) (by omega)).symm _ _
    · rfl

/-! ## The parts of the image -/

/-- The record of the root directory -/
def rootBytes : List UInt8 :=
  encodedObjectHeader formattedRoot ++
    (List.range boringfsMaxExtents).flatMap (encodedExtent formattedRoot) ++ zeroBytes 40

theorem encodeObject_formattedRoot : boringfsEncodeObject formattedRoot = some rootBytes := rfl

/-- What `initialize_volume` leaves in the volume. -/
structure FormattedImage (geometry : BoringfsGeometry) (image : ByteVolume) : Prop where
  header : image.read 0 boringfsBlockSize = boringfsEncodeSuperblock (formattedSuperblock geometry)
  bits : ∀ bit < geometry.bitmapBlocks * boringfsBitmapBlockBits,
    bitAt image bit = decide (bit < geometry.dataStart ∨ geometry.totalBlocks ≤ bit)
  root : image.read (geometry.objectTableStart * boringfsBlockSize) boringfsObjectRecordSize =
    rootBytes
  free : ∀ position,
    geometry.objectTableStart * boringfsBlockSize + boringfsObjectRecordSize ≤ position →
      position < geometry.volumeBytes → image position = 0

theorem encodeSuperblock_fields {superblock : BoringfsSuperblock} (magic : superblock.magic.length = 8) :
    ∃ fields, fields.length = 64 ∧
      boringfsEncodeSuperblock superblock = fields ++ zeroBytes (boringfsBlockSize - 64) := by
  refine ⟨_, ?_, rfl⟩
  simp [*]

theorem length_encodeSuperblock {superblock : BoringfsSuperblock} (magic : superblock.magic.length = 8) :
    (boringfsEncodeSuperblock superblock).length = boringfsBlockSize := by
  rcases encodeSuperblock_fields magic with ⟨fields, length, encoded⟩
  rw [encoded, List.length_append, length, length_zeroBytes]
  rfl

theorem length_rootBytes : rootBytes.length = boringfsObjectRecordSize := by decide +kernel

theorem getD_zeroBytes (length index : Nat) : (zeroBytes length).getD index 0 = 0 := by
  simp [zeroBytes]

section Image

variable {totalBlocks objectCount : Nat}

theorem initializeVolume_image (admitted : AdmittedCounts totalBlocks objectCount) (volume : ByteVolume) :
    ∃ image, initializeVolume volume (totalBlocks * boringfsBlockSize)
        (geometryOf totalBlocks objectCount) = some image ∧
      FormattedImage (geometryOf totalBlocks objectCount) image := by
  have blocks := admitted.blocks
  have objects := admitted.objects
  have isGeometry : ∃ geometry, geometry = geometryOf totalBlocks objectCount := ⟨_, rfl⟩
  rcases isGeometry with ⟨geometry, isGeometry⟩
  have fits : geometry.dataStart ≤ totalBlocks := by
    rw [isGeometry]
    exact admitted.fits
  have bytes : geometry.volumeBytes = totalBlocks * boringfsBlockSize := by rw [isGeometry]; rfl
  have tableStart : geometry.objectTableStart = 1 + geometry.bitmapBlocks := by
    rw [isGeometry]
    rfl
  have tableEnd : geometry.objectTableStart + 1 ≤ geometry.dataStart := by
    rw [isGeometry]
    change 1 + ceilDiv totalBlocks 32768 + 1 ≤
      1 + ceilDiv totalBlocks 32768 + ceilDiv (objectCount * 128) 4096
    unfold ceilDiv
    omega
  rw [← isGeometry]
  clear isGeometry
  have capacity : formatterCheckedMulU64 geometry.bitmapBlocks boringfsBitmapBlockBits =
      some (geometry.bitmapBlocks * boringfsBitmapBlockBits) :=
    formatterCheckedMulU64_small (by omega) (by decide)
  have magic : (formattedSuperblock geometry).magic.length = 8 := rfl
  have length := length_encodeSuperblock magic
  have admittedSize : ¬ (geometry.volumeBytes ≠ totalBlocks * boringfsBlockSize ∨
      totalBlocks * boringfsBlockSize < boringfsBlockSize) := by
    rw [bytes]
    unfold boringfsBlockSize
    omega
  have inside : ¬ (totalBlocks * boringfsBlockSize <
      geometry.objectTableStart * boringfsBlockSize ∨ totalBlocks * boringfsBlockSize -
        geometry.objectTableStart * boringfsBlockSize < boringfsObjectRecordSize) := by
    unfold boringfsBlockSize boringfsObjectRecordSize
    omega
  simp only [initializeVolume, if_neg admittedSize, capacity, if_neg inside,
    encodeObject_formattedRoot, Option.bind_eq_bind, Option.bind_some, pure, Option.some.injEq,
    exists_eq_left']
  generalize isZeroed : volume.overwrite 0 (zeroBytes (totalBlocks * boringfsBlockSize)) = zeroed
  have zero : ∀ position < totalBlocks * boringfsBlockSize, zeroed position = 0 := by
    intro position below
    have written := @ByteVolume.overwrite_inside volume 0 position
      (zeroBytes (totalBlocks * boringfsBlockSize)) (by rw [length_zeroBytes]; exact below)
    rw [Nat.zero_add, isZeroed, getD_zeroBytes] at written
    exact written
  generalize isHeaded : zeroed.overwrite 0 (boringfsEncodeSuperblock (formattedSuperblock geometry)) = headed
  have headedZero : ∀ position, boringfsBlockSize ≤ position →
      position < totalBlocks * boringfsBlockSize → headed position = 0 := by
    intro position behind below
    rw [← isHeaded, ByteVolume.overwrite_outside (Or.inr (by omega)), zero position below]
  have bitPlace : ∀ bit, bit < geometry.bitmapBlocks * boringfsBitmapBlockBits →
      boringfsBlockSize + bit / 8 < geometry.objectTableStart * boringfsBlockSize := by
    intro bit below
    unfold boringfsBitmapBlockBits at below
    unfold boringfsBlockSize
    omega
  constructor
  · have before : 0 + boringfsBlockSize ≤ geometry.objectTableStart * boringfsBlockSize := by
      unfold boringfsBlockSize
      omega
    have untouched : (setBitmapBits geometry (geometry.bitmapBlocks * boringfsBitmapBlockBits) 0
        headed).read 0 boringfsBlockSize = headed.read 0 boringfsBlockSize := by
      apply ByteVolume.read_congr
      intro index below
      exact setBitmapBits_outside geometry _ 0 headed fun bit _ _ => by omega
    have written := ByteVolume.read_overwrite_same zeroed 0
      (boringfsEncodeSuperblock (formattedSuperblock geometry))
    simp_all [ByteVolume.read_overwrite_apart]
  · intro bit below
    have place := bitPlace bit below
    have empty : bitAt headed bit = false := by
      have inVolume : boringfsBlockSize + bit / 8 < totalBlocks * boringfsBlockSize :=
        Nat.lt_of_lt_of_le place (Nat.mul_le_mul_right _ (by omega))
      rw [bitAt, headedZero _ (Nat.le_add_right _ _) inVolume]
      exact Nat.zero_testBit _
    have set := setBitmapBits_bitAt geometry (geometry.bitmapBlocks * boringfsBitmapBlockBits) bit 0 headed
    simp_all [Bool.false_or, bitAt, ByteVolume.overwrite_outside]
  · have written := ByteVolume.read_overwrite_same
      (setBitmapBits geometry (geometry.bitmapBlocks * boringfsBitmapBlockBits) 0 headed)
      (geometry.objectTableStart * boringfsBlockSize) rootBytes
    assumption
  · grind [ByteVolume.overwrite_outside, length_rootBytes, setBitmapBits_outside, boringfsBlockSize]

/-! ## What the validator finds -/

/-- A sound superblock is a value of the C structure. -/
theorem SuperblockSound.representable {superblock : BoringfsSuperblock}
    (sound : SuperblockSound superblock) : superblock.Representable := by
  have blocks := sound.blocks
  have objects := sound.objects
  have bitmapBlocks := sound.bitmapBlocks
  have tableStart := sound.objectTableStart
  have dataStart := sound.dataStart
  have fits := sound.fits
  have bitmapStart := sound.bitmapStart
  refine ⟨by rw [sound.magic]; rfl, ?_, ?_, ?_, ?_, ?_, ?_, ?_, ?_, ?_, ?_, ?_, ?_, ?_, ?_, ?_, ?_, ?_, ?_⟩
  · rw [sound.version.1]; decide
  · rw [sound.version.2]; decide
  · rw [sound.headerSize]; decide
  · rw [sound.blockShift]; decide
  · rw [sound.flags]; decide
  · omega
  · omega
  · omega
  · omega
  · omega
  · omega
  · rw [sound.root]; decide
  · omega
  · rw [sound.recordSizes.1]; decide
  · rw [sound.recordSizes.2]; decide
  · rw [sound.features.1]; decide
  · rw [sound.features.2.1]; decide
  · rw [sound.features.2.2]; decide

/-- No field of the superblock lies behind its header. -/
theorem decodeSuperblock_slice (bytes : List UInt8) :
    boringfsDecodeSuperblock (slice bytes 0 boringfsSuperblockHeaderSize) =
      boringfsDecodeSuperblock bytes := by
  unfold boringfsDecodeSuperblock
  simp (disch := decide) only [slice_slice, Nat.zero_add]

theorem bytesAllZero_zeroBytes (length : Nat) : bytesAllZero (zeroBytes length) = true := by
  rw [bytesAllZero, zeroBytes, List.all_eq_true]
  simp

/-- The source that reads the image, and the parts of the image behind the
superblock -/
theorem FormattedImage.superblock (admitted : AdmittedCounts totalBlocks objectCount)
    {image : ByteVolume} (formatted : FormattedImage (geometryOf totalBlocks objectCount) image) :
    superblockOf image = formattedSuperblock (geometryOf totalBlocks objectCount) := by
  have header := formatted.header
  have start : slice (image.read 0 boringfsBlockSize) 0 boringfsSuperblockHeaderSize =
      image.read 0 boringfsSuperblockHeaderSize := slice_read image (by decide)
  rw [superblockOf, ← start, header, decodeSuperblock_slice,
    decodeSuperblock_encodeSuperblock (formattedSuperblock_sound admitted).representable]

theorem FormattedImage.reserved {geometry : BoringfsGeometry} {image : ByteVolume}
    (formatted : FormattedImage geometry image) :
    bytesAllZero (image.read 64 (boringfsBlockSize - 64)) = true := by
  have magic : (formattedSuperblock geometry).magic.length = 8 := rfl
  rcases encodeSuperblock_fields magic with ⟨fields, length, encoded⟩
  have behind : slice (image.read 0 boringfsBlockSize) 64 (boringfsBlockSize - 64) =
      image.read 64 (boringfsBlockSize - 64) := slice_read image (by decide)
  have zeros : slice (zeroBytes (boringfsBlockSize - 64)) (64 - 64) (boringfsBlockSize - 64) =
      zeroBytes (boringfsBlockSize - 64) := by
    have whole := slice_all (zeroBytes (boringfsBlockSize - 64))
    rw [length_zeroBytes] at whole
    exact whole
  rw [← behind, formatted.header, encoded, slice_append (Nat.le_of_eq length), length, zeros]
  exact bytesAllZero_zeroBytes _

/-- The parts of the image behind its superblock -/
def imageContents (totalBlocks objectCount : Nat) (image : ByteVolume) : VolumeContents :=
  contentsOf (formattedSuperblock (geometryOf totalBlocks objectCount)) image

theorem FormattedImage.bit {image : ByteVolume}
    (formatted : FormattedImage (geometryOf totalBlocks objectCount) image) {block : Nat}
    (inBitmap : block < ceilDiv totalBlocks 32768 * boringfsBitmapBlockBits) :
    (imageContents totalBlocks objectCount image).bit block =
      decide (block < (geometryOf totalBlocks objectCount).dataStart ∨ totalBlocks ≤ block) := by
  have bit := formatted.bits block inBitmap
  have place : bitmapOffset (formattedSuperblock (geometryOf totalBlocks objectCount)) block =
      boringfsBlockSize + block / 8 := by
    change 1 * boringfsBlockSize + block / 8 = _
    rw [Nat.one_mul]
  have isBit : (imageContents totalBlocks objectCount image).bit block = bitAt image block := by
    refine (if_pos inBitmap).trans ?_
    rw [place, bitAt]
  rw [isBit, bit]
  rfl

theorem image_regions (admitted : AdmittedCounts totalBlocks objectCount) :
    Regions (formattedSuperblock (geometryOf totalBlocks objectCount)) :=
  (formattedSuperblock_sound admitted).regions

theorem root_inTable (admitted : AdmittedCounts totalBlocks objectCount) :
    1 ≤ boringfsRootObjectId ∧ boringfsRootObjectId ≤
    (formattedSuperblock (geometryOf totalBlocks objectCount)).objectCount := by
  have objects := admitted.objects
  exact ⟨Nat.le_refl 1, Nat.le_trans (by decide) objects.1⟩

/-! ## The records of the image -/

/-- The root directory passes, and the pass learns nothing about blocks. -/
theorem validateExtent_root (source : ByteSource) (superblock : BoringfsSuperblock)
    (state : Nat × BlockOwners) :
    forRange (validateExtent source superblock boringfsRootObjectId rootBytes formattedRoot)
      boringfsMaxExtents 0 state = .ok state := by
  rfl

theorem decodeObject_rootBytes : boringfsDecodeObject rootBytes = formattedRoot := by
  decide +kernel

theorem rootBytes_notZero : ¬ bytesAllZero rootBytes = true := by decide +kernel

/-- The round of the second pass on the root -/
theorem validateObject_root {source : ByteSource} {superblock : BoringfsSuperblock}
    (counted : 1 ≤ superblock.objectCount)
    (record : readObjectRecord source superblock boringfsRootObjectId = some rootBytes)
    (owners : BlockOwners) :
    validateObject source superblock boringfsRootObjectId owners = .ok owners := by
  have parent : decide (superblock.objectCount < formattedRoot.parentObjectId) = false :=
    decide_eq_false (Nat.not_lt.mpr counted)
  have reserved : bytesAllZero (slice rootBytes 14 2) = true ∧
      bytesAllZero (slice rootBytes 88 40) = true := by decide +kernel
  have fields : ¬ badObjectFields superblock boringfsRootObjectId rootBytes formattedRoot =
      true := by
    rw [badObjectFields, parent, reserved.1, reserved.2]
    decide
  have isRoot : ¬ (formattedRoot.type ≠ boringfsTypeDirectory ∨
      formattedRoot.parentObjectId ≠ boringfsRootObjectId) := by decide
  have covered : ¬ 0 < formattedRoot.sizeBytes := by decide
  rw [validateObject, record]
  simp_all [rootBytes_notZero, decodeObject_rootBytes, validateExtent_root]

/-- A free record -/
def freeObject : BoringfsObject := boringfsDecodeObject (zeroBytes boringfsObjectRecordSize)

theorem freeObject_state : freeObject.state = boringfsObjectFree := by decide +kernel

variable (admitted : AdmittedCounts totalBlocks objectCount) {image : ByteVolume}
  (formatted : FormattedImage (geometryOf totalBlocks objectCount) image)

include admitted formatted

theorem FormattedImage.rootRecord :
    (imageContents totalBlocks objectCount image).record boringfsRootObjectId = rootBytes := by
  have objects := admitted.objects
  have inTable : 1 ≤ boringfsRootObjectId ∧ boringfsRootObjectId ≤ objectCount := by
    unfold boringfsRootObjectId
    omega
  have isRecord : (imageContents totalBlocks objectCount image).record boringfsRootObjectId =
      image.read (recordOffset (formattedSuperblock (geometryOf totalBlocks objectCount))
        boringfsRootObjectId) boringfsObjectRecordSize := if_pos inTable
  rw [isRecord, recordOffset, boringfsRootObjectId, Nat.sub_self, Nat.zero_mul, Nat.add_zero]
  exact formatted.root

theorem FormattedImage.freeRecord {objectId : Nat} (other : 2 ≤ objectId) :
    (imageContents totalBlocks objectCount image).record objectId =
      zeroBytes boringfsObjectRecordSize := by
  have fits : 1 + ceilDiv totalBlocks 32768 + ceilDiv (objectCount * 128) 4096 ≤ totalBlocks :=
    admitted.fits
  by_cases inTable : 1 ≤ objectId ∧ objectId ≤ objectCount
  · refine (if_pos inTable).trans ?_
    refine List.eq_replicate_iff.mpr ⟨ByteVolume.length_read _ _ _, fun byte member => ?_⟩
    rw [ByteVolume.read, List.mem_map] at member
    rcases member with ⟨position, inRecord, rfl⟩
    rw [List.mem_range'_1] at inRecord
    have lower : (1 + ceilDiv totalBlocks 32768) * 4096 + (objectId - 1) * 128 ≤ position :=
      inRecord.1
    have upper : position < (1 + ceilDiv totalBlocks 32768) * 4096 + (objectId - 1) * 128 + 128 := inRecord.2
    clear inRecord
    apply formatted.free
    · change (1 + ceilDiv totalBlocks 32768) * 4096 + 128 ≤ position
      omega
    · change position < totalBlocks * 4096
      grind [ceilDiv]
  · exact if_neg inTable

/-! ## The passes of the validator -/

/-- The source that the formatter hands to the validator -/
def imageSource (totalBlocks : Nat) (image : ByteVolume) : ByteSource :=
  memorySource image (totalBlocks * boringfsBlockSize)

theorem image_readRoot :
    readObjectRecord (imageSource totalBlocks image)
      (formattedSuperblock (geometryOf totalBlocks objectCount)) boringfsRootObjectId = some rootBytes := by
  have reads := memorySource_reads image (totalBlocks * boringfsBlockSize)
  rw [imageSource, readObjectRecord_eq reads (image_regions admitted) (Nat.le_refl _) (root_inTable admitted)]
  exact congrArg some (formatted.rootRecord admitted)

theorem image_readFree {objectId : Nat} (other : 2 ≤ objectId) (inTable : objectId ≤ objectCount) :
    readObjectRecord (imageSource totalBlocks image)
      (formattedSuperblock (geometryOf totalBlocks objectCount)) objectId =
        some (zeroBytes boringfsObjectRecordSize) := by
  have reads := memorySource_reads image (totalBlocks * boringfsBlockSize)
  rw [imageSource, readObjectRecord_eq reads (image_regions admitted) (Nat.le_refl _) ⟨by omega, inTable⟩]
  exact congrArg some (formatted.freeRecord admitted other)

theorem image_objects (owners : BlockOwners) :
    validateObjectsAndExtents (imageSource totalBlocks image)
      (formattedSuperblock (geometryOf totalBlocks objectCount)) owners = .ok owners := by
  have counted := (root_inTable admitted).2
  refine forRange_still _ _ fun objectId lower upper => ?_
  have upper' : objectId < 1 + objectCount := upper
  have inTable : objectId ≤ objectCount := by omega
  rcases Nat.eq_or_lt_of_le lower with rfl | other
  · exact validateObject_root counted (image_readRoot admitted formatted) owners
  have notRoot : ¬ objectId = boringfsRootObjectId := Nat.ne_of_gt other
  rw [validateObject, image_readFree admitted formatted other inTable]
  simp only [bytesAllZero_zeroBytes, if_true, if_neg notRoot]

theorem image_decodeRoot :
    decodeObjectId (imageSource totalBlocks image)
      (formattedSuperblock (geometryOf totalBlocks objectCount)) boringfsRootObjectId =
        some formattedRoot := by
  rw [decodeObjectId, image_readRoot admitted formatted, Option.map_some, decodeObject_rootBytes]

theorem image_decodeFree {objectId : Nat} (other : 2 ≤ objectId) (inTable : objectId ≤ objectCount) :
    decodeObjectId (imageSource totalBlocks image)
      (formattedSuperblock (geometryOf totalBlocks objectCount)) objectId = some freeObject := by
  rw [decodeObjectId, image_readFree admitted formatted other inTable, Option.map_some, freeObject]

theorem image_parents :
    validateParentsAndCycles (imageSource totalBlocks image)
      (formattedSuperblock (geometryOf totalBlocks objectCount)) = .ok () := by
  rw [validateParentsAndCycles, image_decodeRoot admitted formatted]
  refine forRange_still _ _ fun objectId lower upper => ?_
  have inTable : objectId < 2 + (objectCount - 1) := upper
  rw [validateParent, image_decodeFree admitted formatted lower (by omega)]
  simp only [freeObject_state, if_true]

theorem image_directories (counts : Nat → Nat) :
    validateDirectories (imageSource totalBlocks image)
      (formattedSuperblock (geometryOf totalBlocks objectCount)) counts = .ok counts := by
  refine forRange_still _ _ fun objectId lower upper => ?_
  have upper' : objectId < 1 + objectCount := upper
  rcases Nat.eq_or_lt_of_le lower with rfl | other
  · have decoded := image_decodeRoot admitted formatted
    unfold boringfsRootObjectId at decoded
    rw [validateDirectory, decoded]
    rfl
  · have free : freeObject.state ≠ boringfsObjectAllocated ∨ freeObject.type ≠ boringfsTypeDirectory := by
      exact Or.inl (by decide)
    grind [validateDirectory, image_decodeFree]

theorem image_references :
    validateReferences (imageSource totalBlocks image)
      (formattedSuperblock (geometryOf totalBlocks objectCount)) (fun _ => 0) = .ok () := by
  have counted : 1 ≤ objectCount := (root_inTable admitted).2
  refine forRange_still _ _ fun objectId lower upper => ?_
  have inTable : objectId < 2 + (objectCount - 1) := upper
  have notAllocated : ¬ (freeObject.state = boringfsObjectAllocated ∧ (0 : Nat) ≠ 1) := by
    decide
  grind [validateReference, image_decodeFree]

theorem image_ownership (owners : BlockOwners) :
    validateAllocationOwnership (imageSource totalBlocks image)
      (formattedSuperblock (geometryOf totalBlocks objectCount)) owners = .ok () := by
  have reads := memorySource_reads image (totalBlocks * boringfsBlockSize)
  have regions := image_regions admitted
  have covers := regions.bitmapCovers
  refine forRange_still _ _ fun block lower upper => ?_
  have below : block < totalBlocks := by
    have fits := admitted.fits
    change block < (geometryOf totalBlocks objectCount).dataStart +
      (totalBlocks - (geometryOf totalBlocks objectCount).dataStart) at upper
    omega
  have inBitmap : block < ceilDiv totalBlocks 32768 * boringfsBitmapBlockBits :=
    Nat.lt_of_lt_of_le below covers
  have bit := formatted.bit inBitmap
  have data : ¬ (block < (geometryOf totalBlocks objectCount).dataStart ∨ totalBlocks ≤ block) := by
    rintro (metadata | tail)
    · exact absurd metadata (Nat.not_lt.mpr lower)
    · exact absurd below (Nat.not_lt.mpr tail)
  rw [decide_eq_false data, imageContents] at bit
  have notLeaked : ¬ (false = true ∧ owners block = 0) := fun both => Bool.false_ne_true both.1
  rw [validateOwnership, imageSource, bitmapBit_eq reads regions (Nat.le_refl _) inBitmap, bit]
  simp only [if_neg notLeaked]

theorem image_bitmap : ∃ owners, validateBitmapMetadataAndTail (imageSource totalBlocks image)
    (formattedSuperblock (geometryOf totalBlocks objectCount)) (fun _ => 0) = .ok owners := by
  have reads := memorySource_reads image (totalBlocks * boringfsBlockSize)
  have regions := image_regions admitted
  have covers : totalBlocks ≤ ceilDiv totalBlocks 32768 * 32768 := regions.bitmapCovers
  have fits := admitted.fits
  refine (validateBitmapMetadataAndTail_spec reads regions (Nat.le_refl _)).1.mpr ⟨?_, ?_⟩
  · intro block metadata
    have inBitmap : block < ceilDiv totalBlocks 32768 * boringfsBitmapBlockBits :=
      Nat.lt_of_lt_of_le metadata (Nat.le_trans fits covers)
    exact (formatted.bit inBitmap).trans (decide_eq_true (Or.inl metadata))
  · intro block tail inBitmap
    exact (formatted.bit inBitmap).trans (decide_eq_true (Or.inr tail))

theorem image_accepted {workspace : ValidationWorkspace}
    (enough : totalBlocks ≤ workspace.blockOwnerCount ∧
      objectCount ≤ workspace.objectReferenceCountCount) :
    boringfsValidateVolume image (totalBlocks * boringfsBlockSize) workspace = .ok () := by
  have reads := memorySource_reads image (totalBlocks * boringfsBlockSize)
  have first := (validateSuperblock_ok_iff reads
    (formattedSuperblock (geometryOf totalBlocks objectCount))).mpr
      ⟨(formatted.superblock admitted).symm, formattedSuperblock_sound admitted,
        formatted.reserved, Nat.le_refl _⟩
  have room : ¬ (workspace.blockOwnerCount <
        (formattedSuperblock (geometryOf totalBlocks objectCount)).totalBlocks ∨
      workspace.objectReferenceCountCount <
        (formattedSuperblock (geometryOf totalBlocks objectCount)).objectCount) := by
    change ¬ (workspace.blockOwnerCount < totalBlocks ∨ workspace.objectReferenceCountCount < objectCount)
    omega
  rcases image_bitmap admitted formatted with ⟨owners, bitmap⟩
  have objects := image_objects admitted formatted owners
  have parents := image_parents admitted formatted
  have directories := image_directories admitted formatted fun _ => 0
  have references := image_references admitted formatted
  have ownership := image_ownership admitted formatted owners
  rw [imageSource] at bitmap objects parents directories references ownership
  rw [boringfsValidateVolume, boringfsValidateSource, first]
  simp_all [validateContents, bind, Except.bind]

end Image

/-! ## The formatter and the validator -/

/-- The volume holds a root directory without entries and nothing else. -/
structure OnlyEmptyRoot (superblock : BoringfsSuperblock) (contents : VolumeContents) : Prop where
  live : ∀ objectId, contents.Live objectId ↔ objectId = boringfsRootObjectId
  directory : (contents.object boringfsRootObjectId).type = boringfsTypeDirectory
  empty : (contents.object boringfsRootObjectId).slots = 0 ∧
    (contents.object boringfsRootObjectId).blocks = []
  unallocated : ∀ block, superblock.dataStart ≤ block → block < superblock.totalBlocks →
    contents.bit block = false

theorem image_onlyEmptyRoot {totalBlocks objectCount : Nat}
    (admitted : AdmittedCounts totalBlocks objectCount) {image : ByteVolume}
    (formatted : FormattedImage (geometryOf totalBlocks objectCount) image) :
    OnlyEmptyRoot (superblockOf image) (contentsOf (superblockOf image) image) := by
  rw [formatted.superblock admitted]
  have root := formatted.rootRecord admitted
  rw [imageContents] at root
  have object : (contentsOf (formattedSuperblock (geometryOf totalBlocks objectCount))
      image).object boringfsRootObjectId = formattedRoot := by
    rw [VolumeContents.object, root, decodeObject_rootBytes]
  refine ⟨fun objectId => ⟨fun live => ?_, ?_⟩, ?_, ?_, ?_⟩
  · by_contra notRoot
    have zeros : (contentsOf (formattedSuperblock (geometryOf totalBlocks objectCount))
        image).record objectId = zeroBytes boringfsObjectRecordSize := by
      rcases Nat.lt_or_ge objectId 2 with small | other
      · refine if_neg fun inTable => notRoot ?_
        unfold boringfsRootObjectId
        omega
      · exact formatted.freeRecord admitted other
    rw [VolumeContents.Live, zeros, bytesAllZero_zeroBytes] at live
    exact Bool.false_ne_true live.symm
  · simp_all [VolumeContents.Live, rootBytes_notZero]
  · rw [object]
    rfl
  · rw [object]
    exact ⟨by decide, by decide⟩
  · intro block lower upper
    have below : block < totalBlocks := upper
    have inBitmap : block < ceilDiv totalBlocks 32768 * boringfsBitmapBlockBits :=
      Nat.lt_of_lt_of_le below (image_regions admitted).bitmapCovers
    have data : ¬ (block < (geometryOf totalBlocks objectCount).dataStart ∨ totalBlocks ≤ block) := by
      rintro (metadata | tail)
      · exact absurd metadata (Nat.not_lt.mpr lower)
      · exact absurd below (Nat.not_lt.mpr tail)
    exact (formatted.bit inBitmap).trans (decide_eq_false data)

/-- The formatter lays out exactly the counts that some volume can name in a
superblock that the validator admits.  What it then writes over any memory is
accepted, and holds an empty root directory only. -/
theorem mkboringfs_exact (totalBlocks objectCount : Nat) :
    ((∃ geometry, calculateGeometry totalBlocks objectCount = some geometry) ↔
      ∃ volume volumeSize superblock, validateSuperblock (memorySource volume volumeSize) = .ok superblock ∧
          superblock.totalBlocks = totalBlocks ∧ superblock.objectCount = objectCount) ∧
    ∀ geometry, calculateGeometry totalBlocks objectCount = some geometry → ∀ volume,
      ∃ image, initializeVolume volume geometry.volumeBytes geometry = some image ∧
        boringfsValidateVolume image geometry.volumeBytes
          ⟨geometry.totalBlocks, geometry.objectCount⟩ = .ok () ∧
        OnlyEmptyRoot (superblockOf image) (contentsOf (superblockOf image) image) := by
  refine ⟨⟨?_, ?_⟩, ?_⟩
  · rintro ⟨geometry, laidOut⟩
    have admitted := ((calculateGeometry_iff totalBlocks objectCount geometry).mp laidOut).1
    rcases initializeVolume_image admitted fun _ => 0 with ⟨image, -, formatted⟩
    refine ⟨image, totalBlocks * boringfsBlockSize,
      formattedSuperblock (geometryOf totalBlocks objectCount), ?_, rfl, rfl⟩
    exact (validateSuperblock_ok_iff (memorySource_reads image _) _).mpr
      ⟨(formatted.superblock admitted).symm, formattedSuperblock_sound admitted,
        formatted.reserved, Nat.le_refl _⟩
  · rintro ⟨volume, volumeSize, superblock, accepted, rfl, rfl⟩
    rcases (validateSuperblock_ok_iff (memorySource_reads volume _) _).mp accepted with
      ⟨-, sound, -⟩
    exact ⟨_, (calculateGeometry_iff _ _ _).mpr ⟨admittedCounts_of_sound sound, rfl⟩⟩
  · intro geometry laidOut volume
    rcases (calculateGeometry_iff totalBlocks objectCount geometry).mp laidOut with
      ⟨admitted, rfl⟩
    rcases initializeVolume_image admitted volume with ⟨image, filled, formatted⟩
    exact ⟨image, filled, image_accepted admitted formatted ⟨Nat.le_refl _, Nat.le_refl _⟩,
      image_onlyEmptyRoot admitted formatted⟩

/-- The smallest object table in a volume of eight blocks -/
theorem mkboringfs_exact_eight : calculateGeometry 8 64 = some (geometryOf 8 64) ∧
    ∃ image, initializeVolume (fun _ => 0xff) (geometryOf 8 64).volumeBytes (geometryOf 8 64) =
        some image ∧
      boringfsValidateVolume image (geometryOf 8 64).volumeBytes
        ⟨(geometryOf 8 64).totalBlocks, (geometryOf 8 64).objectCount⟩ = .ok () ∧
      OnlyEmptyRoot (superblockOf image) (contentsOf (superblockOf image) image) :=
  ⟨by decide, (mkboringfs_exact 8 64).2 (geometryOf 8 64) (by decide) fun _ => 0xff⟩

/-! ## Round trips -/

/-- Decoding undoes encoding for all three kinds of records, up to what the
encoders drop, and in an accepted volume encoding undoes decoding. -/
theorem records_round_trip :
    (∀ superblock : BoringfsSuperblock, superblock.Representable →
      boringfsDecodeSuperblock (boringfsEncodeSuperblock superblock) = superblock) ∧
    (∀ (object : BoringfsObject) bytes, object.Representable →
      boringfsEncodeObject object = some bytes → boringfsDecodeObject bytes = object.cleared) ∧
    (∀ (record : BoringfsDirectoryRecord) bytes, record.Representable →
      boringfsEncodeDirectoryRecord record = some bytes →
        boringfsDecodeDirectoryRecord bytes = record.padded) ∧
    ∀ (source : ByteSource) (volume : ByteVolume) (workspace : ValidationWorkspace),
      source.Reads volume → boringfsValidateSource source workspace = .ok () →
        boringfsEncodeSuperblock (superblockOf volume) = volume.read 0 boringfsBlockSize ∧
        (∀ objectId, 1 ≤ objectId → objectId ≤ (superblockOf volume).objectCount →
          boringfsEncodeObject ((contentsOf (superblockOf volume) volume).object objectId) =
            some ((contentsOf (superblockOf volume) volume).record objectId)) ∧
        ∀ directoryId slot, (contentsOf (superblockOf volume) volume).LiveDirectory directoryId →
          slot < ((contentsOf (superblockOf volume) volume).object directoryId).slots →
            boringfsEncodeDirectoryRecord ((contentsOf (superblockOf volume) volume).entry directoryId slot) =
              some ((contentsOf (superblockOf volume) volume).entryBytes directoryId slot) := by
  refine ⟨fun _ representable => decodeSuperblock_encodeSuperblock representable,
    fun _ _ representable encoded => decodeObject_encodeObject representable encoded,
    fun _ _ representable encoded =>
      decodeDirectoryRecord_encodeDirectoryRecord representable encoded, ?_⟩
  intro source volume workspace reads accepted
  rcases accepted_passes reads accepted with
    ⟨sound, zeros, inside, ⟨owners, owners', objects⟩, counts, counts', directories⟩
  have regions := sound.regions
  refine ⟨?_, ?_, ?_⟩
  · have behind := eq_zeroBytes_of_allZero zeros
    rw [ByteVolume.length_read] at behind
    have start : slice (volume.read 0 boringfsSuperblockHeaderSize) 0 64 = volume.read 0 64 :=
      slice_read volume (by decide)
    rw [superblockOf, encodeSuperblock_decodeSuperblock (by
      rw [ByteVolume.length_read]
      decide), ← behind, start]
    rfl
  · grind [encodeObject_record]
  grind [encodeDirectoryRecord_entry]

/-- The record of a file with a name of one letter -/
def letterRecord : BoringfsDirectoryRecord where
  objectId := 2
  nameLength := 1
  typeHint := boringfsTypeRegular
  flags := 0
  name := 0x61 :: zeroBytes 239

/-- A superblock, an object, a directory record and a volume that the round trips
speak of -/
theorem records_round_trip_formatted :
    boringfsDecodeSuperblock (boringfsEncodeSuperblock (formattedSuperblock (geometryOf 8 64))) =
        formattedSuperblock (geometryOf 8 64) ∧
      boringfsDecodeObject rootBytes = formattedRoot.cleared ∧
      (∃ bytes, boringfsEncodeDirectoryRecord letterRecord = some bytes ∧
        boringfsDecodeDirectoryRecord bytes = letterRecord.padded) ∧
      ∃ image, boringfsValidateSource (memorySource image (8 * boringfsBlockSize)) ⟨8, 64⟩ = .ok () ∧
        boringfsEncodeSuperblock (superblockOf image) = image.read 0 boringfsBlockSize := by
  have admitted : AdmittedCounts 8 64 := ⟨by decide, by decide, by decide⟩
  rcases initializeVolume_image admitted fun _ => 0xff with ⟨image, -, formatted⟩
  have accepted : boringfsValidateSource (memorySource image (8 * boringfsBlockSize)) ⟨8, 64⟩ =
      .ok () := image_accepted admitted formatted ⟨Nat.le_refl _, Nat.le_refl _⟩
  have root : formattedRoot.Representable :=
    ⟨by decide, by decide, by decide, by decide, by decide, by decide, by decide, by decide,
      fun extent member => by
        rw [List.eq_of_mem_replicate member]
        exact ⟨by decide, by decide⟩⟩
  have letter : letterRecord.Representable :=
    ⟨by decide, by decide, by decide, by decide, by decide +kernel⟩
  exact ⟨records_round_trip.1 _ (formattedSuperblock_sound admitted).representable,
    records_round_trip.2.1 _ _ root encodeObject_formattedRoot,
    ⟨_, rfl, records_round_trip.2.2.1 _ _ letter rfl⟩, image, accepted,
    (records_round_trip.2.2.2 _ image _ (memorySource_reads image _) accepted).1⟩

end BoringOS.BoringFs
