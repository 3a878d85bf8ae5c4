import BoringOS.BoringFs.AcceptedRecords

namespace BoringOS.BoringFs

open Library

/-!
# Formatting a volume

A transcription of the two functions of `tools/mkboringfs.c` that lay out a
volume and fill it.  The formatter has its own arithmetic, which rounds and
guards in another way than the validator does.  Both agree on the layout of
every admitted pair of counts.
-/

/-- `struct boringfs_geometry` -/
structure BoringfsGeometry where
  totalBlocks : Nat
  objectCount : Nat
  bitmapBlocks : Nat
  objectTableStart : Nat
  objectTableBlocks : Nat
  dataStart : Nat
  volumeBytes : Nat
deriving DecidableEq, Repr

/-- `checked_mul_u64` of the formatter -/
def formatterCheckedMulU64 (first second : Nat) : Option Nat :=
  if second ≠ 0 ∧ uint64Max / second < first then none else some (first * second)

/-- `ceil_div_u64` -/
def ceilDivU64 (value divisor : Nat) : Option Nat :=
  if divisor = 0 then none
  else
    let result := value / divisor
    if value % divisor ≠ 0 then if result = uint64Max then none else some (result + 1)
    else some result

variable (totalBlocks objectCount : Nat)

/-- `calculate_geometry`.  Behind its guards the casts to 32 bits lose nothing. -/
def calculateGeometry : Option BoringfsGeometry :=
  if totalBlocks = 0 ∨ boringfsMaxBlocks < totalBlocks ∨ objectCount < boringfsMinObjects ∨
      boringfsMaxObjects < objectCount then none
  else do
    let bitmapBlocks ← ceilDivU64 totalBlocks boringfsBitmapBlockBits
    let objectBytes ← formatterCheckedMulU64 objectCount boringfsObjectRecordSize
    let objectTableBlocks ← ceilDivU64 objectBytes boringfsBlockSize
    let objectTableStart := 1 + bitmapBlocks
    if uint32Max < objectTableStart then none
    else
      let dataStart := objectTableStart + objectTableBlocks
      if totalBlocks < dataStart ∨ uint32Max < dataStart then none
      else do
        let volumeBytes ← formatterCheckedMulU64 totalBlocks boringfsBlockSize
        return ⟨totalBlocks, objectCount, bitmapBlocks, objectTableStart, objectTableBlocks,
          dataStart, volumeBytes⟩

variable (geometry : BoringfsGeometry)

/-- The superblock that `initialize_volume` stores. -/
def formattedSuperblock : BoringfsSuperblock where
  magic := boringfsMagic
  formatMajor := boringfsFormatMajor
  formatMinor := boringfsFormatMinor
  headerSize := boringfsSuperblockHeaderSize
  blockShift := boringfsBlockShift
  flags := 0
  totalBlocks := geometry.totalBlocks
  bitmapStart := 1
  bitmapBlocks := geometry.bitmapBlocks
  objectTableStart := geometry.objectTableStart
  objectTableBlocks := geometry.objectTableBlocks
  objectCount := geometry.objectCount
  rootObjectId := boringfsRootObjectId
  dataStart := geometry.dataStart
  objectRecordSize := boringfsObjectRecordSize
  directoryRecordSize := boringfsDirectoryRecordSize
  featureCompat := 0
  featureRoCompat := 0
  featureIncompat := 0

/-- The root directory that `initialize_volume` stores. -/
def formattedRoot : BoringfsObject where
  state := boringfsObjectAllocated
  type := boringfsTypeDirectory
  flags := 0
  objectId := boringfsRootObjectId
  parentObjectId := boringfsRootObjectId
  extentCount := 0
  sizeBytes := 0
  extents := List.replicate boringfsMaxExtents ⟨0, 0⟩

variable (volume : ByteVolume)

/-- `set_bitmap_bit` on the bitmap behind the superblock. -/
def setBitmapBit (bitIndex : Nat) : ByteVolume :=
  Function.update volume (boringfsBlockSize + bitIndex / 8)
    (volume (boringfsBlockSize + bitIndex / 8) ||| bitMask bitIndex)

/-- The loop of `initialize_volume` over the bits of the bitmap. -/
def setBitmapBits (geometry : BoringfsGeometry) : (count bitIndex : Nat) → ByteVolume → ByteVolume
  | 0, _, volume => volume
  | count + 1, bitIndex, volume =>
    setBitmapBits geometry count (bitIndex + 1)
      (if bitIndex < geometry.dataStart ∨ geometry.totalBlocks ≤ bitIndex then
        setBitmapBit volume bitIndex
      else volume)

variable (volumeSize : Nat)

/-- `initialize_volume` -/
def initializeVolume (geometry : BoringfsGeometry) : Option ByteVolume :=
  if geometry.volumeBytes ≠ volumeSize ∨ volumeSize < boringfsBlockSize then none
  else do
    let zeroed := volume.overwrite 0 (zeroBytes volumeSize)
    let headed := zeroed.overwrite 0 (boringfsEncodeSuperblock (formattedSuperblock geometry))
    let capacityBits ← formatterCheckedMulU64 geometry.bitmapBlocks boringfsBitmapBlockBits
    let mapped := setBitmapBits geometry capacityBits 0 headed
    let rootOffset := geometry.objectTableStart * boringfsBlockSize
    if volumeSize < rootOffset ∨ volumeSize - rootOffset < boringfsObjectRecordSize then none
    else do
      let root ← boringfsEncodeObject formattedRoot
      return mapped.overwrite rootOffset root

/-- The source that `boringfs_validate_volume` makes of bytes in memory. -/
def memorySource : ByteSource where
  size := volumeSize
  read offset length :=
    if volumeSize < offset ∨ volumeSize - offset < length then none
    else some (volume.read offset length)

/-- `boringfs_validate_volume` -/
def boringfsValidateVolume (workspace : ValidationWorkspace) : Checked Unit :=
  boringfsValidateSource (memorySource volume volumeSize) workspace

theorem memorySource_reads : (memorySource volume volumeSize).Reads volume := by
  intro offset length inside
  have within : offset + length ≤ volumeSize := inside
  have admitted : ¬ (volumeSize < offset ∨ volumeSize - offset < length) := by omega
  exact if_neg admitted

theorem ceilDivU64_eq {value divisor : Nat} (positive : 0 < divisor) (small : value < uint64Max) :
    ceilDivU64 value divisor = some (ceilDiv value divisor) := by
  have split := Nat.div_add_mod' value divisor
  have below := Nat.mod_lt value positive
  have notMax : value / divisor ≠ uint64Max :=
    Nat.ne_of_lt (Nat.lt_of_le_of_lt (Nat.div_le_self value divisor) small)
  rw [ceilDivU64, if_neg (Nat.ne_of_gt positive)]
  by_cases whole : value % divisor = 0
  · have even : ceilDiv value divisor = value / divisor := by
      refine Nat.div_eq_of_lt_le (by omega) ?_
      rw [Nat.succ_mul]
      omega
    simp [*]
  · have up : ceilDiv value divisor = value / divisor + 1 := by
      refine Nat.div_eq_of_lt_le ?_ ?_
      · rw [Nat.succ_mul]
        omega
      · grind
    simp [*]

/-- The layout of a volume with so many blocks and objects -/
def geometryOf : BoringfsGeometry where
  totalBlocks := totalBlocks
  objectCount := objectCount
  bitmapBlocks := ceilDiv totalBlocks 32768
  objectTableStart := 1 + ceilDiv totalBlocks 32768
  objectTableBlocks := ceilDiv (objectCount * 128) 4096
  dataStart := 1 + ceilDiv totalBlocks 32768 + ceilDiv (objectCount * 128) 4096
  volumeBytes := totalBlocks * boringfsBlockSize

/-- Counts within their limits whose tables fit into the blocks -/
structure AdmittedCounts (totalBlocks objectCount : Nat) : Prop where
  blocks : 1 ≤ totalBlocks ∧ totalBlocks ≤ 1048576
  objects : 64 ≤ objectCount ∧ objectCount ≤ 16384
  fits : (geometryOf totalBlocks objectCount).dataStart ≤ totalBlocks

theorem formatterCheckedMulU64_small {count width : Nat} (counted : count ≤ 1048576)
    (narrow : width ≤ 32768) : formatterCheckedMulU64 count width = some (count * width) := by
  have product : count * width ≤ 34359738368 := Nat.mul_le_mul counted narrow
  grind [formatterCheckedMulU64, Nat.div_lt_iff_lt_mul, uint64Max]

/-- The formatter lays out exactly the admitted counts. -/
theorem calculateGeometry_iff :
    calculateGeometry totalBlocks objectCount = some geometry ↔
      AdmittedCounts totalBlocks objectCount ∧ geometry = geometryOf totalBlocks objectCount := by
  rw [calculateGeometry]
  by_cases outside : totalBlocks = 0 ∨ boringfsMaxBlocks < totalBlocks ∨
      objectCount < boringfsMinObjects ∨ boringfsMaxObjects < objectCount
  · rw [if_pos outside]
    constructor
    · intro impossible
      cases impossible
    · rintro ⟨admitted, -⟩
      have blocks := admitted.blocks
      have objects := admitted.objects
      unfold boringfsMaxBlocks boringfsMinObjects boringfsMaxObjects at outside
      omega
  · rw [if_neg outside]
    unfold boringfsMaxBlocks boringfsMinObjects boringfsMaxObjects at outside
    have bitmap : ceilDivU64 totalBlocks boringfsBitmapBlockBits = some (ceilDiv totalBlocks 32768) :=
      ceilDivU64_eq (by decide) (by unfold uint64Max; omega)
    have objectBytes : formatterCheckedMulU64 objectCount boringfsObjectRecordSize =
        some (objectCount * 128) := formatterCheckedMulU64_small (by omega) (by decide)
    have table : ceilDivU64 (objectCount * 128) boringfsBlockSize = some (ceilDiv (objectCount * 128) 4096) :=
      ceilDivU64_eq (by decide) (by unfold uint64Max; omega)
    have bytes : formatterCheckedMulU64 totalBlocks boringfsBlockSize =
        some (totalBlocks * boringfsBlockSize) :=
      formatterCheckedMulU64_small (by omega) (by decide)
    have bitmapSmall : ceilDiv totalBlocks 32768 ≤ 33 := by
      unfold ceilDiv
      omega
    have startSmall : ¬ uint32Max < 1 + ceilDiv totalBlocks 32768 := by
      unfold uint32Max
      omega
    simp only [bitmap, objectBytes, table, bytes, Option.bind_eq_bind, Option.bind_some,
      if_neg startSmall, pure]
    constructor
    · intro laidOut
      split at laidOut
      · cases laidOut
      rename_i fits
      refine ⟨⟨by omega, by omega, ?_⟩, (Option.some.inj laidOut).symm⟩
      exact Nat.le_of_not_lt fun large => fits (Or.inl large)
    · rintro ⟨admitted, rfl⟩
      have fits : 1 + ceilDiv totalBlocks 32768 + ceilDiv (objectCount * 128) 4096 ≤ totalBlocks :=
        admitted.fits
      have dataSmall : ¬ (totalBlocks < 1 + ceilDiv totalBlocks 32768 +
          ceilDiv (objectCount * 128) 4096 ∨ uint32Max < 1 + ceilDiv totalBlocks 32768 +
            ceilDiv (objectCount * 128) 4096) := by
        unfold uint32Max
        omega
      rw [if_neg dataSmall]
      rfl

theorem admittedCounts_of_sound {superblock : BoringfsSuperblock} (sound : SuperblockSound superblock) :
    AdmittedCounts superblock.totalBlocks superblock.objectCount := by
  refine ⟨sound.blocks, sound.objects, ?_⟩
  have fits := sound.fits
  rw [sound.dataStart, sound.objectTableStart, sound.bitmapStart, sound.bitmapBlocks,
    sound.objectTableBlocks] at fits
  exact fits

theorem formattedSuperblock_sound {totalBlocks objectCount : Nat}
    (admitted : AdmittedCounts totalBlocks objectCount) :
    SuperblockSound (formattedSuperblock (geometryOf totalBlocks objectCount)) :=
  ⟨rfl, ⟨rfl, rfl⟩, ⟨rfl, rfl, rfl⟩, rfl, rfl, rfl, ⟨rfl, rfl⟩, rfl, admitted.blocks,
    admitted.objects, rfl, rfl, rfl, rfl, rfl, admitted.fits⟩

end BoringOS.BoringFs
