import BoringOS.BoringFs.ValidatorReads

namespace BoringOS.BoringFs

open Library

/-!
# The superblock and the bitmap

The first pass succeeds exactly on a sound superblock with zero bytes behind
its fields and room for all of its blocks, and the second one when the bits
outside of the data region are set.
-/

theorem bytesAllZero_append (first second : List UInt8) :
    bytesAllZero (first ++ second) = (bytesAllZero first && bytesAllZero second) :=
  List.all_append

theorem slice_read (volume : ByteVolume) {offset length start width : Nat} (inside : start + width ≤ length) :
    slice (volume.read offset length) start width = volume.read (offset + start) width := by
  apply List.ext_getElem?
  intro index
  rw [slice, List.getElem?_take]
  split
  · rename_i below
    rw [List.getElem?_drop, ByteVolume.getElem?_read (by omega), ByteVolume.getElem?_read below,
      Nat.add_assoc]
  simp [*]

section Superblock

variable {source : ByteSource} {volume : ByteVolume}

theorem reservedLoop_spec (reads : source.Reads volume) (large : boringfsBlockSize ≤ source.size)
    (fuel : Nat) : ∀ offset, offset ≤ boringfsBlockSize → boringfsBlockSize ≤ offset + fuel →
      (Succeeds (reservedLoop source fuel offset) ↔
        bytesAllZero (volume.read offset (boringfsBlockSize - offset)) = true) := by
  induction fuel with
  | zero =>
    intro offset upper lower
    have nothing : boringfsBlockSize - offset = 0 := by omega
    rw [nothing]
    exact ⟨fun _ => rfl, fun _ => succeeds_ok _⟩
  | succ fuel ih =>
    intro offset upper lower
    rw [reservedLoop]
    split
    · generalize isChunk : min (boringfsBlockSize - offset) 256 = chunk
      have chunkBounds : 0 < chunk ∧ chunk ≤ boringfsBlockSize - offset := by omega
      have read := sourceReadExact_of_le reads (show offset + chunk ≤ source.size by omega)
      have total : boringfsBlockSize - offset = chunk + (boringfsBlockSize - (offset + chunk)) := by
        omega
      rw [total, ByteVolume.read_add, bytesAllZero_append, Bool.and_eq_true,
        ← ih (offset + chunk) (by omega) (by omega)]
      simp only [read, succeeds_ite, Bool.not_eq_false]
    · have nothing : boringfsBlockSize - offset = 0 := by omega
      rw [nothing]
      exact ⟨fun _ => rfl, fun _ => succeeds_ok _⟩

/-- The layout that the second half of the pass demands. -/
structure LayoutSound (superblock : BoringfsSuperblock) : Prop where
  bitmapStart : superblock.bitmapStart = 1
  bitmapBlocks : superblock.bitmapBlocks = ceilDiv superblock.totalBlocks 32768
  objectTableStart : superblock.objectTableStart = superblock.bitmapStart + superblock.bitmapBlocks
  objectTableBlocks : superblock.objectTableBlocks = ceilDiv (superblock.objectCount * 128) 4096
  dataStart : superblock.dataStart = superblock.objectTableStart + superblock.objectTableBlocks
  fits : superblock.dataStart ≤ superblock.totalBlocks

variable {superblock : BoringfsSuperblock}

theorem expectedLayout_eq
    (objects : superblock.objectCount ≤ 16384) {bitmapBlocks : Nat} (small : bitmapBlocks ≤ 33) :
    expectedLayout superblock bitmapBlocks =
      some (1 + bitmapBlocks, ceilDiv (superblock.objectCount * 128) 4096,
        1 + bitmapBlocks + ceilDiv (superblock.objectCount * 128) 4096) := by
  have tableStart : checkedAddU32 1 bitmapBlocks = some (1 + bitmapBlocks) := by
    rw [checkedAddU32_eq_some]
    · unfold uint32Max
      omega
    · unfold uint32Max
      omega
  have objectBytes := checkedMulU64_small (show superblock.objectCount ≤ 1048576 by omega)
    (by decide : boringfsObjectRecordSize ≤ 4096)
  have bytesSmall : superblock.objectCount * boringfsObjectRecordSize ≤ 2097152 := by
    unfold boringfsObjectRecordSize
    omega
  have rounded := checkedAddU64_small (Nat.le_trans bytesSmall (by decide))
    (by decide : boringfsBlockSize - 1 ≤ 4294967296)
  have isCeil : (superblock.objectCount * boringfsObjectRecordSize + (boringfsBlockSize - 1)) /
      boringfsBlockSize = ceilDiv (superblock.objectCount * 128) 4096 := rfl
  have ceilSmall : ceilDiv (superblock.objectCount * 128) 4096 ≤ 512 := by
    unfold ceilDiv
    omega
  have notLarge : ¬ uint32Max < ceilDiv (superblock.objectCount * 128) 4096 := by
    unfold uint32Max
    omega
  have dataStart : checkedAddU32 (1 + bitmapBlocks) (ceilDiv (superblock.objectCount * 128) 4096) =
        some (1 + bitmapBlocks + ceilDiv (superblock.objectCount * 128) 4096) := by
    rw [checkedAddU32_eq_some]
    · unfold uint32Max
      omega
    · omega
  simp_all [expectedLayout, Option.bind_eq_bind, Option.bind_some, pure]

theorem validateLayout_spec (source : ByteSource)
    (blocks : superblock.totalBlocks ≤ 1048576) (objects : superblock.objectCount ≤ 16384) :
    Succeeds (validateLayout source superblock) ↔
      LayoutSound superblock ∧ superblock.totalBlocks * boringfsBlockSize ≤ source.size := by
  have notLarge : ¬ uint32Max - (boringfsBitmapBlockBits - 1) < superblock.totalBlocks := by
    unfold uint32Max boringfsBitmapBlockBits
    omega
  have isCeil : (superblock.totalBlocks + (boringfsBitmapBlockBits - 1)) /
      boringfsBitmapBlockBits = ceilDiv superblock.totalBlocks 32768 := rfl
  have small : ceilDiv superblock.totalBlocks 32768 ≤ 33 := by
    unfold ceilDiv
    omega
  have declared := checkedMulU64_small blocks (by decide : boringfsBlockSize ≤ 4096)
  rw [validateLayout, if_neg notLarge]
  simp only [isCeil, expectedLayout_eq objects small, declared, succeeds_ite]
  constructor
  · rintro ⟨layout, size, -⟩
    simp only [not_or, ne_eq, not_not, Nat.not_lt] at layout
    rcases layout with ⟨bitmapStart, bitmapBlocks, tableStart, tableBlocks, dataStart, fits⟩
    exact ⟨⟨bitmapStart, bitmapBlocks, by omega, tableBlocks, by omega, fits⟩, Nat.not_lt.mp size⟩
  · rintro ⟨layout, size⟩
    have bitmapStart := layout.bitmapStart
    have bitmapBlocks := layout.bitmapBlocks
    have tableStart := layout.objectTableStart
    have tableBlocks := layout.objectTableBlocks
    have dataStart := layout.dataStart
    have fits := layout.fits
    refine ⟨?_, Nat.not_lt.mpr size, ?_⟩
    · omega
    · have storage : checkedMulU64 superblock.bitmapBlocks boringfsBitmapBlockBits =
          some (superblock.bitmapBlocks * boringfsBitmapBlockBits) := by
        apply checkedMulU64_of_le
        refine Nat.le_trans (Nat.mul_le_mul_right _ (by omega : superblock.bitmapBlocks ≤ 33)) ?_
        decide
      grind [boringfsBitmapBlockBits, succeeds_ok]

theorem superblockSound_iff :
    SuperblockSound superblock ↔ superblock.magic = boringfsMagic ∧
      (superblock.formatMajor = boringfsFormatMajor ∧ superblock.formatMinor = boringfsFormatMinor) ∧
      (superblock.featureCompat = 0 ∧ superblock.featureRoCompat = 0 ∧ superblock.featureIncompat = 0) ∧
      badSuperblockFields superblock = false ∧ LayoutSound superblock := by
  have fields : badSuperblockFields superblock = false ↔ superblock.headerSize = 128 ∧
      superblock.blockShift = 12 ∧ superblock.flags = 0 ∧ 1 ≤ superblock.totalBlocks ∧
      superblock.totalBlocks ≤ 1048576 ∧ 64 ≤ superblock.objectCount ∧
      superblock.objectCount ≤ 16384 ∧ superblock.rootObjectId = 1 ∧
      superblock.objectRecordSize = 128 ∧ superblock.directoryRecordSize = 256 := by
    simp only [badSuperblockFields, Bool.or_eq_false_iff, bne_eq_false_iff_eq, beq_eq_false_iff_ne,
      decide_eq_false_iff_not, Nat.not_lt, Nat.one_le_iff_ne_zero, and_assoc]
    rfl
  rw [fields]
  constructor
  · intro sound
    exact ⟨sound.magic, sound.version, sound.features,
      ⟨sound.headerSize, sound.blockShift, sound.flags, sound.blocks.1, sound.blocks.2,
        sound.objects.1, sound.objects.2, sound.root, sound.recordSizes.1, sound.recordSizes.2⟩,
      { sound with }⟩
  · rintro ⟨magic, version, features, ⟨headerSize, blockShift, flags, blocks, blocks', objects,
      objects', root, objectRecord, directoryRecord⟩, layout⟩
    exact ⟨magic, version, features, headerSize, blockShift, flags,
      ⟨objectRecord, directoryRecord⟩, root, ⟨blocks, blocks'⟩, ⟨objects, objects'⟩,
      layout.bitmapStart, layout.bitmapBlocks, layout.objectTableStart, layout.objectTableBlocks,
      layout.dataStart, layout.fits⟩

theorem bounds_of_fields (fields : badSuperblockFields superblock = false) :
    superblock.totalBlocks ≤ 1048576 ∧ superblock.objectCount ≤ 16384 := by
  simp only [badSuperblockFields, Bool.or_eq_false_iff, decide_eq_false_iff_not, Nat.not_lt] at fields
  exact ⟨fields.1.1.1.1.1.2, fields.1.1.1.2⟩

theorem checks_eq_ok (first second : Checked Unit) (found superblock : BoringfsSuperblock) :
    (match first with
      | .error failure => .error failure
      | .ok () =>
        match second with
        | .error failure => .error failure
        | .ok () => .ok found) = (.ok superblock : Checked BoringfsSuperblock) ↔
      Succeeds first ∧ Succeeds second ∧ superblock = found := by
  cases first with
  | error failure => simp
  | ok =>
    cases second with
    | error failure => simp
    | ok => simp [eq_comm]

/-- The first pass accepts exactly the sound superblocks. -/
theorem validateSuperblock_ok_iff (reads : source.Reads volume) (superblock : BoringfsSuperblock) :
    validateSuperblock source = .ok superblock ↔
      superblock = superblockOf volume ∧ SuperblockSound superblock ∧
        bytesAllZero (volume.read 64 (boringfsBlockSize - 64)) = true ∧
        superblock.totalBlocks * boringfsBlockSize ≤ source.size := by
  rw [validateSuperblock]
  by_cases small : source.size < boringfsBlockSize
  · rw [if_pos small]
    constructor
    · intro impossible
      cases impossible
    · rintro ⟨-, sound, -, inside⟩
      have blocks := Nat.mul_le_mul_right boringfsBlockSize sound.blocks.1
      omega
  · have large := Nat.not_lt.mp small
    have header : sourceReadExact source 0 boringfsSuperblockHeaderSize =
        some (volume.read 0 boringfsSuperblockHeaderSize) :=
      sourceReadExact_of_le reads (Nat.le_trans (by decide) large)
    have reserved := reservedLoop_spec reads large boringfsBlockSize boringfsSuperblockHeaderSize
      (by decide) (by decide)
    have split : volume.read 64 (boringfsBlockSize - 64) =
        volume.read 64 64 ++ volume.read 128 (boringfsBlockSize - 128) :=
      ByteVolume.read_add volume 64 64 (boringfsBlockSize - 128)
    have inHeader : slice (volume.read 0 boringfsSuperblockHeaderSize) 64 64 =
        volume.read 64 64 := slice_read volume (by decide)
    rw [if_neg small, superblockSound_iff, split, bytesAllZero_append, Bool.and_eq_true]
    simp only [header, inHeader, ite_eq_ok]
    generalize isSuperblock : boringfsDecodeSuperblock (volume.read 0 boringfsSuperblockHeaderSize) = found
    have isFound : superblockOf volume = found := isSuperblock
    have passes := checks_eq_ok (reservedLoop source boringfsBlockSize boringfsSuperblockHeaderSize)
      (validateLayout source found) found superblock
    have layout (fields : badSuperblockFields found = false) :=
      validateLayout_spec source (bounds_of_fields fields).1 (bounds_of_fields fields).2
    change Succeeds _ ↔ bytesAllZero (volume.read 128 (boringfsBlockSize - 128)) = true at reserved
    constructor
    · rintro ⟨magic, version, features, good, accepted⟩
      simp only [not_or, ne_eq, not_not, Bool.not_eq_true, Bool.not_eq_false] at magic version features good
      rcases passes.mp accepted with ⟨zeros, sound, rfl⟩
      rw [reserved] at zeros
      rw [layout good.1] at sound
      simp [*]
    grind

end Superblock

section Bitmap

variable {source : ByteSource} {volume : ByteVolume} {superblock : BoringfsSuperblock}

theorem requireAllocated_spec (reads : source.Reads volume) (regions : Regions superblock)
    (inside : superblock.totalBlocks * boringfsBlockSize ≤ source.size) {block : Nat}
    (covered : block < superblock.bitmapBlocks * boringfsBitmapBlockBits) :
    Succeeds (requireAllocated source superblock block) ↔
      (contentsOf superblock volume).bit block = true := by
  rw [requireAllocated, bitmapBit_eq reads regions inside covered]
  cases (contentsOf superblock volume).bit block with
  | true => simp
  | false => simp

theorem validateBitmapMetadataAndTail_spec (reads : source.Reads volume) (regions : Regions superblock)
    (inside : superblock.totalBlocks * boringfsBlockSize ≤ source.size) :
    (Succeeds (validateBitmapMetadataAndTail source superblock fun _ => 0) ↔
      (∀ block < superblock.dataStart, (contentsOf superblock volume).bit block = true) ∧
      ∀ block, superblock.totalBlocks ≤ block → block < superblock.bitmapBlocks * boringfsBitmapBlockBits →
          (contentsOf superblock volume).bit block = true) ∧
    ∀ owner, validateBitmapMetadataAndTail source superblock (fun _ => 0) = .ok owner →
      ∀ block, superblock.dataStart ≤ block → owner block = 0 := by
  have covers : superblock.totalBlocks ≤ superblock.bitmapBlocks * boringfsBitmapBlockBits :=
    regions.bitmapCovers
  have dataInside := regions.dataInside
  have storage : checkedMulU64 superblock.bitmapBlocks boringfsBitmapBlockBits =
      some (superblock.bitmapBlocks * boringfsBitmapBlockBits) := by
    apply checkedMulU64_of_le
    exact Nat.le_trans (Nat.mul_le_mul_right _ regions.bitmapSmall) (by decide)
  have metadata : (Succeeds (forRange (claimMetadata source superblock) superblock.dataStart 0
        fun _ => 0) ↔ ∀ block, 0 ≤ block → block < 0 + superblock.dataStart →
          (contentsOf superblock volume).bit block = true) ∧
      ∀ owner : BlockOwners, forRange (claimMetadata source superblock) superblock.dataStart 0 (fun _ => 0) =
          .ok owner → ∀ block, superblock.dataStart ≤ block → owner block = 0 := by
    refine forRange_spec (fun block => (contentsOf superblock volume).bit block = true)
      (fun _ (owner : BlockOwners) => ∀ block, superblock.dataStart ≤ block → owner block = 0) _ _ _
      (fun _ _ => rfl) ?_
    intro block owner _ below clear _
    have required := requireAllocated_spec reads regions inside
      (show block < superblock.bitmapBlocks * boringfsBitmapBlockBits by omega)
    rw [claimMetadata, ← required]
    cases requireAllocated source superblock block with
    | error failure => simp
    | ok =>
      refine ⟨by simp, fun next result other isData => ?_⟩
      cases result
      grind
  have tail : Succeeds (forRange (fun block _ => requireAllocated source superblock block)
      (superblock.bitmapBlocks * boringfsBitmapBlockBits - superblock.totalBlocks)
      superblock.totalBlocks ()) ↔ _ :=
    forRange_unit (fun block => (contentsOf superblock volume).bit block = true) _ _
      fun block _ below => requireAllocated_spec reads regions inside
        (show block < superblock.bitmapBlocks * boringfsBitmapBlockBits by omega)
  rw [Nat.add_sub_cancel' covers] at tail
  simp only [Nat.zero_le, true_imp_iff, Nat.zero_add] at metadata
  rw [validateBitmapMetadataAndTail, ← metadata.1, ← tail]
  cases result : forRange (claimMetadata source superblock) superblock.dataStart 0 fun _ => 0 with
  | error failure => simp
  | ok owner =>
    simp only [storage]
    cases forRange (fun block _ => requireAllocated source superblock block)
        (superblock.bitmapBlocks * boringfsBitmapBlockBits - superblock.totalBlocks)
        superblock.totalBlocks () with
    | error failure => simp
    | ok =>
      simp_all

end Bitmap

end BoringOS.BoringFs
