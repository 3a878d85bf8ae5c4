import BoringOS.BoringFs.Validator
import BoringOS.BoringFs.Volume

namespace BoringOS.BoringFs

open Library

/-!
# What the validator reads

On a source whose reads succeed the validator sees the volume itself.  Behind
a sound superblock all its reads lie inside of the source, and they return the
bits, the records and the contents that well-formedness speaks of.
-/

/-- All reads within the size of the source succeed, and return the bytes of
the volume. -/
def ByteSource.Reads (source : ByteSource) (volume : ByteVolume) : Prop :=
  ∀ offset length, offset + length ≤ source.size →
    source.read offset length = some (volume.read offset length)

theorem checkedAddU32_eq_some {left right sum : Nat} (fits : right ≤ uint32Max) :
    checkedAddU32 left right = some sum ↔ left + right ≤ uint32Max ∧ sum = left + right := by
  rw [checkedAddU32]
  split
  · grind
  grind

theorem checkedAddU64_of_le {left right : Nat} (fits : left + right ≤ uint64Max) :
    checkedAddU64 left right = some (left + right) := by
  rw [checkedAddU64, if_neg (by omega)]

theorem checkedMulU64_of_le {left right : Nat} (fits : left * right ≤ uint64Max) :
    checkedMulU64 left right = some (left * right) := by
  rw [checkedMulU64, if_neg]
  rintro ⟨positive, above⟩
  have bound := (Nat.div_lt_iff_lt_mul (Nat.pos_of_ne_zero positive)).mp above
  rw [Nat.mul_comm] at bound
  omega

/-- The products of blocks and block sizes are far from overflowing. -/
theorem product_small {count width : Nat} (counted : count ≤ 1048576) (narrow : width ≤ 4096) :
    count * width ≤ 4294967296 :=
  Nat.mul_le_mul counted narrow

theorem checkedMulU64_small {count width : Nat} (counted : count ≤ 1048576)
    (narrow : width ≤ 4096) : checkedMulU64 count width = some (count * width) :=
  checkedMulU64_of_le (Nat.le_trans (product_small counted narrow) (by decide))

theorem checkedAddU64_small {left right : Nat} (leftSmall : left ≤ 4294967296)
    (rightSmall : right ≤ 4294967296) : checkedAddU64 left right = some (left + right) :=
  checkedAddU64_of_le (Nat.le_trans (Nat.add_le_add leftSmall rightSmall) (by decide))

theorem bitMask_toNat (block : Nat) : (bitMask block).toNat = 2 ^ (block % 8) := by
  have shifted : ∀ position < 8, ((1 : UInt8) <<< UInt8.ofNat position).toNat = 2 ^ position := by
    decide
  exact shifted _ (Nat.mod_lt _ (by decide))

theorem masked_eq_testBit (byte : UInt8) (block : Nat) :
    ((byte &&& bitMask block) != 0) = byte.toNat.testBit (block % 8) := by
  have value : (byte &&& bitMask block).toNat = (byte.toNat.testBit (block % 8)).toNat * 2 ^ (block % 8) := by
    rw [UInt8.toNat_and, bitMask_toNat, Nat.and_two_pow]
  cases isSet : byte.toNat.testBit (block % 8) with
  | false =>
    rw [isSet, Bool.toNat_false, Nat.zero_mul] at value
    have zero : byte &&& bitMask block = 0 := UInt8.toNat_inj.mp value
    rw [zero]
    rfl
  | true =>
    rw [isSet, Bool.toNat_true, Nat.one_mul] at value
    apply bne_iff_ne.mpr
    intro zero
    rw [zero] at value
    grind

section Reads

variable {source : ByteSource} {volume : ByteVolume}

theorem sourceReadExact_eq (reads : source.Reads volume) (offset length : Nat) :
    sourceReadExact source offset length =
      if offset + length ≤ source.size then some (volume.read offset length) else none := by
  rw [sourceReadExact]
  by_cases inside : offset + length ≤ source.size
  · rw [if_neg (by omega), if_pos inside]
    split
    · simp [*]
    · exact reads offset length inside
  · rw [if_pos (by omega), if_neg inside]

theorem sourceReadExact_of_le (reads : source.Reads volume) {offset length : Nat}
    (inside : offset + length ≤ source.size) :
    sourceReadExact source offset length = some (volume.read offset length) := by
  rw [sourceReadExact_eq reads, if_pos inside]

/-- The regions of a volume with a sound superblock. -/
structure Regions (superblock : BoringfsSuperblock) : Prop where
  bitmapStart : superblock.bitmapStart = 1
  bitmapEnd : superblock.objectTableStart = 1 + superblock.bitmapBlocks
  bitmapCovers : superblock.totalBlocks ≤ superblock.bitmapBlocks * 32768
  bitmapSmall : superblock.bitmapBlocks ≤ 32
  tableCovers : superblock.objectTableStart * 4096 + superblock.objectCount * 128 ≤
    superblock.dataStart * 4096
  dataInside : superblock.dataStart ≤ superblock.totalBlocks
  totalSmall : superblock.totalBlocks ≤ 1048576
  countBounds : 64 ≤ superblock.objectCount ∧ superblock.objectCount ≤ 16384

theorem SuperblockSound.regions {superblock : BoringfsSuperblock}
    (sound : SuperblockSound superblock) : Regions superblock := by
  have blocks := sound.blocks
  have objects := sound.objects
  have bitmapStart := sound.bitmapStart
  have bitmapBlocks := sound.bitmapBlocks
  have tableStart := sound.objectTableStart
  have tableBlocks := sound.objectTableBlocks
  have dataStart := sound.dataStart
  rw [ceilDiv] at bitmapBlocks tableBlocks
  exact ⟨bitmapStart, by omega, by omega, by omega, by omega, sound.fits, blocks.2, objects⟩

variable {superblock : BoringfsSuperblock}

theorem bitmapBit_eq (reads : source.Reads volume) (regions : Regions superblock)
    (inside : superblock.totalBlocks * boringfsBlockSize ≤ source.size) {block : Nat}
    (covered : block < superblock.bitmapBlocks * boringfsBitmapBlockBits) :
    bitmapBit source superblock block = some ((contentsOf superblock volume).bit block) := by
  have start := regions.bitmapStart
  have bitmapEnd := regions.bitmapEnd
  have table := regions.tableCovers
  have data := regions.dataInside
  have small := regions.bitmapSmall
  unfold boringfsBlockSize at inside
  unfold boringfsBitmapBlockBits at covered
  have base : superblock.bitmapStart * boringfsBlockSize = 4096 := by
    rw [start, boringfsBlockSize, Nat.one_mul]
  have multiplied : checkedMulU64 superblock.bitmapStart boringfsBlockSize = some 4096 := by
    rw [checkedMulU64_of_le] <;> rw [base]
    decide
  have added : checkedAddU64 4096 (block / 8) = some (4096 + block / 8) := by
    apply checkedAddU64_of_le
    have big : 10000000 ≤ uint64Max := by decide
    omega
  have read : sourceReadExact source (4096 + block / 8) 1 = some (volume.read (4096 + block / 8) 1) := by
    apply sourceReadExact_of_le reads
    omega
  have byte : (volume.read (4096 + block / 8) 1).getD 0 0 = volume (4096 + block / 8) := by
    rw [ByteVolume.getD_read Nat.one_pos, Nat.add_zero]
  simp only [bitmapBit, multiplied, added, read, Option.bind_eq_bind, Option.bind_some, pure]
  rw [byte, masked_eq_testBit]
  simp only [contentsOf, bitmapOffset, base, boringfsBitmapBlockBits, if_pos covered]

variable {objectId : Nat}

theorem Regions.slot_end (regions : Regions superblock)
    (inTable : 1 ≤ objectId ∧ objectId ≤ superblock.objectCount) :
    recordOffset superblock objectId + boringfsObjectRecordSize ≤
      superblock.dataStart * boringfsBlockSize := by
  have slotEnd : (objectId - 1) * 128 + 128 ≤ superblock.objectCount * 128 := by omega
  calc recordOffset superblock objectId + boringfsObjectRecordSize
      = superblock.objectTableStart * 4096 + ((objectId - 1) * 128 + 128) := Nat.add_assoc _ _ _
    _ ≤ superblock.objectTableStart * 4096 + superblock.objectCount * 128 :=
        Nat.add_le_add_left slotEnd _
    _ ≤ superblock.dataStart * 4096 := regions.tableCovers

theorem Regions.record_end (regions : Regions superblock)
    (inTable : 1 ≤ objectId ∧ objectId ≤ superblock.objectCount) :
    recordOffset superblock objectId + boringfsObjectRecordSize ≤
      superblock.totalBlocks * boringfsBlockSize :=
  Nat.le_trans (regions.slot_end inTable) (Nat.mul_le_mul_right _ regions.dataInside)

theorem readObjectRecord_eq (reads : source.Reads volume) (regions : Regions superblock)
    (inside : superblock.totalBlocks * boringfsBlockSize ≤ source.size)
    (inTable : 1 ≤ objectId ∧ objectId ≤ superblock.objectCount) :
    readObjectRecord source superblock objectId =
      some ((contentsOf superblock volume).record objectId) := by
  have table := regions.tableCovers
  have data := regions.dataInside
  have total := regions.totalSmall
  have count := regions.countBounds
  have admitted : ¬ (objectId = boringfsNullObjectId ∨ superblock.objectCount < objectId) := by
    unfold boringfsNullObjectId
    omega
  have tableSmall : superblock.objectTableStart ≤ 1048576 := by omega
  have slotSmall : objectId - 1 ≤ 1048576 := by omega
  have multiplied := checkedMulU64_small tableSmall (by decide : boringfsBlockSize ≤ 4096)
  have slot := checkedMulU64_small slotSmall (by decide : boringfsObjectRecordSize ≤ 4096)
  have added := checkedAddU64_small (product_small tableSmall (by decide : boringfsBlockSize ≤ 4096))
    (product_small slotSmall (by decide : boringfsObjectRecordSize ≤ 4096))
  have read : sourceReadExact source (recordOffset superblock objectId) boringfsObjectRecordSize =
      some (volume.read (recordOffset superblock objectId) boringfsObjectRecordSize) := by
    exact sourceReadExact_of_le reads (Nat.le_trans (regions.record_end inTable) inside)
  rw [readObjectRecord, if_neg admitted]
  unfold recordOffset at read
  simp only [multiplied, slot, added, read, Option.bind_eq_bind, Option.bind_some]
  simp only [contentsOf, if_pos inTable, recordOffset]

theorem decodeObjectId_eq (reads : source.Reads volume) (regions : Regions superblock)
    (inside : superblock.totalBlocks * boringfsBlockSize ≤ source.size)
    (inTable : 1 ≤ objectId ∧ objectId ≤ superblock.objectCount) :
    decodeObjectId source superblock objectId =
      some ((contentsOf superblock volume).object objectId) := by
  rw [decodeObjectId, readObjectRecord_eq reads regions inside inTable]
  rfl

/-- Reads within the size of the source fail, or return the bytes of the volume. -/
def ByteSource.Honest (source : ByteSource) (volume : ByteVolume) : Prop :=
  ∀ offset length, offset + length ≤ source.size →
    source.read offset length = none ∨ source.read offset length = some (volume.read offset length)

/-- How a read of an object by the library ends.  The range lies in the extents
if the read succeeds, and a read of such a range fails with a read of the
source at one of its bytes. -/
inductive LibraryReadEnds (source : ByteSource) (volume : ByteVolume)
    (extents : List BoringfsExtent) (offset length : Nat) : Option (List UInt8) → Prop where
  | copied (inside : InsideExtents extents offset length) :
      LibraryReadEnds source volume extents offset length
        (some ((extentVolume volume extents).read offset length))
  | failed (refused : InsideExtents extents offset length → ∃ index count, index < length ∧
      bytePlace extents (offset + index) + count ≤ source.size ∧
        source.read (bytePlace extents (offset + index)) count = none) :
      LibraryReadEnds source volume extents offset length none

theorem logicalReadLoop_ends (honest : source.Honest volume) {totalBlocks : Nat}
    (totalSmall : totalBlocks ≤ 1048576) (inside : totalBlocks * boringfsBlockSize ≤ source.size)
    (extents : List BoringfsExtent) :
    (∀ extent ∈ extents, extent.startBlock + extent.blockCount ≤ totalBlocks) →
    ∀ offset remaining, LibraryReadEnds source volume extents offset remaining
      (logicalReadLoop source extents offset remaining) := by
  induction extents with
  | nil =>
    intro _ offset remaining
    rw [logicalReadLoop]
    split
    · rename_i nothing
      subst nothing
      exact .copied (Or.inl rfl)
    · refine .failed fun fits => ?_
      rw [InsideExtents, capacityOf, List.flatMap_nil, List.length_nil, Nat.zero_mul] at fits
      omega
  | cons extent others ih =>
    intro sound offset remaining
    have upper := sound extent List.mem_cons_self
    have ih := ih fun other member => sound other (List.mem_cons_of_mem _ member)
    have countSmall : extent.blockCount ≤ 1048576 := by omega
    have startSmall : extent.startBlock ≤ 1048576 := by omega
    have extentBytes := checkedMulU64_small countSmall (by decide : boringfsBlockSize ≤ 4096)
    have physicalBase := checkedMulU64_small startSmall (by decide : boringfsBlockSize ≤ 4096)
    have baseSmall := product_small startSmall (by decide : boringfsBlockSize ≤ 4096)
    have bytesSmall := product_small countSmall (by decide : boringfsBlockSize ≤ 4096)
    rw [logicalReadLoop]
    split
    · rename_i nothing
      subst nothing
      exact .copied (Or.inl rfl)
    simp only [extentBytes, Option.bind_eq_bind, Option.bind_some]
    split
    · rename_i skipped
      rcases Nat.exists_eq_add_of_le skipped with ⟨later, rfl⟩
      rw [Nat.add_sub_cancel_left]
      have rest := ih later remaining
      generalize logicalReadLoop source others later remaining = outcome at rest ⊢
      cases rest with
      | copied fits =>
        rw [← read_extentVolume_behind]
        exact .copied (insideExtents_behind.mpr fits)
      | failed refused =>
        refine .failed fun fits => ?_
        rcases refused (insideExtents_behind.mp fits) with ⟨index, count, below, failed⟩
        rw [← bytePlace_behind, ← Nat.add_assoc] at failed
        exact ⟨index, count, below, failed⟩
    · rename_i starts
      have here := Nat.not_le.mp starts
      generalize isChunk : min remaining (extent.blockCount * boringfsBlockSize - offset) = chunk
      have bound := Nat.mul_le_mul_right boringfsBlockSize upper
      rw [Nat.add_mul] at bound
      have inSource : extent.startBlock * boringfsBlockSize + offset + chunk ≤ source.size := by
        omega
      have physical := checkedAddU64_small baseSmall (show offset ≤ 4294967296 by omega)
      simp only [physicalBase, physical, Option.bind_some]
      rw [sourceReadExact, if_neg (by omega), if_neg (by omega)]
      rcases honest _ _ inSource with failed | read
      · rw [failed]
        rw [← bytePlace_here here] at inSource failed
        exact .failed fun _ => ⟨0, chunk, by omega, inSource, failed⟩
      have rest := ih 0 (remaining - chunk)
      simp only [read, Option.bind_some]
      generalize logicalReadLoop source others 0 (remaining - chunk) = outcome at rest ⊢
      cases rest with
      | copied fits =>
        simp only [Option.bind_some, pure]
        rw [← read_extentVolume here isChunk]
        exact .copied ((insideExtents_split here isChunk).mpr fits)
      | failed refused =>
        refine .failed fun fits => ?_
        rcases refused ((insideExtents_split here isChunk).mp fits) with
          ⟨index, count, below, failed⟩
        have behind : offset + (chunk + index) =
            extent.blockCount * boringfsBlockSize + (0 + index) := by omega
        rw [← bytePlace_behind, ← behind] at failed
        exact ⟨chunk + index, count, by omega, failed⟩

theorem logicalObjectRead_eq (reads : source.Reads volume) (regions : Regions superblock)
    (inside : superblock.totalBlocks * boringfsBlockSize ≤ source.size)
    {object : BoringfsObject} (sound : ∀ extent ∈ object.liveExtents,
      superblock.dataStart ≤ extent.startBlock ∧
        extent.startBlock + extent.blockCount ≤ superblock.totalBlocks)
    {offset length : Nat} (fits : offset + length ≤ object.blocks.length * boringfsBlockSize) :
    logicalObjectRead source object offset length =
      some (((contentsOf superblock volume).bytesOf object.blocks).read offset length) := by
  have ends := logicalReadLoop_ends (fun offset length within => Or.inr (reads offset length within))
    regions.totalSmall inside object.liveExtents (fun extent member => (sound extent member).2) offset length
  rw [logicalObjectRead, ← BoringfsObject.liveExtents]
  generalize logicalReadLoop source object.liveExtents offset length = outcome at ends ⊢
  cases ends with
  | copied _ =>
    refine congrArg some (ByteVolume.read_congr fun index below => ?_)
    have within : offset + index < capacityOf object.liveExtents :=
      Nat.lt_of_lt_of_le (Nat.add_lt_add_left below _) fits
    have place := bytePlace_block within
    rcases List.mem_flatMap.mp place with ⟨extent, member, isBlock⟩
    rw [BoringfsExtent.blocks, List.mem_range'_1] at isBlock
    rcases sound extent member with ⟨lower, upper⟩
    rw [BoringfsObject.blocks, VolumeContents.bytesOf_blocks within, extentVolume]
    exact (if_pos ⟨(Nat.le_div_iff_mul_le (by decide)).mp (Nat.le_trans lower isBlock.1),
      (Nat.div_lt_iff_lt_mul (by decide)).mp (Nat.lt_of_lt_of_le isBlock.2 upper)⟩).symm
  | failed refused =>
    rcases refused (Or.inr fits) with ⟨index, count, below, within, failed⟩
    rw [reads _ _ within] at failed
    cases failed

end Reads

end BoringOS.BoringFs
