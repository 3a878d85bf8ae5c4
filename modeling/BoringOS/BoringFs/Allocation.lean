import BoringOS.BoringFs.BlockCache
import BoringOS.BoringFs.FormattedVolume
import BoringOS.Vfs.Objects

namespace BoringOS.BoringFs

open Library Vfs

/-!
# Allocation of blocks

A transcription of the part of `kernel/fs/boringfs_vfs.c` that takes data
blocks: the bits of the allocation bitmap, the search for a free block, and a
directory that grows by a block.  All of it goes through the block cache.

The pointers that the functions test for `NULL` are there.
-/

section Bitmap

variable (io : DeviceAnswers) (superblock : BoringfsSuperblock)

/-- `bitmap_location`.  The mask is `bitMask`. -/
def bitmapLocation (block : Nat) : Option Nat :=
  if superblock.totalBlocks ≤ block then none
  else do
    let bitmapBase ← checkedMulU64 superblock.bitmapStart boringfsBlockSize
    checkedAddU64 bitmapBase (block / 8)

/-- `bitmap_get` -/
def bitmapGet (store : BlockStore) (block : Nat) : Option Bool × BlockStore :=
  match bitmapLocation superblock block with
  | none => (none, store)
  | some offset =>
    match boringfsSourceRead io store offset 1 with
    | (none, store) => (none, store)
    | (some bytes, store) => (some ((bytes.getD 0 0 &&& bitMask block) != 0), store)

/-- The byte of the bitmap with the bit of a block changed. -/
def changedByte (byte : UInt8) (block : Nat) (allocated : Bool) : UInt8 :=
  if allocated = true then byte ||| bitMask block else byte &&& ~~~ bitMask block

/-- `bitmap_set` -/
def bitmapSet (store : BlockStore) (block : Nat) (allocated : Bool) : Bool × BlockStore :=
  match bitmapLocation superblock block with
  | none => (false, store)
  | some offset =>
    if block < superblock.dataStart then (false, store)
    else
      match boringfsSourceRead io store offset 1 with
      | (none, store) => (false, store)
      | (some bytes, store) =>
        boringfsSourceWrite io store offset [changedByte (bytes.getD 0 0) block allocated]

/-- The loop of `find_free_block` -/
def freeBlockLoop : (fuel : Nat) → BlockStore → (block : Nat) → Option Nat × BlockStore
  | 0, store, _ => (none, store)
  | fuel + 1, store, block =>
    match bitmapGet io superblock store block with
    | (none, store) => (none, store)
    | (some true, store) => freeBlockLoop fuel store (block + 1)
    | (some false, store) => (some block, store)

/-- `find_free_block` -/
def findFreeBlock (store : BlockStore) (preferred : Nat) : Option Nat × BlockStore :=
  let tried :=
    if superblock.dataStart ≤ preferred ∧ preferred < superblock.totalBlocks then
      bitmapGet io superblock store preferred
    else (none, store)
  match tried with
  | (some false, store) => (some preferred, store)
  | (_, store) =>
    freeBlockLoop io superblock (superblock.totalBlocks - superblock.dataStart) store superblock.dataStart

end Bitmap

/-! ## Directories that grow -/

section Directories

variable (io : DeviceAnswers) (superblock : BoringfsSuperblock)

/-- The block behind the last extent of a directory, where there is one. -/
def preferredBlock (directory : BoringfsObject) : Nat :=
  if directory.extentCount ≠ 0 then
    let last := directory.extents.getD (directory.extentCount - 1) ⟨0, 0⟩
    if last.blockCount ≤ uint32Max - last.startBlock ∧
        last.startBlock + last.blockCount < superblock.totalBlocks then
      last.startBlock + last.blockCount
    else locationNone32
  else locationNone32

/-- `extend_directory`, with the changed directory and the block.  Whoever gets
an error finds the directory as it was. -/
def extendDirectory (store : BlockStore) (directory : BoringfsObject) :
    Except VfsResult (BoringfsObject × Nat) × BlockStore :=
  if boringfsMaxExtents < directory.extentCount then (.error .corrupt, store)
  else
    let preferred := preferredBlock superblock directory
    match findFreeBlock io superblock store preferred with
    | (none, store) => (.error .noSpace, store)
    | (some block, store) =>
      if directory.extentCount ≠ 0 ∧ block = preferred then
        let index := directory.extentCount - 1
        let last := directory.extents.getD index ⟨0, 0⟩
        if last.blockCount = uint32Max then (.error .noSpace, store)
        else
          (.ok ({ directory with
            extents := directory.extents.set index ⟨last.startBlock, last.blockCount + 1⟩ },
            block), store)
      else if directory.extentCount = boringfsMaxExtents then (.error .noSpace, store)
      else
        (.ok ({ directory with
          extents := directory.extents.set directory.extentCount ⟨block, 1⟩
          extentCount := directory.extentCount + 1 }, block), store)

/-- The part of `boringfs_create_common` that gives a full directory another
block.  The record of the directory is written after it. -/
def reserveDirectoryBlock (store : BlockStore) (directory : BoringfsObject) :
    Except VfsResult (BoringfsObject × Nat) × BlockStore :=
  match extendDirectory io superblock store directory with
  | (.error failure, store) => (.error failure, store)
  | (.ok (staged, block), store) =>
    match writeZeroedBlock io store block [] with
    | (false, store) => (.error .corrupt, store)
    | (true, store) =>
      match bitmapSet io superblock store block true with
      | (false, store) => (.error .corrupt, store)
      | (true, store) => (.ok (staged, block), store)

end Directories

/-! ## Bits -/

variable {superblock : BoringfsSuperblock}

theorem bitmapLocation_eq (regions : Regions superblock)
    {block : Nat} (below : block < superblock.totalBlocks) :
    bitmapLocation superblock block = some (bitmapOffset superblock block) ∧
      bitmapOffset superblock block < superblock.objectTableStart * boringfsBlockSize ∧
      superblock.dataStart * boringfsBlockSize ≤ superblock.totalBlocks * boringfsBlockSize := by
  have start := regions.bitmapStart
  have covers := regions.bitmapCovers
  have bitmapEnd := regions.bitmapEnd
  have small := regions.totalSmall
  have before : 1 * 4096 + (block / 8 + 1) ≤ superblock.objectTableStart * 4096 := by
    omega
  have startSmall : superblock.bitmapStart ≤ 1048576 := by omega
  have base := checkedMulU64_small startSmall (by decide : boringfsBlockSize ≤ 4096)
  have sum := checkedAddU64_small (product_small startSmall (by decide : boringfsBlockSize ≤ 4096))
    (show block / 8 ≤ 4294967296 by omega)
  refine ⟨?_, ?_, Nat.mul_le_mul_right _ regions.dataInside⟩
  · rw [bitmapLocation, if_neg (Nat.not_le.mpr below), base, Option.bind_eq_bind,
      Option.bind_some, sum, bitmapOffset]
  · rw [bitmapOffset, start]
    exact before

theorem bitmapOffset_before (regions : Regions superblock)
    {block : Nat} (below : block < superblock.totalBlocks) :
    bitmapOffset superblock block < superblock.dataStart * boringfsBlockSize := by
  have table : superblock.objectTableStart * boringfsBlockSize + superblock.objectCount * 128 ≤
      superblock.dataStart * boringfsBlockSize := regions.tableCovers
  have before := (bitmapLocation_eq regions below).2.1
  omega

theorem changedByte_testBit (byte : UInt8) (block : Nat) (allocated : Bool) {other : Nat}
    (small : other < 8) :
    (changedByte byte block allocated).toNat.testBit other =
      if other = block % 8 then allocated else byte.toNat.testBit other := by
  have mask : (bitMask block).toNat.testBit other = decide (block % 8 = other) := by
    rw [bitMask_toNat, Nat.testBit_two_pow]
  rw [changedByte]
  cases allocated
  · have cleared : (byte &&& ~~~ bitMask block).toNat.testBit other =
        (byte.toNat.testBit other && !(bitMask block).toNat.testBit other) := by
      simp only [← UInt8.toNat_toBitVec, BitVec.testBit_toNat, UInt8.toBitVec_and,
        UInt8.toBitVec_not, BitVec.getLsbD_and, BitVec.getLsbD_not, small, decide_true, Bool.true_and]
    grind
  · rw [if_pos rfl, UInt8.toNat_or, Nat.testBit_or, mask]
    grind

/-- The volume with the bit of a block changed. -/
def changedBit (superblock : BoringfsSuperblock) (volume : ByteVolume) (block : Nat)
    (allocated : Bool) : ByteVolume :=
  volume.overwrite (bitmapOffset superblock block)
    [changedByte (volume (bitmapOffset superblock block)) block allocated]

theorem changedBit_other {volume : ByteVolume} {block : Nat}
    {allocated : Bool} {position : Nat} (other : position ≠ bitmapOffset superblock block) :
    changedBit superblock volume block allocated position = volume position :=
  ByteVolume.overwrite_outside (by rw [List.length_singleton]; omega)

theorem changedBit_bit (volume : ByteVolume) {block other : Nat}
    (regions : Regions superblock) (below : other < superblock.totalBlocks) (allocated : Bool) :
    (contentsOf superblock (changedBit superblock volume block allocated)).bit other =
      if other = block then allocated else (contentsOf superblock volume).bit other := by
  have covered : other < superblock.bitmapBlocks * boringfsBitmapBlockBits :=
    Nat.lt_of_lt_of_le below regions.bitmapCovers
  simp only [contentsOf, if_pos covered]
  by_cases sameByte : bitmapOffset superblock other = bitmapOffset superblock block
  · have inside := @ByteVolume.overwrite_inside volume (bitmapOffset superblock block) 0
      [changedByte (volume (bitmapOffset superblock block)) block allocated] Nat.one_pos
    rw [Nat.add_zero] at inside
    rw [sameByte, changedBit, inside, List.getD_cons_zero,
      changedByte_testBit _ _ _ (Nat.mod_lt _ (by decide))]
    rw [bitmapOffset, bitmapOffset] at sameByte
    have iff : other % 8 = block % 8 ↔ other = block := by omega
    simp only [iff]
  · have different : other ≠ block := fun same => sameByte (same ▸ rfl)
    rw [changedBit_other sameByte, if_neg different]

theorem record_congr {volume after : ByteVolume} (regions : Regions superblock) (same : ∀ position,
      superblock.objectTableStart * boringfsBlockSize ≤ position →
        position < superblock.dataStart * boringfsBlockSize → after position = volume position) :
    (contentsOf superblock after).record = (contentsOf superblock volume).record := by
  funext objectId
  simp only [contentsOf]
  split
  · rename_i inTable
    have ends := regions.slot_end inTable
    refine ByteVolume.read_congr fun index inside => same _ ?_ (by omega)
    exact Nat.le_trans (Nat.le_add_right _ _) (Nat.le_add_right _ _)
  · rfl

/-! ## A device without failures -/

/-- Every transfer completes. -/
def Completes (io : DeviceAnswers) : Prop := ∀ store block, io store block = .completed

theorem Completes.not_refused {io : DeviceAnswers} (completes : Completes io)
    {before after : BlockStore} : ¬ Refused io before after := by
  rintro ⟨store, block, buffer, -, failed, -⟩
  exact absurd ((completes store block).symm.trans failed) nofun

/-- A writable mount of a volume, with a coherent cache. -/
structure Mounted (superblock : BoringfsSuperblock) (store : BlockStore) (volume : ByteVolume) :
    Prop where
  device : store.device = volume
  coherent : Coherent store
  writable : store.geometry.readOnly = false
  totalBlocks : store.geometry.totalBlocks = superblock.totalBlocks
  dataStart : store.geometry.dataStart = superblock.dataStart
  inside : superblock.totalBlocks * boringfsBlockSize ≤ store.geometry.sourceSize

section Mount

variable {io : DeviceAnswers} {superblock : BoringfsSuperblock} {store after : BlockStore}
  {volume : ByteVolume}

/-- Whatever keeps the geometry and the cache keeps the mount. -/
theorem Mounted.changed (mounted : Mounted superblock store volume)
    (geometry : after.geometry = store.geometry) (coherent : Coherent after ∨ after = store)
    {changed : ByteVolume} (device : after.device = changed) :
    Mounted superblock after changed where
  device := device
  coherent := coherent.elim id fun same => same ▸ mounted.coherent
  writable := by rw [geometry]; exact mounted.writable
  totalBlocks := by rw [geometry]; exact mounted.totalBlocks
  dataStart := by rw [geometry]; exact mounted.dataStart
  inside := by rw [geometry]; exact mounted.inside

theorem Mounted.stop (mounted : Mounted superblock store volume) (regions : Regions superblock)
    {stop : Nat} (below : stop ≤ superblock.totalBlocks * boringfsBlockSize) :
    stop ≤ store.geometry.sourceSize ∧ InsideBlocks store.geometry stop := by
  rw [InsideBlocks, mounted.totalBlocks]
  exact ⟨Nat.le_trans below mounted.inside, below, Nat.le_trans regions.totalSmall (by decide)⟩

theorem Mounted.zeroed (completes : Completes io) (mounted : Mounted superblock store volume) {block : Nat}
    (lower : superblock.dataStart ≤ block) (below : block < superblock.totalBlocks)
    {start : List UInt8} (short : start.length ≤ boringfsBlockSize) :
    ∃ after, writeZeroedBlock io store block start = (true, after) ∧
      Mounted superblock after (writeBlock volume block (zeroBuffer.overwrite 0 start)) := by
  rw [writeZeroedBlock, mounted.dataStart, mounted.totalBlocks, if_neg (by omega)]
  rcases storeCachedBlock_cases io { store with blockCache := zeroBuffer.overwrite 0 start } block
    with ⟨after, geometry, ⟨result, holds, device, -⟩ | ⟨-, -, -, refused⟩⟩
  · rw [mounted.device] at device
    exact ⟨after, result, mounted.changed geometry (Or.inl holds.coherent) device⟩
  · exact absurd (refused mounted.writable (by rw [mounted.totalBlocks]; exact below)) completes.not_refused

variable (completes : Completes io) (regions : Regions superblock)

include completes regions

section

variable (mounted : Mounted superblock store volume)
include mounted

theorem Mounted.read {offset length : Nat}
    (below : offset + length ≤ superblock.totalBlocks * boringfsBlockSize) :
    ∃ after, boringfsSourceRead io store offset length =
        (some (volume.read offset length), after) ∧ Mounted superblock after volume := by
  rcases boringfsSourceRead_cases io offset length (mounted.coherent.trustedAt _) with
    ⟨after, device, geometry, ⟨result, coherent, -⟩ | ⟨-, refused, -⟩⟩
  · rw [mounted.device] at result device
    exact ⟨after, result, mounted.changed geometry coherent device⟩
  · rcases mounted.stop regions below with ⟨inSource, inBlocks⟩
    exact absurd (refused inSource inBlocks) completes.not_refused

theorem Mounted.write {offset : Nat} {bytes : List UInt8}
    (below : offset + bytes.length ≤ superblock.totalBlocks * boringfsBlockSize) :
    ∃ after, boringfsSourceWrite io store offset bytes = (true, after) ∧
      Mounted superblock after (volume.overwrite offset bytes) := by
  rcases boringfsSourceWrite_cases io offset bytes (mounted.coherent.trustedAt _) with
    ⟨after, written, geometry, device, ⟨result, all, coherent, -⟩ | ⟨-, refused, -⟩⟩
  · rw [mounted.device, List.take_of_length_le all] at device
    exact ⟨after, result, mounted.changed geometry coherent device⟩
  · rcases mounted.stop regions below with ⟨inSource, inBlocks⟩
    exact absurd (refused mounted.writable inSource inBlocks) completes.not_refused

theorem Mounted.bit {block : Nat} (below : block < superblock.totalBlocks) :
    ∃ after, bitmapGet io superblock store block =
        (some ((contentsOf superblock volume).bit block), after) ∧
      Mounted superblock after volume := by
  rcases bitmapLocation_eq regions below with ⟨location, -, data⟩
  have before := bitmapOffset_before regions below
  rcases mounted.read completes regions
    (show bitmapOffset superblock block + 1 ≤ _ from Nat.le_trans before data) with ⟨after, read, mounted⟩
  have covered : block < superblock.bitmapBlocks * boringfsBitmapBlockBits :=
    Nat.lt_of_lt_of_le below regions.bitmapCovers
  refine ⟨after, ?_, mounted⟩
  simp only [bitmapGet, location, read]
  rw [ByteVolume.getD_read Nat.one_pos, Nat.add_zero, masked_eq_testBit]
  simp only [contentsOf, if_pos covered]

theorem Mounted.setBit {block : Nat}
    (lower : superblock.dataStart ≤ block) (below : block < superblock.totalBlocks) (allocated : Bool) :
    ∃ after, bitmapSet io superblock store block allocated = (true, after) ∧
      Mounted superblock after (changedBit superblock volume block allocated) := by
  rcases bitmapLocation_eq regions below with ⟨location, -, data⟩
  have inside : bitmapOffset superblock block + 1 ≤ superblock.totalBlocks * boringfsBlockSize :=
    Nat.le_trans (bitmapOffset_before regions below) data
  rcases mounted.read completes regions inside with ⟨loaded, read, mounted⟩
  have byte : (volume.read (bitmapOffset superblock block) 1).getD 0 0 =
      volume (bitmapOffset superblock block) := by
    rw [ByteVolume.getD_read Nat.one_pos, Nat.add_zero]
  rcases mounted.write completes regions (show bitmapOffset superblock block +
      [changedByte (volume (bitmapOffset superblock block)) block allocated].length ≤ _ from inside)
    with ⟨after, written, mounted⟩
  refine ⟨after, ?_, mounted⟩
  simp only [bitmapSet, location, if_neg (Nat.not_lt.mpr lower), read, byte, written]

end

/-! ### The search -/

/-- A data block that the bitmap does not give away. -/
def FreeBlock (superblock : BoringfsSuperblock) (volume : ByteVolume) (block : Nat) : Prop :=
  superblock.dataStart ≤ block ∧ block < superblock.totalBlocks ∧
    (contentsOf superblock volume).bit block = false

/-- What the search for a free block finds: the preferred one, or the lowest. -/
inductive Chosen (superblock : BoringfsSuperblock) (volume : ByteVolume) (preferred : Nat) :
    Option Nat → Prop where
  | preferred (free : FreeBlock superblock volume preferred) :
      Chosen superblock volume preferred (some preferred)
  | lowest {block : Nat} (taken : ¬ FreeBlock superblock volume preferred)
      (free : FreeBlock superblock volume block)
      (least : ∀ other < block, ¬ FreeBlock superblock volume other) :
      Chosen superblock volume preferred (some block)
  | full (taken : ∀ block, ¬ FreeBlock superblock volume block) :
      Chosen superblock volume preferred none

theorem Mounted.scan (fuel : Nat) : ∀ {store : BlockStore} {block : Nat},
    Mounted superblock store volume → superblock.dataStart ≤ block → block + fuel = superblock.totalBlocks →
    (∀ other < block, ¬ FreeBlock superblock volume other) →
    ∃ result after, freeBlockLoop io superblock fuel store block = (result, after) ∧
      Mounted superblock after volume ∧
      ((∃ found, result = some found ∧ FreeBlock superblock volume found ∧
          ∀ other < found, ¬ FreeBlock superblock volume other) ∨
        result = none ∧ ∀ other, ¬ FreeBlock superblock volume other) := by
  induction fuel with
  | zero =>
    intro store block mounted _ atEnd least
    refine ⟨none, store, rfl, mounted, Or.inr ⟨rfl, fun other free => ?_⟩⟩
    exact least other (by rw [Nat.add_zero] at atEnd; exact atEnd ▸ free.2.1) free
  | succ fuel ih =>
    intro store block mounted lower atEnd least
    have below : block < superblock.totalBlocks := by omega
    rcases mounted.bit completes regions below with ⟨read, result, mounted⟩
    rw [freeBlockLoop, result]
    cases isTaken : (contentsOf superblock volume).bit block with
    | true =>
      refine ih mounted (Nat.le_succ_of_le lower) (by omega) fun other upper free => ?_
      rcases Nat.lt_succ_iff_lt_or_eq.mp upper with earlier | rfl
      · exact least other earlier free
      · exact absurd (isTaken.symm.trans free.2.2) nofun
    | false =>
      exact ⟨some block, read, rfl, mounted, Or.inl ⟨block, rfl, ⟨lower, below, isTaken⟩, least⟩⟩

/-- The search tries the preferred block, and looks for the lowest one else. -/
theorem Mounted.search (mounted : Mounted superblock store volume) (preferred : Nat) :
    ∃ result after, findFreeBlock io superblock store preferred = (result, after) ∧
      Mounted superblock after volume ∧ Chosen superblock volume preferred result := by
  have scan : ∀ {store : BlockStore}, Mounted superblock store volume →
      ¬ FreeBlock superblock volume preferred →
      ∃ result after, freeBlockLoop io superblock (superblock.totalBlocks - superblock.dataStart)
          store superblock.dataStart = (result, after) ∧
        Mounted superblock after volume ∧ Chosen superblock volume preferred result := by
    intro store mounted taken
    have inside := regions.dataInside
    rcases mounted.scan completes regions _ (Nat.le_refl _) (Nat.add_sub_cancel' inside)
      (fun other earlier free => absurd free.1 (Nat.not_le.mpr earlier)) with
      ⟨result, after, scanned, mounted, ⟨found, rfl, free, least⟩ | ⟨rfl, full⟩⟩
    · exact ⟨_, after, scanned, mounted, .lowest taken free least⟩
    · exact ⟨_, after, scanned, mounted, .full full⟩
  rw [findFreeBlock]
  by_cases isData : superblock.dataStart ≤ preferred ∧ preferred < superblock.totalBlocks
  · rcases mounted.bit completes regions isData.2 with ⟨read, result, mounted⟩
    rw [if_pos isData, result]
    cases isTaken : (contentsOf superblock volume).bit preferred with
    | false =>
      exact ⟨some preferred, read, rfl, mounted, .preferred ⟨isData.1, isData.2, isTaken⟩⟩
    | true =>
      exact scan mounted fun free =>
        absurd (isTaken.symm.trans free.2.2) nofun
  · rw [if_neg isData]
    exact scan mounted fun free => isData ⟨free.1, free.2.1⟩

end Mount

/-! ## A directory that grows -/

/-- The block behind the last extent. -/
def behindLast (directory : BoringfsObject) : Option Nat :=
  if directory.extentCount = 0 then none
  else
    let last := directory.extents.getD (directory.extentCount - 1) ⟨0, 0⟩
    some (last.startBlock + last.blockCount)

/-- The directory with a block more: in its last extent, if the block lies
behind it, and in an extent of its own else. -/
def grownBy (directory : BoringfsObject) (block : Nat) : BoringfsObject :=
  if behindLast directory = some block then
    let index := directory.extentCount - 1
    let last := directory.extents.getD index ⟨0, 0⟩
    { directory with extents := directory.extents.set index ⟨last.startBlock, last.blockCount + 1⟩ }
  else
    { directory with
      extents := directory.extents.set directory.extentCount ⟨block, 1⟩
      extentCount := directory.extentCount + 1 }

/-- The block behind the last extent is free. -/
def FreeBehind (superblock : BoringfsSuperblock) (volume : ByteVolume) (directory : BoringfsObject) : Prop :=
  ∃ block, behindLast directory = some block ∧ FreeBlock superblock volume block

/-- The block that a directory should get: the one behind its last extent, or
the lowest free one. -/
def NextBlock (superblock : BoringfsSuperblock) (volume : ByteVolume)
    (directory : BoringfsObject) (block : Nat) : Prop :=
  FreeBlock superblock volume block ∧ (behindLast directory = some block ∨
    ¬ FreeBehind superblock volume directory ∧ ∀ other < block, ¬ FreeBlock superblock volume other)

/-- No block is free, or the directory would need a ninth extent. -/
def NoRoom (superblock : BoringfsSuperblock) (volume : ByteVolume) (directory : BoringfsObject) : Prop :=
  (∀ block, ¬ FreeBlock superblock volume block) ∨
    directory.extentCount = boringfsMaxExtents ∧ ¬ FreeBehind superblock volume directory

/-- A volume in which a block has been cleared and given away, and nothing else
has changed. -/
structure BlockAdded (superblock : BoringfsSuperblock) (volume after : ByteVolume) (block : Nat) :
    Prop where
  zeroed : ∀ position, position / boringfsBlockSize = block → after position = 0
  bits : ∀ other < superblock.totalBlocks, (contentsOf superblock after).bit other =
    if other = block then true else (contentsOf superblock volume).bit other
  records : (contentsOf superblock after).record = (contentsOf superblock volume).record
  others : ∀ position, position / boringfsBlockSize ≠ block →
    position ≠ bitmapOffset superblock block → after position = volume position

section Growth

variable {io : DeviceAnswers} {superblock : BoringfsSuperblock} {store : BlockStore}
  {volume : ByteVolume} {record : List UInt8}

/-- The last extent of a checked directory ends inside the volume. -/
theorem behindLast_bounds (sound : ObjectChecked superblock record
      (boringfsDecodeObject record)) {block : Nat}
    (behind : behindLast (boringfsDecodeObject record) = some block) :
    (boringfsDecodeObject record).extentCount ≠ 0 ∧ block ≤ superblock.totalBlocks := by
  have slots : (boringfsDecodeObject record).extents.length = boringfsMaxExtents := rfl
  have count := sound.count
  have extents := sound.extents
  generalize boringfsDecodeObject record = directory at *
  rw [behindLast] at behind
  split at behind
  · cases behind
  rename_i used
  cases behind
  have below : directory.extentCount - 1 < directory.extents.length := by omega
  have isLast : directory.extents.getD (directory.extentCount - 1) ⟨0, 0⟩ ∈
      directory.liveExtents := by
    rw [List.getD_eq_getElem?_getD, List.getElem?_eq_getElem below, Option.getD_some,
      BoringfsObject.liveExtents, List.mem_take_iff_getElem]
    exact ⟨directory.extentCount - 1, by omega, rfl⟩
  exact ⟨used, (extents _ isLast).2⟩

theorem preferredBlock_free (small : superblock.totalBlocks ≤ 1048576)
    (sound : ObjectChecked superblock record (boringfsDecodeObject record)) (block : Nat) :
    preferredBlock superblock (boringfsDecodeObject record) = block ∧
        FreeBlock superblock volume block ↔
      behindLast (boringfsDecodeObject record) = some block ∧ FreeBlock superblock volume block := by
  have bounds := @behindLast_bounds superblock record sound
  generalize boringfsDecodeObject record = directory at *
  refine and_congr_left fun free => ?_
  have below := free.2.1
  have noBlock : superblock.totalBlocks ≤ locationNone32 := Nat.le_trans small (by decide)
  rw [preferredBlock]
  by_cases empty : directory.extentCount = 0
  · rw [if_neg (not_not.mpr empty), behindLast, if_pos empty]
    exact ⟨fun same => by omega, nofun⟩
  have isBehind : behindLast directory = some _ := if_neg empty
  have last := (bounds isBehind).2
  have fits : superblock.totalBlocks ≤ uint32Max := Nat.le_trans small (by decide)
  rw [if_pos empty, isBehind, Option.some.injEq]
  simp only
  split
  · rfl
  · exact ⟨fun same => by omega, fun same => by omega⟩

theorem writeBlock_added (regions : Regions superblock) {block : Nat}
    (lower : superblock.dataStart ≤ block) (below : block < superblock.totalBlocks) :
    BlockAdded superblock volume (changedBit superblock
      (writeBlock volume block (zeroBuffer.overwrite 0 [])) block true) block := by
  have notBitmap : ∀ {position other : Nat}, other < superblock.totalBlocks →
      position / boringfsBlockSize = block → position ≠ bitmapOffset superblock other := by
    rintro position other isBlock rfl rfl
    have := (Nat.le_div_iff_mul_le blockSize_pos).mp lower
    have := bitmapOffset_before regions isBlock
    omega
  have others : ∀ position, position / boringfsBlockSize ≠ block →
      position ≠ bitmapOffset superblock block → changedBit superblock
        (writeBlock volume block (zeroBuffer.overwrite 0 [])) block true position = volume position := by
    intro position outside other
    rw [changedBit_other other, writeBlock, if_neg outside]
  refine ⟨fun position inBlock => ?_, fun other isBlock => ?_,
    record_congr regions fun position table isRecord => others position ?_ ?_, others⟩
  · rw [changedBit_other (notBitmap below inBlock), writeBlock, if_pos inBlock,
      ByteVolume.overwrite_nil, zeroBuffer]
  · rw [changedBit_bit _ regions isBlock]
    have away : bitmapOffset superblock other / boringfsBlockSize ≠ block :=
      fun inBlock => notBitmap isBlock inBlock rfl
    simp only [contentsOf, writeBlock, if_neg away]
  · rintro rfl
    have isData := (Nat.le_div_iff_mul_le blockSize_pos).mp lower
    omega
  · have isBit := (bitmapLocation_eq regions below).2.1
    omega

/-- Without room the call reports so and changes nothing; else the directory
gets its next block, which holds zeros and is given away. -/
theorem reserveDirectoryBlock_cases (completes : Completes io) (regions : Regions superblock)
    (mounted : Mounted superblock store volume)
    (sound : ObjectChecked superblock record (boringfsDecodeObject record)) :
    (NoRoom superblock volume (boringfsDecodeObject record) → ∃ after,
      reserveDirectoryBlock io superblock store (boringfsDecodeObject record) =
          (.error .noSpace, after) ∧ Mounted superblock after volume) ∧
    (¬ NoRoom superblock volume (boringfsDecodeObject record) → ∃ block after changed,
      NextBlock superblock volume (boringfsDecodeObject record) block ∧
        reserveDirectoryBlock io superblock store (boringfsDecodeObject record) =
          (.ok (grownBy (boringfsDecodeObject record) block, block), after) ∧
        Mounted superblock after changed ∧ BlockAdded superblock volume changed block) := by
  have isPreferred := fun block =>
    @preferredBlock_free superblock volume record regions.totalSmall sound block
  have bounds := @behindLast_bounds superblock record sound
  have count := sound.count
  rw [reserveDirectoryBlock, extendDirectory, if_neg (Nat.not_lt.mpr count)]
  generalize boringfsDecodeObject record = directory at *
  rcases mounted.search completes regions (preferredBlock superblock directory) with
    ⟨result, searched, search, mounted, chosen⟩
  simp only [search]
  -- A block that is found is cleared and given away.
  have reserved : ∀ {block : Nat}, FreeBlock superblock volume block →
      ∃ zeroed after changed, writeZeroedBlock io searched block [] = (true, zeroed) ∧
        bitmapSet io superblock zeroed block true = (true, after) ∧
        Mounted superblock after changed ∧ BlockAdded superblock volume changed block := by
    rintro block ⟨lower, below, -⟩
    rcases mounted.zeroed completes lower below
      (show ([] : List UInt8).length ≤ boringfsBlockSize from Nat.zero_le _) with ⟨zeroed, cleared, mounted⟩
    rcases mounted.setBit completes regions lower below true with ⟨after, isSet, mounted⟩
    exact ⟨zeroed, after, _, cleared, isSet, mounted, writeBlock_added regions lower below⟩
  cases chosen with
  | full taken =>
    refine ⟨fun _ => ⟨searched, rfl, mounted⟩, fun room => absurd (Or.inl taken) room⟩
  | preferred free =>
    have behind := ((isPreferred _).mp ⟨rfl, free⟩).1
    have used := (bounds behind).1
    have room : ¬ NoRoom superblock volume directory := by
      rintro (full | ⟨-, notFree⟩)
      · exact full _ free
      · exact notFree ⟨_, behind, free⟩
    have last : (directory.extents.getD (directory.extentCount - 1) ⟨0, 0⟩).blockCount ≠
        uint32Max := by
      have inside := (bounds behind).2
      rw [behindLast, if_neg used, Option.some.injEq] at behind
      have small := regions.totalSmall
      unfold uint32Max
      omega
    rcases reserved free with ⟨zeroed, after, changed, cleared, isSet, mounted', added⟩
    refine ⟨fun noRoom => absurd noRoom room, fun _ => ⟨_, after, changed,
      ⟨free, Or.inl behind⟩, ?_, mounted', added⟩⟩
    simp only [used, ne_eq, not_false_eq_true, and_self, if_true, if_neg last, cleared, isSet,
      grownBy, behind]
  | lowest taken free least =>
    rename_i block
    have notBehind : ¬ FreeBehind superblock volume directory := by
      rintro ⟨other, behind, otherFree⟩
      have isIt := ((isPreferred other).mpr ⟨behind, otherFree⟩).1
      exact taken (isIt ▸ otherFree)
    have different : ¬ (directory.extentCount ≠ 0 ∧
        block = preferredBlock superblock directory) := fun same => taken (same.2 ▸ free)
    simp only [if_neg different]
    by_cases full : directory.extentCount = boringfsMaxExtents
    · rw [if_pos full]
      exact ⟨fun _ => ⟨searched, rfl, mounted⟩, fun room => absurd (Or.inr ⟨full, notBehind⟩) room⟩
    have room : ¬ NoRoom superblock volume directory := by
      rintro (none | ⟨isFull, -⟩)
      · exact none _ free
      · exact full isFull
    rcases reserved free with ⟨zeroed, after, changed, cleared, isSet, mounted', added⟩
    refine ⟨fun noRoom => absurd noRoom room, fun _ => ⟨block, after, changed,
      ⟨free, Or.inr ⟨notBehind, least⟩⟩, ?_, mounted', added⟩⟩
    rw [if_neg full, grownBy, if_neg fun behind => notBehind ⟨block, behind, free⟩]
    simp only [cleared, isSet]

theorem accepted_object {source : ByteSource} (reads : source.Reads volume)
    {workspace : ValidationWorkspace} (accepted : boringfsValidateSource source workspace = .ok ())
    {objectId : Nat} (live : (contentsOf (superblockOf volume) volume).Live objectId) :
    Regions (superblockOf volume) ∧ (1 ≤ objectId ∧ objectId ≤ (superblockOf volume).objectCount) ∧
      ObjectChecked (superblockOf volume)
        ((contentsOf (superblockOf volume) volume).record objectId)
        ((contentsOf (superblockOf volume) volume).object objectId) := by
  rcases accepted_passes reads accepted with ⟨sound, -, inside, ⟨owners, owners', objects⟩, -⟩
  have inTable : 1 ≤ objectId ∧ objectId ≤ (superblockOf volume).objectCount := by
    by_contra outside
    rw [VolumeContents.Live, contentsOf] at live
    simp only [if_neg outside, bytesAllZero_zeroBytes] at live
    cases live
  exact ⟨sound.regions, inTable, validateObjects_checked reads sound.regions inside objects inTable live⟩

/-- For every accepted volume and every directory of it, over a device whose
transfers complete: the call reports that there is no space, and changes
nothing, exactly if there is no room.  Else the directory gets its next block.
The block holds zeros, and no record has changed before it is given away. -/
theorem directory_growth_exact (completes : Completes io) {source : ByteSource}
    (reads : source.Reads volume) {workspace : ValidationWorkspace}
    (accepted : boringfsValidateSource source workspace = .ok ())
    (mounted : Mounted (superblockOf volume) store volume) {objectId : Nat}
    (isDirectory : (contentsOf (superblockOf volume) volume).LiveDirectory objectId) :
    (NoRoom (superblockOf volume) volume
        ((contentsOf (superblockOf volume) volume).object objectId) →
      ∃ after, reserveDirectoryBlock io (superblockOf volume) store
          ((contentsOf (superblockOf volume) volume).object objectId) = (.error .noSpace, after) ∧
        Mounted (superblockOf volume) after volume) ∧
    (¬ NoRoom (superblockOf volume) volume ((contentsOf (superblockOf volume) volume).object objectId) →
      ∃ block after changed, NextBlock (superblockOf volume) volume
          ((contentsOf (superblockOf volume) volume).object objectId) block ∧
        reserveDirectoryBlock io (superblockOf volume) store
            ((contentsOf (superblockOf volume) volume).object objectId) =
          (.ok (grownBy ((contentsOf (superblockOf volume) volume).object objectId) block, block), after) ∧
        Mounted (superblockOf volume) after changed ∧
        BlockAdded (superblockOf volume) volume changed block) := by
  rcases accepted_object reads accepted isDirectory.1 with ⟨regions, -, checked⟩
  exact reserveDirectoryBlock_cases completes regions mounted checked

end Growth

/-! ## A volume with one file -/

/-- Eight blocks and 64 objects -/
def sampleSuperblock : BoringfsSuperblock := formattedSuperblock (geometryOf 8 64)

/-- The root directory, with one record in block 6 -/
def sampleRoot : BoringfsObject :=
  { formattedRoot with
    extentCount := 1
    sizeBytes := boringfsDirectoryRecordSize
    extents := [⟨6, 1⟩] }

/-- An empty file that owns block 5 -/
def sampleFile : BoringfsObject where
  state := boringfsObjectAllocated
  type := boringfsTypeRegular
  flags := 0
  objectId := 2
  parentObjectId := boringfsRootObjectId
  extentCount := 1
  sizeBytes := 0
  extents := [⟨5, 1⟩]

/-- The blocks 4 and 7 of the volume are free. -/
def sampleVolume : ByteVolume := fun position =>
  if position < 64 then (boringfsEncodeSuperblock sampleSuperblock).getD position 0
  else if position < 4096 then 0
  else if position = 4096 then 0x6f
  else if position < 8192 then 0xff
  else if position < 8320 then ((boringfsEncodeObject sampleRoot).getD []).getD (position - 8192) 0
  else if position < 8448 then ((boringfsEncodeObject sampleFile).getD []).getD (position - 8320) 0
  else if position < 24576 then 0
  else if position < 24832 then
    ((boringfsEncodeDirectoryRecord letterRecord).getD []).getD (position - 24576) 0
  else 0

def sampleSource : ByteSource := memorySource sampleVolume (8 * boringfsBlockSize)

theorem sampleSource_reads : sampleSource.Reads sampleVolume := memorySource_reads _ _

theorem sample_superblock : superblockOf sampleVolume = sampleSuperblock := by decide +kernel

theorem sample_sound : SuperblockSound sampleSuperblock :=
  formattedSuperblock_sound ⟨by decide, by decide, by decide⟩

/-- A mount of the volume over a device that completes its transfers -/
def sampleStore : BlockStore where
  geometry := ⟨8, 4, 8 * boringfsBlockSize, false⟩
  device := sampleVolume
  blockCache := zeroBuffer
  cachedBlock := uint32Max
  cacheValid := false
  transfers := 0

/-- A device that completes every transfer -/
def promptDevice : DeviceAnswers := fun _ _ => .completed

/-- What the kernel computes on the volume, one after the other: the passes of the
validator in three groups, so that it does not run one of them again for every
use of its result, and the growth of the root directory -/
theorem sample_runs :
    ((do
      let blockOwner ← forRange (claimMetadata sampleSource sampleSuperblock)
        sampleSuperblock.dataStart 0 fun _ => 0
      let blockOwner ← validateObjectsAndExtents sampleSource sampleSuperblock blockOwner
      validateAllocationOwnership sampleSource sampleSuperblock blockOwner :
        Checked Unit)).isOk = true ∧
    (validateParentsAndCycles sampleSource sampleSuperblock).isOk = true ∧
    ((do
      let referenceCount ← validateDirectories sampleSource sampleSuperblock fun _ => 0
      validateReferences sampleSource sampleSuperblock referenceCount : Checked Unit)).isOk = true ∧
    (reserveDirectoryBlock promptDevice sampleSuperblock sampleStore
      ((contentsOf sampleSuperblock sampleVolume).object boringfsRootObjectId)).1.map Prod.snd =
        .ok 7 ∧
    (contentsOf sampleSuperblock sampleVolume).bit 4 = false ∧
    ((contentsOf sampleSuperblock sampleVolume).object boringfsRootObjectId).extentCount = 1 := by
  refine ⟨?_, ?_, ?_, ?_, ?_, ?_⟩
  · decide +kernel
  · decide +kernel
  · decide +kernel
  · decide +kernel
  · decide +kernel
  · decide +kernel

/-- The passes behind the loop over the tail of the bitmap -/
theorem sample_passes : ((do
    let blockOwner ← forRange (claimMetadata sampleSource sampleSuperblock) sampleSuperblock.dataStart 0
      fun _ => 0
    let blockOwner ← validateObjectsAndExtents sampleSource sampleSuperblock blockOwner
    validateParentsAndCycles sampleSource sampleSuperblock
    let referenceCount ← validateDirectories sampleSource sampleSuperblock fun _ => 0
    validateReferences sampleSource sampleSuperblock referenceCount
    validateAllocationOwnership sampleSource sampleSuperblock blockOwner :
      Checked Unit)).isOk = true := by
  rcases sample_runs with ⟨ownership, parents, references, -⟩
  simp only [bind, Except.bind] at ownership references ⊢
  cases metadata : forRange (claimMetadata sampleSource sampleSuperblock) sampleSuperblock.dataStart 0
      fun _ => 0 with
  | error failure =>
    rw [metadata] at ownership
    cases ownership
  | ok owners =>
    rw [metadata] at ownership
    dsimp only at ownership ⊢
    cases objects : validateObjectsAndExtents sampleSource sampleSuperblock owners with
    | error failure =>
      rw [objects] at ownership
      cases ownership
    | ok owners =>
      rw [objects] at ownership
      cases walked : validateParentsAndCycles sampleSource sampleSuperblock with
      | error failure =>
        rw [walked] at parents
        cases parents
      | ok _ =>
        cases counted : validateDirectories sampleSource sampleSuperblock fun _ => 0 with
        | error failure =>
          rw [counted] at references
          cases references
        | ok counts =>
          rw [counted] at references
          dsimp only at references ⊢
          cases referenced : validateReferences sampleSource sampleSuperblock counts with
          | error failure =>
            rw [referenced] at references
            cases references
          | ok _ => exact ownership

/-- Where the bits behind the last block are set, the first pass is the loop over
the metadata. -/
theorem validateBitmap_tail {source : ByteSource} {superblock : BoringfsSuperblock}
    {owners : BlockOwners} {storageBits : Nat}
    (storage : checkedMulU64 superblock.bitmapBlocks boringfsBitmapBlockBits = some storageBits)
    (tail : forRange (fun block _ => requireAllocated source superblock block)
      (storageBits - superblock.totalBlocks) superblock.totalBlocks () = .ok ()) :
    validateBitmapMetadataAndTail source superblock owners =
      forRange (claimMetadata source superblock) superblock.dataStart 0 owners := by
  rw [validateBitmapMetadataAndTail]
  cases forRange (claimMetadata source superblock) superblock.dataStart 0 owners with
  | error failure => rfl
  | ok blockOwner => simp only [storage, tail]

theorem sample_storage :
    checkedMulU64 sampleSuperblock.bitmapBlocks boringfsBitmapBlockBits = some 32768 := by decide

/-- The bits behind the last block are set. -/
theorem sample_tail : forRange (fun block _ => requireAllocated sampleSource sampleSuperblock block)
    (32768 - sampleSuperblock.totalBlocks) sampleSuperblock.totalBlocks () = .ok () := by
  refine forRange_still _ _ fun block lower upper => ?_
  have isTail : 8 ≤ block ∧ block < 32768 := by
    have total : sampleSuperblock.totalBlocks = 8 := rfl
    omega
  have covered : block < sampleSuperblock.bitmapBlocks * boringfsBitmapBlockBits := isTail.2
  have isSet := (requireAllocated_spec sampleSource_reads sample_sound.regions (by decide) covered).mpr ?_
  · rcases isSet with ⟨_, succeeded⟩
    exact succeeded
  · have place : bitmapOffset sampleSuperblock block = 4096 + block / 8 := rfl
    have byte : sampleVolume (4096 + block / 8) = 0xff := by
      rw [sampleVolume, if_neg (by omega), if_neg (by omega), if_neg (by omega), if_pos (by omega)]
    have ones : ∀ bit < 8, (0xff : UInt8).toNat.testBit bit = true := by decide
    simp only [contentsOf, if_pos covered, place, byte, ones _ (Nat.mod_lt block (by decide))]

theorem sample_bitmap : validateBitmapMetadataAndTail sampleSource sampleSuperblock (fun _ => 0) =
    forRange (claimMetadata sampleSource sampleSuperblock) sampleSuperblock.dataStart 0
      fun _ => 0 :=
  validateBitmap_tail sample_storage sample_tail

theorem sample_accepted : boringfsValidateSource sampleSource ⟨8, 64⟩ = .ok () := by
  have first := (validateSuperblock_ok_iff sampleSource_reads sampleSuperblock).mpr
    ⟨sample_superblock.symm, sample_sound, by decide +kernel, Nat.le_refl _⟩
  have passes := sample_passes
  rw [boringfsValidateSource, first]
  simp only
  rw [if_neg (by decide), validateContents, sample_bitmap]
  revert passes
  cases bind (forRange (claimMetadata sampleSource sampleSuperblock) sampleSuperblock.dataStart 0
      fun _ => 0) _ with
  | error failure => rintro ⟨⟩
  | ok => exact fun _ => rfl

theorem sampleStore_mounted : Mounted (superblockOf sampleVolume) sampleStore sampleVolume := by
  rw [sample_superblock]
  exact ⟨rfl, nofun, rfl, rfl, rfl, Nat.le_refl _⟩

theorem sample_directory :
    (contentsOf (superblockOf sampleVolume) sampleVolume).LiveDirectory boringfsRootObjectId := by
  rw [sample_superblock]
  exact ⟨show bytesAllZero _ = false by decide +kernel, by decide +kernel⟩

theorem promptDevice_completes : Completes promptDevice := fun _ _ => rfl

theorem sample_free : FreeBlock sampleSuperblock sampleVolume 4 :=
  ⟨by decide, by decide, sample_runs.2.2.2.2.1⟩

/-- There is room for another block of the root directory. -/
theorem directory_growth_exact_sample :
    ∃ block after changed,
      NextBlock (superblockOf sampleVolume) sampleVolume
        ((contentsOf (superblockOf sampleVolume) sampleVolume).object boringfsRootObjectId) block ∧
      reserveDirectoryBlock promptDevice (superblockOf sampleVolume) sampleStore
          ((contentsOf (superblockOf sampleVolume) sampleVolume).object boringfsRootObjectId) =
        (.ok (grownBy ((contentsOf (superblockOf sampleVolume) sampleVolume).object
          boringfsRootObjectId) block, block), after) ∧
      Mounted (superblockOf sampleVolume) after changed ∧
      BlockAdded (superblockOf sampleVolume) sampleVolume changed block := by
  apply (directory_growth_exact promptDevice_completes sampleSource_reads sample_accepted
    sampleStore_mounted sample_directory).2
  rw [sample_superblock]
  rintro (nothingFree | ⟨full, -⟩)
  · exact nothingFree 4 sample_free
  · cases sample_runs.2.2.2.2.2.symm.trans full

/-- The root directory of the volume gets block 7, which lies behind its last
extent, and not the free block 4. -/
theorem growth_prefers_neighbour :
    ¬ ∀ (source : ByteSource) (volume : ByteVolume) (workspace : ValidationWorkspace),
      source.Reads volume → boringfsValidateSource source workspace = .ok () →
      ∀ (io : DeviceAnswers) (store : BlockStore), Completes io →
      Mounted (superblockOf volume) store volume →
      ∀ objectId, (contentsOf (superblockOf volume) volume).LiveDirectory objectId →
      ∀ directory block after, reserveDirectoryBlock io (superblockOf volume) store
        ((contentsOf (superblockOf volume) volume).object objectId) =
          (.ok (directory, block), after) →
      ∀ other < block, ¬ FreeBlock (superblockOf volume) volume other := by
  intro lowest
  have lowest := lowest sampleSource sampleVolume ⟨8, 64⟩ sampleSource_reads sample_accepted
    promptDevice sampleStore promptDevice_completes sampleStore_mounted boringfsRootObjectId sample_directory
  have growth := sample_runs.2.2.2.1
  rw [← sample_superblock] at growth
  rcases run : reserveDirectoryBlock promptDevice (superblockOf sampleVolume) sampleStore
    ((contentsOf (superblockOf sampleVolume) sampleVolume).object boringfsRootObjectId) with
    ⟨_ | ⟨directory, block⟩, after⟩
  · rw [run] at growth
    cases growth
  rw [run] at growth
  cases growth
  exact lowest directory 7 after run 4 (by decide) (sample_superblock ▸ sample_free)

end BoringOS.BoringFs
