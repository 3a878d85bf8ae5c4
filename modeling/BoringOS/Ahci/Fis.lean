import BoringOS.Library.LittleEndian

namespace BoringOS.Ahci

open Library

/-!
# The commands of the ATA disk

`ahci_build_read_fis`, `ahci_build_write_fis` and `ahci_build_flush_fis` of
`kernel/core/ahci_block.c` write a command into the twenty bytes of a frame.
The disk decodes these bytes as the ATA standard says, where a count of zero
stands for the largest one.
-/

/-- `struct ahci_identify_info`, as far as the requests use it -/
structure IdentifyInfo where
  blockCount : Nat
  logicalBlockSize : Nat
  lba48 : Bool
  writeCacheEnabled : Bool
  flushCacheExtSupported : Bool
deriving DecidableEq, Repr

def ahciBlockDmaBytes : Nat := 4096

def ataFisTypeRegH2d : UInt8 := 0x27
def ataFisCommandBit : UInt8 := 0x80
def ataCmdReadDma : UInt8 := 0xc8
def ataCmdReadDmaExt : UInt8 := 0x25
def ataCmdWriteDma : UInt8 := 0xca
def ataCmdWriteDmaExt : UInt8 := 0x35
def ataCmdFlushCache : UInt8 := 0xe7
def ataCmdFlushCacheExt : UInt8 := 0xea
def ataDeviceLba : Nat := 0x40
def ataLba28Limit : Nat := 0x10000000
def ataLba48Max : Nat := 0xffffffffffff

/-- The frame with a command, two parts of an address, a device byte and a count -/
def registerFis (command : UInt8) (low device high count : Nat) : List UInt8 :=
  [ataFisTypeRegH2d, ataFisCommandBit, command, 0] ++ storeLe 3 low ++ [device.toUInt8] ++
    storeLe 3 high ++ [0] ++ storeLe 2 count ++ List.replicate 6 0

/-- `ahci_dma_transfer_bytes` -/
def ahciDmaTransferBytes (logicalBlockSize blockCount : Nat) : Option Nat :=
  if logicalBlockSize = 0 ∨ blockCount = 0 ∨ ahciBlockDmaBytes < logicalBlockSize ∨
      ahciBlockDmaBytes % logicalBlockSize ≠ 0 ∨ (2 ^ 32 - 1) / logicalBlockSize < blockCount then none
  else if ahciBlockDmaBytes < logicalBlockSize * blockCount then none
  else some (logicalBlockSize * blockCount)

def ahciBuildReadFis (info : IdentifyInfo) (firstBlock blockCount : Nat) : Option (List UInt8) :=
  if blockCount = 0 ∨ info.blockCount = 0 ∨ info.blockCount ≤ firstBlock ∨
      info.blockCount - firstBlock < blockCount then none
  else if info.lba48 = true then
    if ataLba48Max < firstBlock then none
    else
      some (registerFis ataCmdReadDmaExt firstBlock ataDeviceLba (firstBlock >>> 24) blockCount)
  else if ataLba28Limit ≤ firstBlock ∨ 255 < blockCount ∨ ataLba28Limit - firstBlock < blockCount then none
  else
    some (registerFis ataCmdReadDma firstBlock (ataDeviceLba ||| (firstBlock >>> 24) % 16) 0
      (blockCount % 256))

def ahciBuildWriteFis (info : IdentifyInfo) (firstBlock blockCount : Nat) : Option (List UInt8) :=
  (ahciBuildReadFis info firstBlock blockCount).map fun fis =>
    fis.set 2 (if info.lba48 = true then ataCmdWriteDmaExt else ataCmdWriteDma)

def ahciBuildFlushFis (info : IdentifyInfo) : List UInt8 :=
  registerFis (if info.flushCacheExtSupported = true then ataCmdFlushCacheExt
    else ataCmdFlushCache) 0 0 0 0

inductive AtaKind where
  | read
  | write
  | flush
deriving DecidableEq, Repr

/-- What a frame tells the disk to do -/
structure AtaCommand where
  kind : AtaKind
  lba : Nat
  count : Nat
deriving DecidableEq, Repr

/-- Whether the byte is the command with a long address, or the one with a short address -/
def ataKind (command : UInt8) : Option (AtaKind × Bool) :=
  if command = ataCmdReadDmaExt then some (.read, true)
  else if command = ataCmdReadDma then some (.read, false)
  else if command = ataCmdWriteDmaExt then some (.write, true)
  else if command = ataCmdWriteDma then some (.write, false)
  else if command = ataCmdFlushCache ∨ command = ataCmdFlushCacheExt then some (.flush, false)
  else none

/-- A count of zero stands for the largest one. -/
def ataCount (count largest : Nat) : Nat := if count = 0 then largest else count

def ataDecode (fis : List UInt8) : Option AtaCommand :=
  match ataKind (fis.getD 2 0) with
  | none => none
  | some (.flush, _) => some ⟨.flush, 0, 0⟩
  | some (kind, true) =>
    some ⟨kind, loadLe (slice fis 4 3 ++ slice fis 8 3), ataCount (loadLe (slice fis 12 2)) (2 ^ 16)⟩
  | some (kind, false) =>
    some ⟨kind, loadLe (slice fis 4 3) + (fis.getD 7 0).toNat % 16 * 2 ^ 24,
      ataCount (loadLe (slice fis 12 1)) (2 ^ 8)⟩

section

variable {info : IdentifyInfo} {firstBlock blockCount : Nat} {fis : List UInt8}

theorem longAddress (inside : firstBlock ≤ ataLba48Max) :
    loadLe (storeLe 3 firstBlock ++ storeLe 3 (firstBlock >>> 24)) = firstBlock := by
  rw [← storeLe_add 3 3 firstBlock]
  exact loadLe_storeLe (Nat.lt_succ_of_le inside)

theorem shortAddress (inside : firstBlock < ataLba28Limit) :
    loadLe (storeLe 3 firstBlock) +
      (ataDeviceLba ||| (firstBlock >>> 24) % 16).toUInt8.toNat % 16 * 2 ^ 24 = firstBlock := by
  have nibble : ∀ nibble < 16, (ataDeviceLba ||| nibble).toUInt8.toNat % 16 = nibble := by decide
  rw [nibble _ (Nat.mod_lt _ (by decide)), loadLe_storeLe_mod, Nat.shiftRight_eq_div_pow]
  rw [ataLba28Limit] at inside
  omega

theorem ataCount_stored {width : Nat} (positive : blockCount ≠ 0)
    (small : blockCount < 256 ^ width) (largest : Nat) :
    ataCount (loadLe (storeLe width blockCount)) largest = blockCount := by
  rw [loadLe_storeLe small, ataCount, if_neg positive]

theorem ataDecode_long (fis : List UInt8) {kind : AtaKind}
    (isKind : ataKind (fis.getD 2 0) = some (kind, true)) (hasData : kind ≠ .flush) :
    ataDecode fis = some ⟨kind, loadLe (slice fis 4 3 ++ slice fis 8 3),
      ataCount (loadLe (slice fis 12 2)) (2 ^ 16)⟩ := by
  rw [ataDecode, isKind]
  simp

theorem ataDecode_short (fis : List UInt8) {kind : AtaKind}
    (isKind : ataKind (fis.getD 2 0) = some (kind, false)) (hasData : kind ≠ .flush) :
    ataDecode fis = some ⟨kind, loadLe (slice fis 4 3) + (fis.getD 7 0).toNat % 16 * 2 ^ 24,
      ataCount (loadLe (slice fis 12 1)) (2 ^ 8)⟩ := by
  rw [ataDecode, isKind]
  simp

/-- A frame that was built is decoded, with any command for data in it. -/
theorem ataDecode_built {kind : AtaKind} {long short : UInt8} (small : blockCount < 2 ^ 16)
    (isLong : ataKind long = some (kind, true)) (isShort : ataKind short = some (kind, false))
    (hasData : kind ≠ .flush) (built : ahciBuildReadFis info firstBlock blockCount = some fis) :
    ataDecode (fis.set 2 (if info.lba48 = true then long else short)) =
      some ⟨kind, firstBlock, blockCount⟩ := by
  rw [ahciBuildReadFis] at built
  split_ifs at built with refused isLba48 outside outside
  · have positive : blockCount ≠ 0 := fun zero => refused (Or.inl zero)
    rw [if_pos isLba48, ← Option.some.inj built]
    refine (ataDecode_long ((registerFis ataCmdReadDmaExt firstBlock ataDeviceLba
      (firstBlock >>> 24) blockCount).set 2 long) isLong hasData).trans ?_
    change some (⟨kind, loadLe (storeLe 3 firstBlock ++ storeLe 3 (firstBlock >>> 24)),
      ataCount (loadLe (storeLe 2 blockCount)) (2 ^ 16)⟩ : AtaCommand) = _
    rw [longAddress (Nat.not_lt.mp outside), ataCount_stored positive small]
  · have positive : blockCount ≠ 0 := fun zero => refused (Or.inl zero)
    have inside : firstBlock < ataLba28Limit := by omega
    have isCount : blockCount % 256 = blockCount := Nat.mod_eq_of_lt (by omega)
    have fits : blockCount < 256 ^ 1 := by omega
    rw [if_neg isLba48, ← Option.some.inj built]
    refine (ataDecode_short ((registerFis ataCmdReadDma firstBlock
      (ataDeviceLba ||| (firstBlock >>> 24) % 16) 0 (blockCount % 256)).set 2 short) isShort
        hasData).trans ?_
    change some (⟨kind, loadLe (storeLe 3 firstBlock) +
      (ataDeviceLba ||| (firstBlock >>> 24) % 16).toUInt8.toNat % 16 * 2 ^ 24,
      ataCount (loadLe (storeLe 1 (blockCount % 256))) (2 ^ 8)⟩ : AtaCommand) = _
    rw [shortAddress inside, isCount, ataCount_stored positive fits]

theorem ataDecode_read (small : blockCount < 2 ^ 16)
    (built : ahciBuildReadFis info firstBlock blockCount = some fis) :
    ataDecode fis = some ⟨.read, firstBlock, blockCount⟩ := by
  have decoded := ataDecode_built small (show ataKind ataCmdReadDmaExt = _ from rfl)
    (show ataKind ataCmdReadDma = _ from rfl) nofun built
  have same : fis.set 2 (if info.lba48 = true then ataCmdReadDmaExt else ataCmdReadDma) = fis := by
    rw [ahciBuildReadFis] at built
    split_ifs at built ⊢
    all_goals
      rw [← Option.some.inj built]
      rfl
  rw [same] at decoded
  exact decoded

theorem ataDecode_write (small : blockCount < 2 ^ 16)
    (built : ahciBuildWriteFis info firstBlock blockCount = some fis) :
    ataDecode fis = some ⟨.write, firstBlock, blockCount⟩ := by
  rw [ahciBuildWriteFis, Option.map_eq_some_iff] at built
  rcases built with ⟨frame, built, rfl⟩
  exact ataDecode_built small rfl rfl nofun built

theorem ataDecode_flush (info : IdentifyInfo) :
    ataDecode (ahciBuildFlushFis info) = some ⟨.flush, 0, 0⟩ := by
  rw [ahciBuildFlushFis]
  split <;> rfl

/-! ## What the disk says about itself -/

/-- `struct ahci_identify_info` with all its fields -/
structure IdentifyData extends IdentifyInfo where
  writeCacheSupported : Bool
deriving DecidableEq, Repr

/-- `ahci_identify_decode` -/
def ahciIdentifyDecode (words : List UInt16) : Option IdentifyData :=
  let word (index : Nat) : Nat := (words.getD index 0).toNat
  let lba48Count := word 100 ||| word 101 <<< 16 ||| word 102 <<< 32 ||| word 103 <<< 48
  let lba28Count := word 60 ||| word 61 <<< 16
  let lba48 : Bool := word 83 &&& 1 <<< 10 != 0 && lba48Count != 0
  let longer : Bool := word 106 &&& 0xc000 == 0x4000 && word 106 &&& 1 <<< 12 != 0
  let logicalWords := word 117 ||| word 118 <<< 16
  let logicalSize := if longer = true then logicalWords * 2 else 512
  let supported : Bool := word 82 &&& 1 <<< 5 != 0
  let blockCount := if lba48 = true then lba48Count else lba28Count
  if words.length < 256 then none
  else if longer = true ∧ (logicalWords < 256 ∨ ahciBlockDmaBytes / 2 < logicalWords) then none
  else if logicalSize < 512 ∨ ahciBlockDmaBytes < logicalSize ∨ ahciBlockDmaBytes % logicalSize ≠ 0 then none
  else if blockCount = 0 then none
  else
    some
      { blockCount := blockCount
        logicalBlockSize := logicalSize
        lba48 := lba48
        writeCacheSupported := supported
        writeCacheEnabled := supported && word 85 &&& 1 <<< 5 != 0
        flushCacheExtSupported := lba48 && word 83 &&& 1 <<< 12 != 0 }

/-- The first sector that the commands with a long or with a short address cannot name -/
def ataLimit (long : Bool) : Nat := if long = true then ataLba48Max + 1 else ataLba28Limit

/-- A frame names these sectors, and the disk has all of them within the reach of the
command. -/
structure FrameExact (info : IdentifyInfo) (kind : AtaKind) (firstBlock blockCount : Nat)
    (fis : List UInt8) : Prop where
  decoded : ataDecode fis = some ⟨kind, firstBlock, blockCount⟩
  command : ataKind (fis.getD 2 0) = some (kind, info.lba48)
  inside : ∀ sector, firstBlock ≤ sector → sector < firstBlock + blockCount →
    sector < info.blockCount ∧ sector < ataLimit info.lba48

theorem ahciBuildReadFis_inside (built : ahciBuildReadFis info firstBlock blockCount = some fis) :
    blockCount ≠ 0 ∧ firstBlock + blockCount ≤ info.blockCount ∧
      (info.lba48 = false → firstBlock + blockCount ≤ ataLba28Limit) := by
  rw [ahciBuildReadFis] at built
  split_ifs at built with refused isLba48 outside outside
  · refine ⟨by omega, by omega, fun short => ?_⟩
    rw [isLba48] at short
    cases short
  · exact ⟨by omega, by omega, fun _ => by omega⟩

/-- The last sector of a long command is checked by nobody. -/
theorem sectors_inside_iff (built : ahciBuildReadFis info firstBlock blockCount = some fis) :
    (∀ sector, firstBlock ≤ sector → sector < firstBlock + blockCount →
      sector < info.blockCount ∧ sector < ataLimit info.lba48) ↔
    (info.lba48 = true → firstBlock + blockCount ≤ ataLba48Max + 1) := by
  rcases ahciBuildReadFis_inside built with ⟨positive, capacity, short⟩
  constructor
  · intro inside isLba48
    have last := (inside (firstBlock + blockCount - 1) (by omega) (by omega)).2
    rw [ataLimit, if_pos isLba48] at last
    omega
  · intro fits sector lower upper
    refine ⟨by omega, ?_⟩
    rw [ataLimit]
    split
    · rename_i isLba48
      exact Nat.lt_of_lt_of_le upper (fits isLba48)
    · rename_i isShort
      exact Nat.lt_of_lt_of_le upper (short (Bool.eq_false_iff.mpr isShort))

theorem ahciBuildReadFis_command
    (built : ahciBuildReadFis info firstBlock blockCount = some fis) (command : UInt8) :
    ataKind (fis.getD 2 0) = some (.read, info.lba48) ∧ (fis.set 2 command).getD 2 0 = command := by
  rw [ahciBuildReadFis] at built
  split_ifs at built with refused isLba48 outside outside
  · rw [isLba48, ← Option.some.inj built]
    exact ⟨rfl, rfl⟩
  · rw [Bool.eq_false_iff.mpr isLba48, ← Option.some.inj built]
    exact ⟨rfl, rfl⟩

/-- For every disk that is accepted, the frames of all reads and writes are exact as long
as no range of a long command ends behind the last address of 48 bits. -/
theorem ahci_frames_exact {words : List UInt16} {data : IdentifyData}
    (_accepted : ahciIdentifyDecode words = some data) (firstBlock : Nat) (blockCount : UInt16)
    (fis : List UInt8) :
    (ahciBuildReadFis data.toIdentifyInfo firstBlock blockCount.toNat = some fis →
      (FrameExact data.toIdentifyInfo .read firstBlock blockCount.toNat fis ↔
        (data.lba48 = true → firstBlock + blockCount.toNat ≤ ataLba48Max + 1))) ∧
    (ahciBuildWriteFis data.toIdentifyInfo firstBlock blockCount.toNat = some fis →
      (FrameExact data.toIdentifyInfo .write firstBlock blockCount.toNat fis ↔
        (data.lba48 = true → firstBlock + blockCount.toNat ≤ ataLba48Max + 1))) := by
  have small : blockCount.toNat < 2 ^ 16 := blockCount.toNat_lt
  constructor
  · intro built
    rw [← sectors_inside_iff built]
    exact ⟨FrameExact.inside, fun inside =>
      ⟨ataDecode_read small built, (ahciBuildReadFis_command built 0).1, inside⟩⟩
  · intro built
    have decoded := ataDecode_write small built
    rw [ahciBuildWriteFis, Option.map_eq_some_iff] at built
    rcases built with ⟨frame, built, rfl⟩
    rw [← sectors_inside_iff built]
    refine ⟨FrameExact.inside, fun inside => ⟨decoded, ?_, inside⟩⟩
    rw [(ahciBuildReadFis_command built _).2]
    cases data.lba48 <;> rfl

/-- A disk of 2 ^ 49 sectors -/
def hugeDiskWords : List UInt16 := ((List.replicate 256 0).set 83 0x400).set 103 2

def hugeDisk : IdentifyData := ⟨⟨2 ^ 49, 512, true, false, false⟩, false⟩

theorem hugeDisk_accepted : ahciIdentifyDecode hugeDiskWords = some hugeDisk := by
  decide +kernel

/-- Eight sectors of it are read exactly. -/
theorem ahci_frames_exact_hugeDisk :
    ∃ fis, ahciBuildReadFis hugeDisk.toIdentifyInfo 0 8 = some fis ∧
      FrameExact hugeDisk.toIdentifyInfo .read 0 8 fis :=
  ⟨_, rfl, ((ahci_frames_exact hugeDisk_accepted 0 8 _).1 rfl).mpr fun _ => by decide⟩

/-- A range that begins at the last address of 48 bits goes on behind it. -/
theorem frame_behind_lba48 :
    ¬ ∀ (words : List UInt16) (data : IdentifyData) (firstBlock : Nat) (blockCount : UInt16)
      (fis : List UInt8), ahciIdentifyDecode words = some data →
      ahciBuildReadFis data.toIdentifyInfo firstBlock blockCount.toNat = some fis →
      FrameExact data.toIdentifyInfo .read firstBlock blockCount.toNat fis := by
  intro claim
  have exact' := claim hugeDiskWords hugeDisk ataLba48Max 2 _ hugeDisk_accepted rfl
  have last := (exact'.inside (ataLba48Max + 1) (by decide) (by decide)).2
  exact absurd last (Nat.lt_irrefl _)

end

end BoringOS.Ahci
