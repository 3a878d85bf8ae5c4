import BoringOS.UsbStorage.Backend

namespace BoringOS.UsbStorage

open Library

/-!
# Durability of the writes

The driver owes a flush as long as it has seen a plain write succeed and no
synchronization after it.  Two things can pay the debt off too early: a plain
write that the device carries out without reporting it never becomes a debt,
and a write with FUA clears the debt of every block, and not only of its own.
-/

theorem loadBe_storeBig32 {value : Nat} (fits : value ≤ uint32Max) :
    loadBe (storeBig32 value) = value := by
  have bound : value < 256 ^ 4 := Nat.lt_of_le_of_lt fits (by decide)
  rw [loadBe, storeBig32, List.reverse_reverse, loadLe_storeLe bound]

theorem loadBe_storeBig16 {value : Nat} (fits : value < 2 ^ 16) :
    loadBe (storeBig16 value) = value := by
  have bound : value < 256 ^ 2 := Nat.lt_of_lt_of_eq fits (by decide)
  rw [loadBe, storeBig16, List.reverse_reverse, loadLe_storeLe bound]

variable (write forceUnitAccess : Bool) (lba blocks : Nat)

theorem length_rw10Cdb : (rw10Cdb write forceUnitAccess lba blocks).length = 10 := by
  rfl

/-- Behind its head, the wrapper holds the command. -/
theorem wrapper_command (tag dataLength : Nat) (directionIn : Bool) (cdb : List UInt8) :
    (commandBlockWrapper tag dataLength directionIn cdb).drop 15 =
      cdb ++ List.replicate (16 - cdb.length) 0 := by
  rfl

variable (rest : List UInt8)

theorem rw10Cdb_opcode :
    (rw10Cdb write forceUnitAccess lba blocks ++ rest).getD 0 0 =
      if write then mscScsiWrite10 else mscScsiRead10 := rfl

theorem rw10Cdb_flags :
    (rw10Cdb write forceUnitAccess lba blocks ++ rest).getD 1 0 =
      if write && forceUnitAccess then mscScsiWriteFua else 0 := rfl

theorem rw10Cdb_lba :
    slice (rw10Cdb write forceUnitAccess lba blocks ++ rest) 2 4 = storeBig32 lba := by
  rfl

theorem rw10Cdb_blocks :
    slice (rw10Cdb write forceUnitAccess lba blocks ++ rest) 7 2 = storeBig16 blocks := by
  rfl

/-- What a write leaves on the device -/
def written (device : WriteCache (List UInt8)) (forceUnitAccess : Bool) (first : Nat)
    (blocks : List (List UInt8)) : WriteCache (List UInt8) :=
  if forceUnitAccess then device.force first blocks else device.put first blocks

theorem performCommand_write (blockSize : Nat) (device : WriteCache (List UInt8))
    (tag dataLength : Nat) (forceUnitAccess : Bool) {lba blocks : Nat} (data : List UInt8)
    (place : lba ≤ uint32Max) (count : blocks < 2 ^ 16) :
    performCommand blockSize device
        (commandBlockWrapper tag dataLength false (rw10Cdb true forceUnitAccess lba blocks)) data =
      written device forceUnitAccess lba (blocksOf blockSize blocks data) := by
  simp only [performCommand, wrapper_command, rw10Cdb_opcode, rw10Cdb_flags, rw10Cdb_lba,
    rw10Cdb_blocks, loadBe_storeBig32 place, loadBe_storeBig16 count]
  cases forceUnitAccess with
  | false => rfl
  | true => rfl

theorem performCommand_read (blockSize : Nat) (device : WriteCache (List UInt8))
    (tag dataLength lba blocks : Nat) (data : List UInt8) :
    performCommand blockSize device
        (commandBlockWrapper tag dataLength true (rw10Cdb false false lba blocks)) data =
      device := by
  rfl

theorem performCommand_sync (blockSize : Nat) (device : WriteCache (List UInt8)) (tag : Nat)
    (data : List UInt8) :
    performCommand blockSize device (commandBlockWrapper tag 0 false synchronizeCacheCdb) data =
      device.sync := by
  rfl

/-- A command changes counters and the tag, but not how the driver works. -/
structure SameMode (before after : MscRuntime) : Prop where
  initialized : after.initialized = before.initialized
  blockSize : after.logicalBlockSize = before.logicalBlockSize
  pending : after.pendingWriteRequiresFlush = before.pendingWriteRequiresFlush
  unsupported : after.synchronizeCacheUnsupported = before.synchronizeCacheUnsupported
  forced : after.forceUnitAccessWrites = before.forceUnitAccessWrites

theorem SameMode.refl (runtime : MscRuntime) : SameMode runtime runtime := ⟨rfl, rfl, rfl, rfl, rfl⟩

/-- The command is sent, and the device carries it out. -/
def CarriedOut (runtime : MscRuntime) (directionIn : Bool) (dataLength : Nat)
    (answer : CommandAnswer) : Prop :=
  runtime.nextTag ≠ 0 ∧ deviceActs runtime directionIn dataLength answer = true

instance (runtime : MscRuntime) (directionIn : Bool) (dataLength : Nat) (answer : CommandAnswer) :
    Decidable (CarriedOut runtime directionIn dataLength answer) :=
  inferInstanceAs (Decidable (_ ∧ _))

variable (storage : Storage)

theorem botExecute_mode (cdb : List UInt8) (directionIn : Bool)
    (data : List UInt8) (dataLength : Nat) (answer : CommandAnswer) :
    SameMode storage.runtime
      (botExecute storage cdb directionIn data dataLength answer).2.2.runtime := by
  rw [botExecute]
  split
  · exact SameMode.refl _
  simp only []
  split
  · exact ⟨rfl, rfl, rfl, rfl, rfl⟩
  split
  · exact ⟨rfl, rfl, rfl, rfl, rfl⟩
  split
  · exact ⟨rfl, rfl, rfl, rfl, rfl⟩
  · exact ⟨rfl, rfl, rfl, rfl, rfl⟩

theorem botExecute_device {cdb : List UInt8} (data : List UInt8)
    (directionIn : Bool) {dataLength : Nat} (answer : CommandAnswer) (some' : cdb.length ≠ 0)
    (fits : cdb.length ≤ 16) (bounded : dataLength ≤ usbMassStorageMaxTransfer) :
    (botExecute storage cdb directionIn data dataLength answer).2.2.device =
      if CarriedOut storage.runtime directionIn dataLength answer then
        performCommand storage.runtime.logicalBlockSize storage.device
          (commandBlockWrapper storage.runtime.nextTag dataLength directionIn cdb) data
      else storage.device := by
  by_cases tag : storage.runtime.nextTag = 0
  · rw [botExecute, if_pos (Or.inr (Or.inr (Or.inr tag))), if_neg (fun carried => carried.1 tag)]
  have carried : CarriedOut storage.runtime directionIn dataLength answer ↔
      deviceActs storage.runtime directionIn dataLength answer = true := and_iff_right tag
  grind [botExecute]

/-- What `scsi_rw10` accepts -/
structure Transferable (runtime : MscRuntime) (lba blocks : Nat) : Prop where
  positive : blocks ≠ 0
  fits : blocks ≤ usbMassStorageMaxTransfer / runtime.logicalBlockSize
  place : lba ≤ uint32Max

variable {runtime : MscRuntime}

theorem Transferable.bounded {lba blocks : Nat} (transferable : Transferable runtime lba blocks) :
    blocks * runtime.logicalBlockSize ≤ usbMassStorageMaxTransfer :=
  Nat.mul_le_of_le_div _ _ _ transferable.fits

theorem Transferable.accepted {lba blocks : Nat} (transferable : Transferable runtime lba blocks) :
    ¬(blocks = 0 ∨ usbMassStorageMaxTransfer / runtime.logicalBlockSize < blocks) := by
  have positive := transferable.positive
  have fits := transferable.fits
  omega

theorem Transferable.count {lba blocks : Nat}
    (transferable : Transferable runtime lba blocks) : blocks < 2 ^ 16 := by
  have bound := Nat.le_trans transferable.fits (Nat.div_le_self _ _)
  exact Nat.lt_of_le_of_lt bound (by decide)

/-- The device reports the write done in full and with a good status, and the
counters of the driver can take it. -/
def ReportedDone (runtime : MscRuntime) (forceUnitAccess : Bool) (dataLength : Nat)
    (answer : CommandAnswer) : Prop :=
  runtime.nextTag ≠ 0 ∧ (botExchange runtime false dataLength answer).1 = some (dataLength, 0, 0) ∧
    (botExchange runtime false dataLength answer).2.botCommands ≠ uint32Max ∧
    (botExchange runtime false dataLength answer).2.writeCommands ≠ uint32Max ∧
    (forceUnitAccess = true →
      (botExchange runtime false dataLength answer).2.fuaWriteCommands ≠ uint32Max)

theorem ReportedDone.carriedOut {forceUnitAccess : Bool} {dataLength : Nat}
    {answer : CommandAnswer} (reported : ReportedDone runtime forceUnitAccess dataLength answer) :
    CarriedOut runtime false dataLength answer := by
  refine ⟨reported.1, ?_⟩
  rw [deviceActs, reported.2.1]
  exact Bool.or_true _

theorem scsiRw10_write_reported {storage : Storage} (forceUnitAccess : Bool) {lba blocks : Nat}
    (buffer : List UInt8) (answer : CommandAnswer) (transferable : Transferable storage.runtime lba blocks) :
    (scsiRw10 storage true forceUnitAccess lba blocks buffer answer).1 = true ↔
      ReportedDone storage.runtime forceUnitAccess (blocks * storage.runtime.logicalBlockSize)
        answer := by
  have bounded := transferable.bounded
  rw [scsiRw10, if_neg transferable.accepted, ReportedDone]
  generalize blocks * storage.runtime.logicalBlockSize = bytes at *
  simp only [Bool.not_true, botExecute, length_rw10Cdb]
  by_cases tag : storage.runtime.nextTag = 0
  · simp [tag]
  have sent : ¬(10 = 0 ∨ 16 < 10 ∨ usbMassStorageMaxTransfer < bytes ∨
      storage.runtime.nextTag = 0) := by omega
  rw [if_neg sent]
  rcases botExchange storage.runtime false bytes answer with ⟨none | ⟨actual, residue, -⟩, stats⟩
  · simp
  simp only [Option.some.injEq, Prod.mk.injEq]
  by_cases refused : residue ≠ bytes - actual
  · grind
  by_cases full : stats.botCommands = uint32Max
  · grind
  grind

theorem scsiRw10_mode (write forceUnitAccess : Bool) (lba blocks : Nat)
    (buffer : List UInt8) (answer : CommandAnswer) :
    SameMode storage.runtime
      (scsiRw10 storage write forceUnitAccess lba blocks buffer answer).2.2.runtime := by
  rw [scsiRw10]
  split
  · exact SameMode.refl _
  simp only []
  have mode := botExecute_mode storage (rw10Cdb write forceUnitAccess lba blocks) (!write)
    (buffer.take (blocks * storage.runtime.logicalBlockSize))
    (blocks * storage.runtime.logicalBlockSize) answer
  revert mode
  rcases botExecute storage _ _ _ _ answer with ⟨none | result, -, -⟩
  · exact fun mode => mode
  intro mode
  simp only []
  split
  · exact mode
  split
  · split
    · exact mode
    · exact { mode with }
  · split
    · exact mode
    · exact { mode with }

theorem scsiRw10_device (write forceUnitAccess : Bool) (lba blocks : Nat)
    (buffer : List UInt8) (answer : CommandAnswer)
    (accepted : ¬(blocks = 0 ∨ usbMassStorageMaxTransfer / storage.runtime.logicalBlockSize <
      blocks)) :
    (scsiRw10 storage write forceUnitAccess lba blocks buffer answer).2.2.device =
      (botExecute storage (rw10Cdb write forceUnitAccess lba blocks) (!write)
        (buffer.take (blocks * storage.runtime.logicalBlockSize))
        (blocks * storage.runtime.logicalBlockSize) answer).2.2.device := by
  rw [scsiRw10, if_neg accepted]
  simp only []
  rcases botExecute storage _ _ _ _ answer with ⟨none | result, -, -⟩
  · rfl
  simp only []
  split
  · rfl
  split
  · split
    · rfl
    · rfl
  · split
    · rfl
    · rfl

/-- Whatever it reports, a write changes nothing but its own blocks. -/
theorem scsiRw10_write_device {storage : Storage} (forceUnitAccess : Bool) {lba blocks : Nat}
    (buffer : List UInt8) (answer : CommandAnswer) (transferable : Transferable storage.runtime lba blocks) :
    (scsiRw10 storage true forceUnitAccess lba blocks buffer answer).2.2.device =
      if CarriedOut storage.runtime false (blocks * storage.runtime.logicalBlockSize) answer then
        written storage.device forceUnitAccess lba
          (blocksOf storage.runtime.logicalBlockSize blocks
            (buffer.take (blocks * storage.runtime.logicalBlockSize)))
      else storage.device := by
  rw [scsiRw10_device _ _ _ _ _ _ _ transferable.accepted]
  have device := botExecute_device storage
    (buffer.take (blocks * storage.runtime.logicalBlockSize)) false answer
    (by rw [length_rw10Cdb true forceUnitAccess lba blocks]; decide)
    (by rw [length_rw10Cdb]; decide) transferable.bounded
  rw [performCommand_write _ _ _ _ _ _ transferable.place transferable.count] at device
  exact device

theorem scsiRw10_read_device (lba blocks : Nat) (buffer : List UInt8) (answer : CommandAnswer)
    (accepted : ¬(blocks = 0 ∨ usbMassStorageMaxTransfer / storage.runtime.logicalBlockSize <
      blocks)) :
    (scsiRw10 storage false false lba blocks buffer answer).2.2.device = storage.device := by
  have bounded : blocks * storage.runtime.logicalBlockSize ≤ usbMassStorageMaxTransfer :=
    Nat.mul_le_of_le_div _ _ _ (by omega)
  rw [scsiRw10_device _ _ _ _ _ _ _ accepted]
  have device := botExecute_device storage
    (buffer.take (blocks * storage.runtime.logicalBlockSize)) true answer
    (by rw [length_rw10Cdb false false lba blocks]; decide) (by rw [length_rw10Cdb]; decide) bounded
  rw [performCommand_read, ite_self] at device
  exact device

theorem scsiNoData_execute (cdb : List UInt8) (answer : CommandAnswer) :
    (scsiNoData storage cdb answer).2 = (botExecute storage cdb false [] 0 answer).2.2 := by
  rw [scsiNoData]
  grind

theorem scsiRequestSense_execute (answer : CommandAnswer) :
    (scsiRequestSense storage answer).2 =
      (botExecute storage [mscScsiRequestSense, 0, 0, 0, UInt8.ofNat mscScsiSenseBytes, 0] true []
        mscScsiSenseBytes answer).2.2 := by
  rw [scsiRequestSense]
  grind

theorem scsiRequestSense_device (answer : CommandAnswer) :
    (scsiRequestSense storage answer).2.device = storage.device := by
  rw [scsiRequestSense_execute, botExecute_device _ _ _ _ (by decide) (by decide) (by decide)]
  split
  · rfl
  · rfl

theorem sync_device (answer : CommandAnswer) :
    (scsiNoData storage synchronizeCacheCdb answer).2.device =
      if CarriedOut storage.runtime false 0 answer then storage.device.sync
      else storage.device := by
  rw [scsiNoData_execute, botExecute_device _ _ _ _ (by decide) (by decide) (by decide), performCommand_sync]

theorem sync_carriedOut {storage : Storage} {answer : CommandAnswer}
    (good : (scsiNoData storage synchronizeCacheCdb answer).1 = some 0) :
    CarriedOut storage.runtime false 0 answer := by
  simp only [scsiNoData, botExecute] at good
  by_cases tag : storage.runtime.nextTag = 0
  · simp [tag] at good
  · refine ⟨tag, ?_⟩
    grind [deviceActs]

/-- How a flush can end: the device has synchronized and the debt is paid, or
the debt stays, and then the flush can succeed only without one. -/
theorem usbMassStorageFlush_effect (answers : FlushAnswers) {succeeds : Bool}
    {after : Storage} (flushed : usbMassStorageFlush storage answers = (succeeds, after)) :
    after.runtime.logicalBlockSize = storage.runtime.logicalBlockSize ∧
      ((succeeds = true ∧ after.runtime.pendingWriteRequiresFlush = false ∧
          after.device = storage.device.sync) ∨
        (after.runtime.pendingWriteRequiresFlush = storage.runtime.pendingWriteRequiresFlush ∧
          (after.device = storage.device ∨ after.device = storage.device.sync) ∧
          (succeeds = true → storage.runtime.pendingWriteRequiresFlush = false))) := by
  have mode := botExecute_mode storage synchronizeCacheCdb false [] 0 answers.sync
  have device := sync_device storage answers.sync
  rw [← scsiNoData_execute] at mode
  rw [usbMassStorageFlush] at flushed
  split at flushed
  · simp_all
  split at flushed
  · grind
  rcases synced : scsiNoData storage synchronizeCacheCdb answers.sync with ⟨status, middle⟩
  rw [synced] at flushed mode device
  have middleDevice : middle.device = storage.device ∨ middle.device = storage.device.sync := by
    rw [device]
    split
    · exact Or.inr rfl
    · exact Or.inl rfl
  rcases status with _ | status
  · cases flushed
    exact ⟨mode.blockSize, Or.inr ⟨mode.pending, middleDevice, fun impossible =>
      nomatch impossible⟩⟩
  simp only [] at flushed
  by_cases isGood : status = 0
  · rw [if_neg (not_not_intro isGood)] at flushed
    subst isGood
    have carried : CarriedOut storage.runtime false 0 answers.sync :=
      sync_carriedOut (by rw [synced])
    rw [if_pos carried] at device
    split at flushed
    · cases flushed
      exact ⟨mode.blockSize, Or.inr ⟨mode.pending, middleDevice, fun impossible =>
        nomatch impossible⟩⟩
    · cases flushed
      exact ⟨mode.blockSize, Or.inl ⟨rfl, rfl, device⟩⟩
  · rw [if_pos isGood] at flushed
    split at flushed
    · cases flushed
      exact ⟨mode.blockSize, Or.inr ⟨mode.pending, middleDevice, fun impossible =>
        nomatch impossible⟩⟩
    have senseMode := botExecute_mode middle
      [mscScsiRequestSense, 0, 0, 0, UInt8.ofNat mscScsiSenseBytes, 0] true []
      mscScsiSenseBytes answers.sense
    have senseDevice := scsiRequestSense_device middle answers.sense
    rw [← scsiRequestSense_execute] at senseMode
    rcases sensed : scsiRequestSense middle answers.sense with ⟨sense, last⟩
    have size := senseMode.blockSize.trans mode.blockSize
    have pending := senseMode.pending.trans mode.pending
    rcases sense with _ | sense
    · simp_all
    split at flushed
    · simp_all
    grind

end BoringOS.UsbStorage
