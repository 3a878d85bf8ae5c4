import BoringOS.UsbStorage.Durability

namespace BoringOS.UsbStorage

open Library

/-!
# Runs of a mass-storage device

A write that is reported done is on the stable storage in every run.  A flush
that succeeds speaks for all writes before it only as long as no debt has been
lost: the driver may not owe nothing while the device still caches a block.
-/

/-- If the driver owes no flush, the device caches nothing. -/
def Owed (storage : Storage) : Prop :=
  storage.runtime.pendingWriteRequiresFlush = false → storage.device.Clean

/-- A flush that succeeds leaves nothing that is only cached. -/
def FlushHonest (storage : Storage) : Prop :=
  ∀ answers, (usbMassStorageFlush storage answers).1 = true →
    (usbMassStorageFlush storage answers).2.device.Clean

variable {storage : Storage}

theorem Owed.of_pending (pending : storage.runtime.pendingWriteRequiresFlush = true) : Owed storage := by
  intro paid
  rw [pending] at paid
  cases paid

theorem Owed.same {before after : Storage} (owed : Owed before)
    (pending : after.runtime.pendingWriteRequiresFlush = before.runtime.pendingWriteRequiresFlush)
    (device : after.device = before.device) : Owed after := by
  intro paid
  rw [device]
  exact owed (pending.symm.trans paid)

theorem flush_owed (owed : Owed storage) (answers : FlushAnswers) :
    Owed (usbMassStorageFlush storage answers).2 := by
  rcases flushed : usbMassStorageFlush storage answers with ⟨succeeds, after⟩
  rcases usbMassStorageFlush_effect storage answers flushed with
    ⟨-, ⟨-, -, synced⟩ | ⟨pending, same | synced, -⟩⟩
  · intro _
    rw [synced]
    exact WriteCache.sync_clean _
  · exact owed.same pending same
  · intro _
    rw [synced]
    exact WriteCache.sync_clean _

theorem flush_honest (owed : Owed storage) : FlushHonest storage := by
  intro answers
  rcases flushed : usbMassStorageFlush storage answers with ⟨succeeds, after⟩
  intro succeeds
  rcases usbMassStorageFlush_effect storage answers flushed with
    ⟨-, ⟨-, -, synced⟩ | ⟨-, same | synced, paid⟩⟩
  · rw [synced]
    exact WriteCache.sync_clean _
  · rw [same]
    exact owed (paid succeeds)
  · rw [synced]
    exact WriteCache.sync_clean _

theorem blocksOf_take (blockSize count : Nat) (buffer : List UInt8) :
    blocksOf blockSize count (buffer.take (count * blockSize)) =
      blocksOf blockSize count buffer := by
  apply List.map_congr_left
  intro index inside
  have below : index + 1 ≤ count := List.mem_range.mp inside
  have whole := Nat.mul_le_mul_right blockSize below
  rw [Nat.succ_mul] at whole
  rw [slice, slice, List.drop_take, List.take_take]
  congr 1
  omega

theorem blocksOf_ne_nil (blockSize : Nat) {count : Nat} (buffer : List UInt8)
    (positive : count ≠ 0) : blocksOf blockSize count buffer ≠ [] := by
  simp_all [blocksOf]

variable {firstBlock blockCount : Nat}

theorem transferable_of_valid {runtime : MscRuntime}
    {bufferGiven : Bool} (valid : ¬invalidRequest runtime firstBlock blockCount bufferGiven) :
    Transferable runtime firstBlock blockCount := by
  simp only [invalidRequest, not_or] at valid
  exact ⟨valid.2.2.1, Nat.le_of_not_lt valid.2.2.2.1, Nat.le_of_not_lt valid.2.2.2.2⟩

theorem Transferable.of_blockSize {runtime later : MscRuntime} {lba blocks : Nat}
    (transferable : Transferable runtime lba blocks)
    (same : later.logicalBlockSize = runtime.logicalBlockSize) : Transferable later lba blocks := by
  refine ⟨transferable.positive, ?_, transferable.place⟩
  rw [same]
  exact transferable.fits

/-- What the write with FUA does to the debts: it clears them all, although it
stores its own blocks only. -/
theorem writeWithFua_owed (owed : Owed storage) (buffer : List UInt8) (answer : CommandAnswer)
    (transferable : Transferable storage.runtime firstBlock blockCount) :
    Owed (writeWithFua storage firstBlock blockCount buffer answer).2 ↔
      (ReportedDone storage.runtime true (blockCount * storage.runtime.logicalBlockSize) answer →
        storage.device.CoveredBy firstBlock
          (blocksOf storage.runtime.logicalBlockSize blockCount buffer)) := by
  have mode := scsiRw10_mode storage true true firstBlock blockCount buffer answer
  have device := scsiRw10_write_device true buffer answer transferable
  have reported := scsiRw10_write_reported true buffer answer transferable
  rw [blocksOf_take, written] at device
  rw [writeWithFua]
  generalize scsiRw10 storage true true firstBlock blockCount buffer answer = answered at *
  rcases answered with ⟨_ | _, bytes, after⟩
  · have failed := reported.not.mp Bool.false_ne_true
    refine iff_of_true ?_ (fun done => absurd done failed)
    intro paid
    have clean := owed (mode.pending.symm.trans paid)
    rw [device]
    split
    · exact (WriteCache.force_clean_iff _ _ _).mpr (fun place isCached =>
        absurd (clean place) isCached)
    · exact clean
  · have done := reported.mp rfl
    rw [if_pos done.carriedOut] at device
    have clean := WriteCache.force_clean_iff storage.device firstBlock
      (blocksOf storage.runtime.logicalBlockSize blockCount buffer)
    rw [if_pos rfl] at device
    rw [← device] at clean
    constructor
    · exact fun kept _ => clean.mp (kept rfl)
    · exact fun covers _ => clean.mpr (covers done)

/-- The state in which `msc_backend_write` comes to the write with FUA, if it
does -/
def fuaState (storage : Storage) (firstBlock blockCount : Nat) (buffer : List UInt8)
    (plain : CommandAnswer) (flush : FlushAnswers) : Option Storage :=
  if storage.runtime.forceUnitAccessWrites = true then some storage
  else
    match scsiRw10 storage true false firstBlock blockCount buffer plain with
    | (false, _, _) => none
    | (true, _, storage) =>
      match usbMassStorageFlush (setPending storage true) flush with
      | (true, _) => none
      | (false, storage) =>
        if storage.runtime.forceUnitAccessWrites = false ∨
            storage.runtime.synchronizeCacheUnsupported = false then none
        else some storage

/-- No debt is lost: a plain write that the device carries out while no flush
is owed is reported done, and a write with FUA that is reported done covers
all blocks that are only cached. -/
def Storage.KeepsDebts (storage : Storage) : StorageCall → Prop
  | .write firstBlock blockCount bufferGiven buffer plain flush fua =>
    ¬invalidRequest storage.runtime firstBlock blockCount bufferGiven →
      (storage.runtime.forceUnitAccessWrites = false →
        storage.runtime.pendingWriteRequiresFlush = false →
        CarriedOut storage.runtime false (blockCount * storage.runtime.logicalBlockSize) plain →
        ReportedDone storage.runtime false (blockCount * storage.runtime.logicalBlockSize) plain) ∧
      ∀ middle, fuaState storage firstBlock blockCount buffer plain flush = some middle →
        ReportedDone middle.runtime true (blockCount * middle.runtime.logicalBlockSize) fua →
        middle.device.CoveredBy firstBlock
          (blocksOf middle.runtime.logicalBlockSize blockCount buffer)
  | _ => True

theorem mscBackendWrite_owed (owed : Owed storage)
    (firstBlock blockCount : Nat) (bufferGiven : Bool) (buffer : List UInt8)
    (plain : CommandAnswer) (flush : FlushAnswers) (fua : CommandAnswer) :
    Owed (mscBackendWrite storage firstBlock blockCount bufferGiven buffer plain flush fua).2 ↔
      storage.KeepsDebts (.write firstBlock blockCount bufferGiven buffer plain flush fua) := by
  rw [mscBackendWrite, Storage.KeepsDebts]
  by_cases invalid : invalidRequest storage.runtime firstBlock blockCount bufferGiven
  · simp [*]
  have transferable := transferable_of_valid invalid
  rw [if_neg invalid, imp_iff_right invalid, fuaState]
  by_cases forced : storage.runtime.forceUnitAccessWrites = true
  · simp_all [writeWithFua_owed]
  have mode := scsiRw10_mode storage true false firstBlock blockCount buffer plain
  have device := scsiRw10_write_device false buffer plain transferable
  have reported := scsiRw10_write_reported false buffer plain transferable
  rw [if_neg forced, if_neg forced]
  have plainMode : storage.runtime.forceUnitAccessWrites = false := Bool.eq_false_of_not_eq_true forced
  generalize scsiRw10 storage true false firstBlock blockCount buffer plain = answered at *
  rcases answered with ⟨_ | _, bytes, after⟩
  · have failed := reported.not.mp Bool.false_ne_true
    simp only [reduceCtorEq, false_implies, implies_true, and_true, imp_iff_right plainMode,
      failed, imp_false]
    constructor
    · intro kept paid carried
      rw [if_pos carried] at device
      have clean := kept (mode.pending.trans paid)
      rw [device] at clean
      exact WriteCache.put_not_clean _ _ (blocksOf_ne_nil _ _ transferable.positive) clean
    · intro keeps paid
      have paidBefore := mode.pending.symm.trans paid
      have same : after.device = storage.device := device.trans (if_neg (keeps paidBefore))
      rw [same]
      exact owed paidBefore
  · have done := reported.mp rfl
    simp only [done, implies_true, true_and]
    rcases flushed : usbMassStorageFlush (setPending after true) flush with ⟨_ | _, last⟩
    · have pending : last.runtime.pendingWriteRequiresFlush = true := by
        rcases (usbMassStorageFlush_effect _ _ flushed).2 with ⟨impossible, -⟩ | ⟨pending, -⟩
        · cases impossible
        · exact pending
      simp only []
      split
      · simp only [reduceCtorEq, false_implies, implies_true, iff_true]
        exact Owed.of_pending pending
      have size : last.runtime.logicalBlockSize = storage.runtime.logicalBlockSize :=
        (usbMassStorageFlush_effect _ _ flushed).1.trans mode.blockSize
      have again := writeWithFua_owed (Owed.of_pending pending) buffer fua
        (transferable.of_blockSize size)
      simp [*]
    · simp only [reduceCtorEq, false_implies, implies_true, iff_true]
      grind [flush_owed, Owed.of_pending, setPending]

theorem mscBackendRead_owed (owed : Owed storage) (firstBlock blockCount : Nat)
    (bufferGiven : Bool) (answer : CommandAnswer) :
    Owed (mscBackendRead storage firstBlock blockCount bufferGiven answer).2.2 := by
  rw [mscBackendRead]
  split
  · exact owed
  rename_i valid
  have mode := scsiRw10_mode storage false false firstBlock blockCount [] answer
  have device := scsiRw10_read_device storage firstBlock blockCount [] answer
    (transferable_of_valid valid).accepted
  generalize scsiRw10 storage false false firstBlock blockCount [] answer = answered at *
  rcases answered with ⟨_ | _, bytes, after⟩
  · exact owed.same mode.pending device
  · exact owed.same mode.pending device

theorem step_owed (owed : Owed storage) (call : StorageCall) :
    Owed (storage.step call) ↔ storage.KeepsDebts call := by
  cases call with
  | write firstBlock blockCount bufferGiven buffer plain flush fua =>
    exact mscBackendWrite_owed owed firstBlock blockCount bufferGiven buffer plain flush fua
  | read firstBlock blockCount bufferGiven answer =>
    refine iff_of_true ?_ trivial
    exact mscBackendRead_owed owed firstBlock blockCount bufferGiven answer
  | flush answers => exact iff_of_true (flush_owed owed answers) trivial
  | backendFlush answers =>
    refine iff_of_true ?_ trivial
    grind [flush_owed, Storage.step, mscBackendFlush]
  | writeBack block =>
    exact iff_of_true (fun paid => WriteCache.writeBack_clean (owed paid) block) trivial

/-- A transfer that moves all it should -/
def wholeTransfer (length : Nat) (bytes : List UInt8) : BulkAnswer where
  arrived := true
  actual := length
  short := false
  bytes := bytes

/-- A command that runs to its end, with a status and without residue -/
def answered (tag length : Nat) (bytes : List UInt8) (status : UInt8) : CommandAnswer where
  cbw := wholeTransfer usbMassStorageCbwSize []
  data := wholeTransfer length bytes
  csw := wholeTransfer usbMassStorageCswSize
    (storeLe 4 usbMassStorageCswSignature ++ storeLe 4 tag ++ storeLe 4 0 ++ [status])
  accepts := false

/-- A command that the device never answers -/
def unanswered : CommandAnswer where
  cbw := { wholeTransfer 0 [] with arrived := false }
  data := wholeTransfer 0 []
  csw := wholeTransfer 0 []
  accepts := false

/-- A write that is reported done is on the stable storage. -/
def WritesDurable (storage : Storage) : Prop :=
  ∀ firstBlock blockCount bufferGiven buffer plain flush fua,
    (mscBackendWrite storage firstBlock blockCount bufferGiven buffer plain flush fua).1 = .ok →
    (mscBackendWrite storage firstBlock blockCount bufferGiven buffer plain flush fua).2.device.Stored
      firstBlock (blocksOf storage.runtime.logicalBlockSize blockCount buffer)

theorem writeWithFua_stored (buffer : List UInt8) (answer : CommandAnswer)
    (transferable : Transferable storage.runtime firstBlock blockCount)
    (done : (writeWithFua storage firstBlock blockCount buffer answer).1 = .ok) :
    (writeWithFua storage firstBlock blockCount buffer answer).2.device.Stored firstBlock
      (blocksOf storage.runtime.logicalBlockSize blockCount buffer) := by
  have device := scsiRw10_write_device true buffer answer transferable
  have reported := scsiRw10_write_reported true buffer answer transferable
  rw [blocksOf_take, written, if_pos rfl] at device
  rw [writeWithFua] at done ⊢
  generalize scsiRw10 storage true true firstBlock blockCount buffer answer = answered at *
  rcases answered with ⟨_ | _, bytes, after⟩
  · cases done
  rw [if_pos (reported.mp rfl).carriedOut] at device
  change after.device.Stored _ _
  rw [device]
  exact WriteCache.force_stored _ _ _

theorem writes_durable (storage : Storage) : WritesDurable storage := by
  intro firstBlock blockCount bufferGiven buffer plain flush fua done
  rw [mscBackendWrite] at done ⊢
  by_cases invalid : invalidRequest storage.runtime firstBlock blockCount bufferGiven
  · rw [if_pos invalid] at done
    cases done
  have transferable := transferable_of_valid invalid
  rw [if_neg invalid] at done ⊢
  by_cases forced : storage.runtime.forceUnitAccessWrites = true
  · simp_all [writeWithFua_stored]
  have mode := scsiRw10_mode storage true false firstBlock blockCount buffer plain
  have device := scsiRw10_write_device false buffer plain transferable
  have reported := scsiRw10_write_reported false buffer plain transferable
  rw [if_neg forced] at done ⊢
  rw [blocksOf_take, written, if_neg Bool.false_ne_true] at device
  generalize scsiRw10 storage true false firstBlock blockCount buffer plain = answered at *
  rcases answered with ⟨_ | _, bytes, after⟩
  · cases done
  rw [if_pos (reported.mp rfl).carriedOut] at device
  simp only [] at done ⊢
  rcases flushed : usbMassStorageFlush (setPending after true) flush with ⟨_ | _, last⟩
  · have size : last.runtime.logicalBlockSize = storage.runtime.logicalBlockSize :=
      (usbMassStorageFlush_effect _ _ flushed).1.trans mode.blockSize
    rw [flushed] at done
    simp only [] at done ⊢
    split at done
    · cases done
    rename_i retries
    rw [if_neg retries, ← size]
    exact writeWithFua_stored buffer fua (transferable.of_blockSize size) done
  · have synced : last.device = (setPending after true).device.sync := by
      rcases (usbMassStorageFlush_effect _ _ flushed).2 with ⟨-, -, synced⟩ | ⟨-, -, paid⟩
      · exact synced
      · exact absurd (paid rfl) Bool.true_eq_false.mp
    rw [synced]
    change after.device.sync.Stored _ _
    rw [device]
    exact WriteCache.sync_put_stored _ _ _

/-- In every run that loses no debt, a write that is reported done is on the
stable storage, and a flush that succeeds leaves nothing that is only
cached. -/
theorem storage_run_durable {start : Storage} (isStart : StorageStart start)
    (calls : List StorageCall) (keeps : Respects Storage.step Storage.KeepsDebts start calls) :
    WritesDurable (run Storage.step start calls) ∧ FlushHonest (run Storage.step start calls) := by
  have kept : ∀ storage call, Owed storage → storage.KeepsDebts call →
      Owed (storage.step call) := fun storage call owed keeps => (step_owed owed call).mpr keeps
  have atStart : Owed start := fun _ => isStart.clean
  exact ⟨writes_durable _, flush_honest (run_invariant_of_respects kept calls start atStart keeps)⟩

/-- Fixed sense data of an unknown command -/
def unknownCommandSense : List UInt8 :=
  [0x70, 0, 0x05, 0, 0, 0, 0, 10, 0, 0, 0, 0, 0x20, 0, 0, 0, 0, 0]

def freshStorage : Storage where
  runtime :=
    { initialized := true
      logicalBlockSize := 512
      nextTag := 1
      stats := ⟨0, 0, 0, 0, 0, 0, 0, 0⟩
      pendingWriteRequiresFlush := false
      synchronizeCacheUnsupported := false
      forceUnitAccessWrites := false }
  device := ⟨fun _ => none, fun _ => []⟩

theorem freshStorage_start : StorageStart freshStorage :=
  ⟨rfl, rfl, rfl, Nat.le_refl 512, fun _ => rfl⟩

def blockOfOnes : List UInt8 := List.replicate 512 1

/-- A write whose synchronization is reported done as well -/
def settledWrite : StorageCall :=
  .write 0 1 true blockOfOnes (answered 1 512 [] 0) ⟨answered 2 0 [] 0, unanswered⟩ unanswered

/-- The first write is not synchronized.  The second one learns that the
device does not synchronize at all, and is repeated with FUA. -/
def forgottenWrite : List StorageCall :=
  [.write 0 1 true blockOfOnes (answered 1 512 [] 0) ⟨unanswered, unanswered⟩ unanswered,
    .write 1 1 true blockOfOnes (answered 3 512 [] 0)
      ⟨answered 4 0 [] 1, answered 5 18 unknownCommandSense 0⟩ (answered 6 512 [] 0)]

theorem storage_run_durable_settled :
    WritesDurable (run Storage.step freshStorage [settledWrite]) ∧
      FlushHonest (run Storage.step freshStorage [settledWrite]) := by
  apply storage_run_durable freshStorage_start
  refine ⟨fun _ => ⟨fun _ _ _ => ?_, ?_⟩, trivial⟩
  · exact ⟨by decide, by decide +kernel, by decide +kernel, by decide +kernel, by decide⟩
  nofun

/-- After the second write the driver owes nothing, and the first block is
still only cached. -/
theorem flush_forgets_cached_write :
    ¬∀ (start : Storage) (calls : List StorageCall), StorageStart start →
      WritesDurable (run Storage.step start calls) ∧ FlushHonest (run Storage.step start calls) := by
  intro durable
  have honest := (durable freshStorage forgottenWrite freshStorage_start).2
    ⟨unanswered, unanswered⟩ (by decide +kernel)
  have forgotten : ((usbMassStorageFlush (run Storage.step freshStorage forgottenWrite)
      ⟨unanswered, unanswered⟩).2.device.cached 0).isSome = true := by decide +kernel
  rw [honest 0] at forgotten
  cases forgotten

end BoringOS.UsbStorage
