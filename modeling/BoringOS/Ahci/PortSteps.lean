import BoringOS.Ahci.Driver

namespace BoringOS.Ahci

open Library

/-!
# What a step changes

The command that is outstanding is the one in the memory, as long as its issue bit is
set and no error has stopped the adapter.  Only the driver at one place makes a
command outstanding, only an outstanding read changes the bounce buffer behind the
back of the driver, and only an outstanding write changes the content of the disk.
-/

/-- The command that is described by the arguments of `issue_command` -/
def Transfer.target (transfer : Transfer) : Command :=
  if transfer.write = true then
    ⟨.write, transfer.request.firstBlock, transfer.request.blockCount, []⟩
  else if transfer.byteCount = 0 then ⟨.flush, 0, 0, []⟩
  else ⟨.read, transfer.request.firstBlock, transfer.request.blockCount, []⟩

/-- The arguments belong to a command for the request. -/
structure Formed (info : IdentifyInfo) (transfer : Transfer) : Prop where
  decoded : ataDecode transfer.fis =
    some ⟨transfer.target.kind, transfer.target.lba, transfer.target.count⟩
  byteCount : transfer.byteCount = transfer.target.count * info.logicalBlockSize
  kind : transfer.target.kind = transfer.request.kind ∨
    transfer.target.kind = .flush ∧ transfer.request.kind = .write
  hasBytes : transfer.target.kind ≠ .flush → transfer.byteCount ≠ 0

/-- The command that the adapter may still work on -/
def BlockSystem.outstanding (s : BlockSystem) : Option Command :=
  if s.adapter.issued = true ∧ s.adapter.halted = false then
    fetchCommand s.memory s.driver.identify.logicalBlockSize
  else none

/-- The arguments of `issue_command`, from the start of the request on -/
def Phase.transfer : Phase → Option Transfer
  | .filling transfer _ => some transfer
  | .issuing transfer _ => some transfer
  | .answered transfer _ => some transfer
  | _ => none

/-- The places where the issue bit has been seen clear -/
def Stage.isQuiet : Stage → Bool
  | .readingActive => true
  | .preparing => true
  | .clearing => true
  | .issuing => true
  | .readingTaskFile => true
  | .readingStatus _ => true
  | _ => false

def Phase.isQuiet : Phase → Bool
  | .issuing _ stage => stage.isQuiet
  | .answered _ succeeded => succeeded
  | _ => false

/-- What holds of the driver and the port in every state -/
structure PortSound (s : BlockSystem) : Prop where
  blockSize : 0 < s.driver.identify.logicalBlockSize
  current : ∀ command, s.adapter.current = some command →
    s.adapter.issued = true ∧ s.adapter.halted = false ∧
      fetchCommand s.memory s.driver.identify.logicalBlockSize = some { command with moved := [] }
  halted : s.adapter.halted = true → s.adapter.issued = true
  quiet : s.phase.isQuiet = true → s.adapter.issued = false
  formed : ∀ transfer, s.phase.transfer = some transfer → Formed s.driver.identify transfer

section

variable {s : BlockSystem} {transfer : Transfer}

theorem formed_flush (info : IdentifyInfo) {request : Request} (notRead : request.kind ≠ .read) :
    Formed info ⟨request, ahciBuildFlushFis info, 0, false⟩ where
  decoded := ataDecode_flush info
  byteCount := (Nat.zero_mul _).symm
  kind := by
    cases isKind : request.kind with
    | read => exact absurd isKind notRead
    | write => exact Or.inr ⟨rfl, rfl⟩
    | flush => exact Or.inl rfl
  hasBytes := fun notFlush => absurd rfl notFlush

theorem ahciDmaTransferBytes_some {blockSize blockCount byteCount : Nat}
    (isCount : ahciDmaTransferBytes blockSize blockCount = some byteCount) :
    byteCount = blockCount * blockSize ∧ 0 < byteCount ∧ byteCount ≤ ahciBlockDmaBytes ∧
      blockCount < 2 ^ 16 := by
  rw [ahciDmaTransferBytes] at isCount
  split_ifs at isCount with refused large
  have positive : 0 < blockSize * blockCount :=
    Nat.mul_pos (Nat.pos_of_ne_zero fun zero => refused (Or.inl zero))
      (Nat.pos_of_ne_zero fun zero => refused (Or.inr (Or.inl zero)))
  have small : blockCount ≤ blockSize * blockCount :=
    Nat.le_mul_of_pos_left _ (Nat.pos_of_ne_zero fun zero => refused (Or.inl zero))
  have isBytes := Option.some.inj isCount
  have limit : blockSize * blockCount ≤ 4096 := Nat.not_lt.mp large
  refine ⟨?_, ?_, ?_, ?_⟩
  · rw [← isBytes, Nat.mul_comm]
  · rw [← isBytes]
    exact positive
  · rw [← isBytes]
    exact limit
  · omega

theorem startTransfer_cases (s : BlockSystem) (request : Request) (bufferGiven write : Bool)
    (fis : Option (List UInt8)) :
    s.startTransfer request bufferGiven write fis = s.refuse request ∨
      ∃ byteCount frame, fis = some frame ∧
        ahciDmaTransferBytes s.driver.identify.logicalBlockSize request.blockCount =
          some byteCount ∧
        s.startTransfer request bufferGiven write fis =
          { s with
            driver.busy := true
            phase := .filling ⟨request, frame, byteCount, write⟩ 0 } := by
  unfold BlockSystem.startTransfer
  grind

/-- What a call of the backend leads to -/
theorem start_cases (s : BlockSystem) (request : Request) (bufferGiven : Bool) :
    (∃ result, s.start request bufferGiven = { s with phase := .returned request result } ∧
      (result = .ok → request.kind = .flush ∧ s.driver.identify.writeCacheEnabled = false)) ∨
    (∃ transfer, transfer.request = request ∧ Formed s.driver.identify transfer ∧
      transfer.target.kind = request.kind ∧ request.kind ≠ .flush ∧ transfer.byteCount ≤ ahciBlockDmaBytes ∧
      s.start request bufferGiven =
        { s with
          driver.busy := true
          phase := .filling transfer 0 }) ∨
    request.kind = .flush ∧ s.start request bufferGiven = s.issueFlush request := by
  rw [BlockSystem.start]
  cases isKind : request.kind with
  | read =>
    rcases startTransfer_cases s request bufferGiven false (ahciBuildReadFis s.driver.identify
      request.firstBlock (request.blockCount % 2 ^ 16)) with
      same | ⟨byteCount, fis, built, isCount, same⟩
    · exact Or.inl ⟨.ioError, same, nofun⟩
    rcases ahciDmaTransferBytes_some isCount with ⟨isBytes, positive, limit, small⟩
    have target : Transfer.target ⟨request, fis, byteCount, false⟩ =
        ⟨.read, request.firstBlock, request.blockCount, []⟩ := by
      rw [Transfer.target, if_neg Bool.false_ne_true, if_neg (Nat.ne_of_gt positive)]
    rw [Nat.mod_eq_of_lt small] at built
    refine Or.inr (Or.inl ⟨⟨request, fis, byteCount, false⟩, rfl,
      ⟨?_, ?_, ?_, fun _ => Nat.ne_of_gt positive⟩, ?_, nofun, limit, same⟩)
    · rw [target]
      exact ataDecode_read small built
    · rw [target]
      exact isBytes
    · grind
    · rw [target]
  | write =>
    rcases startTransfer_cases s request bufferGiven true (ahciBuildWriteFis s.driver.identify
      request.firstBlock (request.blockCount % 2 ^ 16)) with
      same | ⟨byteCount, fis, built, isCount, same⟩
    · exact Or.inl ⟨.ioError, same, nofun⟩
    rcases ahciDmaTransferBytes_some isCount with ⟨isBytes, positive, limit, small⟩
    rw [Nat.mod_eq_of_lt small] at built
    refine Or.inr (Or.inl ⟨⟨request, fis, byteCount, true⟩, rfl,
      ⟨?_, isBytes, ?_, fun _ => Nat.ne_of_gt positive⟩, rfl, nofun, limit, same⟩)
    · exact ataDecode_write small built
    · exact Or.inl isKind.symm
  | flush =>
    dsimp only
    split
    · exact Or.inl ⟨.ioError, rfl, nofun⟩
    grind

/-- The adapter finds the command that was prepared. -/
theorem fetchCommand_prepared (formed : Formed s.driver.identify transfer) :
    fetchCommand (s.prepareCommand transfer) s.driver.identify.logicalBlockSize =
      some transfer.target := by
  have isByteCount := formed.byteCount
  have empty : transfer.target.moved = [] := by
    rw [Transfer.target]
    split_ifs <;> rfl
  have isFlags : transfer.write = true ↔ transfer.target.kind = .write := by
    rw [Transfer.target]
    split_ifs with isWrite isFlush
    · exact iff_of_true isWrite rfl
    · exact iff_of_false isWrite nofun
    · exact iff_of_false isWrite nofun
  rw [fetchCommand, show (s.prepareCommand transfer).table.cfis = transfer.fis from rfl, formed.decoded]
  dsimp only
  rw [if_pos]
  · rw [← empty]
  · refine ⟨rfl, ?_⟩
    by_cases isFlush : transfer.target.kind = .flush
    · exact Or.inl isFlush
    · have hasBytes := formed.hasBytes isFlush
      grind [BlockSystem.prepareCommand]

end

/-- The steps of the adapter -/
def AhciStep.isOfAdapter : AhciStep → Bool
  | .request _ _ => false
  | .drive => false
  | _ => true

/-- Where `issue_command` goes without changing anything else -/
inductive Goes (adapter : HostAdapter) (transfer : Transfer) : Stage → Phase → Prop
  | gaveUp (stage : Stage) : Goes adapter transfer stage (.answered transfer false)
  | notReady (spins : Nat) :
      Goes adapter transfer (.awaitingReady spins) (.issuing transfer (.awaitingReady (spins + 1)))
  | ready (spins : Nat) :
      Goes adapter transfer (.awaitingReady spins) (.issuing transfer .readingIssued)
  | notIssued (clear : adapter.issued = false) :
      Goes adapter transfer .readingIssued (.issuing transfer .readingActive)
  | notActive : Goes adapter transfer .readingActive (.issuing transfer .preparing)
  | noError (spins : Nat) :
      Goes adapter transfer (.polling spins) (.issuing transfer (.pollingIssued spins))
  | stillIssued (spins : Nat) :
      Goes adapter transfer (.pollingIssued spins) (.issuing transfer (.polling (spins + 1)))
  | done (spins : Nat) (clear : adapter.issued = false) :
      Goes adapter transfer (.pollingIssued spins) (.issuing transfer .readingTaskFile)
  | taskFile : Goes adapter transfer .readingTaskFile
      (.issuing transfer (.readingStatus adapter.error))
  | succeeded (noError : adapter.taskFileError = false) :
      Goes adapter transfer (.readingStatus false) (.answered transfer true)

/-- A call of the backend comes between two requests and gets as far as the bounce buffer. -/
def BlockSystem.accepts (s : BlockSystem) (request : Request) (given : Bool) : Prop :=
  s.phase = .idle ∧ ∃ transfer, (s.start request given).phase = .filling transfer 0

/-- What a step can do, with all that the code has checked -/
inductive Change (s : BlockSystem) : AhciStep → BlockSystem → Prop
  | nothing (step : AhciStep) : Change s step s
  | refused (request : Request) (given : Bool) :
      Change s (.request request given) (s.refuse request)
  | uncached (request : Request) (given : Bool) (isFlush : request.kind = .flush)
      (isUncached : s.driver.identify.writeCacheEnabled = false) :
      Change s (.request request given) { s with phase := .returned request .ok }
  | started (transfer : Transfer) (given : Bool) (accepted : s.accepts transfer.request given)
      (formed : Formed s.driver.identify transfer)
      (isKind : transfer.target.kind = transfer.request.kind)
      (hasData : transfer.request.kind ≠ .flush)
      (fits : transfer.byteCount ≤ ahciBlockDmaBytes) :
      Change s (.request transfer.request given)
        { s with
          driver.busy := true
          phase := .filling transfer 0 }
  | startedFlush (request : Request) (given : Bool) (isFlush : request.kind = .flush) :
      Change s (.request request given) (s.issueFlush request)
  | filled (transfer : Transfer) (copied : Nat) (byte : UInt8)
      (place : s.phase = .filling transfer copied) (isByte : transfer.fill[copied]? = some byte) :
      Change s .drive
        { s with
          memory.bounce := s.memory.bounce.overwrite copied [byte]
          phase := .filling transfer (copied + 1) }
  | loaded (transfer : Transfer) (copied : Nat) (place : s.phase = .filling transfer copied)
      (atEnd : transfer.fill[copied]? = none) :
      Change s .drive (s.goTo transfer (.awaitingReady 0))
  | went (transfer : Transfer) (stage : Stage) (phase : Phase)
      (place : s.phase = .issuing transfer stage) (goes : Goes s.adapter transfer stage phase) :
      Change s .drive { s with phase := phase }
  | prepared (transfer : Transfer) (place : s.phase = .issuing transfer .preparing) :
      Change s .drive { s.goTo transfer .clearing with memory := s.prepareCommand transfer }
  | cleared (transfer : Transfer) (place : s.phase = .issuing transfer .clearing) :
      Change s .drive { s.goTo transfer .issuing with adapter.taskFileError := false }
  | issued (transfer : Transfer) (place : s.phase = .issuing transfer .issuing) :
      Change s .drive { s.goTo transfer (.polling 0) with adapter.issued := true }
  | failed (transfer : Transfer) (place : s.phase = .answered transfer false) :
      Change s .drive (s.finish transfer.request .ioError)
  | readDone (transfer : Transfer) (place : s.phase = .answered transfer true)
      (isRead : transfer.request.kind = .read) :
      Change s .drive
        (s.finish
          { transfer.request with
            buffer := transfer.request.buffer.overwrite 0
              (s.memory.bounce.read 0 transfer.byteCount) }
          .ok)
  | written (transfer : Transfer) (place : s.phase = .answered transfer true)
      (isWrite : transfer.request.kind = .write) (isData : transfer.write = true) :
      Change s .drive (s.issueFlush transfer.request)
  | writeDone (transfer : Transfer) (place : s.phase = .answered transfer true)
      (isWrite : transfer.request.kind = .write)
      (isStored : transfer.write = false ∨ s.driver.identify.writeCacheEnabled = false) :
      Change s .drive (s.finish transfer.request .ok)
  | flushDone (transfer : Transfer) (place : s.phase = .answered transfer true)
      (isFlush : transfer.request.kind = .flush) :
      Change s .drive (s.finish transfer.request .ok)
  | idled (request : Request) (result : BlockDeviceResult)
      (place : s.phase = .returned request result) : Change s .drive { s with phase := .idle }
  | fetched (isIssued : s.adapter.issued = true) (notHalted : s.adapter.halted = false)
      (nothingCurrent : s.adapter.current = none) :
      Change s .fetch
        { s with
          adapter.current := fetchCommand s.memory s.driver.identify.logicalBlockSize
          adapter.busy := true }
  | movedRead (index : Nat) (command : Command) (isCurrent : s.adapter.current = some command)
      (inside : index < command.count) (isRead : command.kind = .read) :
      Change s (.move index)
        { s with
          adapter.current := some { command with moved := index :: command.moved }
          memory.bounce :=
            s.memory.bounce.overwrite (index * s.driver.identify.logicalBlockSize)
              (s.adapter.disk.content (command.lba + index)) }
  | movedWrite (index : Nat) (command : Command) (disk : WriteCache (List UInt8))
      (isCurrent : s.adapter.current = some command) (inside : index < command.count)
      (isWrite : command.kind = .write)
      (isContent : disk.content = Function.update s.adapter.disk.content (command.lba + index)
        (s.memory.bounce.read (index * s.driver.identify.logicalBlockSize)
          s.driver.identify.logicalBlockSize))
      (keepsClean : s.driver.identify.writeCacheEnabled = false → s.adapter.disk.Clean →
        disk.Clean) :
      Change s (.move index)
        { s with
          adapter.current := some { command with moved := index :: command.moved }
          adapter.disk := disk }
  | movedFlush (index : Nat) (command : Command) (isCurrent : s.adapter.current = some command)
      (isFlush : command.kind = .flush) :
      Change s (.move index)
        { s with adapter.current := some { command with moved := index :: command.moved } }
  | finished (command : Command) (disk : WriteCache (List UInt8))
      (isCurrent : s.adapter.current = some command)
      (allMoved : ∀ index < command.count, index ∈ command.moved)
      (isContent : disk.content = s.adapter.disk.content)
      (isClean : s.adapter.disk.Clean ∨ command.kind = .flush → disk.Clean) :
      Change s .finish
        { s with
          adapter.issued := false
          adapter.busy := false
          adapter.error := false
          adapter.current := none
          adapter.disk := disk }
  | erred (stops : Bool) (command : Command) (isCurrent : s.adapter.current = some command) :
      Change s (.fail stops)
        { s with
          adapter.issued := stops
          adapter.taskFileError := true
          adapter.busy := false
          adapter.error := true
          adapter.current := none
          adapter.halted := stops }
  | setBusy (busy : Bool) : Change s (.setBusy busy) { s with adapter.busy := busy }
  | wroteBack (place : Nat) :
      Change s (.writeBack place)
        { s with adapter.disk := s.adapter.disk.writeBack place }

section

variable {s : BlockSystem} {transfer : Transfer}

theorem start_change (idle : s.phase = .idle) (request : Request) (given : Bool) :
    Change s (.request request given) (s.start request given) := by
  rcases start_cases s request given with ⟨result, same, isFlush⟩ |
    ⟨transfer, rfl, formed, isKind, hasData, fits, same⟩ | ⟨isFlush, same⟩
  · rw [same]
    cases result with
    | ok => exact .uncached request given (isFlush rfl).1 (isFlush rfl).2
    | ioError => exact .refused request given
  · rw [same]
    refine .started transfer given ⟨idle, transfer, ?_⟩ formed isKind hasData fits
    rw [same]
  · rw [same]
    exact .startedFlush request given isFlush

theorem issueCommand_change {stage : Stage} (place : s.phase = .issuing transfer stage) :
    Change s .drive (s.issueCommand transfer stage) := by
  have gaveUp : Change s .drive (s.answer transfer false) :=
    .went transfer stage _ place (.gaveUp stage)
  cases stage with
  | awaitingReady spins =>
    rw [BlockSystem.issueCommand]
    split_ifs
    · exact gaveUp
    · exact .went transfer _ _ place (.ready spins)
    · exact .went transfer _ _ place (.notReady spins)
  | readingIssued =>
    rw [BlockSystem.issueCommand]
    split_ifs with isIssued
    · exact gaveUp
    · exact .went transfer _ _ place (.notIssued (Bool.not_eq_true _ ▸ isIssued))
  | readingActive =>
    rw [BlockSystem.issueCommand]
    split_ifs
    · exact gaveUp
    · exact .went transfer _ _ place .notActive
  | preparing =>
    rw [BlockSystem.issueCommand]
    split_ifs
    · exact gaveUp
    · exact .prepared transfer place
  | clearing => exact .cleared transfer place
  | issuing => exact .issued transfer place
  | polling spins =>
    rw [BlockSystem.issueCommand]
    split_ifs
    · exact gaveUp
    · exact gaveUp
    · exact .went transfer _ _ place (.noError spins)
  | pollingIssued spins =>
    rw [BlockSystem.issueCommand]
    split_ifs with clear
    · exact .went transfer _ _ place (.done spins clear)
    · exact .went transfer _ _ place (.stillIssued spins)
  | readingTaskFile => exact .went transfer _ _ place .taskFile
  | readingStatus error =>
    rw [BlockSystem.issueCommand]
    split_ifs with bad
    · exact gaveUp
    rw [not_or, Bool.not_eq_true, Bool.not_eq_true] at bad
    rcases bad with ⟨noError, rfl⟩
    exact .went transfer _ _ place (.succeeded noError)

theorem proceed_change {succeeded : Bool} (place : s.phase = .answered transfer succeeded) :
    Change s .drive (s.proceed transfer succeeded) := by
  rw [BlockSystem.proceed]
  cases succeeded with
  | false => exact .failed transfer place
  | true =>
    rw [if_neg Bool.noConfusion]
    cases isKind : transfer.request.kind with
    | read => exact .readDone transfer place isKind
    | write =>
      dsimp only
      split_ifs with isData
      · exact .written transfer place isKind isData.1
      · refine .writeDone transfer place isKind ?_
        grind
    | flush => exact .flushDone transfer place isKind

theorem drive_change (s : BlockSystem) : Change s .drive s.drive := by
  rw [BlockSystem.drive]
  split
  · exact .nothing .drive
  · rename_i transfer copied place
    split
    · rename_i byte isByte
      exact .filled transfer copied byte place isByte
    · rename_i atEnd
      exact .loaded transfer copied place atEnd
  · rename_i transfer stage place
    exact issueCommand_change place
  · grind [proceed_change]
  · rename_i request result place
    exact .idled request result place

theorem move_change (s : BlockSystem) (index : Nat) : Change s (.move index) (s.step (.move index)) := by
  rw [BlockSystem.step, HostAdapter.move]
  cases isCurrent : s.adapter.current with
  | none => exact .nothing _
  | some command =>
    dsimp only
    by_cases inside : index < command.count
    · rw [if_pos inside]
      cases isKind : command.kind with
      | read =>
        grind [Change.movedRead]
      | write =>
        have change := Change.movedWrite index command
          (if s.driver.identify.writeCacheEnabled = true then
            s.adapter.disk.put (command.lba + index)
              [s.memory.bounce.read (index * s.driver.identify.logicalBlockSize)
                s.driver.identify.logicalBlockSize]
          else s.adapter.disk.force (command.lba + index)
              [s.memory.bounce.read (index * s.driver.identify.logicalBlockSize)
                s.driver.identify.logicalBlockSize]) isCurrent inside isKind
          (by grind [WriteCache.content_put, WriteCache.content_force])
          (fun uncached clean => by
            simp_all [WriteCache.force_clean])
        grind
      | flush =>
        grind [Change.movedFlush]
    · rw [if_neg inside]
      exact .nothing _

theorem step_change (s : BlockSystem) (step : AhciStep) : Change s step (s.step step) := by
  cases step with
  | request request given =>
    rw [BlockSystem.step]
    split
    · rename_i idle
      exact start_change idle request given
    · exact .nothing _
  | drive => exact drive_change s
  | fetch =>
    rw [BlockSystem.step, HostAdapter.fetch]
    split
    · rename_i may
      exact .fetched may.1 may.2.1 may.2.2
    · exact .nothing _
  | move index => exact move_change s index
  | finish =>
    rw [BlockSystem.step, HostAdapter.finish]
    cases isCurrent : s.adapter.current with
    | none => exact .nothing _
    | some command =>
      dsimp only
      by_cases allMoved : ∀ index < command.count, index ∈ command.moved
      · rw [if_pos allMoved]
        refine .finished command _ isCurrent allMoved ?_ ?_
        · grind [WriteCache.content_sync]
        grind [WriteCache.sync_clean]
      · rw [if_neg allMoved]
        exact .nothing _
  | fail stops =>
    rw [BlockSystem.step, HostAdapter.fail]
    cases isCurrent : s.adapter.current with
    | none => exact .nothing _
    | some command => exact .erred stops command isCurrent
  | setBusy busy => exact .setBusy busy
  | writeBack place => exact .wroteBack place

end

end BoringOS.Ahci
