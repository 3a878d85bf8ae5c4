import BoringOS.Library.ByteVolume
import BoringOS.Library.Run
import BoringOS.Library.WriteCache
import BoringOS.Ahci.Fis

namespace BoringOS.Ahci

open Library

/-!
# Requests to a disk behind an AHCI host adapter

A transcription of `ahci_backend_read`, `ahci_backend_write`, `ahci_backend_flush`
and `issue_command` of `kernel/drivers/ahci_block.c`.  The driver takes one step for
each of its accesses to a register and for each byte that it puts into the bounce
buffer, and the adapter may take steps of its own in between.

There is one bounce buffer, one command table and one slot for all requests.  What
the adapter works on is what it finds there when it fetches the command.  It moves
the blocks in any order, and finishes at any later time.
-/

def ahciBlockPollLimit : Nat := 50000000
def ahciPrdtDbcMask : Nat := 0x3fffff
def ahciCommandFisDwords : Nat := 5
def ahciCommandWrite : Nat := 64

/-- The DMA frames that the driver gives to the adapter by their address -/
inductive DmaFrame where
  | commandTable
  | bounce
deriving DecidableEq, Repr

/-- `struct ahci_command_header` -/
structure CommandHeader where
  flags : Nat
  prdtLength : Nat
  commandTableBase : Option DmaFrame
deriving DecidableEq, Repr

/-- `struct ahci_command_table`, with the frame of the command and the one entry for
the data -/
structure CommandTable where
  cfis : List UInt8
  dataBase : Option DmaFrame
  byteCountFlags : Nat
deriving DecidableEq, Repr

structure DmaMemory where
  header : CommandHeader
  table : CommandTable
  bounce : ByteVolume

/-- A command that was fetched, with the blocks whose data has been moved -/
structure Command where
  kind : AtaKind
  lba : Nat
  count : Nat
  moved : List Nat
deriving DecidableEq, Repr

/-- The port of the disk: the first bit of `PxCI`, whether `PxSACT` has a bit set,
`PxIS.TFES`, whether `PxTFD` has `BSY` or `DRQ` set, `PxTFD.ERR`, what the adapter
works on, whether an error has stopped it, and the disk -/
structure HostAdapter where
  issued : Bool
  active : Bool
  taskFileError : Bool
  busy : Bool
  error : Bool
  current : Option Command
  halted : Bool
  disk : WriteCache (List UInt8)

/-- The command in the memory, if it is one -/
def fetchCommand (memory : DmaMemory) (blockSize : Nat) : Option Command :=
  match ataDecode memory.table.cfis with
  | none => none
  | some command =>
    if memory.header.commandTableBase = some .commandTable ∧
        (command.kind = .flush ∨
          memory.header.prdtLength = 1 ∧ memory.table.dataBase = some .bounce ∧
            memory.table.byteCountFlags + 1 = command.count * blockSize ∧
            memory.header.flags = ahciCommandFisDwords |||
              (if command.kind = .write then ahciCommandWrite else 0)) then
      some ⟨command.kind, command.lba, command.count, []⟩
    else none

variable (adapter : HostAdapter)

/-- The adapter fetches the command that was issued. -/
def HostAdapter.fetch (memory : DmaMemory) (blockSize : Nat) : HostAdapter :=
  if adapter.issued = true ∧ adapter.halted = false ∧ adapter.current = none then
    { adapter with
      current := fetchCommand memory blockSize
      busy := true }
  else adapter

/-- The adapter moves a block of the command that it works on. -/
def HostAdapter.move (memory : DmaMemory) (info : IdentifyInfo) (index : Nat) : HostAdapter × DmaMemory :=
  match adapter.current with
  | none => (adapter, memory)
  | some command =>
    if index < command.count then
      let adapter :=
        { adapter with current := some { command with moved := index :: command.moved } }
      let position := index * info.logicalBlockSize
      match command.kind with
      | .read =>
        (adapter,
          { memory with
            bounce := memory.bounce.overwrite position (adapter.disk.content (command.lba + index)) })
      | .write =>
        let block := memory.bounce.read position info.logicalBlockSize
        ({ adapter with
            disk :=
              if info.writeCacheEnabled = true then
                adapter.disk.put (command.lba + index) [block]
              else adapter.disk.force (command.lba + index) [block] },
          memory)
      | .flush => (adapter, memory)
    else (adapter, memory)

/-- The adapter finishes a command whose data it has moved. -/
def HostAdapter.finish : HostAdapter :=
  match adapter.current with
  | none => adapter
  | some command =>
    if ∀ index < command.count, index ∈ command.moved then
      { adapter with
        issued := false
        busy := false
        error := false
        current := none
        disk := if command.kind = .flush then adapter.disk.sync else adapter.disk }
    else adapter

/-- The command ends with a task-file error.  An adapter either keeps its issue bit
and stops, or goes on. -/
def HostAdapter.fail (stops : Bool) : HostAdapter :=
  match adapter.current with
  | none => adapter
  | some _ =>
    { adapter with
      issued := stops
      taskFileError := true
      busy := false
      error := true
      current := none
      halted := stops }

/-- `enum block_device_result` -/
inductive BlockDeviceResult where
  | ok
  | ioError
deriving DecidableEq, Repr

/-- `struct ahci_block_runtime`, as far as the requests use it -/
structure AhciRuntime where
  initialized : Bool
  busy : Bool
  identify : IdentifyInfo
  maxBlocksPerTransfer : Nat
deriving DecidableEq, Repr

/-- A call of the backend, with the memory of its caller -/
structure Request where
  kind : AtaKind
  firstBlock : Nat
  blockCount : Nat
  buffer : ByteVolume

/-- The arguments of `issue_command`, for a request -/
structure Transfer where
  request : Request
  fis : List UInt8
  byteCount : Nat
  write : Bool

/-- Where `issue_command` is: in `wait_mask`, before the reads of `PxCI` and `PxSACT`,
before `prepare_command`, before the writes of `PxIS` and `PxCI`, in its loop before
the reads of `PxIS` and `PxCI`, and behind the loop -/
inductive Stage where
  | awaitingReady (spins : Nat)
  | readingIssued
  | readingActive
  | preparing
  | clearing
  | issuing
  | polling (spins : Nat)
  | pollingIssued (spins : Nat)
  | readingTaskFile
  | readingStatus (error : Bool)
deriving DecidableEq, Repr

/-- Where the driver is: between two requests, filling the bounce buffer, in
`issue_command`, back from it, or back from the request -/
inductive Phase where
  | idle
  | filling (transfer : Transfer) (copied : Nat)
  | issuing (transfer : Transfer) (stage : Stage)
  | answered (transfer : Transfer) (succeeded : Bool)
  | returned (request : Request) (result : BlockDeviceResult)

structure BlockSystem where
  driver : AhciRuntime
  memory : DmaMemory
  adapter : HostAdapter
  phase : Phase

/-- What a request puts into the bounce buffer before its command -/
def Transfer.fill (transfer : Transfer) : List UInt8 :=
  if transfer.write = true then transfer.request.buffer.read 0 transfer.byteCount
  else List.replicate ahciBlockDmaBytes 0

namespace BlockSystem

variable (s : BlockSystem)

variable (request : Request)

def refuse : BlockSystem := { s with phase := .returned request .ioError }

/-- The flush command for a request -/
def issueFlush : BlockSystem :=
  { s with
    driver.busy := true
    phase := .issuing ⟨request, ahciBuildFlushFis s.driver.identify, 0, false⟩ (.awaitingReady 0) }

/-- The start of `ahci_backend_read` and `ahci_backend_write`, with the frame that
they build -/
def startTransfer (bufferGiven write : Bool) (fis : Option (List UInt8)) : BlockSystem :=
  if s.driver.initialized = false ∨ s.driver.busy = true ∨ bufferGiven = false ∨
      request.blockCount = 0 ∨ s.driver.maxBlocksPerTransfer < request.blockCount then
    s.refuse request
  else
    match ahciDmaTransferBytes s.driver.identify.logicalBlockSize request.blockCount, fis with
    | some byteCount, some fis =>
      { s with
        driver.busy := true
        phase := .filling ⟨request, fis, byteCount, write⟩ 0 }
    | _, _ => s.refuse request

/-- A call of the backend -/
def start (bufferGiven : Bool) : BlockSystem :=
  match request.kind with
  | .read =>
    s.startTransfer request bufferGiven false
      (ahciBuildReadFis s.driver.identify request.firstBlock (request.blockCount % 2 ^ 16))
  | .write =>
    s.startTransfer request bufferGiven true
      (ahciBuildWriteFis s.driver.identify request.firstBlock (request.blockCount % 2 ^ 16))
  | .flush =>
    if s.driver.initialized = false ∨ s.driver.busy = true then s.refuse request
    else if s.driver.identify.writeCacheEnabled = false then
      { s with phase := .returned request .ok }
    else s.issueFlush request

variable (transfer : Transfer)

/-- `prepare_command` -/
def prepareCommand : DmaMemory :=
  { s.memory with
    header :=
      { flags := ahciCommandFisDwords ||| (if transfer.write = true then ahciCommandWrite else 0)
        prdtLength := if transfer.byteCount = 0 then 0 else 1
        commandTableBase := some .commandTable }
    table :=
      { cfis := transfer.fis
        dataBase := if transfer.byteCount = 0 then none else some .bounce
        byteCountFlags := if transfer.byteCount = 0 then 0 else transfer.byteCount - 1 } }

/-- `issue_command` is at another place, or has returned. -/
def goTo (stage : Stage) : BlockSystem :=
  { s with phase := .issuing transfer stage }

def answer (succeeded : Bool) : BlockSystem :=
  { s with phase := .answered transfer succeeded }

/-- The next step of `issue_command` -/
def issueCommand : Stage → BlockSystem
  | .awaitingReady spins =>
    if ahciBlockPollLimit ≤ spins then s.answer transfer false
    else if s.adapter.busy = false then s.goTo transfer .readingIssued
    else s.goTo transfer (.awaitingReady (spins + 1))
  | .readingIssued =>
    if s.adapter.issued = true then s.answer transfer false
    else s.goTo transfer .readingActive
  | .readingActive =>
    if s.adapter.active = true then s.answer transfer false
    else s.goTo transfer .preparing
  | .preparing =>
    if ahciBlockDmaBytes < transfer.byteCount ∨
        transfer.byteCount ≠ 0 ∧ ahciPrdtDbcMask < transfer.byteCount - 1 then
      s.answer transfer false
    else { s.goTo transfer .clearing with memory := s.prepareCommand transfer }
  | .clearing => { s.goTo transfer .issuing with adapter.taskFileError := false }
  | .issuing => { s.goTo transfer (.polling 0) with adapter.issued := true }
  | .polling spins =>
    if ahciBlockPollLimit ≤ spins then s.answer transfer false
    else if s.adapter.taskFileError = true then s.answer transfer false
    else s.goTo transfer (.pollingIssued spins)
  | .pollingIssued spins =>
    if s.adapter.issued = false then s.goTo transfer .readingTaskFile
    else s.goTo transfer (.polling (spins + 1))
  | .readingTaskFile => s.goTo transfer (.readingStatus s.adapter.error)
  | .readingStatus error =>
    if s.adapter.taskFileError = true ∨ error = true then s.answer transfer false
    else s.answer transfer true

/-- The backend returns. -/
def finish (result : BlockDeviceResult) : BlockSystem :=
  { s with
    driver.busy := false
    phase := .returned request result }

/-- The backend goes on after `issue_command`. -/
def proceed (succeeded : Bool) : BlockSystem :=
  if succeeded = false then s.finish transfer.request .ioError
  else
    match transfer.request.kind with
    | .read =>
      s.finish
        { transfer.request with
          buffer := transfer.request.buffer.overwrite 0 (s.memory.bounce.read 0 transfer.byteCount) }
        .ok
    | .write =>
      if transfer.write = true ∧ s.driver.identify.writeCacheEnabled = true then
        s.issueFlush transfer.request
      else s.finish transfer.request .ok
    | .flush => s.finish transfer.request .ok

/-- The next step of the driver -/
def drive : BlockSystem :=
  match s.phase with
  | .idle => s
  | .filling transfer copied =>
    match transfer.fill[copied]? with
    | some byte =>
      { s with
        memory.bounce := s.memory.bounce.overwrite copied [byte]
        phase := .filling transfer (copied + 1) }
    | none => s.goTo transfer (.awaitingReady 0)
  | .issuing transfer stage => s.issueCommand transfer stage
  | .answered transfer succeeded => s.proceed transfer succeeded
  | .returned _ _ => { s with phase := .idle }

end BlockSystem

/-- A call of the backend, a step of the driver, or a step of the adapter, which may
also set its busy bits and write back what is cached as it likes -/
inductive AhciStep where
  | request (request : Request) (bufferGiven : Bool)
  | drive
  | fetch
  | move (index : Nat)
  | finish
  | fail (stops : Bool)
  | setBusy (busy : Bool)
  | writeBack (place : Nat)

/-- Requests are made one after the other. -/
def BlockSystem.step (s : BlockSystem) : AhciStep → BlockSystem
  | .request request bufferGiven =>
    match s.phase with
    | .idle => s.start request bufferGiven
    | _ => s
  | .drive => s.drive
  | .fetch =>
    { s with adapter := s.adapter.fetch s.memory s.driver.identify.logicalBlockSize }
  | .move index =>
    let (adapter, memory) := s.adapter.move s.memory s.driver.identify index
    { s with
      adapter := adapter
      memory := memory }
  | .finish => { s with adapter := s.adapter.finish }
  | .fail stops => { s with adapter := s.adapter.fail stops }
  | .setBusy busy => { s with adapter.busy := busy }
  | .writeBack place => { s with adapter.disk := s.adapter.disk.writeBack place }

/-- The driver after its initialization: the identify data has been decoded, and no
command is outstanding. -/
structure AhciStart (s : BlockSystem) : Prop where
  idle : s.phase = .idle
  notIssued : s.adapter.issued = false
  nothingCurrent : s.adapter.current = none
  notHalted : s.adapter.halted = false
  blockSize : 512 ≤ s.driver.identify.logicalBlockSize
  blocks : ∀ place, (s.adapter.disk.content place).length = s.driver.identify.logicalBlockSize
  uncached : s.driver.identify.writeCacheEnabled = false → s.adapter.disk.Clean

end BoringOS.Ahci
