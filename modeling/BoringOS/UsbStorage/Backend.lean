import BoringOS.Library.LittleEndian
import BoringOS.Library.WriteCache
import BoringOS.Library.Run

namespace BoringOS.UsbStorage

open Library

/-!
# Commands to a mass-storage device

A transcription of the command layer of
`kernel/core/usb_mass_storage_impl.inc`: a command is sent in a wrapper, its
data follow, and a status comes back.  What the transfers of the controller
come to is an answer of the device.

The device is a volatile cache in front of stable storage.  It may carry out a
command and fail to report that; but a good status is honest.
-/

def uint32Max : Nat := 2 ^ 32 - 1
def usbMassStorageMaxTransfer : Nat := 4096
def usbMassStorageCbwSize : Nat := 31
def usbMassStorageCswSize : Nat := 13
def usbMassStorageCbwSignature : Nat := 0x43425355
def usbMassStorageCswSignature : Nat := 0x53425355
def mscScsiRequestSense : UInt8 := 0x03
def mscScsiRead10 : UInt8 := 0x28
def mscScsiWrite10 : UInt8 := 0x2a
def mscScsiSynchronizeCache10 : UInt8 := 0x35
def mscScsiWriteFua : UInt8 := 8
def mscScsiSenseBytes : Nat := 18
def mscSenseKeyIllegalRequest : UInt8 := 0x05
def mscSenseAscInvalidCommandOperationCode : UInt8 := 0x20
def mscSenseAscqInvalidCommandOperationCode : UInt8 := 0x00

/-- The counters of `struct usb_mass_storage_stats` that a command can be
refused for -/
structure MscStats where
  botCommands : Nat
  bulkInTransfers : Nat
  bulkOutTransfers : Nat
  readCommands : Nat
  writeCommands : Nat
  fuaWriteCommands : Nat
  flushCommands : Nat
  shortPackets : Nat
deriving DecidableEq, Repr

/-- `struct usb_msc_runtime`, as far as the commands use it -/
structure MscRuntime where
  initialized : Bool
  logicalBlockSize : Nat
  nextTag : Nat
  stats : MscStats
  pendingWriteRequiresFlush : Bool
  synchronizeCacheUnsupported : Bool
  forceUnitAccessWrites : Bool
deriving DecidableEq, Repr

/-- The driver and the device -/
structure Storage where
  runtime : MscRuntime
  device : WriteCache (List UInt8)

/-- What becomes of one bulk transfer: whether its event arrives, how much has
been moved, and the bytes that a transfer to the host brings -/
structure BulkAnswer where
  arrived : Bool
  actual : Nat
  short : Bool
  bytes : List UInt8
deriving DecidableEq, Repr

/-- What becomes of one command.  The device may accept it whatever it reports. -/
structure CommandAnswer where
  cbw : BulkAnswer
  data : BulkAnswer
  csw : BulkAnswer
  accepts : Bool
deriving DecidableEq, Repr

/-- `bulk_transfer`, behind the wait for the event -/
def bulkTransfer (stats : MscStats) (directionIn : Bool) (length : Nat) (answer : BulkAnswer) :
    Option Nat × MscStats :=
  if length = 0 ∨ usbMassStorageMaxTransfer < length ∨ answer.arrived = false then (none, stats)
  else if answer.short = true ∧ stats.shortPackets = uint32Max then (none, stats)
  else
    let stats :=
      if answer.short then { stats with shortPackets := stats.shortPackets + 1 } else stats
    if directionIn then
      if stats.bulkInTransfers = uint32Max then (none, stats)
      else (some answer.actual, { stats with bulkInTransfers := stats.bulkInTransfers + 1 })
    else if answer.short = true ∨ answer.actual ≠ length ∨ stats.bulkOutTransfers = uint32Max then
      (none, stats)
    else (some answer.actual, { stats with bulkOutTransfers := stats.bulkOutTransfers + 1 })

/-- The command wrapper that `bot_execute` sends -/
def commandBlockWrapper (tag dataLength : Nat) (directionIn : Bool) (cdb : List UInt8) :
    List UInt8 :=
  storeLe 4 usbMassStorageCbwSignature ++ storeLe 4 tag ++ storeLe 4 dataLength ++
    [if directionIn then 0x80 else 0, 0, UInt8.ofNat cdb.length] ++ cdb ++ List.replicate (16 - cdb.length) 0

/-- `usb_mass_storage_validate_csw`, with the residue and the status -/
def usbMassStorageValidateCsw (bytes : List UInt8) (length expectedTag transferLength : Nat) :
    Option (Nat × UInt8) :=
  let residue := loadLe (slice bytes 8 4)
  let status := bytes.getD 12 0
  if length ≠ usbMassStorageCswSize ∨ loadLe (slice bytes 0 4) ≠ usbMassStorageCswSignature ∨
      loadLe (slice bytes 4 4) ≠ expectedTag then none
  else if transferLength < residue ∨ 1 < status then none
  else some (residue, status)

def loadBe : List UInt8 → Nat := fun bytes => loadLe bytes.reverse

/-- The blocks that the data of a write consist of -/
def blocksOf (blockSize count : Nat) (data : List UInt8) : List (List UInt8) :=
  (List.range count).map fun index => slice data (index * blockSize) blockSize

/-- What a device does that carries out the command in a wrapper -/
def performCommand (blockSize : Nat) (device : WriteCache (List UInt8)) (cbw data : List UInt8) :
    WriteCache (List UInt8) :=
  let cdb := cbw.drop 15
  let opcode := cdb.getD 0 0
  if opcode = mscScsiWrite10 then
    let blocks := blocksOf blockSize (loadBe (slice cdb 7 2)) data
    if cdb.getD 1 0 &&& mscScsiWriteFua ≠ 0 then device.force (loadBe (slice cdb 2 4)) blocks
    else device.put (loadBe (slice cdb 2 4)) blocks
  else if opcode = mscScsiSynchronizeCache10 then device.sync
  else device

/-- What `bot_execute` gives back with success: the length of the data and the
status of the command -/
structure BotResult where
  actual : Nat
  status : UInt8
deriving DecidableEq, Repr

def nextTagAfter (tag : Nat) : Nat := if tag = uint32Max then 1 else tag + 1

/-- The data phase of `bot_execute`, which there may not be -/
def dataPhase (stats : MscStats) (directionIn : Bool) (dataLength : Nat) (answer : BulkAnswer) :
    Option Nat × MscStats :=
  if dataLength = 0 then (some 0, stats)
  else
    match bulkTransfer stats directionIn dataLength answer with
    | (none, stats) => (none, stats)
    | (some actual, stats) =>
      if directionIn = false ∧ actual ≠ dataLength then (none, stats) else (some actual, stats)

/-- The three transfers of `bot_execute` and the check of the status wrapper:
the length of the data, the residue and the status -/
def botExchange (runtime : MscRuntime) (directionIn : Bool) (dataLength : Nat)
    (answer : CommandAnswer) : Option (Nat × Nat × UInt8) × MscStats :=
  match bulkTransfer runtime.stats false usbMassStorageCbwSize answer.cbw with
  | (none, stats) => (none, stats)
  | (some sent, stats) =>
    if sent ≠ usbMassStorageCbwSize then (none, stats)
    else
      match dataPhase stats directionIn dataLength answer.data with
      | (none, stats) => (none, stats)
      | (some actual, stats) =>
        match bulkTransfer stats true usbMassStorageCswSize answer.csw with
        | (none, stats) => (none, stats)
        | (some received, stats) =>
          match usbMassStorageValidateCsw answer.csw.bytes received runtime.nextTag dataLength with
          | none => (none, stats)
          | some (residue, status) => (some (actual, residue, status), stats)

/-- Whether the device carries out a command.  It may do so whatever it
reports, and it has done so if it reports success. -/
def deviceActs (runtime : MscRuntime) (directionIn : Bool) (dataLength : Nat)
    (answer : CommandAnswer) : Bool :=
  answer.accepts ||
    match (botExchange runtime directionIn dataLength answer).1 with
    | none => false
    | some (_, residue, status) => residue == 0 && status == 0

variable (storage : Storage)

/-- `bot_execute`, with the bytes that it copies into the buffer of its caller, which
it does before it counts the command -/
def botExecute (cdb : List UInt8) (directionIn : Bool) (data : List UInt8) (dataLength : Nat)
    (answer : CommandAnswer) : Option BotResult × List UInt8 × Storage :=
  if cdb.length = 0 ∨ 16 < cdb.length ∨ usbMassStorageMaxTransfer < dataLength ∨
      storage.runtime.nextTag = 0 then (none, [], storage)
  else
    let runtime := storage.runtime
    let cbw := commandBlockWrapper runtime.nextTag dataLength directionIn cdb
    let ends (stats : MscStats) : Storage :=
      { runtime := { runtime with
          nextTag := nextTagAfter runtime.nextTag
          stats := stats }
        device :=
          if deviceActs runtime directionIn dataLength answer then
            performCommand runtime.logicalBlockSize storage.device cbw data
          else storage.device }
    match botExchange runtime directionIn dataLength answer with
    | (none, stats) => (none, [], ends stats)
    | (some (actual, residue, status), stats) =>
      let copied := if directionIn then answer.data.bytes.take actual else []
      if residue ≠ dataLength - actual then (none, [], ends stats)
      else if stats.botCommands = uint32Max then (none, copied, ends stats)
      else
        (some ⟨actual, status⟩, copied, ends { stats with botCommands := stats.botCommands + 1 })

/-- `scsi_no_data`, with the status -/
def scsiNoData (cdb : List UInt8) (answer : CommandAnswer) : Option UInt8 × Storage :=
  match botExecute storage cdb false [] 0 answer with
  | (none, _, storage) => (none, storage)
  | (some result, _, storage) => (if result.actual = 0 then some result.status else none, storage)

def storeBig32 (value : Nat) : List UInt8 := (storeLe 4 value).reverse

def storeBig16 (value : Nat) : List UInt8 := (storeLe 2 value).reverse

/-- The command block that `scsi_rw10` builds -/
def rw10Cdb (write forceUnitAccess : Bool) (lba blocks : Nat) : List UInt8 :=
  [if write then mscScsiWrite10 else mscScsiRead10,
      if write && forceUnitAccess then mscScsiWriteFua else 0] ++
    storeBig32 lba ++ [0] ++ storeBig16 blocks ++ [0]

/-- `scsi_rw10`, with the bytes that a read brings -/
def scsiRw10 (write forceUnitAccess : Bool) (lba blocks : Nat)
    (buffer : List UInt8) (answer : CommandAnswer) : Bool × List UInt8 × Storage :=
  if blocks = 0 ∨ usbMassStorageMaxTransfer / storage.runtime.logicalBlockSize < blocks then
    (false, [], storage)
  else
    let bytes := blocks * storage.runtime.logicalBlockSize
    match botExecute storage (rw10Cdb write forceUnitAccess lba blocks) (!write)
      (buffer.take bytes) bytes answer with
    | (none, copied, storage) => (false, copied, storage)
    | (some result, copied, storage) =>
      if result.status ≠ 0 ∨ result.actual ≠ bytes then (false, copied, storage)
      else
        let stats := storage.runtime.stats
        if write then
          if stats.writeCommands = uint32Max ∨
              (forceUnitAccess = true ∧ stats.fuaWriteCommands = uint32Max) then
            (false, [], storage)
          else
            (true, [],
              { storage with
                runtime := { storage.runtime with
                  stats := { stats with
                    writeCommands := stats.writeCommands + 1
                    fuaWriteCommands :=
                      if forceUnitAccess then stats.fuaWriteCommands + 1
                      else stats.fuaWriteCommands } } })
        else if stats.readCommands = uint32Max then (false, copied, storage)
        else
          (true, copied,
            { storage with
              runtime := { storage.runtime with
                stats := { stats with readCommands := stats.readCommands + 1 } } })

/-- `struct usb_mass_storage_sense` -/
structure Sense where
  responseCode : UInt8
  senseKey : UInt8
  asc : UInt8
  ascq : UInt8
deriving DecidableEq, Repr

/-- `usb_mass_storage_parse_sense` -/
def usbMassStorageParseSense (bytes : List UInt8) (length : Nat) : Option Sense :=
  let at' (index : Nat) : UInt8 := bytes.getD index 0
  if length = 0 then none
  else
    let responseCode := at' 0 &&& 0x7f
    if responseCode = 0x70 ∨ responseCode = 0x71 then
      if length < 14 ∨ at' 7 < 6 then none
      else some ⟨responseCode, at' 2 &&& 0x0f, at' 12, at' 13⟩
    else if responseCode = 0x72 ∨ responseCode = 0x73 then
      if length < 4 then none else some ⟨responseCode, at' 1 &&& 0x0f, at' 2, at' 3⟩
    else none

/-- `synchronize_cache_is_explicitly_unsupported` -/
def synchronizeCacheIsExplicitlyUnsupported (sense : Sense) : Bool :=
  sense.senseKey == mscSenseKeyIllegalRequest && sense.asc == mscSenseAscInvalidCommandOperationCode &&
    sense.ascq == mscSenseAscqInvalidCommandOperationCode

/-- `scsi_request_sense` -/
def scsiRequestSense (answer : CommandAnswer) : Option Sense × Storage :=
  match botExecute storage [mscScsiRequestSense, 0, 0, 0, UInt8.ofNat mscScsiSenseBytes, 0] true []
    mscScsiSenseBytes answer with
  | (none, _, storage) => (none, storage)
  | (some result, copied, storage) =>
    (if result.status = 0 then usbMassStorageParseSense copied result.actual else none, storage)

/-!
## The block device of a mass-storage device

A transcription of `usb_mass_storage_flush` and of the backend of the block
device in `kernel/core/usb_mass_storage_impl.inc`.  The diagnostic fields that
a flush leaves behind are left out, as nothing reads them.
-/

/-- The answers to the two commands of a flush -/
structure FlushAnswers where
  sync : CommandAnswer
  sense : CommandAnswer
deriving DecidableEq, Repr

def synchronizeCacheCdb : List UInt8 := [mscScsiSynchronizeCache10, 0, 0, 0, 0, 0, 0, 0, 0, 0]

/-- `usb_mass_storage_flush` -/
def usbMassStorageFlush (answers : FlushAnswers) : Bool × Storage :=
  if storage.runtime.initialized = false then (false, storage)
  else if storage.runtime.synchronizeCacheUnsupported = true then
    (!storage.runtime.pendingWriteRequiresFlush, storage)
  else
    match scsiNoData storage synchronizeCacheCdb answers.sync with
    | (none, storage) => (false, storage)
    | (some status, storage) =>
      if status ≠ 0 then
        if status ≠ 1 then (false, storage)
        else
          match scsiRequestSense storage answers.sense with
          | (none, storage) => (false, storage)
          | (some sense, storage) =>
            if synchronizeCacheIsExplicitlyUnsupported sense = false then (false, storage)
            else
              (!storage.runtime.pendingWriteRequiresFlush,
                { storage with
                  runtime := { storage.runtime with
                    synchronizeCacheUnsupported := true
                    forceUnitAccessWrites := true } })
      else
        let stats := storage.runtime.stats
        if stats.flushCommands = uint32Max then (false, storage)
        else
          (true,
            { storage with
              runtime := { storage.runtime with
                stats := { stats with flushCommands := stats.flushCommands + 1 }
                pendingWriteRequiresFlush := false } })

/-- `enum block_device_result` -/
inductive BlockDeviceResult where
  | ok
  | invalidArgument
  | ioError
deriving DecidableEq, Repr

/-- The arguments that the backend refuses -/
def invalidRequest (runtime : MscRuntime) (firstBlock blockCount : Nat) (bufferGiven : Bool) :
    Prop :=
  runtime.initialized = false ∨ bufferGiven = false ∨ blockCount = 0 ∨
    usbMassStorageMaxTransfer / runtime.logicalBlockSize < blockCount ∨ uint32Max < firstBlock

instance (runtime : MscRuntime) (firstBlock blockCount : Nat) (bufferGiven : Bool) :
    Decidable (invalidRequest runtime firstBlock blockCount bufferGiven) :=
  inferInstanceAs (Decidable (_ ∨ _))

variable (firstBlock blockCount : Nat)

/-- `msc_backend_read`, with the bytes that it brings -/
def mscBackendRead (bufferGiven : Bool) (answer : CommandAnswer) : BlockDeviceResult × List UInt8 × Storage :=
  if invalidRequest storage.runtime firstBlock blockCount bufferGiven then
    (.invalidArgument, [], storage)
  else
    match scsiRw10 storage false false firstBlock blockCount [] answer with
    | (true, bytes, storage) => (.ok, bytes, storage)
    | (false, bytes, storage) => (.ioError, bytes, storage)

def setPending (pending : Bool) : Storage :=
  { storage with runtime := { storage.runtime with pendingWriteRequiresFlush := pending } }

/-- The end of `msc_backend_write`: the write with FUA -/
def writeWithFua (buffer : List UInt8) (answer : CommandAnswer) : BlockDeviceResult × Storage :=
  match scsiRw10 storage true true firstBlock blockCount buffer answer with
  | (false, _, storage) => (.ioError, storage)
  | (true, _, storage) => (.ok, setPending storage false)

/-- `msc_backend_write` -/
def mscBackendWrite (bufferGiven : Bool)
    (buffer : List UInt8) (plain : CommandAnswer) (flush : FlushAnswers) (fua : CommandAnswer) :
    BlockDeviceResult × Storage :=
  if invalidRequest storage.runtime firstBlock blockCount bufferGiven then
    (.invalidArgument, storage)
  else if storage.runtime.forceUnitAccessWrites = true then
    writeWithFua storage firstBlock blockCount buffer fua
  else
    match scsiRw10 storage true false firstBlock blockCount buffer plain with
    | (false, _, storage) => (.ioError, storage)
    | (true, _, storage) =>
      match usbMassStorageFlush (setPending storage true) flush with
      | (true, storage) => (.ok, storage)
      | (false, storage) =>
        if storage.runtime.forceUnitAccessWrites = false ∨
            storage.runtime.synchronizeCacheUnsupported = false then (.ioError, storage)
        else writeWithFua storage firstBlock blockCount buffer fua

/-- `msc_backend_flush` -/
def mscBackendFlush (answers : FlushAnswers) : BlockDeviceResult × Storage :=
  if storage.runtime.initialized = false then (.ioError, storage)
  else
    match usbMassStorageFlush storage answers with
    | (true, storage) => (.ok, storage)
    | (false, storage) => (.ioError, storage)

/-- A request to the driver with the answers of the device, or a block that
the device writes back by itself -/
inductive StorageCall where
  | write (firstBlock blockCount : Nat) (bufferGiven : Bool) (buffer : List UInt8)
      (plain : CommandAnswer) (flush : FlushAnswers) (fua : CommandAnswer)
  | read (firstBlock blockCount : Nat) (bufferGiven : Bool) (answer : CommandAnswer)
  | flush (answers : FlushAnswers)
  | backendFlush (answers : FlushAnswers)
  | writeBack (block : Nat)
deriving DecidableEq, Repr

def Storage.step : StorageCall → Storage
  | .write firstBlock blockCount bufferGiven buffer plain flush fua =>
    (mscBackendWrite storage firstBlock blockCount bufferGiven buffer plain flush fua).2
  | .read firstBlock blockCount bufferGiven answer =>
    (mscBackendRead storage firstBlock blockCount bufferGiven answer).2.2
  | .flush answers => (usbMassStorageFlush storage answers).2
  | .backendFlush answers => (mscBackendFlush storage answers).2
  | .writeBack block => { storage with device := storage.device.writeBack block }

/-- The driver after its initialization: nothing has been written. -/
structure StorageStart (storage : Storage) : Prop where
  notPending : storage.runtime.pendingWriteRequiresFlush = false
  synchronizes : storage.runtime.synchronizeCacheUnsupported = false
  plain : storage.runtime.forceUnitAccessWrites = false
  blockSize : 512 ≤ storage.runtime.logicalBlockSize
  clean : storage.device.Clean

end BoringOS.UsbStorage
