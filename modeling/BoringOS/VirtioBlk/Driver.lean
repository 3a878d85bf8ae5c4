import BoringOS.Library.ByteVolume
import BoringOS.Library.Run

namespace BoringOS.VirtioBlk

open Library

/-!
# Requests to a virtio block device

A transcription of `virtio_transfer`, `virtio_submit_chunk` and
`virtio_wait_for_completion` of `kernel/drivers/virtio_blk.c`.  The driver
takes one step for each of its accesses to the memory that it shares with the
device, and the device may take steps of its own in between.

There is one header, one status byte, one bounce buffer and one chain of
descriptors for all requests.  What the device works on is what it finds there
when it fetches a chain; it moves the data and completes the request at any
later time.
-/

def virtioBlkQueueSize : Nat := 8
def virtioBlkSectorSize : Nat := 512
def virtioBlkBounceSectors : Nat := 8
def virtioBlkPollSpinLimit : Nat := 50000000
def virtioBlkTIn : Nat := 0
def virtioBlkTOut : Nat := 1
def virtioBlkSOk : UInt8 := 0
def virtioBlkStatusPending : UInt8 := 0xff
def virtqDescFNext : Nat := 1
def virtqDescFWrite : Nat := 2
def virtqDescHeader : Nat := 0
def virtqDescData : Nat := 1
def virtqDescStatus : Nat := 2

/-- Where a descriptor points to: the frame of the header, the bounce frame or
the status byte behind the header -/
inductive DmaPlace where
  | request
  | bounce
  | requestStatus
deriving DecidableEq, Repr

/-- `struct virtq_desc` -/
structure VirtqDesc where
  addr : DmaPlace
  len : Nat
  flags : Nat
  next : Nat
deriving DecidableEq, Repr

/-- `struct virtio_blk_request_header` -/
structure RequestHeader where
  type : Nat
  reserved : Nat
  sector : Nat
deriving DecidableEq, Repr

/-- The DMA frames.  The indices of the rings have sixteen bits. -/
structure DmaMemory where
  descriptors : Nat → VirtqDesc
  availEntries : Nat → Nat
  availIdx : Nat
  usedIds : Nat → Nat
  usedIdx : Nat
  requestHeader : RequestHeader
  requestStatus : UInt8
  bounce : ByteVolume

def nextIndex (index : Nat) : Nat := (index + 1) % 2 ^ 16

/-- A chain as the device has fetched it, with the number of the call during
or after which it has been fetched -/
structure Chain where
  call : Nat
  id : Nat
  type : Nat
  sector : Nat
  length : Nat
  deviceWrites : Bool
  moved : Bool
deriving DecidableEq, Repr

/-- The device: how far it has come in the available ring, what it works on,
its sectors, and the calls whose request it has completed with a good status -/
structure BlockDevice where
  lastAvail : Nat
  inFlight : List Chain
  disk : ByteVolume
  completed : List Nat

/-- The chain of three descriptors that starts at one of them, if it is one -/
def fetchChain (memory : DmaMemory) (call id : Nat) : Option Chain :=
  let header := memory.descriptors id
  let data := memory.descriptors header.next
  let status := memory.descriptors data.next
  if header.addr = .request ∧ data.addr = .bounce ∧ status.addr = .requestStatus then
    some
      { call := call
        id := id
        type := memory.requestHeader.type
        sector := memory.requestHeader.sector
        length := data.len
        deviceWrites := data.flags &&& virtqDescFWrite != 0
        moved := false }
  else none

/-- The device takes the next chain from the available ring. -/
def BlockDevice.fetch (device : BlockDevice) (memory : DmaMemory) (call : Nat) : BlockDevice :=
  if device.lastAvail = memory.availIdx then device
  else
    let id := memory.availEntries (device.lastAvail % virtioBlkQueueSize)
    { device with
      lastAvail := nextIndex device.lastAvail
      inFlight := device.inFlight ++ (fetchChain memory call id).toList }

/-- The device moves the data of a chain that it works on. -/
def BlockDevice.move (device : BlockDevice) (memory : DmaMemory) (index : Nat) :
    BlockDevice × DmaMemory :=
  match device.inFlight[index]? with
  | none => (device, memory)
  | some chain =>
    let device :=
      { device with inFlight := device.inFlight.set index { chain with moved := true } }
    if chain.type = virtioBlkTIn ∧ chain.deviceWrites = true then
      let bytes := device.disk.read (chain.sector * virtioBlkSectorSize) chain.length
      (device, { memory with bounce := memory.bounce.overwrite 0 bytes })
    else if chain.type = virtioBlkTOut ∧ chain.deviceWrites = false then
      let bytes := memory.bounce.read 0 chain.length
      ({ device with
          disk := device.disk.overwrite (chain.sector * virtioBlkSectorSize) bytes },
        memory)
    else (device, memory)

/-- The device completes a chain.  It reports success only if it has moved the
data. -/
def BlockDevice.complete (device : BlockDevice) (memory : DmaMemory) (index : Nat)
    (status : UInt8) : BlockDevice × DmaMemory :=
  match device.inFlight[index]? with
  | none => (device, memory)
  | some chain =>
    if status = virtioBlkSOk ∧ chain.moved = false then (device, memory)
    else
      ({ device with
          inFlight := device.inFlight.eraseIdx index
          completed :=
            if status = virtioBlkSOk then chain.call :: device.completed
            else device.completed },
        { memory with
          requestStatus := status
          usedIds := fun slot =>
            if slot = memory.usedIdx % virtioBlkQueueSize then chain.id else memory.usedIds slot
          usedIdx := nextIndex memory.usedIdx })

/-- `enum block_device_result` -/
inductive BlockDeviceResult where
  | ok
  | ioError
  | readOnly
deriving DecidableEq, Repr

/-- `struct virtio_blk_state`, as far as the requests use it -/
structure VirtioState where
  initialized : Bool
  readOnly : Bool
  capacitySectors : Nat
  availIndex : Nat
  usedIndex : Nat
  busy : Bool
deriving DecidableEq, Repr

/-- The arguments and the local variables of `virtio_transfer`.  The buffer is
the memory of the caller. -/
structure Transfer where
  write : Bool
  firstBlock : Nat
  blockCount : Nat
  buffer : ByteVolume
  completed : Nat

namespace Transfer

variable (transfer : Transfer)

/-- How many sectors the next chunk has -/
def chunk : Nat := min (transfer.blockCount - transfer.completed) virtioBlkBounceSectors

def sector : Nat := transfer.firstBlock + transfer.completed

def byteOffset : Nat := transfer.completed * virtioBlkSectorSize

def byteCount : Nat := transfer.chunk * virtioBlkSectorSize

end Transfer

/-- Where the driver is: between two requests, at the head of the loop of
`virtio_transfer`, in `virtio_submit_chunk` with some of its stores done, in
the loop that waits, behind the wait, behind the check of the status, or back
from `virtio_submit_chunk` and from `virtio_transfer` -/
inductive Phase where
  | idle
  | looping (transfer : Transfer)
  | preparing (transfer : Transfer) (stores : Nat)
  | waiting (transfer : Transfer) (spins : Nat)
  | recognized (transfer : Transfer)
  | succeeded (transfer : Transfer)
  | submitted (transfer : Transfer) (succeeds : Bool)
  | returned (transfer : Transfer) (result : BlockDeviceResult)

/-- The driver and the device, with the number of calls of
`virtio_submit_chunk` so far -/
structure BlockSystem where
  driver : VirtioState
  memory : DmaMemory
  device : BlockDevice
  phase : Phase
  calls : Nat

variable (s : BlockSystem)

/-- The checks at the beginning of `virtio_transfer` -/
def virtioTransfer (write : Bool) (firstBlock blockCount : Nat)
    (bufferGiven : Bool) (buffer : ByteVolume) : BlockSystem :=
  let transfer : Transfer := ⟨write, firstBlock, blockCount, buffer, 0⟩
  if s.driver.initialized = false ∨ bufferGiven = false ∨ blockCount = 0 ∨
      s.driver.capacitySectors ≤ firstBlock ∨ s.driver.capacitySectors - firstBlock < blockCount then
    { s with phase := .returned transfer .ioError }
  else if write = true ∧ s.driver.readOnly = true then
    { s with phase := .returned transfer .readOnly }
  else { s with phase := .looping transfer }

/-- `virtio_prepare_descriptor` -/
def virtioPrepareDescriptor (memory : DmaMemory) (index : Nat) (desc : VirtqDesc) : DmaMemory :=
  { memory with
    descriptors := fun other => if other = index then desc else memory.descriptors other }

variable (transfer : Transfer)

/-- The stores of `virtio_submit_chunk` in their order.  The last one makes
the chain available and notifies the device. -/
def submitStore : Nat → BlockSystem
  | 0 =>
    { s with
      memory.bounce :=
        if transfer.write then
          s.memory.bounce.overwrite 0 (transfer.buffer.read transfer.byteOffset transfer.byteCount)
        else s.memory.bounce
      phase := .preparing transfer 1 }
  | 1 =>
    { s with
      memory.requestHeader.type := if transfer.write then virtioBlkTOut else virtioBlkTIn
      phase := .preparing transfer 2 }
  | 2 =>
    { s with
      memory.requestHeader.reserved := 0
      phase := .preparing transfer 3 }
  | 3 =>
    { s with
      memory.requestHeader.sector := transfer.sector
      phase := .preparing transfer 4 }
  | 4 =>
    { s with
      memory.requestStatus := virtioBlkStatusPending
      phase := .preparing transfer 5 }
  | 5 =>
    { s with
      memory := virtioPrepareDescriptor s.memory virtqDescHeader
        ⟨.request, 16, virtqDescFNext, virtqDescData⟩
      phase := .preparing transfer 6 }
  | 6 =>
    { s with
      memory := virtioPrepareDescriptor s.memory virtqDescData
        ⟨.bounce, transfer.byteCount,
          virtqDescFNext ||| (if transfer.write then 0 else virtqDescFWrite), virtqDescStatus⟩
      phase := .preparing transfer 7 }
  | 7 =>
    { s with
      memory := virtioPrepareDescriptor s.memory virtqDescStatus ⟨.requestStatus, 1, virtqDescFWrite, 0⟩
      phase := .preparing transfer 8 }
  | 8 =>
    { s with
      memory.availEntries := fun slot =>
        if slot = s.driver.availIndex % virtioBlkQueueSize then virtqDescHeader
        else s.memory.availEntries slot
      phase := .preparing transfer 9 }
  | _ =>
    { s with
      driver.availIndex := nextIndex s.driver.availIndex
      memory.availIdx := nextIndex s.driver.availIndex
      phase := .waiting transfer 0 }

/-- `virtio_submit_chunk` returns. -/
def submitReturns (succeeds : Bool) : BlockSystem :=
  { s with
    driver.busy := false
    phase := .submitted transfer succeeds }

/-- One turn of the loop of `virtio_wait_for_completion`, or what follows it -/
def virtioWaitForCompletion (spins : Nat) : BlockSystem :=
  if virtioBlkPollSpinLimit ≤ spins then submitReturns s transfer false
  else
    let observed := s.memory.usedIdx
    if observed = s.driver.usedIndex then { s with phase := .waiting transfer (spins + 1) }
    else if observed ≠ nextIndex s.driver.usedIndex then submitReturns s transfer false
    else if s.memory.usedIds (s.driver.usedIndex % virtioBlkQueueSize) ≠ virtqDescHeader then
      submitReturns s transfer false
    else
      { s with
        driver.usedIndex := observed
        phase := .recognized transfer }

/-- The next step of the driver -/
def BlockSystem.drive : BlockSystem :=
  match s.phase with
  | .idle => s
  | .looping transfer =>
    if transfer.completed < transfer.blockCount then
      if transfer.chunk = 0 ∨ virtioBlkBounceSectors < transfer.chunk ∨ s.driver.busy = true then
        { s with
          phase := .submitted transfer false
          calls := s.calls + 1 }
      else
        { s with
          driver.busy := true
          phase := .preparing transfer 0
          calls := s.calls + 1 }
    else { s with phase := .returned transfer .ok }
  | .preparing transfer stores => submitStore s transfer stores
  | .waiting transfer spins => virtioWaitForCompletion s transfer spins
  | .recognized transfer =>
    if s.memory.requestStatus ≠ virtioBlkSOk then submitReturns s transfer false
    else if transfer.write then submitReturns s transfer true
    else { s with phase := .succeeded transfer }
  | .succeeded transfer =>
    submitReturns s
      { transfer with
        buffer := transfer.buffer.overwrite transfer.byteOffset
          (s.memory.bounce.read 0 transfer.byteCount) }
      true
  | .submitted transfer succeeds =>
    if succeeds then
      { s with
        phase := .looping { transfer with completed := transfer.completed + transfer.chunk } }
    else { s with phase := .returned transfer .ioError }
  | .returned _ _ => { s with phase := .idle }

/-- A request, a step of the driver, or a step of the device -/
inductive VirtioStep where
  | request (write : Bool) (firstBlock blockCount : Nat) (bufferGiven : Bool)
      (buffer : ByteVolume)
  | drive
  | fetch
  | move (index : Nat)
  | complete (index : Nat) (status : UInt8)

/-- Requests are made one after the other. -/
def BlockSystem.step : VirtioStep → BlockSystem
  | .request write firstBlock blockCount bufferGiven buffer =>
    match s.phase with
    | .idle => virtioTransfer s write firstBlock blockCount bufferGiven buffer
    | _ => s
  | .drive => s.drive
  | .fetch => { s with device := s.device.fetch s.memory s.calls }
  | .move index =>
    let (device, memory) := s.device.move s.memory index
    { s with
      device := device
      memory := memory }
  | .complete index status =>
    let (device, memory) := s.device.complete s.memory index status
    { s with
      device := device
      memory := memory }

/-- The driver after its initialization: the rings are empty. -/
structure VirtioStart (s : BlockSystem) : Prop where
  idle : s.phase = .idle
  notBusy : s.driver.busy = false
  entries : ∀ slot, s.memory.availEntries slot = 0
  indices : s.driver.availIndex = 0 ∧ s.driver.usedIndex = 0 ∧ s.memory.availIdx = 0 ∧
    s.memory.usedIdx = 0 ∧ s.device.lastAvail = 0
  nothingInFlight : s.device.inFlight = []
  noneCompleted : s.device.completed = []

/-!
## What the driver knows while it waits

From its last store to its return, the memory describes the chunk that the
driver waits for.  A chain that the device fetches in that time is therefore
about this chunk, and the status byte turns good only when such a chain is
completed, as long as the device leaves the chains of earlier calls alone.
-/

/-- The chunk that the driver waits for -/
def Phase.awaited : Phase → Option Transfer
  | .waiting transfer _ => some transfer
  | .recognized transfer => some transfer
  | .succeeded transfer => some transfer
  | _ => none

/-- Whether the driver promises nothing, because there is no request or
because it has failed -/
def Phase.promisesNothing : Phase → Bool
  | .idle => true
  | .submitted _ succeeds => !succeeds
  | .returned _ result => result != .ok
  | _ => false

/-- Whether a chain may be worked on: for a chunk only a chain that has been
fetched for it, and every chain where the driver promises nothing -/
def BlockSystem.mayWorkOn (chain : Chain) : Bool :=
  s.phase.promisesNothing || s.phase.awaited.isSome && chain.call == s.calls

/-- During a request, the device does not work on what an earlier call has
left behind: it fetches nothing while the driver prepares a chunk, and moves
no data of an older chain and reports none as done. -/
def BlockSystem.actsForCall : VirtioStep → Bool
  | .request _ _ _ _ _ => true
  | .drive => true
  | .fetch =>
    match s.phase with
    | .preparing _ _ => s.device.lastAvail == s.memory.availIdx
    | _ => true
  | .move index =>
    match s.device.inFlight[index]? with
    | none => true
    | some chain => s.mayWorkOn chain
  | .complete index status =>
    match s.device.inFlight[index]? with
    | none => true
    | some chain => status != virtioBlkSOk || s.mayWorkOn chain

/-- The first sectors of the request are the same on the disk and in the
buffer. -/
def Served (disk : ByteVolume) (transfer : Transfer) (sectors : Nat) : Prop :=
  disk.read (transfer.firstBlock * virtioBlkSectorSize) (sectors * virtioBlkSectorSize) =
    transfer.buffer.read 0 (sectors * virtioBlkSectorSize)

/-- So are the sectors of the chunk. -/
def ChunkServed (disk : ByteVolume) (transfer : Transfer) : Prop :=
  disk.read (transfer.sector * virtioBlkSectorSize) transfer.byteCount =
    transfer.buffer.read transfer.byteOffset transfer.byteCount

/-- The bounce buffer and the disk agree about the chunk. -/
def Moved (disk bounce : ByteVolume) (transfer : Transfer) : Prop :=
  disk.read (transfer.sector * virtioBlkSectorSize) transfer.byteCount = bounce.read 0 transfer.byteCount

theorem served_none (disk : ByteVolume) (transfer : Transfer) : Served disk transfer 0 := by
  rfl

theorem Served.next {disk : ByteVolume} {transfer : Transfer}
    (served : Served disk transfer transfer.completed) (chunk : ChunkServed disk transfer) :
    Served disk transfer (transfer.completed + transfer.chunk) := by
  have place : transfer.firstBlock * virtioBlkSectorSize +
      transfer.completed * virtioBlkSectorSize = transfer.sector * virtioBlkSectorSize := by
    rw [Transfer.sector, Nat.add_mul]
  rw [Served, Nat.add_mul, ByteVolume.read_add, ByteVolume.read_add, Nat.zero_add, place]
  exact congrArg₂ (· ++ ·) served chunk

/-- What happens to the sectors of the chunk does not touch the sectors
before them. -/
theorem Served.overwrite {disk : ByteVolume} {transfer : Transfer}
    (served : Served disk transfer transfer.completed) (bytes : List UInt8) :
    Served (disk.overwrite (transfer.sector * virtioBlkSectorSize) bytes) transfer
      transfer.completed := by
  rw [Served, ByteVolume.read_overwrite_apart, served]
  refine Or.inl (Nat.le_of_eq ?_)
  rw [Transfer.sector, Nat.add_mul]

def Transfer.type : Nat :=
  if transfer.write then virtioBlkTOut else virtioBlkTIn

/-- The descriptor of the data -/
def dataDesc : VirtqDesc :=
  ⟨.bounce, transfer.byteCount,
    virtqDescFNext ||| (if transfer.write then 0 else virtqDescFWrite), virtqDescStatus⟩

/-- The memory after some of the stores of `virtio_submit_chunk` -/
structure Prepared (memory : DmaMemory) (transfer : Transfer) (stores : Nat) : Prop where
  bounce : 0 < stores → transfer.write = true →
    memory.bounce.read 0 transfer.byteCount =
      transfer.buffer.read transfer.byteOffset transfer.byteCount
  type : 1 < stores → memory.requestHeader.type = transfer.type
  sector : 3 < stores → memory.requestHeader.sector = transfer.sector
  status : 4 < stores → memory.requestStatus ≠ virtioBlkSOk
  header : 5 < stores → memory.descriptors virtqDescHeader =
    ⟨.request, 16, virtqDescFNext, virtqDescData⟩
  data : 6 < stores → memory.descriptors virtqDescData = dataDesc transfer
  last : 7 < stores → memory.descriptors virtqDescStatus = ⟨.requestStatus, 1, virtqDescFWrite, 0⟩

/-- The memory describes the chunk. -/
structure Described (memory : DmaMemory) (transfer : Transfer) : Prop where
  bounce : transfer.write = true →
    memory.bounce.read 0 transfer.byteCount =
      transfer.buffer.read transfer.byteOffset transfer.byteCount
  type : memory.requestHeader.type = transfer.type
  sector : memory.requestHeader.sector = transfer.sector
  header : memory.descriptors virtqDescHeader = ⟨.request, 16, virtqDescFNext, virtqDescData⟩
  data : memory.descriptors virtqDescData = dataDesc transfer
  last : memory.descriptors virtqDescStatus = ⟨.requestStatus, 1, virtqDescFWrite, 0⟩

/-- The chain is about the chunk. -/
structure IsAbout (chain : Chain) (transfer : Transfer) : Prop where
  type : chain.type = transfer.type
  sector : chain.sector = transfer.sector
  length : chain.length = transfer.byteCount
  direction : chain.deviceWrites = !transfer.write

/-- The driver waits for a chunk of a request, or is about to return. -/
structure Awaits (s : BlockSystem) (transfer : Transfer) : Prop where
  described : Described s.memory transfer
  fetched : ∀ chain ∈ s.device.inFlight, chain.call = s.calls → IsAbout chain transfer
  moved : ∀ chain ∈ s.device.inFlight, chain.call = s.calls → chain.moved = true →
    Moved s.device.disk s.memory.bounce transfer
  done : s.calls ∈ s.device.completed → Moved s.device.disk s.memory.bounce transfer
  status : s.memory.requestStatus = virtioBlkSOk → s.calls ∈ s.device.completed
  progress : Served s.device.disk transfer transfer.completed
  within : transfer.completed < transfer.blockCount

/-- What holds at the places of the driver -/
def PhaseInvariant : Phase → Prop
  | .idle => True
  | .looping transfer =>
    transfer.completed ≤ transfer.blockCount ∧ Served s.device.disk transfer transfer.completed
  | .preparing transfer stores =>
    Prepared s.memory transfer stores ∧
      (∀ chain ∈ s.device.inFlight, chain.call ≠ s.calls) ∧ s.calls ∉ s.device.completed ∧
      Served s.device.disk transfer transfer.completed ∧ transfer.completed < transfer.blockCount
  | .waiting transfer _ => Awaits s transfer
  | .recognized transfer => Awaits s transfer
  | .succeeded transfer =>
    Awaits s transfer ∧ s.calls ∈ s.device.completed ∧ transfer.write = false
  | .submitted transfer true =>
    s.calls ∈ s.device.completed ∧ ChunkServed s.device.disk transfer ∧
      Served s.device.disk transfer transfer.completed ∧ transfer.completed < transfer.blockCount
  | .submitted _ false => True
  | .returned transfer .ok => Served s.device.disk transfer transfer.blockCount
  | .returned _ _ => True

/-- The invariant of the driver and the device -/
structure RequestInvariant (s : BlockSystem) : Prop where
  fetchedBefore : ∀ chain ∈ s.device.inFlight, chain.call ≤ s.calls
  completedBefore : ∀ call ∈ s.device.completed, call ≤ s.calls
  entries : ∀ slot, s.memory.availEntries slot = virtqDescHeader
  phase : PhaseInvariant s s.phase

end BoringOS.VirtioBlk
