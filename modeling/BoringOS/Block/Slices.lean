import Mathlib.Data.Nat.Count

namespace BoringOS.Block

/-!
# Slices of block devices

A transcription of `kernel/core/block_device.c` and `kernel/core/block_slice.c`.
A slice is a block device whose requests go to a part of its parent, and the
parent may be a slice itself.  Devices are known by their addresses, and a
device and its slice have the same one.  The pointers that are tested for `NULL`
are there.

Of a driver nothing is expected but that a write leaves alone what it was not
asked to write.
-/

def blockDeviceMaxDevices : Nat := 8
def uint64Max : Nat := 2 ^ 64 - 1

/-- `enum block_device_result` -/
inductive BlockDeviceResult
  | ok
  | invalidArgument
  | notFound
  | outOfRange
  | readOnly
  | ioError
  | registryFull
  | alreadyRegistered
deriving DecidableEq, Repr

/-- `struct block_device_ops`: those of a driver, with the calls that it has, or
`slice_ops` -/
inductive BlockDeviceOps
  | driver (read write : Bool)
  | slice
deriving DecidableEq, Repr

/-- `struct block_device`.  The context of a slice is its own address. -/
structure BlockDevice where
  name : List UInt8
  logicalBlockSize : Nat
  blockCount : UInt64
  readOnly : Bool
  ops : BlockDeviceOps
deriving DecidableEq, Repr

/-- The devices and slices in memory, the registry, and the disks of the drivers -/
structure BlockDevices (Data : Type) where
  device : Nat → BlockDevice
  parent : Nat → Nat
  parentFirstBlock : Nat → Nat
  blockDevices : List Nat
  content : Nat → Nat → Data

/-- What is asked of a device: to read, or to write these blocks -/
inductive Transfer (Data : Type)
  | read
  | write (data : Nat → Data)

/-- The result of a request, and what it puts into the buffer of a reader -/
structure Reply (Data : Type) where
  result : BlockDeviceResult
  buffer : Option (Nat → Data)

/-- What a driver does: its reply, and what is in the requested blocks after a write -/
structure DriverAnswer (Data : Type) extends Reply Data where
  written : Nat → Data

abbrev Drivers (Data : Type) :=
  BlockDevices Data → (device firstBlock blockCount : Nat) → Transfer Data → DriverAnswer Data

def Transfer.isWrite {Data : Type} : Transfer Data → Bool
  | .read => false
  | .write _ => true

/-- If there is a call for the transfer -/
def BlockDeviceOps.has {Data : Type} (transfer : Transfer Data) : BlockDeviceOps → Bool
  | .driver read write => if transfer.isWrite = true then write else read
  | .slice => true

section

variable {Data : Type} (drivers : Drivers Data) (state : BlockDevices Data)

/-- `block_device_validate_descriptor` -/
def validateDescriptor (device : BlockDevice) : BlockDeviceResult :=
  if device.name = [] ∨ device.ops.has (.read : Transfer Unit) = false ∨
      device.logicalBlockSize = 0 ∨ device.blockCount = 0 then .invalidArgument
  else if uint64Max / device.logicalBlockSize < device.blockCount.toNat then .invalidArgument
  else if device.readOnly = false ∧ device.ops.has (.write id : Transfer Nat) = false then
    .invalidArgument
  else .ok

/-- `block_device_validate_request` -/
def validateRequest (device firstBlock blockCount : Nat) : BlockDeviceResult :=
  if blockCount = 0 then .invalidArgument
  else if validateDescriptor (state.device device) ≠ .ok then .invalidArgument
  else if device ∉ state.blockDevices then .notFound
  else if (state.device device).blockCount.toNat ≤ firstBlock ∨
      (state.device device).blockCount.toNat - firstBlock < blockCount then .outOfRange
  else .ok

/-- `block_device_register` -/
def blockDeviceRegister (device : Nat) : BlockDeviceResult × BlockDevices Data :=
  if validateDescriptor (state.device device) ≠ .ok then
    (validateDescriptor (state.device device), state)
  else if ∃ other ∈ state.blockDevices,
      other = device ∨ (state.device other).name = (state.device device).name then
    (.alreadyRegistered, state)
  else if blockDeviceMaxDevices ≤ state.blockDevices.length then (.registryFull, state)
  else (.ok, { state with blockDevices := state.blockDevices ++ [device] })

/-- `block_device_find` -/
def blockDeviceFind (name : List UInt8) : Option Nat :=
  if name = [] then none
  else state.blockDevices.find? fun device => (state.device device).name == name

/-- `block_device_slice_translate` -/
def blockDeviceSliceTranslate (parentFirstBlock sliceBlockCount firstBlock blockCount : Nat) :
    Option Nat :=
  if sliceBlockCount = 0 ∨ blockCount = 0 ∨ sliceBlockCount ≤ firstBlock ∨
      sliceBlockCount - firstBlock < blockCount ∨ uint64Max - firstBlock < parentFirstBlock then
    none
  else some (parentFirstBlock + firstBlock)

/-- `block_device_slice_register`.  The slice is filled in before the registry
has a say. -/
def blockDeviceSliceRegister (slice : Nat) (name : List UInt8) (parent parentFirstBlock : Nat)
    (blockCount : UInt64) (readOnly : Bool) : BlockDeviceResult × BlockDevices Data :=
  let owner := state.device parent
  if name = [] ∨ owner.logicalBlockSize = 0 ∨ owner.blockCount = 0 then (.invalidArgument, state)
  else if blockDeviceFind state owner.name ≠ some parent ∨
      owner.blockCount.toNat ≤ parentFirstBlock ∨ blockCount = 0 ∨
      owner.blockCount.toNat - parentFirstBlock < blockCount.toNat then (.outOfRange, state)
  else if owner.readOnly = true ∧ readOnly = false then (.readOnly, state)
  else
    blockDeviceRegister
      { state with
        device := Function.update state.device slice
          ⟨name, owner.logicalBlockSize, blockCount, readOnly || owner.readOnly, .slice⟩
        parent := Function.update state.parent slice parent
        parentFirstBlock := Function.update state.parentFirstBlock slice parentFirstBlock } slice

/-- A driver is asked.  Its disk changes in the requested blocks at most. -/
def askDriver (device firstBlock blockCount : Nat) (transfer : Transfer Data) :
    Reply Data × BlockDevices Data :=
  let answer := drivers state device firstBlock blockCount transfer
  (answer.toReply,
    if transfer.isWrite = true then
      { state with
        content := Function.update state.content device fun block =>
          if firstBlock ≤ block ∧ block < firstBlock + blockCount then
            answer.written (block - firstBlock)
          else state.content device block }
    else state)

/-- `slice_read` and `slice_write`, with what becomes of a request to the parent -/
def sliceTransfer (request : (device firstBlock : Nat) → Option (Reply Data × BlockDevices Data))
    (slice firstBlock blockCount : Nat) : Option (Reply Data × BlockDevices Data) :=
  match blockDeviceSliceTranslate (state.parentFirstBlock slice)
      (state.device slice).blockCount.toNat firstBlock blockCount with
  | none => some (⟨.outOfRange, none⟩, state)
  | some parentFirst => request (state.parent slice) parentFirst

/-- `block_device_read` and `block_device_write`.  The calls go from a slice to
its parent; there is no result if there are more of them than the stack has room for. -/
def blockDeviceTransfer (transfer : Transfer Data) :
    (stack device firstBlock blockCount : Nat) → Option (Reply Data × BlockDevices Data)
  | 0, _, _, _ => none
  | stack + 1, device, firstBlock, blockCount =>
    match validateRequest state device firstBlock blockCount with
    | .ok =>
      if transfer.isWrite = true ∧ (state.device device).readOnly = true then
        some (⟨.readOnly, none⟩, state)
      else if (state.device device).ops.has transfer = false then
        some (⟨.ioError, none⟩, state)
      else
        match (state.device device).ops with
        | .driver _ _ => some (askDriver drivers state device firstBlock blockCount transfer)
        | .slice =>
          sliceTransfer state
            (fun parent parentFirst =>
              blockDeviceTransfer transfer stack parent parentFirst blockCount)
            device firstBlock blockCount
    | failure => some (⟨failure, none⟩, state)

end

section

variable {Data : Type} {drivers : Drivers Data} {state next : BlockDevices Data}

/-- A registered slice of the parent, with these blocks -/
structure IsSlice (state : BlockDevices Data) (slice parent base : Nat) (length : UInt64) :
    Prop where
  valid : validateDescriptor (state.device slice) = .ok
  registered : slice ∈ state.blockDevices
  ops : (state.device slice).ops = .slice
  blockCount : (state.device slice).blockCount = length
  parent : state.parent slice = parent
  first : state.parentFirstBlock slice = base
  bounded : base + length.toNat ≤ uint64Max

/-- A request to the slice is the request to its parent for the blocks behind
the base, or it fails at once. -/
def Translates (drivers : Drivers Data) (state : BlockDevices Data) (slice parent base : Nat)
    (length : UInt64) : Prop :=
  ∀ transfer stack firstBlock blockCount,
    if 0 < blockCount ∧ firstBlock + blockCount ≤ length.toNat ∧
        ¬(transfer.isWrite = true ∧ (state.device slice).readOnly = true) then
      blockDeviceTransfer drivers state transfer (stack + 1) slice firstBlock blockCount =
        blockDeviceTransfer drivers state transfer stack parent (base + firstBlock) blockCount
    else ∃ failure, failure ≠ .ok ∧
      blockDeviceTransfer drivers state transfer (stack + 1) slice firstBlock blockCount =
        some (⟨failure, none⟩, state)

/-- Only the disks differ. -/
def SameDevices (state next : BlockDevices Data) : Prop :=
  next = { state with content := next.content }

/-- The blocks of the device lie on the disk of the root, from the offset on. -/
inductive LiesOn (state : BlockDevices Data) : (device root offset : Nat) → Prop where
  | driver {device : Nat} {read write : Bool}
      (isDriver : (state.device device).ops = .driver read write) : LiesOn state device device 0
  | slice {device root offset : Nat} (isSlice : (state.device device).ops = .slice)
      (parent : LiesOn state (state.parent device) root offset) :
      LiesOn state device root (offset + state.parentFirstBlock device)

/-- The device takes the transfer. -/
structure Takes (state : BlockDevices Data) (transfer : Transfer Data) (device : Nat) : Prop where
  valid : validateDescriptor (state.device device) = .ok
  registered : device ∈ state.blockDevices
  writable : transfer.isWrite = true → (state.device device).readOnly = false

/-- The device and all it is a slice of take the transfer, down to the driver's device, on
which the blocks lie from the offset on. -/
inductive Backed (state : BlockDevices Data) (transfer : Transfer Data) :
    (device root offset depth : Nat) → Prop where
  | driver {device : Nat} {read write : Bool} (takes : Takes state transfer device)
      (isDriver : (state.device device).ops = .driver read write) :
      Backed state transfer device device 0 0
  | slice {slice parent base root offset depth : Nat} {length : UInt64}
      (takes : Takes state transfer slice) (isSlice : IsSlice state slice parent base length)
      (inside : base + length.toNat ≤ (state.device parent).blockCount.toNat)
      (isParent : Backed state transfer parent root offset depth) :
      Backed state transfer slice root (offset + base) (depth + 1)

theorem LiesOn.unique {device first second firstOffset secondOffset : Nat}
    (isFirst : LiesOn state device first firstOffset) :
    LiesOn state device second secondOffset → first = second ∧ firstOffset = secondOffset := by
  induction isFirst generalizing secondOffset with
  | driver isDriver =>
    intro isSecond
    cases isSecond with
    | driver _ => exact ⟨rfl, rfl⟩
    | slice isSlice _ => cases isDriver.symm.trans isSlice
  | slice isSlice _ ih =>
    intro isSecond
    cases isSecond with
    | driver isDriver => cases isDriver.symm.trans isSlice
    | slice _ parent =>
      rcases ih parent with ⟨rfl, rfl⟩
      exact ⟨rfl, rfl⟩

theorem IsSlice.liesOn {slice parent base root offset : Nat} {length : UInt64}
    (isSlice : IsSlice state slice parent base length) (lies : LiesOn state slice root offset) :
    ∃ below, LiesOn state parent root below ∧ offset = below + base := by
  cases lies with
  | driver isDriver => cases isDriver.symm.trans isSlice.ops
  | slice _ lies =>
    rw [isSlice.parent] at lies
    rw [isSlice.first]
    exact ⟨_, lies, rfl⟩

theorem validateRequest_eq_ok {device firstBlock blockCount : Nat} :
    validateRequest state device firstBlock blockCount = .ok ↔
      validateDescriptor (state.device device) = .ok ∧ device ∈ state.blockDevices ∧
        0 < blockCount ∧ firstBlock + blockCount ≤ (state.device device).blockCount.toNat := by
  rw [validateRequest]
  constructor
  · intro accepted
    split at accepted
    · cases accepted
    split at accepted
    · cases accepted
    split at accepted
    · cases accepted
    split at accepted
    · cases accepted
    rename_i positive valid isIn inside
    rw [not_not] at valid isIn
    exact ⟨valid, isIn, by omega, by omega⟩
  · rintro ⟨valid, isIn, positive, inside⟩
    rw [if_neg (Nat.ne_of_gt positive), if_neg (not_not.mpr valid), if_neg (not_not.mpr isIn),
      if_neg (by omega)]

theorem translate_inside {base length firstBlock blockCount : Nat} (positive : 0 < blockCount)
    (inside : firstBlock + blockCount ≤ length) (bounded : base + length ≤ uint64Max) :
    blockDeviceSliceTranslate base length firstBlock blockCount = some (base + firstBlock) := by
  rw [blockDeviceSliceTranslate, if_neg]
  omega

theorem IsSlice.translates {slice parent base : Nat} {length : UInt64}
    (isSlice : IsSlice state slice parent base length) :
    Translates drivers state slice parent base length := by
  intro transfer stack firstBlock count
  have accepted := @validateRequest_eq_ok _ state slice firstBlock count
  rw [isSlice.blockCount] at accepted
  rw [blockDeviceTransfer]
  split
  · rename_i inside
    rcases inside with ⟨positive, inside, allowed⟩
    rw [accepted.mpr ⟨isSlice.valid, isSlice.registered, positive, inside⟩]
    rw [if_neg allowed, isSlice.ops, if_neg (by exact Bool.true_eq_false.mp), sliceTransfer,
      isSlice.first, isSlice.blockCount, translate_inside positive inside isSlice.bounded, isSlice.parent]
  · rename_i outside
    split
    · rename_i isOk
      rcases accepted.mp isOk with ⟨-, -, positive, inside⟩
      rw [if_pos (not_not.mp fun allowed => outside ⟨positive, inside, allowed⟩)]
      exact ⟨.readOnly, nofun, rfl⟩
    · rename_i failure isFailure
      exact ⟨_, fun isOk => isFailure isOk, rfl⟩

theorem Takes.has {transfer : Transfer Data} {device : Nat} (takes : Takes state transfer device) :
    (state.device device).ops.has transfer = true := by
  have valid := takes.valid
  rw [validateDescriptor] at valid
  cases isOps : (state.device device).ops with
  | slice => rfl
  | driver read write =>
    rw [isOps] at valid
    cases transfer with
    | read =>
      simp only [BlockDeviceOps.has, Transfer.isWrite] at valid ⊢
      grind
    | write data =>
      have writable := takes.writable rfl
      simp only [BlockDeviceOps.has, Transfer.isWrite] at valid ⊢
      grind

/-- A request inside the device is the driver's, for the blocks behind the offset. -/
theorem Backed.asksDriver {transfer : Transfer Data} {device root offset depth : Nat}
    (backed : Backed state transfer device root offset depth) {firstBlock blockCount stack : Nat}
    (positive : 0 < blockCount)
    (inside : firstBlock + blockCount ≤ (state.device device).blockCount.toNat) (enough : depth < stack) :
    blockDeviceTransfer drivers state transfer stack device firstBlock blockCount =
      some (askDriver drivers state root (offset + firstBlock) blockCount transfer) := by
  induction backed generalizing firstBlock stack with
  | @driver device read write takes isDriver =>
    rcases Nat.exists_eq_add_of_lt enough with ⟨rest, rfl⟩
    rw [blockDeviceTransfer,
      validateRequest_eq_ok.mpr ⟨takes.valid, takes.registered, positive, inside⟩, takes.has,
      isDriver, Nat.zero_add firstBlock]
    have allowed := takes.writable
    grind
  | @slice slice parent base root offset depth length takes isSlice fits isParent ih =>
    rcases Nat.exists_eq_add_of_lt enough with ⟨rest, rfl⟩
    have translates : Translates drivers state slice parent base length := isSlice.translates
    have request := translates transfer (depth + 1 + rest) firstBlock blockCount
    have allowed := takes.writable
    rw [isSlice.blockCount] at inside
    rw [if_pos ⟨positive, inside, by grind⟩] at request
    rw [request, ih (by omega) (by omega), Nat.add_assoc offset]

/-- A request changes the requested blocks of the device at most. -/
theorem transfer_touches (transfer : Transfer Data) (stack : Nat) :
    ∀ {device firstBlock blockCount : Nat} {reply : Reply Data} {next : BlockDevices Data},
      blockDeviceTransfer drivers state transfer stack device firstBlock blockCount = some (reply, next) →
      SameDevices state next ∧ ∀ root block, next.content root block ≠ state.content root block →
        ∃ offset, LiesOn state device root offset ∧ offset + firstBlock ≤ block ∧
          block < offset + firstBlock + blockCount ∧
            firstBlock + blockCount ≤ (state.device device).blockCount.toNat := by
  have unchanged : SameDevices state state := rfl
  induction stack with
  | zero => nofun
  | succ stack ih =>
    intro device firstBlock blockCount reply next done
    rw [blockDeviceTransfer] at done
    split at done
    · rename_i accepted
      have inside := (validateRequest_eq_ok.mp accepted).2.2.2
      split at done
      · cases done
        exact ⟨unchanged, fun _ _ changed => absurd rfl changed⟩
      split at done
      · cases done
        exact ⟨unchanged, fun _ _ changed => absurd rfl changed⟩
      split at done
      · rename_i isDriver
        rw [askDriver] at done
        split at done
        · cases done
          refine ⟨rfl, fun root block changed => ?_⟩
          dsimp only at changed
          rw [Function.update_apply] at changed
          split at changed
          · rename_i isRoot
            cases isRoot
            by_cases requested : firstBlock ≤ block ∧ block < firstBlock + blockCount
            · exact ⟨0, .driver isDriver, by omega, by omega, inside⟩
            · exact absurd (if_neg requested) changed
          · exact absurd rfl changed
        · cases done
          exact ⟨unchanged, fun _ _ changed => absurd rfl changed⟩
      · rename_i isSlice
        rw [sliceTransfer, blockDeviceSliceTranslate] at done
        split at done
        · cases done
          exact ⟨unchanged, fun _ _ changed => absurd rfl changed⟩
        rename_i parentFirst translated
        split at translated
        · cases translated
        cases translated
        rcases ih done with ⟨same, touches⟩
        refine ⟨same, fun root block changed => ?_⟩
        rcases touches root block changed with ⟨offset, lies, lower, upper, -⟩
        exact ⟨_, .slice isSlice lies, by omega, by omega, inside⟩
    · cases done
      exact ⟨unchanged, fun _ _ changed => absurd rfl changed⟩

/-- A request to a slice leaves the blocks of another one alone, if the two have
none in common. -/
theorem IsSlice.apart {slice other parent base otherBase : Nat} {length otherLength : UInt64}
    (isSlice : IsSlice state slice parent base length)
    (isOther : IsSlice state other parent otherBase otherLength)
    (apart : base + length.toNat ≤ otherBase ∨ otherBase + otherLength.toNat ≤ base)
    {transfer : Transfer Data} {stack firstBlock count : Nat} {reply : Reply Data}
    (done : blockDeviceTransfer drivers state transfer stack slice firstBlock count =
      some (reply, next)) {root offset : Nat} (lies : LiesOn state other root offset) {block : Nat}
    (inside : block < otherLength.toNat) :
    next.content root (offset + block) = state.content root (offset + block) := by
  by_contra changed
  rcases (transfer_touches transfer stack done).2 root _ changed with
    ⟨start, liesHere, lower, upper, within⟩
  rcases isSlice.liesOn liesHere with ⟨below, onParent, rfl⟩
  rcases isOther.liesOn lies with ⟨otherBelow, otherOnParent, rfl⟩
  have same := (onParent.unique otherOnParent).2
  rw [isSlice.blockCount] at within
  omega

theorem blockDeviceRegister_eq_ok {device : Nat} (accepted : blockDeviceRegister state device = (.ok, next)) :
    validateDescriptor (state.device device) = .ok ∧ device ∉ state.blockDevices ∧
      next = { state with blockDevices := state.blockDevices ++ [device] } := by
  rw [blockDeviceRegister] at accepted
  split at accepted
  · rename_i invalid
    exact absurd (congrArg Prod.fst accepted) invalid
  rename_i valid
  split at accepted
  · cases accepted
  rename_i fresh
  split at accepted
  · cases accepted
  · cases accepted
    exact ⟨not_not.mp valid, fun isIn => fresh ⟨device, isIn, Or.inl rfl⟩, rfl⟩

/-- What an accepted slice changes: it has its place in the parent, and no other
device is touched. -/
structure SliceAdded (state next : BlockDevices Data) (slice parent base : Nat) (length : UInt64) :
    Prop where
  isSlice : IsSlice next slice parent base length
  inside : base + length.toNat ≤ (next.device parent).blockCount.toNat
  content : next.content = state.content
  others : ∀ other, other ≠ slice → next.device other = state.device other ∧
    next.parent other = state.parent other ∧
      next.parentFirstBlock other = state.parentFirstBlock other ∧
        (other ∈ next.blockDevices ↔ other ∈ state.blockDevices)

theorem sliceRegister_accepted {slice parent base : Nat} {name : List UInt8} {length : UInt64}
    {readOnly : Bool}
    (accepted : blockDeviceSliceRegister state slice name parent base length readOnly =
      (.ok, next)) : SliceAdded state next slice parent base length := by
  rw [blockDeviceSliceRegister] at accepted
  split at accepted
  · cases accepted
  split at accepted
  · cases accepted
  rename_i inside
  split at accepted
  · cases accepted
  rcases blockDeviceRegister_eq_ok accepted with ⟨valid, fresh, rfl⟩
  rw [not_or, not_or, not_or, not_not] at inside
  rcases inside with ⟨found, lower, -, upper⟩
  have isIn : parent ∈ state.blockDevices := by
    rw [blockDeviceFind] at found
    split at found
    · cases found
    · exact List.mem_of_find?_eq_some found
  have different : parent ≠ slice := by
    rintro rfl
    exact fresh isIn
  have room : base + length.toNat ≤ (state.device parent).blockCount.toNat := by omega
  have bounded : (state.device parent).blockCount.toNat ≤ uint64Max :=
    Nat.le_sub_one_of_lt (state.device parent).blockCount.toNat_lt
  refine ⟨⟨valid, List.mem_append_right _ List.mem_cons_self, ?_, ?_, Function.update_self ..,
    Function.update_self .., Nat.le_trans room bounded⟩, ?_, rfl, fun other isOther => ?_⟩
  · simp only [Function.update_self]
  · simp only [Function.update_self]
  · simp only [Function.update_of_ne different]
    exact room
  · refine ⟨Function.update_of_ne isOther .., Function.update_of_ne isOther ..,
      Function.update_of_ne isOther .., ?_⟩
    simp only [List.mem_append, List.mem_singleton, or_iff_left isOther]

end

/-- A slice that is accepted takes up its part of the parent.  Requests inside it
are those to the parent behind the base, and so to the driver at the bottom, all others
fail, and no request changes a block of another slice of the parent that has no block in
common with it. -/
theorem block_slices_exact {Data : Type} (drivers : Drivers Data) (state : BlockDevices Data) :
    (∀ slice name parent base length readOnly next,
      blockDeviceSliceRegister state slice name parent base length readOnly = (.ok, next) →
        SliceAdded state next slice parent base length) ∧
    (∀ transfer device root offset depth, Backed state transfer device root offset depth →
      ∀ stack firstBlock blockCount, depth < stack → 0 < blockCount →
        firstBlock + blockCount ≤ (state.device device).blockCount.toNat →
        blockDeviceTransfer drivers state transfer stack device firstBlock blockCount =
          some (askDriver drivers state root (offset + firstBlock) blockCount transfer)) ∧
    ∀ slice parent base length, IsSlice state slice parent base length →
      Translates drivers state slice parent base length ∧ ∀ transfer stack firstBlock blockCount reply next,
        blockDeviceTransfer drivers state transfer stack slice firstBlock blockCount = some (reply, next) →
        SameDevices state next ∧ ∀ other otherBase otherLength,
          IsSlice state other parent otherBase otherLength →
          (base + length.toNat ≤ otherBase ∨ otherBase + otherLength.toNat ≤ base) →
          ∀ root offset, LiesOn state other root offset → ∀ block < otherLength.toNat,
            next.content root (offset + block) = state.content root (offset + block) := by
  refine ⟨fun _ _ _ _ _ _ _ => sliceRegister_accepted,
    fun _ _ _ _ _ backed _ _ _ enough positive inside => backed.asksDriver positive inside enough, ?_⟩
  intro slice parent base length isSlice
  refine ⟨isSlice.translates, fun transfer stack firstBlock blockCount reply next done => ?_⟩
  refine ⟨(transfer_touches transfer stack done).1, ?_⟩
  intro other otherBase otherLength isOther apart root offset lies block inside
  exact isSlice.apart isOther apart done lies inside

/-- A disk of a hundred blocks -/
def oneDisk : BlockDevices UInt8 where
  device := fun _ => ⟨[100], 512, 100, false, .driver true true⟩
  parent := fun _ => 0
  parentFirstBlock := fun _ => 0
  blockDevices := [0]
  content := fun _ _ => 0

/-- The disk with a slice of twenty blocks, from block ten on -/
def oneSlice : BlockDevices UInt8 := (blockDeviceSliceRegister oneDisk 1 [112] 0 10 20 false).2

def obeyingDrivers : Drivers UInt8 := fun state device firstBlock _ transfer =>
  match transfer with
  | .read => ⟨⟨.ok, some fun block => state.content device (firstBlock + block)⟩, fun _ => 0⟩
  | .write data => ⟨⟨.ok, none⟩, data⟩

theorem block_slices_exact_lastBlocks :
    blockDeviceTransfer obeyingDrivers oneSlice (.write fun _ => 7) 2 1 18 2 =
      some (askDriver obeyingDrivers oneSlice 0 28 2 (.write fun _ => 7)) := by
  have exact' := block_slices_exact obeyingDrivers
  have added := (exact' oneDisk).1 1 [112] 0 10 20 false oneSlice (Prod.ext (by decide) rfl)
  exact (exact' oneSlice).2.1 _ 1 0 _ _
    (.slice ⟨by decide, by decide, fun _ => by decide⟩ added.isSlice added.inside
      (.driver ⟨by decide, by decide, fun _ => by decide⟩ rfl)) 2 18 2
    (by decide) (by decide) (by decide)

end BoringOS.Block
