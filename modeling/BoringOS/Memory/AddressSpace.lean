import BoringOS.Memory.Pmm

namespace BoringOS.Memory

/-!
# User address spaces

A transcription of the mapping functions of
`kernel/arch/x86_64/address_space.c` and `kernel/arch/x86_64/ring3_memory.c`,
and of the checks of `vmm_init` that they rely on.  A page table is a page
frame read as 512 entries.  The pointer that the higher-half direct map
yields for a table is kept as the address of the frame, and a pointer to an
entry as the frame with an index.

The address space and the static variables of both files form one state.  The
state also holds the frame allocator, the CR3 register and the NX setting,
because the functions read them.  The translation caches of the processor are
left out: invalidating a page does not change the state.
-/

def vmmPageSize : Nat := 4096
def addressSpacePageEntries : Nat := 512
def addressSpaceMaxOwnedTableFrames : Nat := 128
def addressSpaceSharedPml4Start : Nat := 256
def addressSpaceHhdmPml4Index : Nat := 256
def addressSpaceHeapPml4Index : Nat := 510
def addressSpaceKernelPml4Index : Nat := 511

def entryPresent : Nat := 1
def entryWritable : Nat := 2
def entryUser : Nat := 4
def entryLargePage : Nat := 128
def entryAddressMask : Nat := 0x000ffffffffff000
def entryNoExecute : Nat := 2 ^ 63

/-- The complement of the address mask in 64 bits. -/
def entryOtherBits : Nat := 0xfff0000000000fff

/-- The entries of physical memory, by frame and index. -/
abbrev TableMemory := Nat → Nat → Nat

variable (memory : TableMemory)

def TableMemory.store (table index value : Nat) : TableMemory :=
  fun otherTable otherIndex =>
    if otherTable = table ∧ otherIndex = index then value else memory otherTable otherIndex

def TableMemory.zeroTable (table : Nat) : TableMemory :=
  fun otherTable otherIndex => if otherTable = table then 0 else memory otherTable otherIndex

/-- `struct address_space`.  The list is the first `owned_table_count`
elements of the array. -/
structure AddressSpace where
  rootPhysical : Nat
  ownedTableFrames : List Nat
  bootstrap : Bool
  initialized : Bool
deriving DecidableEq, Repr

/-- `address_space_clear` -/
def addressSpaceClear : AddressSpace := ⟨0, [], false, false⟩

/-- The address space and everything that its functions read or change. -/
structure Paging where
  memory : TableMemory
  pmm : Pmm
  hhdmOffset : Nat
  cr3 : Nat
  nxEnabled : Bool
  vmmInitialized : Bool
  addressSpaceInitialized : Bool
  bootstrapRootPhysical : Nat
  space : AddressSpace

def pageAligned (value : Nat) : Bool := value &&& (vmmPageSize - 1) == 0

def addressSpaceCanonical (address : Nat) : Bool :=
  if (address >>> 47) &&& 1 ≠ 0 then address >>> 48 == 0xffff else address >>> 48 == 0

variable (physicalAddress : Nat)

def addressSpacePhysicalSupported : Bool :=
  pageAligned physicalAddress && physicalAddress &&& entryOtherBits == 0

/-- `address_space_index`, and `table_index` of `ring3_memory.c` -/
def tableIndex (virtualAddress shift : Nat) : Nat := (virtualAddress >>> shift) &&& 0x1ff

def canonicalLower (address : Nat) : Bool :=
  address >>> 48 == 0 && (address >>> 47) &&& 1 == 0 &&
    decide ((address >>> 39) &&& 0x1ff < addressSpaceSharedPml4Start)

variable (paging : Paging)

/-- `address_space_table_pointer` -/
def addressSpaceTablePointer (physicalAddress : Nat) : Option Nat :=
  if addressSpacePhysicalSupported physicalAddress = false ∨
      uint64Max - paging.hhdmOffset < physicalAddress then none
  else if addressSpaceCanonical (paging.hhdmOffset + physicalAddress) = false then none
  else some physicalAddress

/-- `table_pointer` of `ring3_memory.c` -/
def ring3TablePointer (physicalAddress : Nat) : Option Nat :=
  if pageAligned physicalAddress = false ∨ physicalAddress &&& entryOtherBits ≠ 0 ∨
      paging.vmmInitialized = false ∨ uint64Max - paging.hhdmOffset < physicalAddress then none
  else if (paging.hhdmOffset + physicalAddress) >>> 48 ≠ 0xffff then none
  else some physicalAddress

def memmapExecutableAndModules : UInt64 := 6
def memmapFramebuffer : UInt64 := 7

def vmmMemmapTypeHasHhdm (type : UInt64) : Bool :=
  type == memmapUsable || type == memmapBootloaderReclaimable ||
    type == memmapExecutableAndModules || type == memmapFramebuffer

/-- The loop of `vmm_test_region_clear_of_hhdm` over the memory map. -/
def vmmHighestMappedEnd : (highest : Nat) → List MemmapEntry → Option Nat
  | highest, [] => some highest
  | highest, entry :: rest =>
    if vmmMemmapTypeHasHhdm entry.type = false then vmmHighestMappedEnd highest rest
    else
      match pmmEntryEnd entry with
      | none => none
      | some entryEnd =>
        vmmHighestMappedEnd (if highest < entryEnd then entryEnd else highest) rest

/-- The tests of `vmm_init` on the direct map: its offset is aligned and
canonical, and the memory behind it fits into the address range. -/
def vmmHhdmAccepted (hhdmOffset : Nat) (memoryMap : List MemmapEntry) : Bool :=
  pageAligned hhdmOffset && addressSpaceCanonical hhdmOffset &&
    match vmmHighestMappedEnd 0 memoryMap with
    | none => false
    | some highest => highest != 0 && decide (highest ≤ uint64Max - hhdmOffset)

/-- `address_space_owned_contains`, and `owned_contains` of `ring3_memory.c` -/
def ownedContains (space : AddressSpace) (physicalAddress : Nat) : Bool :=
  space.initialized && space.ownedTableFrames.contains physicalAddress

/-- `address_space_owned_add`, and `owned_add` of `ring3_memory.c` -/
def ownedAdd (space : AddressSpace) (physicalAddress : Nat) : Option AddressSpace :=
  if space.initialized = false ∨ addressSpaceMaxOwnedTableFrames ≤ space.ownedTableFrames.length ∨
      ownedContains space physicalAddress = true then none
  else some { space with ownedTableFrames := space.ownedTableFrames ++ [physicalAddress] }

/-- `address_space_owned_remove`, and `owned_remove` of `ring3_memory.c` -/
def ownedRemove (space : AddressSpace) (physicalAddress : Nat) : Option AddressSpace :=
  if ownedContains space physicalAddress = false then none
  else some { space with ownedTableFrames := space.ownedTableFrames.erase physicalAddress }

/-- `address_space_release_owned_table`, and `release_created_table` of
`ring3_memory.c` -/
def releaseOwnedTable (physicalAddress : Nat) : Bool × Paging :=
  if ownedContains paging.space physicalAddress = false then (false, paging)
  else
    match pmmFreeFrame paging.pmm physicalAddress with
    | (false, pmm) => (false, { paging with pmm := pmm })
    | (true, pmm) =>
      match ownedRemove paging.space physicalAddress with
      | none => (false, { paging with pmm := pmm })
      | some space => (true, { paging with pmm := pmm, space := space })

/-- `allocate_user_table` -/
def allocateUserTable : Option Nat × Paging :=
  match pmmAllocFrame paging.pmm with
  | (none, pmm) => (none, { paging with pmm := pmm })
  | (some frame, pmm) =>
    if pmmFrameIsUsable pmm frame = false ∨ ring3TablePointer paging frame = none then
      (none, { paging with pmm := (pmmFreeFrame pmm frame).2 })
    else
      let zeroed := { paging with memory := paging.memory.zeroTable frame, pmm := pmm }
      match ownedAdd paging.space frame with
      | none => (none, { zeroed with pmm := (pmmFreeFrame pmm frame).2 })
      | some space => (some frame, { zeroed with space := space })

/-- `struct user_created_table`, with the parent entry as table and index -/
structure CreatedTable where
  parentTable : Nat
  parentIndex : Nat
  physicalAddress : Nat
deriving DecidableEq, Repr

/-- `get_or_create_user_child`.  The result is the child, with the record of
its creation where it was created. -/
def getOrCreateUserChild (table index : Nat) (largePagePossible : Bool) :
    Option (Nat × List CreatedTable) × Paging :=
  let entry := paging.memory table index
  if entry &&& entryPresent ≠ 0 then
    if entry &&& entryUser = 0 ∨ (largePagePossible = true ∧ entry &&& entryLargePage ≠ 0) then
      (none, paging)
    else
      let physicalAddress := entry &&& entryAddressMask
      if ownedContains paging.space physicalAddress = false then (none, paging)
      else
        match ring3TablePointer paging physicalAddress with
        | none => (none, paging)
        | some child => (some (child, []), paging)
  else if entry ≠ 0 then (none, paging)
  else
    match allocateUserTable paging with
    | (none, after) => (none, after)
    | (some frame, after) =>
      (some (frame, [⟨table, index, frame⟩]),
        { after with
          memory := after.memory.store table index
            (frame ||| entryPresent ||| entryWritable ||| entryUser) })

/-- `rollback_created_tables`.  The list has the table created last first. -/
def rollbackCreatedTables : Paging → List CreatedTable → Paging
  | paging, [] => paging
  | paging, created :: rest =>
    let cleared := { paging with
      memory := paging.memory.store created.parentTable created.parentIndex 0 }
    rollbackCreatedTables (releaseOwnedTable cleared created.physicalAddress).2 rest

/-- `ring3_user_map_page_permissions` -/
def ring3UserMapPagePermissions (virtualAddress physicalAddress : Nat)
    (writable executable : Bool) : Bool × Paging :=
  if paging.space.initialized = false ∨ paging.space.bootstrap = true ∨
      canonicalLower virtualAddress = false ∨ pageAligned virtualAddress = false ∨
      pageAligned physicalAddress = false ∨ pmmFrameIsUsable paging.pmm physicalAddress = false ∨
      (executable = false ∧ paging.nxEnabled = false) ∨
      ownedContains paging.space paging.space.rootPhysical = false then (false, paging)
  else
    match ring3TablePointer paging paging.space.rootPhysical with
    | none => (false, paging)
    | some pml4 =>
      match getOrCreateUserChild paging pml4 (tableIndex virtualAddress 39) false with
      | (none, paging) => (false, paging)
      | (some (pdpt, first), paging) =>
        match getOrCreateUserChild paging pdpt (tableIndex virtualAddress 30) true with
        | (none, paging) => (false, rollbackCreatedTables paging first)
        | (some (pd, second), paging) =>
          match getOrCreateUserChild paging pd (tableIndex virtualAddress 21) true with
          | (none, paging) => (false, rollbackCreatedTables paging (second ++ first))
          | (some (pt, third), paging) =>
            if paging.memory pt (tableIndex virtualAddress 12) ≠ 0 then
              (false, rollbackCreatedTables paging (third ++ (second ++ first)))
            else
              (true,
                { paging with
                  memory := paging.memory.store pt (tableIndex virtualAddress 12)
                    (physicalAddress ||| entryPresent ||| entryUser |||
                      (if writable then entryWritable else 0) |||
                      (if executable then 0 else entryNoExecute)) })

/-- The tables and indices on the way to a page. -/
structure WalkPath where
  root : Nat
  pml4Index : Nat
  pdpt : Nat
  pdptIndex : Nat
  pd : Nat
  pdIndex : Nat
  pt : Nat
  ptIndex : Nat
deriving DecidableEq, Repr

/-- `enum address_space_lookup_result`, with the path of a mapped page -/
inductive LookupResult where
  | error
  | unmapped
  | mapped (path : WalkPath)
deriving DecidableEq, Repr

/-- What the walk makes of the entry of a table that is not the last. -/
inductive EntryResult where
  | error
  | unmapped
  | table (physicalAddress : Nat)
deriving DecidableEq, Repr

def walkEntry (entry : Nat) (largePagePossible : Bool) : EntryResult :=
  if entry &&& entryPresent = 0 then (if entry = 0 then .unmapped else .error)
  else if largePagePossible = true ∧ entry &&& entryLargePage ≠ 0 then .error
  else
    let physicalAddress := entry &&& entryAddressMask
    if ownedContains paging.space physicalAddress = false then .error
    else
      match addressSpaceTablePointer paging physicalAddress with
      | none => .error
      | some table => .table table

/-- `address_space_walk` -/
def addressSpaceWalk (virtualAddress : Nat) : LookupResult :=
  let pml4Index := tableIndex virtualAddress 39
  let pdptIndex := tableIndex virtualAddress 30
  let pdIndex := tableIndex virtualAddress 21
  let ptIndex := tableIndex virtualAddress 12
  if paging.addressSpaceInitialized = false ∨ paging.space.initialized = false ∨
      pageAligned virtualAddress = false ∨ addressSpaceCanonical virtualAddress = false ∨
      addressSpaceSharedPml4Start ≤ pml4Index then .error
  else
    match addressSpaceTablePointer paging paging.space.rootPhysical with
    | none => .error
    | some root =>
      match walkEntry paging (paging.memory root pml4Index) false with
      | .error => .error
      | .unmapped => .unmapped
      | .table pdpt =>
        match walkEntry paging (paging.memory pdpt pdptIndex) true with
        | .error => .error
        | .unmapped => .unmapped
        | .table pd =>
          match walkEntry paging (paging.memory pd pdIndex) true with
          | .error => .error
          | .unmapped => .unmapped
          | .table pt =>
            let entry := paging.memory pt ptIndex
            if entry &&& entryPresent = 0 then
              (if entry = 0 then .unmapped else .error)
            else .mapped ⟨root, pml4Index, pdpt, pdptIndex, pd, pdIndex, pt, ptIndex⟩

/-- `address_space_translate` -/
def addressSpaceTranslate (virtualAddress : Nat) : Option Nat :=
  match addressSpaceWalk paging virtualAddress with
  | .mapped path =>
    let translated := paging.memory path.pt path.ptIndex &&& entryAddressMask
    if addressSpacePhysicalSupported translated = false then none else some translated
  | _ => none

def addressSpaceTableEmpty (table : Nat) : Bool :=
  decide (∀ index < addressSpacePageEntries, memory table index = 0)

/-- One level of the reclaiming in `address_space_unmap_page`: an empty owned
table is cleared from its parent and released.  The results are the success
of the call so far, and whether the next level has to be looked at. -/
def reclaimTable (parent parentIndex table : Nat) : Bool × Bool × Paging :=
  if addressSpaceTableEmpty paging.memory table = true ∧ ownedContains paging.space table = true then
    let cleared := { paging with memory := paging.memory.store parent parentIndex 0 }
    match releaseOwnedTable cleared table with
    | (false, after) => (false, false, after)
    | (true, after) => (true, true, after)
  else (true, false, paging)

/-- `address_space_unmap_page` -/
def addressSpaceUnmapPage (virtualAddress : Nat) : Bool × Paging :=
  if paging.space.bootstrap = true then (false, paging)
  else
    match addressSpaceWalk paging virtualAddress with
    | .mapped path =>
      let paging := { paging with memory := paging.memory.store path.pt path.ptIndex 0 }
      match reclaimTable paging path.pd path.pdIndex path.pt with
      | (success, false, paging) => (success, paging)
      | (_, true, paging) =>
        match reclaimTable paging path.pdpt path.pdptIndex path.pd with
        | (success, false, paging) => (success, paging)
        | (_, true, paging) =>
          let last := reclaimTable paging path.root path.pml4Index path.pdpt
          (last.1, last.2.2)
    | _ => (false, paging)

/-- `address_space_is_active` -/
def addressSpaceIsActive : Bool :=
  paging.addressSpaceInitialized && paging.space.initialized &&
    paging.cr3 &&& entryAddressMask == paging.space.rootPhysical

/-- `address_space_kernel_mappings_valid` -/
def addressSpaceKernelMappingsValid : Bool :=
  if paging.addressSpaceInitialized = false ∨ paging.space.initialized = false then false
  else
    match addressSpaceTablePointer paging paging.bootstrapRootPhysical,
      addressSpaceTablePointer paging paging.space.rootPhysical with
    | some bootstrapRoot, some root =>
      decide (∀ index < addressSpacePageEntries, addressSpaceSharedPml4Start ≤ index →
        paging.memory root index = paging.memory bootstrapRoot index) &&
      paging.memory root addressSpaceHhdmPml4Index &&& entryPresent != 0 &&
      paging.memory root addressSpaceHeapPml4Index &&& entryPresent != 0 &&
      paging.memory root addressSpaceKernelPml4Index &&& entryPresent != 0
    | _, _ => false

/-- `address_space_allocate_table` -/
def addressSpaceAllocateTable : Option Nat × Paging :=
  if paging.space.initialized = false ∨
      addressSpaceMaxOwnedTableFrames ≤ paging.space.ownedTableFrames.length then (none, paging)
  else
    match pmmAllocFrame paging.pmm with
    | (none, pmm) => (none, { paging with pmm := pmm })
    | (some frame, pmm) =>
      if addressSpacePhysicalSupported frame = false ∨ pmmFrameIsUsable pmm frame = false ∨
          addressSpaceTablePointer paging frame = none then
        (none, { paging with pmm := (pmmFreeFrame pmm frame).2 })
      else
        let zeroed := { paging with memory := paging.memory.zeroTable frame, pmm := pmm }
        match ownedAdd paging.space frame with
        | none => (none, { zeroed with pmm := (pmmFreeFrame pmm frame).2 })
        | some space => (some frame, { zeroed with space := space })

/-- The loop of `address_space_create` that copies the kernel half. -/
def copyKernelHalf (bootstrapRoot root : Nat) : TableMemory :=
  fun table index =>
    if table = root ∧ addressSpaceSharedPml4Start ≤ index ∧ index < addressSpacePageEntries then
      memory bootstrapRoot index
    else memory table index

/-- `address_space_create` -/
def addressSpaceCreate : Bool × Paging :=
  if paging.addressSpaceInitialized = false ∨ paging.space.initialized = true then (false, paging)
  else
    match addressSpaceTablePointer paging paging.bootstrapRootPhysical with
    | none => (false, paging)
    | some bootstrapRoot =>
      match addressSpaceAllocateTable
        { paging with space := { addressSpaceClear with initialized := true } } with
      | (none, paging) => (false, { paging with space := addressSpaceClear })
      | (some root, paging) =>
        let created := { paging with
          memory := copyKernelHalf paging.memory bootstrapRoot root
          space := { paging.space with rootPhysical := root } }
        if addressSpaceKernelMappingsValid created = false then
          (false,
            { created with
              pmm := (pmmFreeFrame created.pmm root).2
              space := addressSpaceClear })
        else (true, created)

/-- `address_space_destroy` -/
def addressSpaceDestroy : Bool × Paging :=
  if paging.addressSpaceInitialized = false ∨ paging.space.initialized = false ∨
      paging.space.bootstrap = true ∨ addressSpaceIsActive paging = true ∨
      addressSpaceKernelMappingsValid paging = false then (false, paging)
  else
    match addressSpaceTablePointer paging paging.space.rootPhysical with
    | none => (false, paging)
    | some root =>
      if ¬ ∀ index < addressSpaceSharedPml4Start, paging.memory root index = 0 then
        (false, paging)
      else if paging.space.ownedTableFrames.length ≠ 1 ∨
          ownedContains paging.space paging.space.rootPhysical = false then (false, paging)
      else
        match pmmFreeFrame paging.pmm paging.space.rootPhysical with
        | (false, pmm) => (false, { paging with pmm := pmm })
        | (true, pmm) => (true, { paging with pmm := pmm, space := addressSpaceClear })

end BoringOS.Memory
