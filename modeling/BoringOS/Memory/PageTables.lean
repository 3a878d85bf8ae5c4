import BoringOS.Memory.AddressSpace

namespace BoringOS.Memory

/-!
# Page tables as a tree

A page of the user half has a number, and the tables on its way are numbered
by the prefixes of that number: the root has the empty prefix, and the child
of a table at an index appends nine bits.  `TableMap` assigns a frame to each
depth and prefix, and `PagingShape` says that the entries in memory spell out
such an assignment, together with the entries of the last level.

Attaching a fresh table, detaching a childless one and writing a last-level
entry are the only changes that the mapping functions make.  Each of the
three keeps the shape.
-/

/-! ## Bits of addresses and entries -/

theorem pageAligned_iff {value : Nat} : pageAligned value = true ↔ value % vmmPageSize = 0 := by
  rw [pageAligned, beq_iff_eq, vmmPageSize, show 4096 - 1 = 2 ^ 12 - 1 from rfl,
    Nat.and_two_pow_sub_one_eq_mod]

theorem tableIndex_eq (virtualAddress shift : Nat) :
    tableIndex virtualAddress shift = virtualAddress / 2 ^ shift % 512 := by
  rw [tableIndex, show 0x1ff = 2 ^ 9 - 1 from rfl, Nat.and_two_pow_sub_one_eq_mod, Nat.shiftRight_eq_div_pow]

theorem canonicalLower_iff {address : Nat} : canonicalLower address = true ↔ address < 2 ^ 47 := by
  have index := tableIndex_eq address 39
  rw [tableIndex, Nat.shiftRight_eq_div_pow] at index
  simp only [canonicalLower, Bool.and_eq_true, beq_iff_eq, decide_eq_true_eq,
    addressSpaceSharedPml4Start, Nat.and_one_is_mod, Nat.shiftRight_eq_div_pow, index]
  omega

/-- The two tests of the walk that keep it in the user half. -/
theorem canonical_and_lower_iff {address : Nat} :
    (addressSpaceCanonical address = true ∧ tableIndex address 39 < addressSpaceSharedPml4Start) ↔
      address < 2 ^ 47 := by
  simp only [addressSpaceCanonical, tableIndex_eq, addressSpaceSharedPml4Start,
    Nat.and_one_is_mod, Nat.shiftRight_eq_div_pow]
  split <;> simp only [beq_iff_eq] <;> omega

/-- The entry of a table that points to the next one. -/
def tableEntry (frame : Nat) : Nat := frame ||| entryPresent ||| entryWritable ||| entryUser

/-- The entry of a user page. -/
def leafEntry (frame : Nat) (writable executable : Bool) : Nat :=
  frame ||| entryPresent ||| entryUser ||| (if writable then entryWritable else 0) |||
    (if executable then 0 else entryNoExecute)

/-- An address whose bits are those that an entry can hold. -/
structure EntryAddress (frame : Nat) : Prop where
  bits : frame &&& entryOtherBits = 0
  small : frame < 2 ^ 64

variable {frame : Nat}

theorem EntryAddress.masked (address : EntryAddress frame) :
    frame &&& entryAddressMask = frame := by
  have all : entryAddressMask ||| entryOtherBits = 2 ^ 64 - 1 := by decide
  have split := Nat.and_or_distrib_left frame entryAddressMask entryOtherBits
  rw [all, Nat.and_two_pow_sub_one_eq_mod, Nat.mod_eq_of_lt address.small, address.bits, Nat.or_zero] at split
  exact split.symm

/-- Bits outside of the address mask do not show in an entry's address. -/
theorem EntryAddress.or_masked {frame flags : Nat} (address : EntryAddress frame)
    (outside : flags &&& entryAddressMask = 0) : (frame ||| flags) &&& entryAddressMask = frame := by
  rw [Nat.and_or_distrib_right, address.masked, outside, Nat.or_zero]

theorem EntryAddress.large_clear (address : EntryAddress frame) : frame &&& entryLargePage = 0 := by
  have inside : entryOtherBits &&& entryLargePage = entryLargePage := by decide
  rw [← inside, ← Nat.and_assoc, address.bits, Nat.zero_and]

theorem entryAddress_of_aligned (aligned : frame % vmmPageSize = 0)
    (small : frame < 2 ^ 52) : EntryAddress frame := by
  refine ⟨?_, Nat.lt_trans small (by decide)⟩
  have low : frame &&& (2 ^ 12 - 1) = 0 := by
    rw [Nat.and_two_pow_sub_one_eq_mod]
    exact aligned
  have high : frame &&& ((2 ^ 12 - 1) <<< 52) = 0 := by
    apply Nat.eq_of_testBit_eq
    intro bit
    rw [Nat.testBit_and, Nat.testBit_shiftLeft, Nat.zero_testBit]
    by_cases inFrame : bit < 52
    · simp [*]
    have below : frame < 2 ^ bit :=
      Nat.lt_of_lt_of_le small (Nat.pow_le_pow_right (by decide) (Nat.not_lt.mp inFrame))
    rw [Nat.testBit_lt_two_pow below, Bool.false_and]
  have parts : entryOtherBits = (2 ^ 12 - 1) ||| ((2 ^ 12 - 1) <<< 52) := by decide
  rw [parts, Nat.and_or_distrib_left, low, high, Nat.or_zero]

theorem tableEntry_readings (address : EntryAddress frame) :
    tableEntry frame &&& entryPresent ≠ 0 ∧ tableEntry frame &&& entryUser ≠ 0 ∧
      tableEntry frame &&& entryLargePage = 0 ∧ tableEntry frame &&& entryAddressMask = frame := by
  have flags : tableEntry frame = frame ||| (entryPresent ||| entryWritable ||| entryUser) := by
    simp only [tableEntry, Nat.or_assoc]
  rw [flags]
  refine ⟨?_, ?_, ?_, address.or_masked (by decide)⟩
  · rw [Nat.and_or_distrib_right, ne_eq, Nat.or_eq_zero_iff]
    exact fun both => absurd both.2 (by decide)
  · rw [Nat.and_or_distrib_right, ne_eq, Nat.or_eq_zero_iff]
    exact fun both => absurd both.2 (by decide)
  · rw [Nat.and_or_distrib_right, address.large_clear, Nat.zero_or]
    decide

theorem leafEntry_readings (address : EntryAddress frame) (writable executable : Bool) :
    leafEntry frame writable executable &&& entryPresent ≠ 0 ∧
      leafEntry frame writable executable &&& entryAddressMask = frame := by
  have flags : leafEntry frame writable executable = frame ||| (entryPresent ||| entryUser |||
      (if writable then entryWritable else 0) ||| (if executable then 0 else entryNoExecute)) := by
    simp only [leafEntry, Nat.or_assoc]
  rw [flags]
  constructor
  · rw [Nat.and_or_distrib_right, ne_eq, Nat.or_eq_zero_iff]
    intro both
    cases writable <;> cases executable <;> exact absurd both.2 (by decide)
  · apply address.or_masked
    cases writable <;> cases executable <;> decide

/-! ## Prefixes of page numbers -/

/-- The prefix of a page number that belongs to a depth of the tree. -/
def ancestor (page depth : Nat) : Nat := page / 512 ^ (4 - depth)

theorem ancestor_four (page : Nat) : ancestor page 4 = page := by
  rw [ancestor, Nat.sub_self, Nat.pow_zero, Nat.div_one]

theorem ancestor_div {page depth : Nat} (shallow : depth < 4) :
    ancestor page (depth + 1) / 512 = ancestor page depth := by
  have exponent : 4 - depth = 4 - (depth + 1) + 1 := by omega
  rw [ancestor, ancestor, Nat.div_div_eq_div_mul, exponent, Nat.pow_succ]

/-- A user page has the root above it, and its first prefix is an index of
the user half. -/
theorem ancestor_bounds {page : Nat} (user : page < 2 ^ 35) :
    ancestor page 0 = 0 ∧ ancestor page 1 < 256 := by
  simp only [ancestor]
  omega

theorem tableIndex_ancestor (virtualAddress : Nat) :
    tableIndex virtualAddress 39 = ancestor (virtualAddress / vmmPageSize) 1 % 512 ∧
      tableIndex virtualAddress 30 = ancestor (virtualAddress / vmmPageSize) 2 % 512 ∧
      tableIndex virtualAddress 21 = ancestor (virtualAddress / vmmPageSize) 3 % 512 ∧
      tableIndex virtualAddress 12 = ancestor (virtualAddress / vmmPageSize) 4 % 512 := by
  simp only [tableIndex_eq, ancestor, vmmPageSize, Nat.div_div_eq_div_mul]
  exact ⟨rfl, rfl, rfl, rfl⟩

/-! ## The shape of the tables -/

/-- The frame of a table, by its depth and prefix. -/
abbrev TableMap := Nat → Nat → Option Nat

def TableMap.set (tables : TableMap) (depth slot : Nat) (frame : Option Nat) : TableMap :=
  fun otherDepth otherSlot =>
    if otherDepth = depth ∧ otherSlot = slot then frame else tables otherDepth otherSlot

theorem TableMap.set_same (tables : TableMap) (depth slot : Nat) (frame : Option Nat) :
    tables.set depth slot frame depth slot = frame := by
  rw [TableMap.set, if_pos ⟨rfl, rfl⟩]

theorem TableMap.set_other {tables : TableMap} {depth slot : Nat} {frame : Option Nat}
    {otherDepth otherSlot : Nat} (other : ¬ (otherDepth = depth ∧ otherSlot = slot)) :
    tables.set depth slot frame otherDepth otherSlot = tables otherDepth otherSlot := by
  rw [TableMap.set, if_neg other]

/-- The entries of the last level, by page number. -/
abbrev LeafMap := Nat → Nat

def LeafMap.set (leaves : LeafMap) (page value : Nat) : LeafMap :=
  fun other => if other = page then value else leaves other

/-- What the parent of a table holds for it. -/
def entryFor : Option Nat → Nat
  | none => 0
  | some frame => tableEntry frame

/-- The memory of the address space spells out the tables and leaves, and the
owned frames are those of the tables. -/
structure PagingShape (paging : Paging) (tables : TableMap) (leaves : LeafMap) : Prop where
  ready : paging.addressSpaceInitialized = true
  spaceReady : paging.space.initialized = true
  ordinary : paging.space.bootstrap = false
  root : tables 0 0 = some paging.space.rootPhysical
  rootOnly : ∀ slot frame, tables 0 slot = some frame → slot = 0
  shallow : ∀ depth slot frame, tables depth slot = some frame → depth ≤ 3
  parent : ∀ depth slot frame, tables (depth + 1) slot = some frame →
    (∃ above, tables depth (slot / 512) = some above) ∧ (depth = 0 → slot < 256)
  entry : ∀ depth slot frame, depth < 3 → tables depth (slot / 512) = some frame →
    (depth = 0 → slot < 256) →
    paging.memory frame (slot % 512) = entryFor (tables (depth + 1) slot)
  leaf : ∀ page frame, tables 3 (page / 512) = some frame →
    paging.memory frame (page % 512) = leaves page
  covered : ∀ page, leaves page ≠ 0 → ∃ frame, tables 3 (page / 512) = some frame
  present : ∀ page, leaves page ≠ 0 → leaves page &&& entryPresent ≠ 0
  single : ∀ depth slot depth' slot' frame, tables depth slot = some frame →
    tables depth' slot' = some frame → depth = depth' ∧ slot = slot'
  owned : ∀ frame, frame ∈ paging.space.ownedTableFrames ↔
    ∃ depth slot, tables depth slot = some frame
  nodup : paging.space.ownedTableFrames.Nodup
  pointer : ∀ depth slot frame, tables depth slot = some frame →
    addressSpaceTablePointer paging frame = some frame
  kernelHalf : ∀ index, addressSpaceSharedPml4Start ≤ index → index < addressSpacePageEntries →
    paging.memory paging.space.rootPhysical index = paging.memory paging.bootstrapRootPhysical index
  kernelPresent :
    paging.memory paging.bootstrapRootPhysical addressSpaceHhdmPml4Index &&& entryPresent ≠ 0 ∧
    paging.memory paging.bootstrapRootPhysical addressSpaceHeapPml4Index &&& entryPresent ≠ 0 ∧
    paging.memory paging.bootstrapRootPhysical addressSpaceKernelPml4Index &&& entryPresent ≠ 0
  bootstrapPointer : addressSpaceTablePointer paging paging.bootstrapRootPhysical =
    some paging.bootstrapRootPhysical
  bootstrapApart : paging.bootstrapRootPhysical ∉ paging.space.ownedTableFrames

/-- No table and no page hangs off the table of this depth and slot. -/
structure Childless (tables : TableMap) (leaves : LeafMap) (depth slot : Nat) : Prop where
  tables : ∀ below frame, tables (depth + 1) below = some frame → below / 512 ≠ slot
  leaves : depth = 3 → ∀ page, page / 512 = slot → leaves page = 0

/-- A pointer to a table depends on the direct map only. -/
theorem addressSpaceTablePointer_congr {paging next : Paging}
    (same : next.hhdmOffset = paging.hhdmOffset) (frame : Nat) :
    addressSpaceTablePointer next frame = addressSpaceTablePointer paging frame := by
  rw [addressSpaceTablePointer, addressSpaceTablePointer, same]

theorem entryAddress_of_pointer {paging : Paging} {frame table : Nat}
    (pointer : addressSpaceTablePointer paging frame = some table) :
    table = frame ∧ EntryAddress frame := by
  rw [addressSpaceTablePointer] at pointer
  split at pointer
  · cases pointer
  rename_i checked
  split at pointer
  · cases pointer
  cases pointer
  simp only [not_or, Bool.not_eq_false, addressSpacePhysicalSupported, Bool.and_eq_true,
    beq_iff_eq, uint64Max] at checked
  exact ⟨rfl, checked.1.2, by omega⟩

namespace PagingShape

variable {paging : Paging} {tables : TableMap} {leaves : LeafMap}

section

variable (shape : PagingShape paging tables leaves)
include shape

theorem mem_owned {depth slot frame : Nat}
    (at' : tables depth slot = some frame) : frame ∈ paging.space.ownedTableFrames :=
  (shape.owned frame).mpr ⟨depth, slot, at'⟩

theorem entryAddress {depth slot frame : Nat} (at' : tables depth slot = some frame) : EntryAddress frame :=
  (entryAddress_of_pointer (shape.pointer depth slot frame at')).2

theorem frame_rule {next : Paging}
    (space : next.space = paging.space) (hhdm : next.hhdmOffset = paging.hhdmOffset)
    (ready : next.addressSpaceInitialized = paging.addressSpaceInitialized)
    (bootstrap : next.bootstrapRootPhysical = paging.bootstrapRootPhysical)
    (agree : ∀ frame index, frame ∈ paging.space.ownedTableFrames ∨
      frame = paging.bootstrapRootPhysical → next.memory frame index = paging.memory frame index) :
    PagingShape next tables leaves := by
  have bootstrapKept : ∀ index, next.memory next.bootstrapRootPhysical index =
      paging.memory paging.bootstrapRootPhysical index := by
    intro index
    rw [bootstrap]
    exact agree _ _ (Or.inr rfl)
  exact { shape with
    ready := by rw [ready]; exact shape.ready
    spaceReady := by rw [space]; exact shape.spaceReady
    ordinary := by rw [space]; exact shape.ordinary
    root := by rw [space]; exact shape.root
    entry := by
      intro depth slot frame notLast at' inRoot
      rw [agree _ _ (Or.inl (shape.mem_owned at'))]
      exact shape.entry depth slot frame notLast at' inRoot
    leaf := by
      intro page frame at'
      rw [agree _ _ (Or.inl (shape.mem_owned at'))]
      exact shape.leaf page frame at'
    owned := by rw [space]; exact shape.owned
    nodup := by rw [space]; exact shape.nodup
    pointer := by
      intro depth slot frame at'
      rw [addressSpaceTablePointer_congr hhdm]
      exact shape.pointer depth slot frame at'
    kernelHalf := by
      intro index low high
      rw [bootstrapKept, space, agree _ _ (Or.inl (shape.mem_owned shape.root))]
      exact shape.kernelHalf index low high
    kernelPresent := by
      simp only [bootstrapKept]
      exact shape.kernelPresent
    bootstrapPointer := by
      rw [addressSpaceTablePointer_congr hhdm, bootstrap]
      exact shape.bootstrapPointer
    bootstrapApart := by grind [bootstrapApart] }

/-! ## The three changes -/

/-- The entry of a table that a slot is found at belongs to no other slot. -/
theorem slot_unique
    {depth slot depth' slot' frame : Nat} (at' : tables depth (slot / 512) = some frame)
    (other : tables depth' (slot' / 512) = some frame) (index : slot' % 512 = slot % 512) :
    depth' = depth ∧ slot' = slot := by
  rcases shape.single _ _ _ _ _ other at' with ⟨sameDepth, sameParent⟩
  exact ⟨sameDepth, by omega⟩

theorem store_keeps_kernelHalf
    {depth slot frame : Nat} (at' : tables depth (slot / 512) = some frame)
    (inRoot : depth = 0 → slot < 256) (value : Nat) {index : Nat}
    (low : addressSpaceSharedPml4Start ≤ index) :
    paging.memory.store frame (slot % 512) value paging.space.rootPhysical index =
      paging.memory paging.space.rootPhysical index := by
  rw [TableMemory.store, if_neg]
  rintro ⟨isRoot, isIndex⟩
  subst isRoot
  have atRoot := (shape.single _ _ _ _ _ at' shape.root).1
  grind [addressSpaceSharedPml4Start]

theorem attach {depth slot frame fresh : Nat}
    (notLast : depth < 3) (at' : tables depth (slot / 512) = some frame)
    (inRoot : depth = 0 → slot < 256) (absent : tables (depth + 1) slot = none)
    (notOwned : fresh ∉ paging.space.ownedTableFrames) (notBootstrap : fresh ≠ paging.bootstrapRootPhysical)
    (pointer : addressSpaceTablePointer paging fresh = some fresh) (pmm : Pmm) :
    PagingShape
      { paging with
        memory := (paging.memory.zeroTable fresh).store frame (slot % 512) (tableEntry fresh)
        pmm := pmm
        space := { paging.space with
          ownedTableFrames := paging.space.ownedTableFrames ++ [fresh] } }
      (tables.set (depth + 1) slot (some fresh)) leaves := by
  have frameOwned := shape.mem_owned at'
  have oldNotFresh : ∀ depth' slot' other, tables depth' slot' = some other → other ≠ fresh := by
    rintro depth' slot' other otherAt rfl
    exact notOwned (shape.mem_owned otherAt)
  have bootstrapNotFrame : paging.bootstrapRootPhysical ≠ frame := by
    intro same
    exact shape.bootstrapApart (same ▸ frameOwned)
  have bootstrapKept : ∀ index, (paging.memory.zeroTable fresh).store frame (slot % 512)
      (tableEntry fresh) paging.bootstrapRootPhysical index =
        paging.memory paging.bootstrapRootPhysical index := by
    intro index
    simp only [TableMemory.store, TableMemory.zeroTable, bootstrapNotFrame, false_and, if_false,
      notBootstrap.symm]
  have cases' : ∀ depth' slot' other, tables.set (depth + 1) slot (some fresh) depth' slot' = some other →
        (depth' = depth + 1 ∧ slot' = slot ∧ other = fresh) ∨ tables depth' slot' = some other := by
    intro depth' slot' other otherAt
    by_cases same : depth' = depth + 1 ∧ slot' = slot
    · rw [same.1, same.2, TableMap.set_same] at otherAt
      simp_all
    · grind [TableMap.set_other]
  have kept : ∀ depth' slot' other, tables depth' slot' = some other →
      tables.set (depth + 1) slot (some fresh) depth' slot' = some other := by
    intro depth' slot' other otherAt
    rw [TableMap.set_other]
    · exact otherAt
    · grind
  have noGrandchild : ∀ slot' other, tables (depth + 2) slot' = some other → slot' / 512 ≠ slot := by
    rintro slot' other otherAt rfl
    rcases (shape.parent _ _ _ otherAt).1 with ⟨above, aboveAt⟩
    rw [absent] at aboveAt
    cases aboveAt
  have oldEntry : ∀ depth' slot' other, tables depth' (slot' / 512) = some other →
      ¬ (depth' = depth ∧ slot' = slot) →
      (paging.memory.zeroTable fresh).store frame (slot % 512) (tableEntry fresh) other
        (slot' % 512) = paging.memory other (slot' % 512) := by
    intro depth' slot' other otherAt different
    have notThis : ¬ (other = frame ∧ slot' % 512 = slot % 512) := by
      rintro ⟨rfl, index⟩
      exact different (shape.slot_unique at' otherAt index)
    simp only [TableMemory.store, TableMemory.zeroTable, notThis, if_false, oldNotFresh _ _ _ otherAt]
  have freshEntry : ∀ index, (paging.memory.zeroTable fresh).store frame (slot % 512)
      (tableEntry fresh) fresh index = 0 := by
    intro index
    have notFrame : fresh ≠ frame := (oldNotFresh _ _ _ at').symm
    simp only [TableMemory.store, TableMemory.zeroTable, notFrame, false_and, if_false, if_true]
  exact { shape with
    shallow := by
      intro depth' slot' other otherAt
      rcases cases' _ _ _ otherAt with ⟨rfl, -, -⟩ | old
      · omega
      · exact shape.shallow _ _ _ old
    parent := by
      intro depth' slot' other otherAt
      rcases cases' _ _ _ otherAt with ⟨same, rfl, -⟩ | old
      · simp_all
      · rcases shape.parent _ _ _ old with ⟨⟨above, aboveAt⟩, small⟩
        grind
    entry := by
      intro depth' slot' other notLast' otherAt inRoot'
      simp only
      rcases cases' _ _ _ otherAt with ⟨rfl, sameSlot, rfl⟩ | old
      · rw [freshEntry, TableMap.set_other (by omega)]
        cases below : tables (depth + 1 + 1) slot' with
        | none => rfl
        | some grandchild => simp_all
      · by_cases same : depth' = depth ∧ slot' = slot
        · rcases same with ⟨rfl, rfl⟩
          rw [at'] at old
          cases old
          rw [TableMap.set_same, TableMemory.store, if_pos ⟨rfl, rfl⟩]
          rfl
        · rw [oldEntry _ _ _ old same, TableMap.set_other (by omega)]
          exact shape.entry _ _ _ notLast' old inRoot'
    leaf := by
      intro page other otherAt
      simp only
      rcases cases' _ _ _ otherAt with ⟨last, sameSlot, rfl⟩ | old
      · rw [freshEntry]
        by_contra nonzero
        rcases shape.covered page (Ne.symm nonzero) with ⟨table, tableAt⟩
        simp_all
      · rw [oldEntry _ _ _ old (by omega)]
        exact shape.leaf _ _ old
    covered := by
      intro page nonzero
      rcases shape.covered page nonzero with ⟨table, tableAt⟩
      exact ⟨table, kept _ _ _ tableAt⟩
    single := by
      intro depth' slot' depth'' slot'' other first second
      rcases cases' _ _ _ first with ⟨rfl, rfl, rfl⟩ | old
      · grind
      rcases cases' _ _ _ second with ⟨rfl, rfl, rfl⟩ | old'
      · exact absurd rfl (oldNotFresh _ _ _ old)
      · exact shape.single _ _ _ _ _ old old'
    owned := by
      intro other
      rw [List.mem_append, List.mem_singleton, shape.owned]
      grind [TableMap.set_same]
    nodup := by
      refine List.nodup_append.mpr ⟨shape.nodup, List.nodup_singleton _, ?_⟩
      grind
    pointer := by
      intro depth' slot' other otherAt
      rcases cases' _ _ _ otherAt with ⟨-, -, rfl⟩ | old
      · exact pointer
      · exact shape.pointer _ _ _ old
    kernelHalf := by
      intro index low high
      have rootNotFresh := oldNotFresh _ _ _ shape.root
      have rootKept := shape.store_keeps_kernelHalf at' inRoot (tableEntry fresh) low
      have notZeroed : (paging.memory.zeroTable fresh).store frame (slot % 512) (tableEntry fresh)
          paging.space.rootPhysical index = paging.memory.store frame (slot % 512)
            (tableEntry fresh) paging.space.rootPhysical index := by
        simp only [TableMemory.store, TableMemory.zeroTable, rootNotFresh, if_false]
      exact notZeroed.trans (rootKept.trans ((shape.kernelHalf index low high).trans
        (bootstrapKept index).symm))
    kernelPresent := by
      simp only [bootstrapKept]
      exact shape.kernelPresent
    bootstrapApart := by grind [bootstrapApart] }

theorem detach {depth slot frame child : Nat}
    (notLast : depth < 3) (at' : tables depth (slot / 512) = some frame)
    (present : tables (depth + 1) slot = some child)
    (childless : Childless tables leaves (depth + 1) slot) (pmm : Pmm) :
    PagingShape
      { paging with
        memory := paging.memory.store frame (slot % 512) 0
        pmm := pmm
        space := { paging.space with
          ownedTableFrames := paging.space.ownedTableFrames.erase child } }
      (tables.set (depth + 1) slot none) leaves := by
  have inRoot := (shape.parent _ _ _ present).2
  have frameOwned := shape.mem_owned at'
  have bootstrapNotFrame : paging.bootstrapRootPhysical ≠ frame := by
    intro same
    exact shape.bootstrapApart (same ▸ frameOwned)
  have bootstrapKept : ∀ index, paging.memory.store frame (slot % 512) 0
      paging.bootstrapRootPhysical index = paging.memory paging.bootstrapRootPhysical index := by
    intro index
    simp only [TableMemory.store, bootstrapNotFrame, false_and, if_false]
  have old : ∀ depth' slot' other, tables.set (depth + 1) slot none depth' slot' = some other →
      ¬ (depth' = depth + 1 ∧ slot' = slot) ∧ tables depth' slot' = some other := by
    intro depth' slot' other otherAt
    by_cases same : depth' = depth + 1 ∧ slot' = slot
    · simp_all [TableMap.set_same]
    · simp_all [TableMap.set_other]
  have kept : ∀ depth' slot' other, ¬ (depth' = depth + 1 ∧ slot' = slot) → tables depth' slot' = some other →
      tables.set (depth + 1) slot none depth' slot' = some other := by
    intro depth' slot' other different otherAt
    rw [TableMap.set_other different]
    exact otherAt
  have oldEntry : ∀ depth' slot' other, tables depth' (slot' / 512) = some other →
      ¬ (depth' = depth ∧ slot' = slot) → paging.memory.store frame (slot % 512) 0 other (slot' % 512) =
        paging.memory other (slot' % 512) := by
    intro depth' slot' other otherAt different
    rw [TableMemory.store, if_neg]
    rintro ⟨rfl, index⟩
    exact different (shape.slot_unique at' otherAt index)
  exact { shape with
    shallow := fun depth' slot' other otherAt => shape.shallow _ _ _ (old _ _ _ otherAt).2
    parent := by
      intro depth' slot' other inNew
      have otherAt := (old _ _ _ inNew).2
      rcases shape.parent _ _ _ otherAt with ⟨⟨above, aboveAt⟩, small⟩
      refine ⟨⟨above, kept _ _ _ ?_ aboveAt⟩, small⟩
      rintro ⟨rfl, isSlot⟩
      exact childless.tables _ _ otherAt isSlot
    entry := by
      intro depth' slot' other notLast' inNew inRoot'
      have otherAt := (old _ _ _ inNew).2
      simp only
      by_cases same : depth' = depth ∧ slot' = slot
      · rcases same with ⟨rfl, rfl⟩
        rw [at'] at otherAt
        cases otherAt
        rw [TableMap.set_same, TableMemory.store, if_pos ⟨rfl, rfl⟩]
        rfl
      · rw [oldEntry _ _ _ otherAt same, TableMap.set_other (by omega)]
        exact shape.entry _ _ _ notLast' otherAt inRoot'
    leaf := by
      intro page other inNew
      have otherAt := (old _ _ _ inNew).2
      simp only
      rw [oldEntry _ _ _ otherAt (by omega)]
      exact shape.leaf _ _ otherAt
    covered := by
      intro page nonzero
      rcases shape.covered page nonzero with ⟨table, tableAt⟩
      refine ⟨table, kept _ _ _ ?_ tableAt⟩
      rintro ⟨last, isSlot⟩
      exact nonzero (childless.leaves last.symm page isSlot)
    single := by
      exact fun _ _ _ _ _ first second =>
        shape.single _ _ _ _ _ (old _ _ _ first).2 (old _ _ _ second).2
    owned := by
      intro other
      rw [shape.nodup.mem_erase_iff, shape.owned]
      constructor
      · grind
      · rintro ⟨depth', slot', otherAt⟩
        rcases old _ _ _ otherAt with ⟨different, otherAt⟩
        refine ⟨?_, depth', slot', otherAt⟩
        rintro rfl
        exact different (shape.single _ _ _ _ _ otherAt present)
    nodup := shape.nodup.erase child
    pointer := fun _ _ _ otherAt => shape.pointer _ _ _ (old _ _ _ otherAt).2
    kernelHalf := by
      intro index low high
      exact (shape.store_keeps_kernelHalf at' inRoot 0 low).trans
        ((shape.kernelHalf index low high).trans (bootstrapKept index).symm)
    kernelPresent := by
      simp only [bootstrapKept]
      exact shape.kernelPresent
    bootstrapApart := by grind [bootstrapApart] }

theorem writeLeaf {page frame value : Nat}
    (at' : tables 3 (page / 512) = some frame) (written : value ≠ 0 → value &&& entryPresent ≠ 0) :
    PagingShape { paging with memory := paging.memory.store frame (page % 512) value } tables
      (leaves.set page value) := by
  have frameOwned := shape.mem_owned at'
  have bootstrapNotFrame : paging.bootstrapRootPhysical ≠ frame := by
    intro same
    exact shape.bootstrapApart (same ▸ frameOwned)
  have bootstrapKept : ∀ index, paging.memory.store frame (page % 512) value
      paging.bootstrapRootPhysical index = paging.memory paging.bootstrapRootPhysical index := by
    intro index
    simp only [TableMemory.store, bootstrapNotFrame, false_and, if_false]
  have oldEntry : ∀ depth' slot' other, tables depth' (slot' / 512) = some other →
      ¬ (depth' = 3 ∧ slot' = page) → paging.memory.store frame (page % 512) value other (slot' % 512) =
        paging.memory other (slot' % 512) := by
    intro depth' slot' other otherAt different
    rw [TableMemory.store, if_neg]
    rintro ⟨rfl, index⟩
    exact different (shape.slot_unique at' otherAt index)
  exact { shape with
    entry := by
      intro depth' slot' other notLast' otherAt inRoot'
      simp only
      rw [oldEntry _ _ _ otherAt (by omega)]
      exact shape.entry _ _ _ notLast' otherAt inRoot'
    leaf := by
      intro other table tableAt
      simp only [LeafMap.set]
      by_cases same : other = page
      · simp_all [TableMemory.store]
      · rw [oldEntry _ _ _ tableAt (fun both => same both.2), if_neg same]
        exact shape.leaf _ _ tableAt
    covered := by
      intro other nonzero
      by_cases same : other = page
      · rw [same]
        exact ⟨frame, at'⟩
      · rw [LeafMap.set, if_neg same] at nonzero
        exact shape.covered other nonzero
    present := by
      intro other nonzero
      rw [LeafMap.set] at nonzero ⊢
      split at nonzero
      · simp [*]
      rename_i same
      rw [if_neg same]
      exact shape.present other nonzero
    kernelHalf := by
      intro index low high
      exact (shape.store_keeps_kernelHalf at' (fun impossible => by omega) value low).trans
        ((shape.kernelHalf index low high).trans (bootstrapKept index).symm)
    kernelPresent := by
      simp only [bootstrapKept]
      exact shape.kernelPresent }

end

end PagingShape

end BoringOS.Memory
