import BoringOS.Memory.AddressSpaceCalls

namespace BoringOS.Memory

/-!
# One mapping call and one unmapping call

The mapping call descends three levels.  What it has attached so far is kept
as a recipe, `Undo`, whose steps the rollback carries out one by one; the
recipe ends at the tables that the call started from.  The unmapping call
climbs the same path, and either reaches a table with something else below
it or detaches the whole path.
-/

/-- Every table has a mapped page below it. -/
def Tight (tables : TableMap) (leaves : LeafMap) : Prop :=
  ∀ depth slot frame, 1 ≤ depth → tables depth slot = some frame →
    ∃ page, leaves page ≠ 0 ∧ ancestor page depth = slot

/-- A page that can be mapped: aligned, in the user half. -/
structure UserPage (virtualAddress : Nat) : Prop where
  lower : virtualAddress < 2 ^ 47
  aligned : virtualAddress % vmmPageSize = 0

theorem UserPage.page_lt {virtualAddress : Nat} (user : UserPage virtualAddress) :
    virtualAddress / vmmPageSize < 2 ^ 35 := by
  have lower := user.lower
  simp only [vmmPageSize]
  omega

/-! ## The way back -/

/-- The created tables, last first, are the way back to the old tables. -/
inductive Undo (old : TableMap) (leaves : LeafMap) : TableMap → List CreatedTable → Prop where
  | done : Undo old leaves old []
  | step {tables : TableMap} {rest : List CreatedTable} {depth slot frame child : Nat} :
      depth < 3 → tables depth (slot / 512) = some frame →
      tables (depth + 1) slot = some child → Childless tables leaves (depth + 1) slot →
      Undo old leaves (tables.set (depth + 1) slot none) rest →
      Undo old leaves tables (⟨frame, slot % 512, child⟩ :: rest)

section Steps

variable {memoryMap : List MemmapEntry} {paging : Paging} {tables : TableMap} {leaves : LeafMap}
  {others : Nat → Bool}

/-- Clearing the entry of a childless table and releasing it detaches it. -/
theorem PagingInvariant.release (invariant : PagingInvariant memoryMap paging tables leaves others)
    {depth slot frame child : Nat} (notLast : depth < 3)
    (at' : tables depth (slot / 512) = some frame) (present : tables (depth + 1) slot = some child)
    (childless : Childless tables leaves (depth + 1) slot) :
    ∃ after, releaseOwnedTable
        { paging with memory := paging.memory.store frame (slot % 512) 0 } child = (true, after) ∧
      PagingInvariant memoryMap after (tables.set (depth + 1) slot none) leaves others := by
  have shape := invariant.shape
  have ledger : FrameLedger memoryMap
      { paging with memory := paging.memory.store frame (slot % 512) 0 } others :=
    invariant.ledger.of_same invariant.ledger.invariant (fun _ => rfl) (fun _ => rfl) rfl rfl
  rcases releaseOwnedTable_owned ledger shape.spaceReady shape.nodup (shape.mem_owned present) with
    ⟨pmm, result, kept⟩
  exact ⟨_, result, shape.detach notLast at' present childless pmm, kept, invariant.accepted⟩

theorem rollbackCreatedTables_undo {old : TableMap} (created : List CreatedTable) :
    ∀ {paging tables}, PagingInvariant memoryMap paging tables leaves others →
      Undo old leaves tables created →
      PagingInvariant memoryMap (rollbackCreatedTables paging created) old leaves others := by
  induction created with
  | nil =>
    intro paging tables invariant undo
    cases undo
    exact invariant
  | cons head rest ih =>
    intro paging tables invariant undo
    cases undo with
    | step notLast at' present childless undone =>
      rcases invariant.release notLast at' present childless with ⟨after, result, kept⟩
      grind [rollbackCreatedTables]

/-- A table that has just been attached is childless, and taking it off again
is one more step of the way back. -/
theorem Undo.attach {old : TableMap} {created : List CreatedTable}
    (shape : PagingShape paging tables leaves) (undo : Undo old leaves tables created)
    {depth slot frame fresh : Nat} (notLast : depth < 3)
    (at' : tables depth (slot / 512) = some frame) (absent : tables (depth + 1) slot = none) :
    Undo old leaves (tables.set (depth + 1) slot (some fresh)) (⟨frame, slot % 512, fresh⟩ :: created) := by
  have noneBelow : ∀ below other, tables (depth + 1 + 1) below = some other → below / 512 ≠ slot := by
    rintro below other otherAt rfl
    rcases (shape.parent _ _ _ otherAt).1 with ⟨above, aboveAt⟩
    rw [absent] at aboveAt
    cases aboveAt
  refine Undo.step notLast ?_ (TableMap.set_same _ _ _ _) ⟨fun below other otherAt => ?_,
    fun last page isSlot => ?_⟩ ?_
  · rw [TableMap.set_other (by omega)]
    exact at'
  · simp_all [TableMap.set_other]
  · by_contra nonzero
    rcases shape.covered page nonzero with ⟨table, tableAt⟩
    simp_all
  · have restored : (tables.set (depth + 1) slot (some fresh)).set (depth + 1) slot none =
        tables := by
      funext otherDepth otherSlot
      by_cases same : otherDepth = depth + 1 ∧ otherSlot = slot
      · rw [same.1, same.2, TableMap.set_same, absent]
      · rw [TableMap.set_other same, TableMap.set_other same]
    rw [restored]
    exact undo

/-! ## Descending -/

/-- How far a mapping call has come: the table at this depth on the way to
the page, and the way back. -/
structure Descent (memoryMap : List MemmapEntry) (leaves : LeafMap) (others : Nat → Bool)
    (old : TableMap) (page depth : Nat) (paging : Paging) (created : List CreatedTable)
    (frame : Nat) (tables : TableMap) : Prop where
  invariant : PagingInvariant memoryMap paging tables leaves others
  undo : Undo old leaves tables created
  here : tables depth (ancestor page depth) = some frame
  grown : ∀ otherDepth slot other, tables otherDepth slot = some other →
    (∃ before, old otherDepth slot = some before) ∨ slot = ancestor page otherDepth
  high : HighHalf paging

/-- The descent by one level, with the entry of the child as the source finds
or makes it. -/
theorem Descent.next {old : TableMap} {page depth frame : Nat} {created : List CreatedTable}
    (descent : Descent memoryMap leaves others old page depth paging created frame tables)
    (user : page < 2 ^ 35) (notLast : depth < 3) (largePagePossible : Bool) :
    (∃ after, getOrCreateUserChild paging frame (ancestor page (depth + 1) % 512)
        largePagePossible = (none, after) ∧
      PagingInvariant memoryMap after tables leaves others) ∨
    ∃ child more after tables', getOrCreateUserChild paging frame
        (ancestor page (depth + 1) % 512) largePagePossible = (some (child, more), after) ∧
      Descent memoryMap leaves others old page (depth + 1) after (more ++ created) child
        tables' := by
  have invariant := descent.invariant
  have shape := invariant.shape
  have at' : tables depth (ancestor page (depth + 1) / 512) = some frame := by
    rw [ancestor_div (by omega)]
    exact descent.here
  have inRoot : depth = 0 → ancestor page (depth + 1) < 256 := by
    rintro rfl
    exact (ancestor_bounds user).2
  have entry := shape.entry depth _ frame notLast at' inRoot
  rw [getOrCreateUserChild, entry]
  cases below : tables (depth + 1) (ancestor page (depth + 1)) with
  | some child =>
    rcases tableEntry_readings (shape.entryAddress below) with ⟨present, isUser, small, address⟩
    have contained := (ownedContains_iff shape.spaceReady).mpr (shape.mem_owned below)
    simp only [entryFor, present, ne_eq, not_false_eq_true, if_true, isUser, small,
      not_true_eq_false, and_false, or_self, if_false, address, contained, Bool.true_eq_false]
    cases pointer : ring3TablePointer paging child with
    | none => exact Or.inl ⟨paging, rfl, invariant⟩
    | some table =>
      have same := (highHalf_of_root invariant.accepted pointer).2
      subst same
      exact Or.inr ⟨table, [], paging, tables, rfl, invariant, descent.undo, below,
        descent.grown, descent.high⟩
  | none =>
    simp only [entryFor, Nat.zero_and, ne_eq, not_true_eq_false, if_false]
    rcases allocateUserTable_cases invariant descent.high with
      ⟨after, result, kept, -⟩ | ⟨fresh, pmm, result, notOwned, notBootstrap, pointer, ledger⟩
    · simp [*]
    rw [result]
    refine Or.inr ⟨fresh, _, _, tables.set (depth + 1) (ancestor page (depth + 1)) (some fresh),
      rfl, ⟨shape.attach notLast at' inRoot below notOwned notBootstrap pointer pmm, ledger _,
        invariant.accepted⟩, descent.undo.attach shape notLast at' below,
      TableMap.set_same _ _ _ _, fun otherDepth slot other otherAt => ?_, descent.high⟩
    by_cases same : otherDepth = depth + 1 ∧ slot = ancestor page (depth + 1)
    · rw [same.1]
      exact Or.inr same.2
    · rw [TableMap.set_other same] at otherAt
      exact descent.grown _ _ _ otherAt

/-- A mapping call maps the page and leaves every other page alone, or it
leaves all tables as they were. -/
theorem ring3UserMapPagePermissions_cases (invariant : PagingInvariant memoryMap paging tables leaves others)
    (tight : Tight tables leaves) (virtualAddress physicalAddress : Nat) (writable executable : Bool) :
    (∃ after, ring3UserMapPagePermissions paging virtualAddress physicalAddress writable
        executable = (false, after) ∧
      PagingInvariant memoryMap after tables leaves others) ∨
    ∃ after tables', ring3UserMapPagePermissions paging virtualAddress physicalAddress writable
        executable = (true, after) ∧
      UserPage virtualAddress ∧ EntryAddress physicalAddress ∧
      leaves (virtualAddress / vmmPageSize) = 0 ∧
      PagingInvariant memoryMap after tables' (leaves.set (virtualAddress / vmmPageSize)
        (leafEntry physicalAddress writable executable)) others ∧
      Tight tables' (leaves.set (virtualAddress / vmmPageSize)
        (leafEntry physicalAddress writable executable)) := by
  rw [ring3UserMapPagePermissions]
  split
  · exact Or.inl ⟨paging, rfl, invariant⟩
  rename_i checked
  simp only [not_or, Bool.not_eq_false, pageAligned_iff, canonicalLower_iff] at checked
  rcases checked with ⟨-, -, lower, aligned, -, usable, -, -⟩
  have user : UserPage virtualAddress := ⟨lower, aligned⟩
  have indices := tableIndex_ancestor virtualAddress
  generalize pageIs : virtualAddress / vmmPageSize = page at *
  have pageLt : page < 2 ^ 35 := pageIs ▸ user.page_lt
  cases pointer : ring3TablePointer paging paging.space.rootPhysical with
  | none => exact Or.inl ⟨paging, rfl, invariant⟩
  | some pml4 =>
    rcases highHalf_of_root invariant.accepted pointer with ⟨high, rfl⟩
    have address := (usable_frame invariant.accepted high invariant.ledger.invariant usable).1
    have start : Descent memoryMap leaves others tables page 0 paging []
        paging.space.rootPhysical tables :=
      ⟨invariant, Undo.done, by rw [(ancestor_bounds pageLt).1]; exact invariant.shape.root,
        fun _ _ before at' => Or.inl ⟨before, at'⟩, high⟩
    simp only [indices]
    rcases start.next pageLt (by decide) false with
      ⟨after, result, kept⟩ | ⟨pdpt, first, paging₁, tables₁, result, descent₁⟩
    · simp [*]
    rw [result]
    simp only [List.append_nil] at descent₁ ⊢
    rcases descent₁.next pageLt (by decide) true with
      ⟨after, result, kept⟩ | ⟨pd, second, paging₂, tables₂, result, descent₂⟩
    · rw [result]
      exact Or.inl ⟨_, rfl, rollbackCreatedTables_undo _ kept descent₁.undo⟩
    rw [result]
    simp only
    rcases descent₂.next pageLt (by decide) true with
      ⟨after, result, kept⟩ | ⟨pt, third, paging₃, tables₃, result, descent₃⟩
    · rw [result]
      exact Or.inl ⟨_, rfl, rollbackCreatedTables_undo _ kept descent₂.undo⟩
    rw [result]
    have invariant₃ := descent₃.invariant
    have at' : tables₃ 3 (page / 512) = some pt := by
      have here := descent₃.here
      exact here
    have entry := invariant₃.shape.leaf page pt at'
    simp only [ancestor_four, entry]
    split
    · exact Or.inl ⟨_, rfl, rollbackCreatedTables_undo _ invariant₃ descent₃.undo⟩
    rename_i empty
    have readings := leafEntry_readings address writable executable
    refine Or.inr ⟨_, tables₃, rfl, user, address, Decidable.not_not.mp empty,
      ⟨invariant₃.shape.writeLeaf at' fun _ => readings.1,
        invariant₃.ledger.of_same invariant₃.ledger.invariant (fun _ => rfl)
          (fun _ => rfl) rfl rfl, invariant₃.accepted⟩,
      fun depth slot frame positive otherAt => ?_⟩
    rcases descent₃.grown _ _ _ otherAt with ⟨before, beforeAt⟩ | onPath
    · rcases tight depth slot before positive beforeAt with ⟨other, mapped, isSlot⟩
      grind [LeafMap.set]
    grind [LeafMap.set]

/-! ## Walking -/

theorem addressSpaceWalk_user (invariant : PagingInvariant memoryMap paging tables leaves others)
    {virtualAddress : Nat} (user : UserPage virtualAddress) :
    (leaves (virtualAddress / vmmPageSize) = 0 ∧ addressSpaceWalk paging virtualAddress = .unmapped) ∨
    ∃ pdpt pd pt, tables 1 (ancestor (virtualAddress / vmmPageSize) 1) = some pdpt ∧
      tables 2 (ancestor (virtualAddress / vmmPageSize) 2) = some pd ∧
      tables 3 (ancestor (virtualAddress / vmmPageSize) 3) = some pt ∧
      leaves (virtualAddress / vmmPageSize) ≠ 0 ∧ addressSpaceWalk paging virtualAddress = .mapped
        ⟨paging.space.rootPhysical, ancestor (virtualAddress / vmmPageSize) 1 % 512,
          pdpt, ancestor (virtualAddress / vmmPageSize) 2 % 512,
          pd, ancestor (virtualAddress / vmmPageSize) 3 % 512, pt, virtualAddress / vmmPageSize % 512⟩ := by
  have shape := invariant.shape
  have lower := canonical_and_lower_iff.mpr user.lower
  have indices := tableIndex_ancestor virtualAddress
  have pageLt := user.page_lt
  have admitted : ¬ (paging.addressSpaceInitialized = false ∨ paging.space.initialized = false ∨
      pageAligned virtualAddress = false ∨ addressSpaceCanonical virtualAddress = false ∨
      addressSpaceSharedPml4Start ≤ tableIndex virtualAddress 39) := by
    rw [shape.ready, shape.spaceReady, pageAligned_iff.mpr user.aligned, lower.1]
    simp only [Bool.true_eq_false, false_or, Nat.not_le]
    exact lower.2
  simp only [addressSpaceWalk]
  rw [if_neg admitted, shape.pointer _ _ _ shape.root]
  simp only [indices]
  generalize virtualAddress / vmmPageSize = page at *
  -- One level of the walk, in terms of the tables.
  have level : ∀ depth frame large, depth < 3 → tables depth (ancestor page depth) = some frame →
      (tables (depth + 1) (ancestor page (depth + 1)) = none ∧
        walkEntry paging (paging.memory frame (ancestor page (depth + 1) % 512)) large = .unmapped) ∨
      ∃ child, tables (depth + 1) (ancestor page (depth + 1)) = some child ∧
        walkEntry paging (paging.memory frame (ancestor page (depth + 1) % 512)) large =
          .table child := by
    intro depth frame large notLast here
    have at' : tables depth (ancestor page (depth + 1) / 512) = some frame := by
      rw [ancestor_div (by omega)]
      exact here
    have inRoot : depth = 0 → ancestor page (depth + 1) < 256 := by
      rintro rfl
      exact (ancestor_bounds pageLt).2
    rw [shape.entry depth _ frame notLast at' inRoot]
    cases below : tables (depth + 1) (ancestor page (depth + 1)) with
    | none => exact Or.inl ⟨rfl, rfl⟩
    | some child =>
      rcases tableEntry_readings (shape.entryAddress below) with ⟨present, -, small, address⟩
      have contained := (ownedContains_iff shape.spaceReady).mpr (shape.mem_owned below)
      refine Or.inr ⟨child, rfl, ?_⟩
      simp only [walkEntry, entryFor, present, if_false, small, ne_eq, not_true_eq_false,
        and_false, address, contained, Bool.true_eq_false, shape.pointer _ _ _ below]
  -- A page with a missing table is not mapped.
  have missing : ∀ depth, depth < 3 → tables (depth + 1) (ancestor page (depth + 1)) = none →
      leaves page = 0 := by
    intro depth notLast absent
    by_contra mapped
    rcases shape.covered page mapped with ⟨pt, ptAt⟩
    have at3 : tables 3 (ancestor page 3) = some pt := by
      exact ptAt
    have at2 := (shape.parent _ _ _ at3).1
    rw [ancestor_div (by decide)] at at2
    rcases at2 with ⟨pd, pdAt⟩
    have at1 := (shape.parent _ _ _ pdAt).1
    rw [ancestor_div (by decide)] at at1
    rcases at1 with ⟨pdpt, pdptAt⟩
    have which : depth = 0 ∨ depth = 1 ∨ depth = 2 := by omega
    rcases which with rfl | rfl | rfl
    · rw [pdptAt] at absent
      cases absent
    · rw [pdAt] at absent
      cases absent
    · rw [at3] at absent
      cases absent
  have rootAt : tables 0 (ancestor page 0) = some paging.space.rootPhysical := by
    rw [(ancestor_bounds pageLt).1]
    exact shape.root
  rcases level 0 _ false (by decide) rootAt with ⟨absent, result⟩ | ⟨pdpt, pdptAt, result⟩
  · grind
  rw [result]
  simp only
  rcases level 1 _ true (by decide) pdptAt with ⟨absent, result⟩ | ⟨pd, pdAt, result⟩
  · grind
  rw [result]
  simp only
  rcases level 2 _ true (by decide) pdAt with ⟨absent, result⟩ | ⟨pt, ptAt, result⟩
  · grind
  rw [result]
  have leafAt : tables 3 (page / 512) = some pt := by
    have here := ptAt
    exact here
  simp only [ancestor_four, shape.leaf page pt leafAt]
  by_cases mapped : leaves page = 0
  · simp [*]
  · rw [if_neg (shape.present page mapped)]
    simp [*]

theorem addressSpaceWalk_notUser {virtualAddress : Nat} (notUser : ¬ UserPage virtualAddress)
    (paging : Paging) : addressSpaceWalk paging virtualAddress = .error := by
  simp only [addressSpaceWalk]
  rw [if_pos]
  by_contra admitted
  simp only [not_or, Bool.not_eq_false, Nat.not_le] at admitted
  exact notUser ⟨canonical_and_lower_iff.mp ⟨admitted.2.2.2.1, admitted.2.2.2.2⟩,
    pageAligned_iff.mp admitted.2.2.1⟩

/-- The frame that the entry of a page stands for. -/
def leafTarget (entry : Nat) : Option Nat :=
  if entry = 0 then none else some (entry &&& entryAddressMask)

theorem addressSpaceTranslate_eq (invariant : PagingInvariant memoryMap paging tables leaves others)
    (virtualAddress : Nat) :
    (UserPage virtualAddress → addressSpaceTranslate paging virtualAddress =
      leafTarget (leaves (virtualAddress / vmmPageSize))) ∧
    (¬ UserPage virtualAddress → addressSpaceTranslate paging virtualAddress = none) := by
  constructor
  · intro user
    rcases addressSpaceWalk_user invariant user with
      ⟨unmapped, walk⟩ | ⟨pdpt, pd, pt, -, -, ptAt, mapped, walk⟩
    · rw [addressSpaceTranslate, walk, unmapped]
      rfl
    have leafAt : tables 3 (virtualAddress / vmmPageSize / 512) = some pt := by
      exact ptAt
    have entry := invariant.shape.leaf _ pt leafAt
    rw [addressSpaceTranslate, walk, leafTarget, if_neg mapped]
    simp only [entry]
    generalize leaves (virtualAddress / vmmPageSize) = value
    have low : value &&& entryAddressMask &&& (vmmPageSize - 1) = 0 := by
      rw [Nat.and_assoc, show entryAddressMask &&& (vmmPageSize - 1) = 0 by decide, Nat.and_zero]
    have other : value &&& entryAddressMask &&& entryOtherBits = 0 := by
      rw [Nat.and_assoc, show entryAddressMask &&& entryOtherBits = 0 by decide, Nat.and_zero]
    simp_all [addressSpacePhysicalSupported, entryAddressMask, pageAligned]
  · intro notUser
    rw [addressSpaceTranslate, addressSpaceWalk_notUser notUser]

/-! ## Reclaiming -/

theorem ancestor_eq_of_le {page other depth below : Nat} (le : depth ≤ below) (last : below ≤ 4)
    (same : ancestor page below = ancestor other below) :
    ancestor page depth = ancestor other depth := by
  induction below with
  | zero =>
    rw [Nat.le_zero.mp le]
    exact same
  | succ below ih =>
    rcases Nat.eq_or_lt_of_le le with rfl | less
    · exact same
    grind [ancestor_div]

/-- Every table has a mapped page below it, except perhaps those on the way
to one page down to a depth. -/
def TightExcept (tables : TableMap) (leaves : LeafMap) (page bound : Nat) : Prop :=
  ∀ depth slot frame, 1 ≤ depth → tables depth slot = some frame →
    (∃ other, leaves other ≠ 0 ∧ ancestor other depth = slot) ∨
      (depth ≤ bound ∧ slot = ancestor page depth)

theorem TightExcept.tight_of_leaf {page bound other : Nat}
    (tight : TightExcept tables leaves page bound) (last : bound ≤ 4)
    (mapped : leaves other ≠ 0) (same : ancestor other bound = ancestor page bound) :
    Tight tables leaves := by
  intro depth slot frame positive at'
  rcases tight depth slot frame positive at' with found | ⟨shallow, isSlot⟩
  · exact found
  grind [ancestor_eq_of_le]

theorem addressSpaceTableEmpty_iff (shape : PagingShape paging tables leaves)
    {depth slot child : Nat} (present : tables (depth + 1) slot = some child)
    (notLast : depth < 3) :
    addressSpaceTableEmpty paging.memory child = true ↔ Childless tables leaves (depth + 1) slot := by
  rw [addressSpaceTableEmpty, decide_eq_true_eq]
  constructor
  · intro empty
    refine ⟨fun below other otherAt isSlot => ?_, fun last page isSlot => ?_⟩
    · have shallow := shape.shallow _ _ _ otherAt
      have here : tables (depth + 1) (below / 512) = some child := isSlot ▸ present
      have entry := shape.entry (depth + 1) below child (by omega) here (fun zero => by omega)
      rw [empty (below % 512) (Nat.mod_lt below (by decide)), otherAt] at entry
      have readings := tableEntry_readings (shape.entryAddress otherAt)
      rw [entryFor] at entry
      grind
    · rw [last, ← isSlot] at present
      rw [← shape.leaf page child present]
      exact empty (page % 512) (Nat.mod_lt page (by decide))
  · intro childless index inside
    simp only [addressSpacePageEntries] at inside
    have parent : (slot * 512 + index) / 512 = slot := by omega
    have position : (slot * 512 + index) % 512 = index := by omega
    by_cases last : depth + 1 = 3
    · have at3 : tables 3 ((slot * 512 + index) / 512) = some child := by
        rw [parent, ← last]
        exact present
      have entry := shape.leaf _ child at3
      rw [position] at entry
      rw [entry]
      exact childless.leaves last _ parent
    · have here : tables (depth + 1) ((slot * 512 + index) / 512) = some child := by
        rw [parent]
        exact present
      have entry := shape.entry (depth + 1) _ child (by omega) here (fun zero => by omega)
      rw [position] at entry
      rw [entry]
      cases below : tables (depth + 1 + 1) (slot * 512 + index) with
      | none => rfl
      | some grandchild => exact absurd parent (childless.tables _ _ below)

/-- One level of reclaiming on the way back from a page: the table is
detached, or something else is mapped below it. -/
theorem reclaimTable_cases (invariant : PagingInvariant memoryMap paging tables leaves others)
    {page depth frame child : Nat} (notLast : depth < 3)
    (tight : TightExcept tables leaves page (depth + 1))
    (at' : tables depth (ancestor page depth) = some frame)
    (present : tables (depth + 1) (ancestor page (depth + 1)) = some child) :
    (reclaimTable paging frame (ancestor page (depth + 1) % 512) child = (true, false, paging) ∧
      Tight tables leaves) ∨
    ∃ after, reclaimTable paging frame (ancestor page (depth + 1) % 512) child = (true, true, after) ∧
      PagingInvariant memoryMap after
        (tables.set (depth + 1) (ancestor page (depth + 1)) none) leaves others ∧
      TightExcept (tables.set (depth + 1) (ancestor page (depth + 1)) none) leaves page depth := by
  have shape := invariant.shape
  have contained := (ownedContains_iff shape.spaceReady).mpr (shape.mem_owned present)
  have empty := addressSpaceTableEmpty_iff shape present notLast
  have parentAt : tables depth (ancestor page (depth + 1) / 512) = some frame := by
    rw [ancestor_div (by omega)]
    exact at'
  rw [reclaimTable]
  by_cases childless : Childless tables leaves (depth + 1) (ancestor page (depth + 1))
  · rcases invariant.release notLast parentAt present childless with ⟨after, result, kept⟩
    rw [if_pos ⟨empty.mpr childless, contained⟩]
    simp only [result]
    refine Or.inr ⟨after, rfl, kept, fun otherDepth slot other positive otherAt => ?_⟩
    by_cases same : otherDepth = depth + 1 ∧ slot = ancestor page (depth + 1)
    · simp_all [TableMap.set_same]
    rw [TableMap.set_other same] at otherAt
    rcases tight _ _ _ positive otherAt with found | ⟨shallow, isSlot⟩
    · exact Or.inl found
    grind
  · rw [if_neg fun both => childless (empty.mp both.1)]
    refine Or.inl ⟨rfl, ?_⟩
    -- A child that is left has a mapped page below it, which is not below the page's own table.
    have left : (∃ below other, tables (depth + 1 + 1) below = some other ∧
          below / 512 = ancestor page (depth + 1)) ∨
        (depth + 1 = 3 ∧ ∃ other, leaves other ≠ 0 ∧ other / 512 = ancestor page (depth + 1)) := by
      by_contra none'
      rw [not_or] at none'
      refine childless ⟨fun below other otherAt isSlot => none'.1 ⟨below, other, otherAt, isSlot⟩,
        fun last other isSlot => ?_⟩
      by_contra mapped
      exact none'.2 ⟨last, other, mapped, isSlot⟩
    rcases left with ⟨below, other, otherAt, isSlot⟩ | ⟨last, other, mapped, isSlot⟩
    · rcases tight _ _ _ (by omega) otherAt with ⟨leaf, mapped, isBelow⟩ | ⟨impossible, -⟩
      · refine tight.tight_of_leaf (by omega) mapped ?_
        rw [← ancestor_div (by omega), isBelow, isSlot]
      · omega
    · refine tight.tight_of_leaf (by omega) mapped ?_
      rw [← isSlot, last, ← ancestor_div (by decide), ancestor_four]

/-- An unmapping call clears a mapped page and leaves every other page alone;
for an address that is not mapped it does nothing. -/
theorem addressSpaceUnmapPage_cases (invariant : PagingInvariant memoryMap paging tables leaves others)
    (tight : Tight tables leaves) (virtualAddress : Nat) :
    (addressSpaceUnmapPage paging virtualAddress = (false, paging)) ∨
    ∃ after tables', addressSpaceUnmapPage paging virtualAddress = (true, after) ∧
      UserPage virtualAddress ∧ leaves (virtualAddress / vmmPageSize) ≠ 0 ∧
      PagingInvariant memoryMap after tables' (leaves.set (virtualAddress / vmmPageSize) 0) others ∧
      Tight tables' (leaves.set (virtualAddress / vmmPageSize) 0) := by
  have shape := invariant.shape
  have ordinary : ¬ paging.space.bootstrap = true := by
    rw [shape.ordinary]
    exact Bool.noConfusion
  rw [addressSpaceUnmapPage, if_neg ordinary]
  by_cases user : UserPage virtualAddress
  · rcases addressSpaceWalk_user invariant user with
      ⟨-, walk⟩ | ⟨pdpt, pd, pt, pdptAt, pdAt, ptAt, mapped, walk⟩
    · rw [walk]
      exact Or.inl rfl
    · rw [walk]
      have pageLt := user.page_lt
      generalize virtualAddress / vmmPageSize = page at *
      have rootAt : tables 0 (ancestor page 0) = some paging.space.rootPhysical := by
        rw [(ancestor_bounds pageLt).1]
        exact shape.root
      have leafAt : tables 3 (page / 512) = some pt := by
        exact ptAt
      have cleared : PagingInvariant memoryMap
          { paging with memory := paging.memory.store pt (page % 512) 0 } tables
          (leaves.set page 0) others :=
        ⟨shape.writeLeaf leafAt fun wrong => absurd rfl wrong,
          invariant.ledger.of_same invariant.ledger.invariant (fun _ => rfl) (fun _ => rfl) rfl rfl,
          invariant.accepted⟩
      have tight₃ : TightExcept tables (leaves.set page 0) page 3 := by
        intro depth slot frame positive at'
        rcases tight depth slot frame positive at' with ⟨other, isMapped, isSlot⟩
        by_cases same : other = page
        · exact Or.inr ⟨shape.shallow _ _ _ at', by rw [← isSlot, same]⟩
        · grind [LeafMap.set]
      simp only
      rcases reclaimTable_cases cleared (by decide) tight₃ pdAt ptAt with
        ⟨result, tight'⟩ | ⟨paging₂, result, invariant₂, tight₂⟩
      · grind
      rw [result]
      simp only
      have pdptAt₂ : tables.set (2 + 1) (ancestor page (2 + 1)) none 1 (ancestor page 1) = some pdpt := by
        exact pdptAt
      have pdAt₂ : tables.set (2 + 1) (ancestor page (2 + 1)) none 2 (ancestor page 2) = some pd := by
        exact pdAt
      rcases reclaimTable_cases invariant₂ (by decide) tight₂ pdptAt₂ pdAt₂ with
        ⟨result, tight'⟩ | ⟨paging₁, result, invariant₁, tight₁⟩
      · grind
      rw [result]
      simp only
      have rootAt₁ : (tables.set (2 + 1) (ancestor page (2 + 1)) none).set (1 + 1)
          (ancestor page (1 + 1)) none 0 (ancestor page 0) = some paging.space.rootPhysical := by
        exact rootAt
      have pdptAt₁ : (tables.set (2 + 1) (ancestor page (2 + 1)) none).set (1 + 1)
          (ancestor page (1 + 1)) none 1 (ancestor page 1) = some pdpt := by
        exact pdptAt
      rcases reclaimTable_cases invariant₁ (by decide) tight₁ rootAt₁ pdptAt₁ with
        ⟨result, tight'⟩ | ⟨paging₀, result, invariant₀, tight₀⟩
      · grind
      rw [result]
      refine Or.inr ⟨_, _, rfl, user, mapped, invariant₀, ?_⟩
      intro depth slot frame positive at'
      rcases tight₀ depth slot frame positive at' with found | ⟨impossible, -⟩
      · exact found
      · omega
  · rw [addressSpaceWalk_notUser user]
    exact Or.inl rfl

end Steps

end BoringOS.Memory
