import BoringOS.Memory.AddressSpaceSteps
import BoringOS.Memory.PmmRuns

namespace BoringOS.Memory

open Library

/-!
# Every run of an address space

A trace records, beside the state, which virtual page the successful calls
have mapped to which frame, and which frames the rest of the kernel holds.
The rest of the kernel takes its own steps between the calls: it allocates
and releases frames of its own, so that a table can be refused at any point,
it writes to frames that are no tables of this address space, and it loads
other roots.
-/

/-- A call on the address space, or a step of the rest of the kernel. -/
inductive PagingCall where
  | map (virtualAddress physicalAddress : Nat) (writable executable : Bool)
  | unmap (virtualAddress : Nat)
  | otherAlloc (minimum maximum : Nat)
  | otherFree (frame : Nat)
  | otherStore (frame index value : Nat)
  | loadCr3 (value : Nat)
deriving DecidableEq, Repr

/-- The address space with the record of its mappings and of the frames that
others hold. -/
structure PagingTrace where
  paging : Paging
  mapped : Nat → Option Nat
  others : Nat → Bool

/-- The record with the entry of one address replaced. -/
def PagingTrace.record (mapped : Nat → Option Nat) (virtualAddress : Nat) (target : Option Nat) :
    Nat → Option Nat :=
  fun other => if other = virtualAddress then target else mapped other

/-- The rest of the kernel leaves the tables alone that the address space owns
or shares. -/
def PagingTrace.foreign (trace : PagingTrace) (frame : Nat) : Bool :=
  !trace.paging.space.ownedTableFrames.contains frame && frame != trace.paging.bootstrapRootPhysical

def PagingTrace.step (trace : PagingTrace) : PagingCall → PagingTrace
  | .map virtualAddress physicalAddress writable executable =>
    let result := ring3UserMapPagePermissions trace.paging virtualAddress physicalAddress
      writable executable
    { trace with
      paging := result.2
      mapped :=
        if result.1 then record trace.mapped virtualAddress (some physicalAddress)
        else trace.mapped }
  | .unmap virtualAddress =>
    let result := addressSpaceUnmapPage trace.paging virtualAddress
    { trace with
      paging := result.2
      mapped := if result.1 then record trace.mapped virtualAddress none else trace.mapped }
  | .otherAlloc minimum maximum =>
    let result := pmmAllocFrameInRange trace.paging.pmm minimum maximum
    { trace with
      paging := { trace.paging with pmm := result.2 }
      others :=
        match result.1 with
        | none => trace.others
        | some frame => PmmTrace.mark trace.others frame true }
  | .otherFree frame =>
    if trace.foreign frame then
      let result := pmmFreeFrame trace.paging.pmm frame
      { trace with
        paging := { trace.paging with pmm := result.2 }
        others :=
          if result.1 then PmmTrace.mark trace.others frame false else trace.others }
    else trace
  | .otherStore frame index value =>
    if trace.foreign frame then
      { trace with
        paging := { trace.paging with
          memory := trace.paging.memory.store frame index value } }
    else trace
  | .loadCr3 value => { trace with paging := { trace.paging with cr3 := value } }

/-- The trace of an address space that has just been created. -/
def PagingTrace.initial (start : Paging) : PagingTrace where
  paging := (addressSpaceCreate start).2
  mapped := fun _ => none
  others := pmmFrameTaken start.pmm

/-- The record agrees with the tables in memory. -/
structure PagingTrace.Agrees (memoryMap : List MemmapEntry) (trace : PagingTrace)
    (tables : TableMap) (leaves : LeafMap) : Prop where
  invariant : PagingInvariant memoryMap trace.paging tables leaves trace.others
  tight : Tight tables leaves
  user : ∀ virtualAddress, UserPage virtualAddress →
    trace.mapped virtualAddress = leafTarget (leaves (virtualAddress / vmmPageSize))
  beyond : ∀ virtualAddress, ¬ UserPage virtualAddress → trace.mapped virtualAddress = none

def PagingTrace.Sound (memoryMap : List MemmapEntry) (trace : PagingTrace) : Prop :=
  ∃ tables leaves, trace.Agrees memoryMap tables leaves

/-! ## Steps -/

namespace PagingTrace

variable {memoryMap : List MemmapEntry} {trace : PagingTrace}

theorem foreign_iff {frame : Nat} : trace.foreign frame = true ↔
    frame ∉ trace.paging.space.ownedTableFrames ∧ frame ≠ trace.paging.bootstrapRootPhysical := by
  simp only [foreign, Bool.and_eq_true, Bool.not_eq_true', bne_iff_ne, ne_eq,
    List.contains_eq_mem, decide_eq_false_iff_not]

theorem page_injective {virtualAddress other : Nat} (user : UserPage virtualAddress)
    (otherUser : UserPage other) (same : other / vmmPageSize = virtualAddress / vmmPageSize) :
    other = virtualAddress := by
  have aligned := user.aligned
  have otherAligned := otherUser.aligned
  simp only [vmmPageSize] at *
  omega

theorem record_leaf {tables : TableMap} {leaves : LeafMap}
    (agrees : trace.Agrees memoryMap tables leaves) {virtualAddress value : Nat}
    (user : UserPage virtualAddress) {target : Option Nat} (read : leafTarget value = target) :
    (∀ other, UserPage other → record trace.mapped virtualAddress target other =
        leafTarget (leaves.set (virtualAddress / vmmPageSize) value (other / vmmPageSize))) ∧
      ∀ other, ¬ UserPage other → record trace.mapped virtualAddress target other = none := by
  constructor
  · intro other otherUser
    rw [record, LeafMap.set]
    by_cases same : other = virtualAddress
    · grind
    · rw [if_neg same, if_neg fun samePage => same (page_injective user otherUser samePage)]
      exact agrees.user other otherUser
  · intro other notUser
    rw [record, if_neg]
    · exact agrees.beyond other notUser
    · rintro rfl
      exact notUser user

/-- A change of the allocator by somebody else. -/
theorem ledger_changed {paging : Paging} {others : Nat → Bool} {pmm : Pmm} {frame : Nat}
    {value : Bool} (ledger : FrameLedger memoryMap paging others)
    (notOwned : frame ∉ paging.space.ownedTableFrames)
    (notBootstrap : value = false → frame ≠ paging.bootstrapRootPhysical)
    (changed : PmmChanged memoryMap paging.pmm pmm frame value) :
    FrameLedger memoryMap { paging with pmm := pmm } (PmmTrace.mark others frame value) := by
  refine ⟨changed.invariant, fun other => ?_, fun other member => ?_, fun usable => ?_⟩
  · rw [changed.taken, PmmTrace.mark]
    by_cases same : other = frame
    · simp [*]
    · rw [if_neg same, if_neg same]
      exact ledger.taken other
  · rw [PmmTrace.mark, if_neg]
    · exact ledger.apart other member
    · rintro rfl
      exact notOwned member
  · rw [changed.usable] at usable
    rw [PmmTrace.mark]
    split
    · simp_all
    · exact ledger.reserved usable

theorem step_sound (trace : PagingTrace) (call : PagingCall) (sound : trace.Sound memoryMap) :
    (trace.step call).Sound memoryMap := by
  rcases sound with ⟨tables, leaves, agrees⟩
  have invariant := agrees.invariant
  cases call with
  | map virtualAddress physicalAddress writable executable =>
    rcases ring3UserMapPagePermissions_cases invariant agrees.tight virtualAddress physicalAddress
      writable executable with
      ⟨after, result, kept⟩ | ⟨after, tables', result, user, address, -, kept, tight⟩
    · simp only [step, result]
      exact ⟨tables, leaves, kept, agrees.tight, agrees.user, agrees.beyond⟩
    simp only [step, result, if_true]
    have readings := leafEntry_readings address writable executable
    have read : leafTarget (leafEntry physicalAddress writable executable) = some physicalAddress := by
      rw [leafTarget, if_neg, readings.2]
      intro zero
      rw [zero] at readings
      exact readings.1 (Nat.zero_and _)
    rcases record_leaf agrees user read with ⟨onUser, onOthers⟩
    exact ⟨tables', _, kept, tight, onUser, onOthers⟩
  | unmap virtualAddress =>
    rcases addressSpaceUnmapPage_cases invariant agrees.tight virtualAddress with
      result | ⟨after, tables', result, user, -, kept, tight⟩
    · simp only [step, result]
      exact ⟨tables, leaves, invariant, agrees.tight, agrees.user, agrees.beyond⟩
    simp only [step, result, if_true]
    have read : leafTarget 0 = none := rfl
    rcases record_leaf agrees user read with ⟨onUser, onOthers⟩
    exact ⟨tables', _, kept, tight, onUser, onOthers⟩
  | otherAlloc minimum maximum =>
    rcases pmmAllocFrameInRange_frames invariant.ledger.invariant minimum maximum with
      result | ⟨frame, next, result, free, -, changed⟩
    · simp only [step, result]
      exact ⟨tables, leaves, agrees⟩
    simp only [step, result]
    have notOwned : frame ∉ trace.paging.space.ownedTableFrames := by
      intro member
      rw [(invariant.ledger.taken frame).mpr (Or.inl member)] at free
      cases free
    exact ⟨tables, leaves, ⟨invariant.shape.frame_rule rfl rfl rfl rfl fun _ _ _ => rfl,
      ledger_changed invariant.ledger notOwned Bool.noConfusion changed,
      invariant.accepted⟩, agrees.tight, agrees.user, agrees.beyond⟩
  | otherFree frame =>
    rw [step]
    split
    · rename_i isForeign
      rw [foreign_iff] at isForeign
      rcases pmmFreeFrame_frames invariant.ledger.invariant frame with
        ⟨-, result⟩ | ⟨next, -, result, changed⟩
      · simp only [result]
        exact ⟨tables, leaves, agrees⟩
      simp only [result, if_true]
      exact ⟨tables, leaves, ⟨invariant.shape.frame_rule rfl rfl rfl rfl fun _ _ _ => rfl,
        ledger_changed invariant.ledger isForeign.1 (fun _ => isForeign.2) changed,
        invariant.accepted⟩, agrees.tight, agrees.user, agrees.beyond⟩
    · exact ⟨tables, leaves, agrees⟩
  | otherStore frame index value =>
    rw [step]
    split
    · rename_i isForeign
      rw [foreign_iff] at isForeign
      refine ⟨tables, leaves, ⟨invariant.shape.frame_rule rfl rfl rfl rfl ?_,
        invariant.ledger.of_same invariant.ledger.invariant (fun _ => rfl) (fun _ => rfl) rfl rfl,
        invariant.accepted⟩, agrees.tight, agrees.user, agrees.beyond⟩
      grind [TableMemory.store]
    · exact ⟨tables, leaves, agrees⟩
  | loadCr3 value =>
    exact ⟨tables, leaves, ⟨invariant.shape.frame_rule rfl rfl rfl rfl fun _ _ _ => rfl,
      invariant.ledger.of_same invariant.ledger.invariant (fun _ => rfl) (fun _ => rfl) rfl rfl,
      invariant.accepted⟩, agrees.tight, agrees.user, agrees.beyond⟩

end PagingTrace

/-! ## Creation -/

/-- The machine before an address space is created: the allocator is in a
state that it can reach, `vmm_init` has accepted the direct map, and the boot
tables are not in a frame that the allocator could still hand out. -/
structure PagingStart (memoryMap : List MemmapEntry) (start : Paging) : Prop where
  reached : ∃ calls, start.pmm = (run PmmTrace.step (PmmTrace.initial memoryMap) calls).pmm
  initialized : (pmmInit memoryMap).1 = true
  accepted : vmmHhdmAccepted start.hhdmOffset memoryMap = true
  reserved : pmmFrameIsUsable start.pmm start.bootstrapRootPhysical = true →
    pmmFrameTaken start.pmm start.bootstrapRootPhysical = true
  created : (addressSpaceCreate start).1 = true

variable {memoryMap : List MemmapEntry}

theorem PagingStart.invariant {start : Paging}
    (begins : PagingStart memoryMap start) : PmmInvariant memoryMap start.pmm := by
  rcases begins.reached with ⟨calls, reached⟩
  rw [reached]
  exact (PmmTrace.run_sound begins.initialized calls).invariant

theorem addressSpaceAllocateTable_first {memoryMap : List MemmapEntry} {paging : Paging}
    (invariant : PmmInvariant memoryMap paging.pmm) (blank : paging.space = ⟨0, [], false, true⟩) :
    (∃ after, addressSpaceAllocateTable paging = (none, after)) ∨
    ∃ root pmm, addressSpaceAllocateTable paging = (some root,
        { paging with
          memory := paging.memory.zeroTable root
          pmm := pmm
          space := ⟨0, [root], false, true⟩ }) ∧
      pmmFrameTaken paging.pmm root = false ∧ pmmFrameIsUsable paging.pmm root = true ∧
      PmmChanged memoryMap paging.pmm pmm root true := by
  have admitted : ¬ (paging.space.initialized = false ∨
      addressSpaceMaxOwnedTableFrames ≤ paging.space.ownedTableFrames.length) := by
    rw [blank]
    decide
  rw [addressSpaceAllocateTable, if_neg admitted, pmmAllocFrame]
  rcases pmmAllocFrameInRange_frames invariant 0 uint64Max with
    result | ⟨root, next, result, free, usable, changed⟩
  · rw [result]
    exact Or.inl ⟨_, rfl⟩
  rw [result]
  have added : ownedAdd paging.space root = some ⟨0, [root], false, true⟩ := by
    rw [blank]
    rfl
  grind

/-- A new address space has taken one frame for its root, and copied the
kernel half of the boot root into it. -/
theorem addressSpaceCreate_spec {start : Paging}
    (created : (addressSpaceCreate start).1 = true) (invariant : PmmInvariant memoryMap start.pmm) :
    ∃ root pmm after, addressSpaceCreate start = (true, after) ∧
      after = { start with
        memory := copyKernelHalf (start.memory.zeroTable root) start.bootstrapRootPhysical root
        pmm := pmm
        space := ⟨root, [root], false, true⟩ } ∧
      addressSpaceKernelMappingsValid after = true ∧
      pmmFrameTaken start.pmm root = false ∧ pmmFrameIsUsable start.pmm root = true ∧
      PmmChanged memoryMap start.pmm pmm root true := by
  rw [addressSpaceCreate] at created ⊢
  split at created
  · cases created
  rename_i admitted
  rw [if_neg admitted]
  cases pointer : addressSpaceTablePointer start start.bootstrapRootPhysical with
  | none =>
    grind
  | some bootstrapRoot =>
    have same := (entryAddress_of_pointer pointer).1
    subst same
    rw [pointer] at created
    rcases @addressSpaceAllocateTable_first memoryMap { start with
        space := { addressSpaceClear with initialized := true } } invariant rfl with
      ⟨after, result⟩ | ⟨root, pmm, result, free, usable, changed⟩
    · grind
    · rw [result] at created ⊢
      grind

/-- The tables of an address space that has only its root. -/
def rootTable (root : Nat) : TableMap :=
  fun depth slot => if depth = 0 ∧ slot = 0 then some root else none

theorem rootTable_eq_some {root depth slot frame : Nat} :
    rootTable root depth slot = some frame ↔ depth = 0 ∧ slot = 0 ∧ root = frame := by
  rw [rootTable]
  split <;> simp_all

/-- What the check of the kernel half says about two distinct roots. -/
theorem kernelMappingsValid_elim {paging : Paging} (valid : addressSpaceKernelMappingsValid paging = true) :
    paging.addressSpaceInitialized = true ∧
      addressSpaceTablePointer paging paging.space.rootPhysical = some paging.space.rootPhysical ∧
      addressSpaceTablePointer paging paging.bootstrapRootPhysical = some paging.bootstrapRootPhysical ∧
      (∀ index, addressSpaceSharedPml4Start ≤ index → index < addressSpacePageEntries →
        paging.memory paging.space.rootPhysical index =
          paging.memory paging.bootstrapRootPhysical index) ∧
      paging.memory paging.space.rootPhysical addressSpaceHhdmPml4Index &&& entryPresent ≠ 0 ∧
      paging.memory paging.space.rootPhysical addressSpaceHeapPml4Index &&& entryPresent ≠ 0 ∧
      paging.memory paging.space.rootPhysical addressSpaceKernelPml4Index &&& entryPresent ≠ 0 := by
  rw [addressSpaceKernelMappingsValid] at valid
  split at valid
  · cases valid
  split at valid
  · rename_i bootstrapRoot root bootstrapPointer rootPointer
    have sameBoot := (entryAddress_of_pointer bootstrapPointer).1
    have sameRoot := (entryAddress_of_pointer rootPointer).1
    simp_all
  · cases valid

theorem PagingTrace.initial_sound {start : Paging}
    (begins : PagingStart memoryMap start) : (PagingTrace.initial start).Sound memoryMap := by
  rcases addressSpaceCreate_spec begins.created begins.invariant with
    ⟨root, pmm, after, result, afterIs, valid, free, usable, changed⟩
  have bootstrapApart : start.bootstrapRootPhysical ≠ root := by
    rintro same
    rw [← same] at free usable
    rw [begins.reserved usable] at free
    cases free
  refine ⟨rootTable root, fun _ => 0, ?_, ?_, fun _ _ => rfl, fun _ _ => rfl⟩
  · rw [PagingTrace.initial, result]
    refine ⟨?_, ?_, ?_⟩
    · rcases kernelMappingsValid_elim valid with
        ⟨ready, rootPointer, bootstrapPointer, shared, hhdm, heap, kernel⟩
      have spaceIs : after.space = ⟨root, [root], false, true⟩ := by rw [afterIs]
      have lower : ∀ index < addressSpaceSharedPml4Start, after.memory root index = 0 := by
        intro index below
        rw [afterIs]
        simp only [copyKernelHalf, TableMemory.zeroTable, if_true]
        rw [if_neg fun both => absurd both.2.1 (Nat.not_le.mpr below)]
      rw [shared _ (by decide) (by decide)] at hhdm heap kernel
      constructor
      case ready => exact ready
      case spaceReady => rw [spaceIs]
      case ordinary => rw [spaceIs]
      case root => rw [spaceIs]; rfl
      case rootOnly => exact fun slot frame at' => (rootTable_eq_some.mp at').2.1
      case shallow =>
        intro depth slot frame at'
        rw [(rootTable_eq_some.mp at').1]
        decide
      case parent =>
        rintro _ _ _ ⟨⟩
      case entry =>
        intro depth slot frame _ at' inRoot
        rcases rootTable_eq_some.mp at' with ⟨rfl, -, rfl⟩
        have small := inRoot rfl
        have index : slot % 512 = slot := Nat.mod_eq_of_lt (by omega)
        rw [index, lower slot small]
        rfl
      case leaf =>
        rintro _ _ ⟨⟩
      case covered => simp
      case present => simp
      case single =>
        intro depth slot depth' slot' frame at' other
        rcases rootTable_eq_some.mp at' with ⟨rfl, rfl, -⟩
        rcases rootTable_eq_some.mp other with ⟨rfl, rfl, -⟩
        exact ⟨rfl, rfl⟩
      case owned =>
        intro frame
        rw [spaceIs, List.mem_singleton]
        constructor
        · rintro rfl
          exact ⟨0, 0, rfl⟩
        · rintro ⟨depth, slot, at'⟩
          exact (rootTable_eq_some.mp at').2.2.symm
      case nodup => grind
      case pointer =>
        intro depth slot frame at'
        rw [← (rootTable_eq_some.mp at').2.2]
        simp_all
      case kernelHalf => exact shared
      case kernelPresent => exact ⟨hhdm, heap, kernel⟩
      case bootstrapPointer => exact bootstrapPointer
      simp [*]
    · subst afterIs
      refine ⟨changed.invariant, fun frame => ?_, fun frame member => ?_, fun isUsable => ?_⟩
      · rw [changed.taken, List.mem_singleton]
        simp
      · grind
      · rw [changed.usable] at isUsable
        exact begins.reserved isUsable
    · rw [afterIs]
      exact begins.accepted
  · intro depth slot frame positive at'
    have isRoot := (rootTable_eq_some.mp at').1
    omega

/-! ## What the callers see -/

/-- The tables that the hardware reaches from the user half of the root. -/
inductive TableReachable (paging : Paging) : Nat → Nat → Prop where
  | root : TableReachable paging 0 paging.space.rootPhysical
  | child {depth table index : Nat} : TableReachable paging depth table → depth < 3 →
      index < addressSpacePageEntries → (depth = 0 → index < addressSpaceSharedPml4Start) →
      paging.memory table index &&& entryPresent ≠ 0 →
      TableReachable paging (depth + 1) (paging.memory table index &&& entryAddressMask)

/-- The address space is what the record of its mappings says. -/
structure PagingExact (trace : PagingTrace) : Prop where
  once : trace.paging.space.ownedTableFrames.Nodup
  reachable : ∀ frame, frame ∈ trace.paging.space.ownedTableFrames ↔
    ∃ depth, TableReachable trace.paging depth frame
  translates : ∀ virtualAddress,
    addressSpaceTranslate trace.paging virtualAddress = trace.mapped virtualAddress
  bare : (∀ virtualAddress, trace.mapped virtualAddress = none) →
    trace.paging.space.ownedTableFrames = [trace.paging.space.rootPhysical]
  destroyed : (∀ virtualAddress, trace.mapped virtualAddress = none) →
    ((addressSpaceDestroy trace.paging).1 = true ↔ addressSpaceIsActive trace.paging = false)
  returned : (∀ virtualAddress, trace.mapped virtualAddress = none) →
    (addressSpaceDestroy trace.paging).1 = true →
    ∀ frame, pmmFrameTaken (addressSpaceDestroy trace.paging).2.pmm frame = trace.others frame

namespace PagingShape

variable {paging : Paging} {tables : TableMap} {leaves : LeafMap}

section

variable (shape : PagingShape paging tables leaves)
include shape

theorem reachable_of_table (depth : Nat) :
    ∀ slot frame, tables depth slot = some frame → TableReachable paging depth frame := by
  induction depth with
  | zero =>
    intro slot frame at'
    rw [shape.rootOnly slot frame at', shape.root] at at'
    cases at'
    exact TableReachable.root
  | succ depth ih =>
    intro slot frame at'
    rcases shape.parent depth slot frame at' with ⟨⟨above, aboveAt⟩, inRoot⟩
    have shallow := shape.shallow _ _ _ at'
    have entry := shape.entry depth slot above (by omega) aboveAt inRoot
    have readings := tableEntry_readings (shape.entryAddress at')
    rw [at', entryFor] at entry
    rw [← entry] at readings
    have reached : TableReachable paging (depth + 1)
        (paging.memory above (slot % 512) &&& entryAddressMask) := by
      refine TableReachable.child (ih _ _ aboveAt) (by omega) (Nat.mod_lt slot (by decide)) ?_ readings.1
      intro isRoot
      have small := inRoot isRoot
      simp only [addressSpaceSharedPml4Start]
      omega
    grind

/-- The hardware reaches nothing but tables of the tree. -/
theorem table_of_reachable {depth frame : Nat}
    (reachable : TableReachable paging depth frame) : ∃ slot, tables depth slot = some frame := by
  induction reachable with
  | root => exact ⟨0, shape.root⟩
  | @child depth table index _ notLast inside inRoot present ih =>
    rcases ih with ⟨slot, at'⟩
    simp only [addressSpacePageEntries] at inside
    have parent : (slot * 512 + index) / 512 = slot := by omega
    have position : (slot * 512 + index) % 512 = index := by omega
    have lower : depth = 0 → slot * 512 + index < 256 := by
      rintro rfl
      have small := inRoot rfl
      rw [shape.rootOnly slot table at']
      simp only [addressSpaceSharedPml4Start] at small
      omega
    have entry := shape.entry depth (slot * 512 + index) table notLast (by rw [parent]; exact at') lower
    rw [position] at entry
    cases below : tables (depth + 1) (slot * 512 + index) with
    | none =>
      rw [below, entryFor] at entry
      simp_all
    | some frame =>
      rw [below, entryFor] at entry
      rw [entry, (tableEntry_readings (shape.entryAddress below)).2.2.2]
      exact ⟨_, below⟩

/-- Mapped pages lie in the user half. -/
theorem mapped_page_lt {page : Nat} (mapped : leaves page ≠ 0) : page < 2 ^ 35 := by
  rcases shape.covered page mapped with ⟨pt, ptAt⟩
  rcases (shape.parent 2 _ pt ptAt).1 with ⟨pd, pdAt⟩
  rcases (shape.parent 1 _ pd pdAt).1 with ⟨pdpt, pdptAt⟩
  have small := (shape.parent 0 _ pdpt pdptAt).2 rfl
  omega

/-- Where no page is mapped, only the root is left. -/
theorem only_root (tight : Tight tables leaves) (unmapped : ∀ page, leaves page = 0) {depth slot frame : Nat}
    (at' : tables depth slot = some frame) : depth = 0 ∧ frame = paging.space.rootPhysical := by
  cases depth with
  | zero =>
    rw [shape.rootOnly slot frame at', shape.root] at at'
    cases at'
    exact ⟨rfl, rfl⟩
  | succ depth =>
    rcases tight (depth + 1) slot frame (Nat.succ_pos depth) at' with ⟨page, mapped, -⟩
    exact absurd (unmapped page) mapped

theorem owned_eq_root (tight : Tight tables leaves) (unmapped : ∀ page, leaves page = 0) :
    paging.space.ownedTableFrames = [paging.space.rootPhysical] := by
  apply List.perm_singleton.mp
  apply (List.perm_ext_iff_of_nodup shape.nodup (List.nodup_singleton _)).mpr
  intro frame
  rw [List.mem_singleton, shape.owned]
  constructor
  · rintro ⟨depth, slot, at'⟩
    exact (shape.only_root tight unmapped at').2
  · rintro rfl
    exact ⟨0, 0, shape.root⟩

theorem kernelMappingsValid : addressSpaceKernelMappingsValid paging = true := by
  rw [addressSpaceKernelMappingsValid, shape.ready, shape.spaceReady, shape.bootstrapPointer,
    shape.pointer 0 0 _ shape.root]
  have shared := shape.kernelHalf
  rcases shape.kernelPresent with ⟨hhdm, heap, kernel⟩
  rw [← shared _ (by decide) (by decide)] at hhdm heap kernel
  simp_all

/-- Destroying a space without mappings comes down to the test for the active
space and to releasing the root. -/
theorem destroy_eq (tight : Tight tables leaves) (unmapped : ∀ page, leaves page = 0) :
    addressSpaceDestroy paging =
      if addressSpaceIsActive paging = true then (false, paging)
      else
        match pmmFreeFrame paging.pmm paging.space.rootPhysical with
        | (false, pmm) => (false, { paging with pmm := pmm })
        | (true, pmm) => (true, { paging with pmm := pmm, space := addressSpaceClear }) := by
  have empty : ∀ index < addressSpaceSharedPml4Start, paging.memory paging.space.rootPhysical index = 0 := by
    intro index inside
    simp only [addressSpaceSharedPml4Start] at inside
    have root : tables 0 (index / 512) = some paging.space.rootPhysical := by
      rw [Nat.div_eq_of_lt (by omega)]
      exact shape.root
    have entry := shape.entry 0 index _ (by decide) root (fun _ => inside)
    rw [Nat.mod_eq_of_lt (by omega)] at entry
    rw [entry]
    cases below : tables (0 + 1) index with
    | none => rfl
    | some frame => exact absurd (shape.only_root tight unmapped below).1 (Nat.succ_ne_zero 0)
  have single := shape.owned_eq_root tight unmapped
  have one : ¬ (paging.space.ownedTableFrames.length ≠ 1 ∨
      ownedContains paging.space paging.space.rootPhysical = false) := by
    rw [(ownedContains_iff shape.spaceReady).mpr (shape.mem_owned shape.root), single]
    simp only [List.length_singleton, ne_eq, not_true_eq_false, Bool.true_eq_false, or_self,
      not_false_eq_true]
  by_cases active : addressSpaceIsActive paging = true
  · rw [addressSpaceDestroy, if_pos active, if_pos (by simp [active])]
  have admitted : ¬ (paging.addressSpaceInitialized = false ∨ paging.space.initialized = false ∨
      paging.space.bootstrap = true ∨ addressSpaceIsActive paging = true ∨
      addressSpaceKernelMappingsValid paging = false) := by
    rw [shape.ready, shape.spaceReady, shape.ordinary, shape.kernelMappingsValid]
    simp [active]
  rw [addressSpaceDestroy, if_neg active, if_neg admitted, shape.pointer 0 0 _ shape.root]
  grind

end

end PagingShape

namespace PagingTrace

variable {memoryMap : List MemmapEntry} {trace : PagingTrace}

theorem Agrees.unmapped {tables : TableMap} {leaves : LeafMap} (agrees : trace.Agrees memoryMap tables leaves)
    (unmapped : ∀ virtualAddress, trace.mapped virtualAddress = none) (page : Nat) :
    leaves page = 0 := by
  by_contra mapped
  have inside := agrees.invariant.shape.mapped_page_lt mapped
  have pageIs : page * vmmPageSize / vmmPageSize = page := Nat.mul_div_cancel page (by decide)
  have user : UserPage (page * vmmPageSize) :=
    ⟨by simp only [vmmPageSize]; omega, Nat.mul_mod_left page vmmPageSize⟩
  have read := agrees.user _ user
  simp_all [leafTarget]

theorem Sound.exact' (sound : trace.Sound memoryMap) : PagingExact trace := by
  rcases sound with ⟨tables, leaves, agrees⟩
  have invariant := agrees.invariant
  have shape := invariant.shape
  have ledger := invariant.ledger
  have rootTaken := (ledger.taken _).mpr (Or.inl (shape.mem_owned shape.root))
  constructor
  case once => exact shape.nodup
  case reachable =>
    intro frame
    rw [shape.owned]
    constructor
    · rintro ⟨depth, slot, at'⟩
      exact ⟨depth, shape.reachable_of_table depth slot frame at'⟩
    · rintro ⟨depth, reachable⟩
      exact ⟨depth, shape.table_of_reachable reachable⟩
  case translates =>
    intro virtualAddress
    have reading := addressSpaceTranslate_eq invariant virtualAddress
    by_cases user : UserPage virtualAddress
    · rw [reading.1 user, agrees.user _ user]
    · rw [reading.2 user, agrees.beyond _ user]
  case bare =>
    intro unmapped
    exact shape.owned_eq_root agrees.tight (agrees.unmapped unmapped)
  case destroyed =>
    intro unmapped
    rw [shape.destroy_eq agrees.tight (agrees.unmapped unmapped)]
    rcases pmmFreeFrame_frames ledger.invariant trace.paging.space.rootPhysical with
      ⟨free, -⟩ | ⟨next, -, result, -⟩
    · rw [rootTaken] at free
      cases free
    grind
  case returned =>
    intro unmapped destroyed frame
    have single := shape.owned_eq_root agrees.tight (agrees.unmapped unmapped)
    rw [shape.destroy_eq agrees.tight (agrees.unmapped unmapped)] at destroyed ⊢
    rcases pmmFreeFrame_frames ledger.invariant trace.paging.space.rootPhysical with
      ⟨free, -⟩ | ⟨next, -, result, changed⟩
    · rw [rootTaken] at free
      cases free
    rw [result] at destroyed ⊢
    split at destroyed
    · cases destroyed
    rename_i inactive
    rw [if_neg inactive]
    simp only [changed.taken]
    have taken := ledger.taken frame
    by_cases isRoot : frame = trace.paging.space.rootPhysical
    · rw [if_pos isRoot, isRoot, ledger.apart _ (shape.mem_owned shape.root)]
    simp_all

end PagingTrace

/-- After every finite sequence of calls on a new address space, the owned
frames, the translation and the destruction of the space are exactly what the
record of its mappings says. -/
theorem addressSpace_runs_exact (memoryMap : List MemmapEntry) (start : Paging)
    (begins : PagingStart memoryMap start) (calls : List PagingCall) :
    PagingExact (run PagingTrace.step (PagingTrace.initial start) calls) :=
  (run_invariant (fun trace call sound => trace.step_sound call sound) calls _
    (PagingTrace.initial_sound begins)).exact'

/-- Eight usable frames, with the boot tables beyond them. -/
def eightPageMap : List MemmapEntry := [⟨0x1000, 0x8000, memmapUsable⟩]

def eightPagePaging : Paging where
  memory := fun table index => if table = 0x10000 ∧ 256 ≤ index then 0x11003 else 0
  pmm := (PmmTrace.initial eightPageMap).pmm
  hhdmOffset := 0xffff800000000000
  cr3 := 0x10000
  nxEnabled := true
  vmmInitialized := true
  addressSpaceInitialized := true
  bootstrapRootPhysical := 0x10000
  space := addressSpaceClear

theorem eightPagePaging_start : PagingStart eightPageMap eightPagePaging where
  reached := ⟨[], rfl⟩
  initialized := by decide
  accepted := by decide
  reserved := by decide
  created := by decide +kernel

/-- The first page takes three frames for its tables; a page far away from it
finds no frame for its last table. -/
theorem eightPagePaging_runs_exact :
    PagingExact (run PagingTrace.step (PagingTrace.initial eightPagePaging)
      [.otherAlloc 0x8000 0x9000, .map 0x400000 0x8000 true false, .otherAlloc 0 0x100000,
        .map 0x7f0000000000 0x8000 false false, .unmap 0x400000]) :=
  addressSpace_runs_exact eightPageMap eightPagePaging eightPagePaging_start _

/-- Between an address space and all else nothing is shared but the kernel half:
its tables are the frames that are taken and that nobody else holds. -/
structure PagingApart (trace : PagingTrace) : Prop where
  kernelHalf : ∀ index, addressSpaceSharedPml4Start ≤ index → index < addressSpacePageEntries →
    trace.paging.memory trace.paging.space.rootPhysical index =
      trace.paging.memory trace.paging.bootstrapRootPhysical index
  owned : ∀ frame, frame ∈ trace.paging.space.ownedTableFrames ↔
    pmmFrameTaken trace.paging.pmm frame = true ∧ trace.others frame = false
  bootstrap : trace.paging.bootstrapRootPhysical ∉ trace.paging.space.ownedTableFrames

/-- Every run keeps an address space apart, whether frames run out in it or not. -/
theorem addressSpace_runs_apart (memoryMap : List MemmapEntry) (start : Paging)
    (begins : PagingStart memoryMap start) (calls : List PagingCall) :
    PagingApart (run PagingTrace.step (PagingTrace.initial start) calls) := by
  rcases run_invariant (fun trace call sound => trace.step_sound call sound) calls _
    (PagingTrace.initial_sound begins) with ⟨tables, leaves, agrees⟩
  have shape := agrees.invariant.shape
  have ledger := agrees.invariant.ledger
  refine ⟨shape.kernelHalf, fun frame => ⟨fun owned => ?_, fun both => ?_⟩, shape.bootstrapApart⟩
  · exact ⟨(ledger.taken frame).mpr (Or.inl owned), ledger.apart frame owned⟩
  · refine ((ledger.taken frame).mp both.1).resolve_right fun held => ?_
    rw [both.2] at held
    cases held

theorem eightPagePaging_runs_apart :
    PagingApart (run PagingTrace.step (PagingTrace.initial eightPagePaging)
      [.map 0x400000 0x8000 true false, .map 0x7f0000000000 0x8000 false false]) :=
  addressSpace_runs_apart eightPageMap eightPagePaging eightPagePaging_start _

/-- The active address space is never destroyed. -/
theorem active_space_survives :
    ¬ ∀ memoryMap start calls, PagingStart memoryMap start →
      (∀ virtualAddress, (run PagingTrace.step (PagingTrace.initial start) calls).mapped
        virtualAddress = none) →
      (addressSpaceDestroy (run PagingTrace.step (PagingTrace.initial start) calls).paging).1 =
        true := by
  intro claim
  have destroyed := claim eightPageMap eightPagePaging [.loadCr3 0x1000] eightPagePaging_start fun _ => rfl
  exact absurd destroyed (by decide +kernel)

end BoringOS.Memory
