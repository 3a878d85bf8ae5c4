import BoringOS.Memory.PmmCalls
import BoringOS.Memory.PageTables

namespace BoringOS.Memory

open Library

/-!
# The allocator as a set of taken frames

Clients of the allocator do not see bits and regions.  For them the allocator
is the set of frames that are taken: an allocation adds a frame that was not
in it, a release removes one that was, and a call that fails changes
nothing.  The frames that can be handed out at all stay the same.
-/

/-- The bit of a frame, by its address. -/
def pmmFrameTaken (pmm : Pmm) (frame : Nat) : Bool :=
  match pmmFindFrame pmm frame with
  | none => false
  | some index => pmm.bitmap.isSet index

/-- The allocator after a call: its invariant holds, the managed frames are
the same, and the bit of one frame is the given value. -/
structure PmmChanged (memoryMap : List MemmapEntry) (pmm next : Pmm) (frame : Nat)
    (value : Bool) : Prop where
  invariant : PmmInvariant memoryMap next
  usable : ∀ other, pmmFrameIsUsable next other = pmmFrameIsUsable pmm other
  taken : ∀ other, pmmFrameTaken next other =
    if other = frame then value else pmmFrameTaken pmm other

section Calls

variable {memoryMap : List MemmapEntry} {pmm : Pmm}

theorem pmmFrameTaken_of_frameAt (layout : PmmLayout memoryMap pmm) {frame index : Nat}
    (at' : FrameAt pmm frame index) : pmmFrameTaken pmm frame = pmm.bitmap.isSet index := by
  rw [pmmFrameTaken, (pmmFindFrame_eq_some_iff layout).mpr at']

theorem pmmFrameTaken_of_unmanaged (layout : PmmLayout memoryMap pmm) {frame : Nat}
    (unmanaged : ∀ index, ¬ FrameAt pmm frame index) : pmmFrameTaken pmm frame = false := by
  rw [pmmFrameTaken]
  cases found : pmmFindFrame pmm frame with
  | none => rfl
  | some index => grind [pmmFindFrame_eq_some_iff]

theorem pmmFrameTaken_iff (layout : PmmLayout memoryMap pmm) {frame : Nat} :
    pmmFrameTaken pmm frame = true ↔ FrameTaken pmm frame := by
  constructor
  · intro taken
    by_cases managed : ∃ index, FrameAt pmm frame index
    · rcases managed with ⟨index, at'⟩
      rw [pmmFrameTaken_of_frameAt layout at'] at taken
      exact ⟨index, at', taken⟩
    grind [pmmFrameTaken_of_unmanaged]
  · rintro ⟨index, at', isSet⟩
    rw [pmmFrameTaken_of_frameAt layout at']
    exact isSet

theorem pmmChanged_of_bit (before : PmmInvariant memoryMap pmm) {next : Pmm} {frame index : Nat}
    {value : Bool} (invariant : PmmInvariant memoryMap next) (regions : next.regions = pmm.regions)
    (at' : FrameAt pmm frame index) (bits : ∀ other, next.bitmap.isSet other =
      if other = index then value else pmm.bitmap.isSet other) :
    PmmChanged memoryMap pmm next frame value := by
  have layout := before.toPmmLayout
  have sameFrames : ∀ other bit, FrameAt next other bit ↔ FrameAt pmm other bit := by
    intro other bit
    rw [FrameAt, FrameAt, regions]
  refine ⟨invariant, fun other => ?_, fun other => ?_⟩
  · apply Bool.eq_iff_iff.mpr
    rw [pmmFrameIsUsable_iff invariant, pmmFrameIsUsable_iff before]
    exact exists_congr (sameFrames other)
  · by_cases managed : ∃ bit, FrameAt pmm other bit
    · rcases managed with ⟨bit, otherAt⟩
      rw [pmmFrameTaken_of_frameAt layout otherAt,
        pmmFrameTaken_of_frameAt invariant.toPmmLayout ((sameFrames other bit).mpr otherAt), bits]
      by_cases same : other = frame
      · subst same
        rw [if_pos rfl, if_pos (layout.index_unique otherAt at')]
      rw [if_neg same, if_neg]
      intro sameBit
      subst sameBit
      exact same (layout.frame_unique otherAt at')
    · have none' : ∀ bit, ¬ FrameAt pmm other bit := fun bit otherAt => managed ⟨bit, otherAt⟩
      rw [pmmFrameTaken_of_unmanaged layout none', pmmFrameTaken_of_unmanaged invariant.toPmmLayout
          fun bit otherAt => none' bit ((sameFrames other bit).mp otherAt), if_neg]
      grind

theorem pmmAllocFrameInRange_frames (inv : PmmInvariant memoryMap pmm) (minimum maximum : Nat) :
    pmmAllocFrameInRange pmm minimum maximum = (none, pmm) ∨
      ∃ frame next, pmmAllocFrameInRange pmm minimum maximum = (some frame, next) ∧
        pmmFrameTaken pmm frame = false ∧ pmmFrameIsUsable pmm frame = true ∧
        PmmChanged memoryMap pmm next frame true := by
  have kept := pmmAllocFrameInRange_invariant inv minimum maximum
  rcases pmmAllocFrameInRange_cases inv minimum maximum with
    ⟨frame, index, at', -, -, isClear, result⟩ | ⟨result, -⟩
  · rw [result] at kept
    refine Or.inr ⟨frame, _, result, ?_, (pmmFrameIsUsable_iff inv).mpr ⟨index, at'⟩,
      pmmChanged_of_bit inv kept rfl at' fun other => WordBitmap.isSet_set pmm.bitmap index other⟩
    rw [pmmFrameTaken_of_frameAt inv.toPmmLayout at']
    exact isClear
  · exact Or.inl result

/-- A release removes a taken frame, and fails for any other address. -/
theorem pmmFreeFrame_frames (inv : PmmInvariant memoryMap pmm) (frame : Nat) :
    (pmmFrameTaken pmm frame = false ∧ pmmFreeFrame pmm frame = (false, pmm)) ∨
      ∃ next, pmmFrameTaken pmm frame = true ∧ pmmFreeFrame pmm frame = (true, next) ∧
        PmmChanged memoryMap pmm next frame false := by
  have kept := pmmFreeFrame_invariant inv frame
  rcases pmmFreeFrame_cases inv frame with ⟨index, at', isSet, result⟩ | ⟨result, free⟩
  · rw [result] at kept
    refine Or.inr ⟨_, (pmmFrameTaken_iff inv.toPmmLayout).mpr ⟨index, at', isSet⟩, result,
      pmmChanged_of_bit inv kept rfl at' fun other => WordBitmap.isSet_clear pmm.bitmap index other⟩
  · refine Or.inl ⟨Bool.eq_false_iff.mpr fun taken => ?_, result⟩
    exact free ((pmmFrameTaken_iff inv.toPmmLayout).mp taken)

end Calls

/-!
## What the mapping calls do

A call is followed through the tree of tables.  Mapping descends along the
prefixes of a page, attaching tables as it goes; the record of what it
attached is a recipe for the way back, and the rollback follows it.
Unmapping clears one entry and detaches tables for as long as they are
childless.  Between calls every table has a mapped page below it.
-/

/-- The taken frames are those of the address space and those of everybody
else. -/
structure FrameLedger (memoryMap : List MemmapEntry) (paging : Paging) (others : Nat → Bool) :
    Prop where
  invariant : PmmInvariant memoryMap paging.pmm
  taken : ∀ frame, pmmFrameTaken paging.pmm frame = true ↔
    frame ∈ paging.space.ownedTableFrames ∨ others frame = true
  apart : ∀ frame ∈ paging.space.ownedTableFrames, others frame = false
  reserved : pmmFrameIsUsable paging.pmm paging.bootstrapRootPhysical = true →
    others paging.bootstrapRootPhysical = true

structure PagingInvariant (memoryMap : List MemmapEntry) (paging : Paging) (tables : TableMap)
    (leaves : LeafMap) (others : Nat → Bool) : Prop where
  shape : PagingShape paging tables leaves
  ledger : FrameLedger memoryMap paging others
  accepted : vmmHhdmAccepted paging.hhdmOffset memoryMap = true

theorem vmmHighestMappedEnd_spec (memoryMap : List MemmapEntry) :
    ∀ start highest, vmmHighestMappedEnd start memoryMap = some highest →
      start ≤ highest ∧ ∀ entry ∈ memoryMap, entry.type = memmapUsable → entry.limit ≤ highest := by
  induction memoryMap with
  | nil =>
    intro start highest found
    cases found
    simp
  | cons head rest ih =>
    intro start highest found
    rw [vmmHighestMappedEnd] at found
    split at found
    · rename_i unmapped
      rcases ih _ _ found with ⟨above, covered⟩
      refine ⟨above, fun entry member usable => ?_⟩
      rcases List.mem_cons.mp member with rfl | later
      · rw [usable] at unmapped
        exact absurd unmapped (by decide)
      · exact covered entry later usable
    · cases ends : pmmEntryEnd head with
      | none =>
        rw [ends] at found
        cases found
      | some entryEnd =>
        rw [ends] at found
        have limit := (pmmEntryEnd_eq_some ends).1
        rcases ih _ _ found with ⟨above, covered⟩
        have bounds : start ≤ highest ∧ entryEnd ≤ highest := by
          split at above <;> omega
        simp_all

/-- The direct map lies in the higher half. -/
def HighHalf (paging : Paging) : Prop := 0xffff800000000000 ≤ paging.hhdmOffset

variable {memoryMap : List MemmapEntry}

variable {paging : Paging}

/-- A root that the user mapping functions can reach shows that the direct
map lies in the higher half. -/
theorem highHalf_of_root {root table : Nat} (accepted : vmmHhdmAccepted paging.hhdmOffset memoryMap = true)
    (pointer : ring3TablePointer paging root = some table) : HighHalf paging ∧ table = root := by
  rw [ring3TablePointer] at pointer
  split at pointer
  · cases pointer
  rename_i checked
  split at pointer
  · cases pointer
  rename_i high
  simp only [not_or, ne_eq, not_not, Nat.not_lt] at checked high
  have small : root ≤ uint64Max := by omega
  have address : EntryAddress root := ⟨checked.2.1, by simp only [uint64Max] at small; omega⟩
  have inMask : root ≤ entryAddressMask := by
    rw [← address.masked]
    exact Nat.and_le_right
  simp only [vmmHhdmAccepted, Bool.and_eq_true, addressSpaceCanonical, Nat.and_one_is_mod,
    Nat.shiftRight_eq_div_pow] at accepted
  grind [Nat.shiftRight_eq_div_pow, entryAddressMask, HighHalf]

/-- Every frame that the allocator manages can be a table and can be mapped. -/
theorem usable_frame {frame : Nat}
    (accepted : vmmHhdmAccepted paging.hhdmOffset memoryMap = true) (high : HighHalf paging)
    (inv : PmmInvariant memoryMap paging.pmm) (usable : pmmFrameIsUsable paging.pmm frame = true) :
    EntryAddress frame ∧ addressSpaceTablePointer paging frame = some frame := by
  rcases (pmmFrameIsUsable_iff inv).mp usable with ⟨index, at'⟩
  have aligned := inv.toPmmLayout.frame_aligned at'
  rcases inv.toPmmLayout.frame_in_entry at' with ⟨entry, member, isUsable, -, below, -⟩
  have fits : frame + pmmPageSize ≤ uint64Max - paging.hhdmOffset := by
    simp only [vmmHhdmAccepted, Bool.and_eq_true] at accepted
    have bounded := accepted.2
    cases found : vmmHighestMappedEnd 0 memoryMap with
    | none =>
      rw [found] at bounded
      cases bounded
    | some highest =>
      rw [found] at bounded
      simp only [Bool.and_eq_true, decide_eq_true_eq] at bounded
      have reached := (vmmHighestMappedEnd_spec memoryMap _ _ found).2 entry member isUsable
      omega
  simp only [HighHalf, uint64Max, pmmPageSize] at high fits aligned
  have address : EntryAddress frame := entryAddress_of_aligned aligned (by omega)
  have supported : addressSpacePhysicalSupported frame = true := by
    rw [addressSpacePhysicalSupported, pageAligned_iff.mpr aligned, address.bits]
    rfl
  have canonical : addressSpaceCanonical (paging.hhdmOffset + frame) = true := by
    simp only [addressSpaceCanonical, Nat.and_one_is_mod, Nat.shiftRight_eq_div_pow]
    split <;> simp only [beq_iff_eq] <;> omega
  have inRange : ¬ (addressSpacePhysicalSupported frame = false ∨ uint64Max - paging.hhdmOffset < frame) := by
    rw [supported]
    simp only [uint64Max, Bool.true_eq_false, false_or]
    omega
  simp_all [addressSpaceTablePointer]

theorem ownedContains_iff {space : AddressSpace} (ready : space.initialized = true) {frame : Nat} :
    ownedContains space frame = true ↔ frame ∈ space.ownedTableFrames := by
  rw [ownedContains, ready, Bool.true_and, List.contains_iff_mem]

/-- An owned table is given back to the allocator. -/
theorem releaseOwnedTable_owned
    {others : Nat → Bool} {frame : Nat} (ledger : FrameLedger memoryMap paging others)
    (ready : paging.space.initialized = true) (nodup : paging.space.ownedTableFrames.Nodup)
    (member : frame ∈ paging.space.ownedTableFrames) :
    ∃ pmm, releaseOwnedTable paging frame = (true,
        { paging with
          pmm := pmm
          space := { paging.space with
            ownedTableFrames := paging.space.ownedTableFrames.erase frame } }) ∧
      FrameLedger memoryMap
        { paging with
          pmm := pmm
          space := { paging.space with
            ownedTableFrames := paging.space.ownedTableFrames.erase frame } } others := by
  have contained := (ownedContains_iff ready).mpr member
  have isTaken := (ledger.taken frame).mpr (Or.inl member)
  rcases pmmFreeFrame_frames ledger.invariant frame with ⟨free, -⟩ | ⟨pmm, -, result, changed⟩
  · rw [isTaken] at free
    cases free
  refine ⟨pmm, ?_, ⟨changed.invariant, fun other => ?_, fun other inRest => ?_, fun usable => ?_⟩⟩
  · simp only [releaseOwnedTable, contained, Bool.true_eq_false, if_false, result, ownedRemove]
  · rw [changed.taken, nodup.mem_erase_iff]
    by_cases same : other = frame
    · rw [if_pos same, same, ledger.apart frame member]
      simp
    · rw [if_neg same, ledger.taken]
      simp [same]
  · exact ledger.apart other (List.mem_of_mem_erase inRest)
  · rw [changed.usable] at usable
    exact ledger.reserved usable

/-- A frame that is handed out and refused goes back. -/
theorem pmmFreeFrame_refused {pmm next : Pmm} {frame : Nat}
    (free : pmmFrameTaken pmm frame = false) (changed : PmmChanged memoryMap pmm next frame true) :
    PmmInvariant memoryMap (pmmFreeFrame next frame).2 ∧
      (∀ other, pmmFrameTaken (pmmFreeFrame next frame).2 other = pmmFrameTaken pmm other) ∧
      ∀ other, pmmFrameIsUsable (pmmFreeFrame next frame).2 other = pmmFrameIsUsable pmm other := by
  rcases pmmFreeFrame_frames changed.invariant frame with ⟨notTaken, -⟩ | ⟨last, -, result, again⟩
  · rw [changed.taken, if_pos rfl] at notTaken
    cases notTaken
  rw [result]
  refine ⟨again.invariant, fun other => ?_, fun other => ?_⟩
  · rw [again.taken, changed.taken]
    grind
  · rw [again.usable, changed.usable]

theorem FrameLedger.of_same {paging next : Paging}
    {others : Nat → Bool} (ledger : FrameLedger memoryMap paging others)
    (invariant : PmmInvariant memoryMap next.pmm)
    (taken : ∀ other, pmmFrameTaken next.pmm other = pmmFrameTaken paging.pmm other)
    (usable : ∀ other, pmmFrameIsUsable next.pmm other = pmmFrameIsUsable paging.pmm other)
    (space : next.space = paging.space)
    (bootstrap : next.bootstrapRootPhysical = paging.bootstrapRootPhysical) :
    FrameLedger memoryMap next others := by
  refine ⟨invariant, fun other => ?_, fun other member => ?_, fun isUsable => ?_⟩
  · rw [taken, space]
    exact ledger.taken other
  · rw [space] at member
    exact ledger.apart other member
  · rw [usable, bootstrap] at isUsable
    rw [bootstrap]
    exact ledger.reserved isUsable

/-- An attempt to allocate a table yields a fresh, cleared frame that is
recorded as owned, or leaves everything that matters as it was. -/
theorem allocateUserTable_cases {tables : TableMap} {leaves : LeafMap} {others : Nat → Bool}
    (invariant : PagingInvariant memoryMap paging tables leaves others) (high : HighHalf paging) :
    (∃ after, allocateUserTable paging = (none, after) ∧
      PagingInvariant memoryMap after tables leaves others ∧
      after.hhdmOffset = paging.hhdmOffset) ∨
    ∃ fresh pmm, allocateUserTable paging = (some fresh,
        { paging with
          memory := paging.memory.zeroTable fresh
          pmm := pmm
          space := { paging.space with
            ownedTableFrames := paging.space.ownedTableFrames ++ [fresh] } }) ∧
      fresh ∉ paging.space.ownedTableFrames ∧ fresh ≠ paging.bootstrapRootPhysical ∧
      addressSpaceTablePointer paging fresh = some fresh ∧
      ∀ memory, FrameLedger memoryMap
        { paging with
          memory := memory
          pmm := pmm
          space := { paging.space with
            ownedTableFrames := paging.space.ownedTableFrames ++ [fresh] } } others := by
  have shape := invariant.shape
  have ledger := invariant.ledger
  rw [allocateUserTable, pmmAllocFrame]
  rcases pmmAllocFrameInRange_frames ledger.invariant 0 uint64Max with
    result | ⟨fresh, next, result, free, usable, changed⟩
  · simp [*]
  rw [result]
  have notOwned : fresh ∉ paging.space.ownedTableFrames := by
    intro member
    rw [(ledger.taken fresh).mpr (Or.inl member)] at free
    cases free
  have notOthers : others fresh = false := by
    apply Bool.eq_false_iff.mpr
    intro isOthers
    rw [(ledger.taken fresh).mpr (Or.inr isOthers)] at free
    cases free
  have notBootstrap : fresh ≠ paging.bootstrapRootPhysical := by
    rintro rfl
    rw [ledger.reserved usable] at notOthers
    cases notOthers
  rcases pmmFreeFrame_refused free changed with ⟨refusedInvariant, refusedTaken, refusedUsable⟩
  -- A refused frame may have been cleared; nobody owns it.
  have refused : ∀ memory : TableMemory,
      (∀ frame index, frame ≠ fresh → memory frame index = paging.memory frame index) →
      PagingInvariant memoryMap
        { paging with memory := memory, pmm := (pmmFreeFrame next fresh).2 }
        tables leaves others := by
    intro memory agree
    refine ⟨shape.frame_rule rfl rfl rfl rfl ?_, ledger.of_same refusedInvariant refusedTaken
      refusedUsable rfl rfl, invariant.accepted⟩
    rintro frame index (member | rfl)
    · grind
    · exact agree _ _ notBootstrap.symm
  simp only
  split
  · simp [*]
  cases added : ownedAdd paging.space fresh with
  | none =>
    simp_all [TableMemory.zeroTable]
  | some space =>
    have spaceIs : space = { paging.space with
        ownedTableFrames := paging.space.ownedTableFrames ++ [fresh] } := by
      rw [ownedAdd] at added
      split at added
      · cases added
      · cases added
        rfl
    subst spaceIs
    refine Or.inr ⟨fresh, next, rfl, notOwned, notBootstrap,
      (usable_frame invariant.accepted high ledger.invariant usable).2, fun memory => ?_⟩
    refine ⟨changed.invariant, fun other => ?_, fun other member => ?_, fun isUsable => ?_⟩
    · rw [changed.taken, List.mem_append, List.mem_singleton]
      by_cases same : other = fresh
      · simp [same]
      · rw [if_neg same, ledger.taken]
        simp [same]
    · rcases List.mem_append.mp member with before | isFresh
      · exact ledger.apart other before
      simp_all
    · rw [changed.usable] at isUsable
      exact ledger.reserved isUsable

end BoringOS.Memory
