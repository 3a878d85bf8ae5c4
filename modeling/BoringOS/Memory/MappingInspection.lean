import BoringOS.Memory.Ring3Queries

namespace BoringOS.Memory

/-!
# Inspections of the page tables

A transcription of `vmm_inspect_mapping` in `kernel/arch/x86_64/vmm.c` and of
`ring3_shared_higher_half_supervisor_only` in
`kernel/arch/x86_64/ring3_memory.c`.  Both are compared with the walk that the
processor makes: it reads one entry a level, until an entry is absent or maps a
page, and what it permits is what all entries on the way permit.

`vmm_is_canonical_4level` and `vmm_physical_supported` are the functions
`addressSpaceCanonical` and `addressSpacePhysicalSupported`, and
`vmm_index_for` is `tableIndex`.
-/

/-- The entries that the processor reads on its way to an address, beginning
with the one of a table.  Only the two middle levels have large pages. -/
def processorPath (memory : TableMemory) (virtualAddress : Nat) :
    (shifts : List Nat) → (table : Nat) → List Nat
  | [], _ => []
  | shift :: rest, table =>
    let entry := memory table (tableIndex virtualAddress shift)
    if entry &&& entryPresent = 0 ∨ shift = 12 ∨
        ((shift = 21 ∨ shift = 30) ∧ entry &&& entryLargePage ≠ 0) then [entry]
    else entry :: processorPath memory virtualAddress rest (entry &&& entryAddressMask)

structure Translation where
  physicalAddress : Nat
  size : Nat
  writable : Bool
  user : Bool
  noExecute : Bool
deriving DecidableEq, Repr

def pathWritable (path : List Nat) : Bool := path.all fun entry => entry &&& entryWritable != 0
def pathUser (path : List Nat) : Bool := path.all fun entry => entry &&& entryUser != 0
def pathNoExecute (path : List Nat) : Bool := path.any fun entry => entry &&& entryNoExecute != 0

/-- A path of one entry leads to a page of 512 GiB, and each further entry to
one of a 512th of the size.  The page begins at bits 12 to 51 of the last entry,
as far as these count its size. -/
def translationOf (virtualAddress : Nat) (path : List Nat) : Option Translation :=
  match path.getLast? with
  | none => none
  | some leaf =>
    if leaf &&& entryPresent = 0 then none
    else
      let size := 2 ^ (48 - 9 * path.length)
      some {
        physicalAddress := leaf % 2 ^ 52 / size * size + virtualAddress % size
        size := size
        writable := pathWritable path
        user := pathUser path
        noExecute := pathNoExecute path }

/-- The addresses from here on, up to the end of 64 bits, share their tables. -/
def sharedHalfStart : Nat := 2 ^ 64 - 2 ^ 47

def InSharedHalf (virtualAddress : Nat) : Prop :=
  sharedHalfStart ≤ virtualAddress ∧ virtualAddress < 2 ^ 64

instance (virtualAddress : Nat) : Decidable (InSharedHalf virtualAddress) :=
  inferInstanceAs (Decidable (_ ∧ _))

/-- The translation of the processor, below the table in CR3 -/
def processorTranslate (memory : TableMemory) (root virtualAddress : Nat) : Option Translation :=
  if virtualAddress < 2 ^ 47 ∨ InSharedHalf virtualAddress then
    translationOf virtualAddress (processorPath memory virtualAddress ring3Shifts root)
  else none

def vmmPageSize2M : Nat := 2 ^ 21
def vmmPageSize1G : Nat := 2 ^ 30
def vmmEntryAddressMask2M : Nat := entryAddressMask &&& (uint64Max - (vmmPageSize2M - 1))
def vmmEntryAddressMask1G : Nat := entryAddressMask &&& (uint64Max - (vmmPageSize1G - 1))
def vmmEntryPwt : Nat := 8
def vmmEntryPcd : Nat := 16
def vmmEntryPat4K : Nat := 128
def vmmEntryPatLarge : Nat := 4096

/-- The static variables of `kernel/arch/x86_64/vmm.c` that an inspection
reads, and the memory.  The list is empty where there is no memory map. -/
structure Vmm where
  memory : TableMemory
  hhdmOffset : Nat
  rootTable : Nat
  memoryMap : List MemmapEntry
  hhdmReady : Bool
  initialized : Bool

/-- `struct vmm_mapping_info`, with what `vmm_mapping_info_reset` stores.  The
levels are numbered as in `enum vmm_page_table_level`. -/
structure VmmMappingInfo where
  physicalAddress : Nat := 0
  leafSize : Nat := 0
  presentLevels : Nat := 0
  missingLevel : Nat := 0
  leafLevel : Nat := 0
  canonical : Bool := false
  present : Bool := false
  parentWritable : Bool := false
  leafWritable : Bool := false
  effectiveWritable : Bool := false
  effectiveUser : Bool := false
  leafPwt : Bool := false
  leafPcd : Bool := false
  leafPat : Bool := false
  effectiveNx : Bool := false
deriving DecidableEq, Repr

/-- What a mapping is reported to be -/
def VmmMappingInfo.translation (info : VmmMappingInfo) : Option Translation :=
  if info.present = true then
    some ⟨info.physicalAddress, info.leafSize, info.effectiveWritable, info.effectiveUser, info.effectiveNx⟩
  else none

variable (vmm : Vmm)

/-- `vmm_physical_page_in_hhdm_map` -/
def vmmPhysicalPageInHhdmMap (physicalAddress : Nat) : Bool :=
  if addressSpacePhysicalSupported physicalAddress = false ∨
      uint64Max - vmmPageSize < physicalAddress then false
  else
    vmm.memoryMap.any fun entry =>
      vmmMemmapTypeHasHhdm entry.type &&
        match pmmEntryEnd entry with
        | none => false
        | some entryEnd =>
          decide (entry.base.toNat ≤ physicalAddress ∧ physicalAddress + vmmPageSize ≤ entryEnd)

/-- `vmm_table_from_physical`, with `vmm_physical_to_hhdm` -/
def vmmTableFromPhysical (physicalAddress : Nat) : Option Nat :=
  if vmmPhysicalPageInHhdmMap vmm physicalAddress = false ∨ vmm.hhdmReady = false ∨
      uint64Max - vmm.hhdmOffset < physicalAddress ∨
      addressSpaceCanonical (vmm.hhdmOffset + physicalAddress) = false then none
  else some physicalAddress

/-- `vmm_mapping_set_leaf` -/
def vmmMappingSetLeaf (info : VmmMappingInfo) (virtualAddress entry addressMask leafSize leafLevel : Nat)
    (parentWritable parentUser parentNx : Bool) : VmmMappingInfo :=
  let leafWritable := entry &&& entryWritable != 0
  let leafUser := entry &&& entryUser != 0
  { info with
    physicalAddress := (entry &&& addressMask) + (virtualAddress &&& (leafSize - 1))
    leafSize := leafSize
    leafLevel := leafLevel
    present := true
    parentWritable := parentWritable
    leafWritable := leafWritable
    effectiveWritable := parentWritable && leafWritable
    effectiveUser := parentUser && leafUser
    leafPwt := entry &&& vmmEntryPwt != 0
    leafPcd := entry &&& vmmEntryPcd != 0
    leafPat := entry &&& (if leafSize = vmmPageSize then vmmEntryPat4K else vmmEntryPatLarge) != 0
    effectiveNx := parentNx || entry &&& entryNoExecute != 0 }

/-- A level of the tables below the root, with the pages that its entries map -/
structure VmmLevel where
  number : Nat
  shift : Nat
  addressMask : Nat
  leafSize : Nat
deriving DecidableEq, Repr

def vmmLevels : List VmmLevel :=
  [⟨3, 30, vmmEntryAddressMask1G, vmmPageSize1G⟩, ⟨2, 21, vmmEntryAddressMask2M, vmmPageSize2M⟩,
    ⟨1, 12, entryAddressMask, vmmPageSize⟩]

/-- The part of `vmm_inspect_mapping` below the root, from a table on.  The
source has it once for each level. -/
def vmmInspectLevels (virtualAddress : Nat) :
    (levels : List VmmLevel) → (table : Nat) →
      (parentWritable parentUser parentNx : Bool) → Option VmmMappingInfo
  | [], _, _, _, _ => none
  | level :: rest, table, parentWritable, parentUser, parentNx =>
    let entry := vmm.memory table (tableIndex virtualAddress level.shift)
    if entry &&& entryPresent = 0 then
      some {
        canonical := true, presentLevels := 4 - level.number, missingLevel := level.number,
        parentWritable := parentWritable }
    else if level.number = 1 ∨ entry &&& entryLargePage ≠ 0 then
      some (vmmMappingSetLeaf { canonical := true, presentLevels := 5 - level.number }
        virtualAddress entry level.addressMask level.leafSize level.number parentWritable
        parentUser parentNx)
    else
      match vmmTableFromPhysical vmm (entry &&& entryAddressMask) with
      | none => none
      | some next =>
        vmmInspectLevels virtualAddress rest next (parentWritable && entry &&& entryWritable != 0)
          (parentUser && entry &&& entryUser != 0) (parentNx || entry &&& entryNoExecute != 0)

/-- `vmm_inspect_mapping` -/
def vmmInspectMapping (virtualAddress : Nat) : Option VmmMappingInfo :=
  if vmm.initialized = false then none
  else if addressSpaceCanonical virtualAddress = false then some {}
  else
    let entry := vmm.memory vmm.rootTable (tableIndex virtualAddress 39)
    if entry &&& entryPresent = 0 then some { canonical := true, missingLevel := 4 }
    else
      match vmmTableFromPhysical vmm (entry &&& entryAddressMask) with
      | none => none
      | some pdpt =>
        vmmInspectLevels vmm virtualAddress vmmLevels pdpt (entry &&& entryWritable != 0)
          (entry &&& entryUser != 0) (entry &&& entryNoExecute != 0)

variable (paging : Paging)

/-- A round of the loop in `shared_table_supervisor_only`, given what the
function answers for the tables of the next level -/
def sharedEntrySupervisorOnly (level : Nat) (next : Nat → Bool → Bool) (entry : Nat)
    (userPath : Bool) : Bool :=
  let nextUserPath := userPath && entry &&& entryUser != 0
  if entry &&& entryPresent = 0 then true
  else if nextUserPath = false then true
  else if level = 0 then false
  else if (level = 2 ∨ level = 1) ∧ entry &&& entryLargePage ≠ 0 then false
  else
    match ring3TablePointer paging (entry &&& entryAddressMask) with
    | none => false
    | some child => next child nextUserPath

/-- `shared_table_supervisor_only` -/
def sharedTableSupervisorOnly : (level table : Nat) → (userPath : Bool) → Bool
  | 0, table, userPath =>
    decide (∀ index < addressSpacePageEntries,
      sharedEntrySupervisorOnly paging 0 (fun _ _ => false) (paging.memory table index) userPath)
  | below + 1, table, userPath =>
    decide (∀ index < addressSpacePageEntries,
      sharedEntrySupervisorOnly paging (below + 1) (sharedTableSupervisorOnly below)
        (paging.memory table index) userPath)

/-- A round of the loop in `ring3_shared_higher_half_supervisor_only` -/
def rootEntrySupervisorOnly (entry : Nat) : Bool :=
  if entry &&& entryPresent = 0 then true
  else if entry &&& entryUser = 0 then true
  else
    match ring3TablePointer paging (entry &&& entryAddressMask) with
    | none => false
    | some pdpt => sharedTableSupervisorOnly paging 2 pdpt true

/-- `ring3_shared_higher_half_supervisor_only` -/
def ring3SharedHigherHalfSupervisorOnly : Bool :=
  if paging.space.initialized = false ∨ paging.space.bootstrap = true ∨
      addressSpaceKernelMappingsValid paging = false then false
  else
    match ring3TablePointer paging paging.space.rootPhysical with
    | none => false
    | some root =>
      decide (∀ index < addressSpacePageEntries, addressSpaceSharedPml4Start ≤ index →
        rootEntrySupervisorOnly paging (paging.memory root index))

theorem addressSpaceCanonical_iff {virtualAddress : Nat} :
    addressSpaceCanonical virtualAddress = true ↔
      virtualAddress < 2 ^ 47 ∨ InSharedHalf virtualAddress := by
  simp only [addressSpaceCanonical, InSharedHalf, sharedHalfStart, Nat.and_one_is_mod,
    Nat.shiftRight_eq_div_pow]
  split <;> simp only [beq_iff_eq] <;> omega

/-- A mask of some bits in a row takes out the number that these bits are. -/
theorem and_mask (entry width shift : Nat) :
    entry &&& ((2 ^ width - 1) <<< shift) = entry % 2 ^ (shift + width) / 2 ^ shift * 2 ^ shift := by
  rw [Nat.pow_add, Nat.mod_mul_right_div_self, ← Nat.and_two_pow_sub_one_eq_mod,
    ← Nat.shiftRight_eq_div_pow, ← Nat.shiftLeft_eq]
  apply Nat.eq_of_testBit_eq
  intro bit
  simp only [Nat.testBit_and, Nat.testBit_shiftLeft, Nat.testBit_shiftRight]
  by_cases high : shift ≤ bit
  · rw [Nat.add_sub_cancel' high]
    simp [high]
  · simp [high]

theorem vmmTableFromPhysical_eq {vmm : Vmm} {frame table : Nat}
    (pointer : vmmTableFromPhysical vmm frame = some table) : table = frame := by
  rw [vmmTableFromPhysical] at pointer
  simp_all

/-- What the constants of a level are for -/
structure VmmLevel.Sound (level : VmmLevel) : Prop where
  size : level.leafSize = 2 ^ level.shift
  last : level.number = 1 ↔ level.shift = 12
  large : level.shift = 12 ∨ level.shift = 21 ∨ level.shift = 30
  address (entry : Nat) : entry &&& level.addressMask =
    entry % 2 ^ 52 / 2 ^ level.shift * 2 ^ level.shift

theorem vmmLevels_sound : ∀ level ∈ vmmLevels, level.Sound := by
  have masks : vmmEntryAddressMask1G = (2 ^ 22 - 1) <<< 30 ∧
      vmmEntryAddressMask2M = (2 ^ 31 - 1) <<< 21 ∧ entryAddressMask = (2 ^ 40 - 1) <<< 12 := by
    decide
  rcases masks with ⟨mask1G, mask2M, mask4K⟩
  simp only [vmmLevels, List.forall_mem_cons]
  refine ⟨⟨rfl, by decide, by decide, fun entry => ?_⟩, ⟨rfl, by decide, by decide, fun entry => ?_⟩,
    ⟨rfl, by decide, by decide, fun entry => ?_⟩, List.forall_mem_nil _⟩
  · rw [mask1G, and_mask]
  · rw [mask2M, and_mask]
  · rw [mask4K, and_mask]

/-- What an inspection should answer behind some entries that it has read, given
the rest of the processor's path: what the path leads to, unless there is a
table on it that cannot be read. -/
def Answers (vmm : Vmm) (virtualAddress : Nat) (before path : List Nat) :
    Option VmmMappingInfo → Prop
  | none => ∃ entry ∈ path.dropLast, vmmTableFromPhysical vmm (entry &&& entryAddressMask) = none
  | some info => info.translation = translationOf virtualAddress (before ++ path) ∧
      ∀ entry ∈ path.dropLast, vmmTableFromPhysical vmm (entry &&& entryAddressMask) ≠ none

theorem processorPath_ne_nil {memory : TableMemory} {virtualAddress : Nat} {shifts : List Nat}
    (more : shifts ≠ []) (table : Nat) : processorPath memory virtualAddress shifts table ≠ [] := by
  cases shifts with
  | nil => exact absurd rfl more
  | cons shift rest =>
    rw [processorPath]
    split <;> exact List.cons_ne_nil _ _

theorem Answers.cons {vmm : Vmm} {virtualAddress entry : Nat} {before path : List Nat}
    {answer : Option VmmMappingInfo} (more : path ≠ [])
    (readable : vmmTableFromPhysical vmm (entry &&& entryAddressMask) ≠ none)
    (answers : Answers vmm virtualAddress (before ++ [entry]) path answer) :
    Answers vmm virtualAddress before (entry :: path) answer := by
  cases answer with
  | none =>
    rcases answers with ⟨other, inPath, unreadable⟩
    rw [Answers, List.dropLast_cons_of_ne_nil more]
    exact ⟨other, List.mem_cons_of_mem _ inPath, unreadable⟩
  | some info =>
    rw [Answers, List.append_assoc, List.singleton_append] at answers
    rw [Answers, List.dropLast_cons_of_ne_nil more]
    exact ⟨answers.1, List.forall_mem_cons.mpr ⟨readable, answers.2⟩⟩

theorem vmmInspectLevels_step {vmm : Vmm} {virtualAddress : Nat} {level : VmmLevel}
    {rest : List VmmLevel} {before : List Nat} (table : Nat) (sound : level.Sound)
    (depth : level.shift = 39 - 9 * before.length)
    (below : level.number ≠ 1 → rest ≠ [] ∧ ∀ entry, Answers vmm virtualAddress (before ++ [entry])
      (processorPath vmm.memory virtualAddress (rest.map VmmLevel.shift)
        (entry &&& entryAddressMask))
      (vmmInspectLevels vmm virtualAddress rest (entry &&& entryAddressMask)
        (pathWritable (before ++ [entry])) (pathUser (before ++ [entry]))
        (pathNoExecute (before ++ [entry])))) :
    Answers vmm virtualAddress before
      (processorPath vmm.memory virtualAddress ((level :: rest).map VmmLevel.shift) table)
      (vmmInspectLevels vmm virtualAddress (level :: rest) table
        (pathWritable before) (pathUser before) (pathNoExecute before)) := by
  rw [List.map_cons, processorPath, vmmInspectLevels]
  generalize vmm.memory table (tableIndex virtualAddress level.shift) = entry
  by_cases absent : entry &&& entryPresent = 0
  · simp [absent, Answers, VmmMappingInfo.translation, translationOf]
  by_cases leaf : level.number = 1 ∨ entry &&& entryLargePage ≠ 0
  · have ends : level.shift = 12 ∨
        ((level.shift = 21 ∨ level.shift = 30) ∧ entry &&& entryLargePage ≠ 0) := by
      rcases sound.large with last | middle
      · exact Or.inl last
      rcases leaf with last | large
      · exact Or.inl (sound.last.mp last)
      · exact Or.inr ⟨middle, large⟩
    have size : 48 - 9 * (before.length + 1) = level.shift := by
      rw [depth]
      omega
    simp [absent, leaf, ends, Answers, VmmMappingInfo.translation, vmmMappingSetLeaf, translationOf,
      pathWritable, pathUser, pathNoExecute, sound.address, sound.size, size, Nat.and_two_pow_sub_one_eq_mod]
  · have goesOn : ¬ (level.shift = 12 ∨
        ((level.shift = 21 ∨ level.shift = 30) ∧ entry &&& entryLargePage ≠ 0)) := by
      rintro (last | ⟨-, large⟩)
      · exact leaf (Or.inl (sound.last.mpr last))
      · exact leaf (Or.inr large)
    have answers := below fun last => leaf (Or.inl last)
    simp only [absent, leaf, goesOn, or_self, if_false]
    cases pointer : vmmTableFromPhysical vmm (entry &&& entryAddressMask) with
    | none =>
      refine ⟨entry, ?_, pointer⟩
      rw [List.dropLast_cons_of_ne_nil (processorPath_ne_nil (by simpa using answers.1) _)]
      exact List.mem_cons_self
    | some next =>
      rw [vmmTableFromPhysical_eq pointer]
      apply Answers.cons (processorPath_ne_nil (by simpa using answers.1) _) (by simp [pointer])
      simpa [pathWritable, pathUser, pathNoExecute] using answers.2 entry

theorem vmmInspectMapping_answers {vmm : Vmm} {virtualAddress : Nat}
    (ready : vmm.initialized = true) (canonical : addressSpaceCanonical virtualAddress = true) :
    Answers vmm virtualAddress []
      (processorPath vmm.memory virtualAddress ring3Shifts vmm.rootTable)
      (vmmInspectMapping vmm virtualAddress) := by
  rw [vmmInspectMapping, ready, canonical, ring3Shifts, processorPath]
  generalize vmm.memory vmm.rootTable (tableIndex virtualAddress 39) = entry
  by_cases absent : entry &&& entryPresent = 0
  · simp [absent, Answers, VmmMappingInfo.translation, translationOf]
  have sound := vmmLevels_sound
  simp only [vmmLevels, List.forall_mem_cons] at sound
  have answers : Answers vmm virtualAddress [entry]
      (processorPath vmm.memory virtualAddress (vmmLevels.map VmmLevel.shift)
        (entry &&& entryAddressMask))
      (vmmInspectLevels vmm virtualAddress vmmLevels (entry &&& entryAddressMask)
        (pathWritable [entry]) (pathUser [entry]) (pathNoExecute [entry])) :=
    vmmInspectLevels_step _ sound.1 rfl fun _ => ⟨List.cons_ne_nil _ _, fun _ =>
      vmmInspectLevels_step _ sound.2.1 rfl fun _ => ⟨List.cons_ne_nil _ _, fun _ =>
        vmmInspectLevels_step _ sound.2.2.1 rfl fun middle => absurd rfl middle⟩⟩
  simp only [pathWritable, pathUser, pathNoExecute, List.all_cons, List.all_nil, List.any_cons,
    List.any_nil, Bool.and_true, Bool.or_false] at answers
  have more : processorPath vmm.memory virtualAddress [30, 21, 12] (entry &&& entryAddressMask) ≠
      [] := processorPath_ne_nil (List.cons_ne_nil _ _) _
  have goesOn : ¬ (entry &&& entryPresent = 0 ∨ 39 = 12 ∨
      ((39 = 21 ∨ 39 = 30) ∧ entry &&& entryLargePage ≠ 0)) := by
    simp [absent]
  rw [if_neg goesOn, if_neg absent, if_neg Bool.noConfusion, if_neg Bool.noConfusion]
  cases pointer : vmmTableFromPhysical vmm (entry &&& entryAddressMask) with
  | none =>
    refine ⟨entry, ?_, pointer⟩
    rw [List.dropLast_cons_of_ne_nil more]
    exact List.mem_cons_self
  | some next =>
    rw [vmmTableFromPhysical_eq pointer]
    apply Answers.cons more (by simp [pointer])
    exact answers

/-- An inspection answers if and only if the tables on the way of the processor can be read, and
then it reports the translation of the processor. -/
theorem vmmInspectMapping_exact (vmm : Vmm) (virtualAddress : Nat) :
    ((vmmInspectMapping vmm virtualAddress).isSome = true ↔ vmm.initialized = true ∧
      (addressSpaceCanonical virtualAddress = true →
        ∀ entry ∈ (processorPath vmm.memory virtualAddress ring3Shifts vmm.rootTable).dropLast,
          vmmTableFromPhysical vmm (entry &&& entryAddressMask) ≠ none)) ∧
      ∀ info, vmmInspectMapping vmm virtualAddress = some info →
        info.translation = processorTranslate vmm.memory vmm.rootTable virtualAddress := by
  cases ready : vmm.initialized with
  | false => simp [vmmInspectMapping, ready]
  | true =>
    cases canonical : addressSpaceCanonical virtualAddress with
    | false =>
      have nowhere : ¬ (virtualAddress < 2 ^ 47 ∨ InSharedHalf virtualAddress) := by
        rw [← addressSpaceCanonical_iff, canonical]
        decide
      rw [vmmInspectMapping, ready, canonical, processorTranslate, if_neg nowhere]
      simp [VmmMappingInfo.translation]
    | true =>
      have answers := vmmInspectMapping_answers ready canonical
      rw [processorTranslate, if_pos (addressSpaceCanonical_iff.mp canonical)]
      cases answer : vmmInspectMapping vmm virtualAddress with
      | none =>
        rw [answer] at answers
        rcases answers with ⟨entry, onPath, unreadable⟩
        refine ⟨⟨fun some => (nomatch some), fun readable => ?_⟩, fun _ some => nomatch some⟩
        exact absurd unreadable (readable.2 rfl entry onPath)
      | some info =>
        rw [answer, Answers, List.nil_append] at answers
        refine ⟨Iff.intro (fun _ => ⟨rfl, fun _ => answers.2⟩) fun _ => rfl, fun other same => ?_⟩
        cases same
        exact answers.1

/-- A user reaches the page at the end of a path. -/
def UserPath (path : List Nat) : Prop :=
  (∃ leaf ∈ path.getLast?, leaf &&& entryPresent ≠ 0) ∧ pathUser path = true

theorem userPath_iff {virtualAddress : Nat} {path : List Nat} :
    UserPath path ↔
      ∃ translation, translationOf virtualAddress path = some translation ∧ translation.user = true := by
  rw [UserPath, translationOf]
  cases path.getLast? with
  | none => simp
  | some leaf => simp

theorem userPath_singleton {entry : Nat} :
    UserPath [entry] ↔ entry &&& entryPresent ≠ 0 ∧ entry &&& entryUser ≠ 0 := by
  simp [UserPath, pathUser]

theorem userPath_cons {entry : Nat} {path : List Nat} (more : path ≠ []) :
    UserPath (entry :: path) ↔ entry &&& entryUser ≠ 0 ∧ UserPath path := by
  rw [UserPath, UserPath, List.getLast?_cons_of_ne_nil more, pathUser, List.all_cons,
    Bool.and_eq_true_iff, bne_iff_ne]
  exact and_left_comm

/-- The levels below a table of some level -/
def levelShifts : Nat → List Nat
  | 0 => [12]
  | below + 1 => (21 + 9 * below) :: levelShifts below

variable {paging : Paging} {entry : Nat}

theorem levelPath_ne_nil {memory : TableMemory} {virtualAddress : Nat} (level table : Nat) :
    processorPath memory virtualAddress (levelShifts level) table ≠ [] :=
  processorPath_ne_nil (by cases level <;> exact List.cons_ne_nil _ _) table

theorem tableIndex_lt (virtualAddress shift : Nat) : tableIndex virtualAddress shift < 512 := by
  rw [tableIndex_eq]
  exact Nat.mod_lt _ (by decide)

theorem tableIndex_placed {base index low shift : Nat} (placed : 2 ^ (shift + 9) ∣ base)
    (inside : index < 512) (small : low < 2 ^ shift) :
    tableIndex (base + index * 2 ^ shift + low) shift = index := by
  rcases placed with ⟨many, rfl⟩
  rw [tableIndex_eq, Nat.pow_add, show 2 ^ shift * 2 ^ 9 * many + index * 2 ^ shift + low =
    low + (many * 512 + index) * 2 ^ shift by ring,
    Nat.add_mul_div_right _ _ (Nat.two_pow_pos shift), Nat.div_eq_of_lt small]
  omega

/-- The rounds for an entry of a user's path -/
theorem sharedEntrySupervisorOnly_user (level : Nat) (next : Nat → Bool → Bool)
    (present : entry &&& entryPresent ≠ 0) (user : entry &&& entryUser ≠ 0) :
    sharedEntrySupervisorOnly paging level next entry true =
      if level = 0 ∨ ((level = 2 ∨ level = 1) ∧ entry &&& entryLargePage ≠ 0) then false
      else
        match ring3TablePointer paging (entry &&& entryAddressMask) with
        | none => false
        | some child => next child true := by
  have onPath : (entry &&& entryUser != 0) = true := by simpa using user
  rw [sharedEntrySupervisorOnly, onPath, if_neg present]
  by_cases last : level = 0
  · simp [last]
  · simp [last]

theorem processorPath_present {memory : TableMemory} {virtualAddress table : Nat} (below : Nat)
    (here : memory table (tableIndex virtualAddress (21 + 9 * below)) = entry)
    (present : entry &&& entryPresent ≠ 0) :
    processorPath memory virtualAddress (levelShifts (below + 1)) table =
      if below + 1 = 0 ∨ ((below + 1 = 2 ∨ below + 1 = 1) ∧ entry &&& entryLargePage ≠ 0) then
        [entry]
      else
        entry :: processorPath memory virtualAddress (levelShifts below) (entry &&& entryAddressMask) := by
  rw [levelShifts, processorPath, here]
  have shifts : (21 + 9 * below = 21 ∨ 21 + 9 * below = 30) ↔ (below + 1 = 2 ∨ below + 1 = 1) := by
    omega
  have last : 21 + 9 * below = 12 ↔ below + 1 = 0 := by omega
  refine if_congr ?_ rfl rfl
  rw [shifts, last, or_iff_right present]

/-- No user reaches a page through a table that has been found to be for supervisors only. -/
theorem sharedTableSupervisorOnly_sound {virtualAddress : Nat} (level : Nat) :
    ∀ table, sharedTableSupervisorOnly paging level table true = true →
      ¬ UserPath (processorPath paging.memory virtualAddress (levelShifts level) table) := by
  induction level with
  | zero =>
    intro table only reached
    rw [sharedTableSupervisorOnly, decide_eq_true_eq] at only
    have here := only _ (tableIndex_lt virtualAddress 12)
    rw [levelShifts, processorPath, if_pos (Or.inr (Or.inl rfl)), userPath_singleton] at reached
    rw [sharedEntrySupervisorOnly_user _ _ reached.1 reached.2, if_pos (Or.inl rfl)] at here
    exact Bool.noConfusion here
  | succ below ih =>
    intro table only reached
    rw [sharedTableSupervisorOnly, decide_eq_true_eq] at only
    have here := only _ (tableIndex_lt virtualAddress (21 + 9 * below))
    generalize entryIs :
      paging.memory table (tableIndex virtualAddress (21 + 9 * below)) = entry at here
    by_cases absent : entry &&& entryPresent = 0
    · rw [levelShifts, processorPath, entryIs, if_pos (Or.inl absent), userPath_singleton] at reached
      exact reached.1 absent
    rw [processorPath_present below entryIs absent] at reached
    split at reached
    · rename_i ends
      rw [userPath_singleton] at reached
      rw [sharedEntrySupervisorOnly_user _ _ absent reached.2, if_pos ends] at here
      cases here
    · rename_i goesOn
      rw [userPath_cons (levelPath_ne_nil below _)] at reached
      rw [sharedEntrySupervisorOnly_user _ _ absent reached.1, if_neg goesOn] at here
      cases pointer : ring3TablePointer paging (entry &&& entryAddressMask) with
      | none =>
        rw [pointer] at here
        cases here
      | some child =>
        rw [pointer, ring3TablePointer_eq pointer] at here
        exact ih _ here reached.2

/-- A user reaches an address through a table, or there is a table on the way that cannot be
read. -/
def Exposed (paging : Paging) (level table virtualAddress : Nat) : Prop :=
  UserPath (processorPath paging.memory virtualAddress (levelShifts level) table) ∨
    ∃ entry ∈ (processorPath paging.memory virtualAddress (levelShifts level) table).dropLast,
      ring3TablePointer paging (entry &&& entryAddressMask) = none

/-- An address is exposed wherever a table stands in the address range. -/
def Exposes (paging : Paging) (level table : Nat) : Prop :=
  ∃ low < 2 ^ (21 + 9 * level), ∀ base, 2 ^ (21 + 9 * level) ∣ base → Exposed paging level table (base + low)

/-- An entry that ends the rounds, or whose table exposes an address, exposes one. -/
theorem exposed_of_entry {below table index : Nat} (inside : index < 512)
    (entryIs : paging.memory table index = entry) (present : entry &&& entryPresent ≠ 0)
    (user : entry &&& entryUser ≠ 0)
    (found : ((below + 1 = 2 ∨ below + 1 = 1) ∧ entry &&& entryLargePage ≠ 0) ∨
      ring3TablePointer paging (entry &&& entryAddressMask) = none ∨
      Exposes paging below (entry &&& entryAddressMask)) :
    ∃ low < 2 ^ (21 + 9 * below), ∀ base, 2 ^ (21 + 9 * (below + 1)) ∣ base →
      Exposed paging (below + 1) table (base + index * 2 ^ (21 + 9 * below) + low) := by
  have path (base low : Nat) (placed : 2 ^ (21 + 9 * (below + 1)) ∣ base)
      (small : low < 2 ^ (21 + 9 * below)) :=
    @processorPath_present entry paging.memory (base + index * 2 ^ (21 + 9 * below) + low) table below
      ((congrArg _ (tableIndex_placed placed inside small)).trans entryIs) present
  by_cases large : (below + 1 = 2 ∨ below + 1 = 1) ∧ entry &&& entryLargePage ≠ 0
  · refine ⟨0, Nat.two_pow_pos _, fun base placed => Or.inl ?_⟩
    rw [path base 0 placed (Nat.two_pow_pos _), if_pos (Or.inr large), userPath_singleton]
    exact ⟨present, user⟩
  have goesOn := not_or_intro (Nat.succ_ne_zero below) large
  rcases found with isLarge | unreadable | ⟨low, small, exposed⟩
  · exact absurd isLarge large
  · refine ⟨0, Nat.two_pow_pos _, fun base placed => Or.inr ⟨entry, ?_, unreadable⟩⟩
    rw [path base 0 placed (Nat.two_pow_pos _), if_neg goesOn,
      List.dropLast_cons_of_ne_nil (levelPath_ne_nil below _)]
    exact List.mem_cons_self
  · refine ⟨low, small, fun base placed => ?_⟩
    rw [Exposed, path base low placed small, if_neg goesOn,
      List.dropLast_cons_of_ne_nil (levelPath_ne_nil below _), userPath_cons (levelPath_ne_nil below _)]
    have aligned : 2 ^ (21 + 9 * below) ∣ base + index * 2 ^ (21 + 9 * below) :=
      Nat.dvd_add ((Nat.pow_dvd_pow 2 (by omega)).trans placed) (Nat.dvd_mul_left _ _)
    rcases exposed _ aligned with reached | ⟨entry, onPath, unreadable⟩
    · exact Or.inl ⟨user, reached⟩
    · exact Or.inr ⟨entry, List.mem_cons_of_mem _ onPath, unreadable⟩

theorem child_exposes {below frame : Nat}
    (complete : ∀ table, sharedTableSupervisorOnly paging below table true = false →
      Exposes paging below table)
    (found : (match ring3TablePointer paging frame with
      | none => false
      | some child => sharedTableSupervisorOnly paging below child true) ≠ true) :
    ring3TablePointer paging frame = none ∨ Exposes paging below frame := by
  cases pointer : ring3TablePointer paging frame with
  | none => exact Or.inl rfl
  | some child =>
    rw [pointer, ring3TablePointer_eq pointer] at found
    exact Or.inr (complete frame (Bool.eq_false_of_not_eq_true found))

/-- A table that has not been found to be for supervisors only exposes an address. -/
theorem sharedTableSupervisorOnly_complete (level : Nat) :
    ∀ table, sharedTableSupervisorOnly paging level table true = false →
      Exposes paging level table := by
  induction level with
  | zero =>
    intro table found
    rw [sharedTableSupervisorOnly, decide_eq_false_iff_not] at found
    push Not at found
    rcases found with ⟨index, inside, found⟩
    refine ⟨index * 2 ^ 12, Nat.mul_lt_mul_of_pos_right inside (by decide), fun base placed => ?_⟩
    have here := tableIndex_placed placed inside (Nat.two_pow_pos 12)
    rw [Nat.add_zero] at here
    rw [Exposed, levelShifts, processorPath, here, if_pos (Or.inr (Or.inl rfl)), userPath_singleton]
    simp [sharedEntrySupervisorOnly] at found
    exact Or.inl found
  | succ below ih =>
    intro table found
    rw [sharedTableSupervisorOnly, decide_eq_false_iff_not] at found
    push Not at found
    rcases found with ⟨index, inside, found⟩
    generalize entryIs : paging.memory table index = entry at found
    by_cases present : entry &&& entryPresent = 0
    · simp [sharedEntrySupervisorOnly, present] at found
    by_cases user : entry &&& entryUser = 0
    · simp [sharedEntrySupervisorOnly, user] at found
    rw [sharedEntrySupervisorOnly_user _ _ present user] at found
    have exposed : ∃ low < 2 ^ (21 + 9 * below), ∀ base, 2 ^ (21 + 9 * (below + 1)) ∣ base →
        Exposed paging (below + 1) table (base + index * 2 ^ (21 + 9 * below) + low) := by
      apply exposed_of_entry inside entryIs present user
      split at found
      · rename_i ends
        exact Or.inl (ends.resolve_left (Nat.succ_ne_zero below))
      · exact Or.inr (child_exposes ih found)
    rcases exposed with ⟨low, small, exposed⟩
    have size : 2 ^ (21 + 9 * (below + 1)) = 512 * 2 ^ (21 + 9 * below) := by
      rw [show 21 + 9 * (below + 1) = 9 + (21 + 9 * below) by ring, Nat.pow_add]
    have room := Nat.mul_le_mul_right (2 ^ (21 + 9 * below)) (Nat.succ_le_of_lt inside)
    rw [Nat.succ_mul, show addressSpacePageEntries = 512 from rfl] at room
    refine ⟨index * 2 ^ (21 + 9 * below) + low, ?_, fun base placed => ?_⟩
    · omega
    · rw [← Nat.add_assoc]
      exact exposed base placed

/-- No address of the shared half is one of a user, as the processor sees it. -/
def SharedHalfSupervisorOnly (paging : Paging) : Prop :=
  ∀ virtualAddress, InSharedHalf virtualAddress → ∀ translation,
    processorTranslate paging.memory paging.space.rootPhysical virtualAddress = some translation →
    translation.user = false

/-- The kernel can read every table that the processor reads for the shared half. -/
structure SharedTablesReadable (paging : Paging) : Prop where
  root : ring3TablePointer paging paging.space.rootPhysical ≠ none
  below (virtualAddress : Nat) : InSharedHalf virtualAddress →
    ∀ entry ∈ (processorPath paging.memory virtualAddress ring3Shifts
      paging.space.rootPhysical).dropLast,
      ring3TablePointer paging (entry &&& entryAddressMask) ≠ none

theorem sharedHalfSupervisorOnly_iff :
    SharedHalfSupervisorOnly paging ↔ ∀ virtualAddress, InSharedHalf virtualAddress →
      ¬ UserPath (processorPath paging.memory virtualAddress ring3Shifts paging.space.rootPhysical) := by
  refine forall_congr' fun virtualAddress => forall_congr' fun shared => ?_
  rw [processorTranslate, if_pos (Or.inr shared), userPath_iff]
  push Not
  exact forall_congr' fun translation => forall_congr' fun _ => by simp

theorem sharedAudit_sound (only : ring3SharedHigherHalfSupervisorOnly paging = true) :
    SharedHalfSupervisorOnly paging := by
  rw [sharedHalfSupervisorOnly_iff]
  intro virtualAddress shared reached
  rw [ring3SharedHigherHalfSupervisorOnly] at only
  split at only
  · cases only
  split at only
  · cases only
  rename_i root pointer
  rw [ring3TablePointer_eq pointer, decide_eq_true_eq] at only
  have upper : addressSpaceSharedPml4Start ≤ tableIndex virtualAddress 39 := by
    rw [tableIndex_eq]
    simp only [InSharedHalf, sharedHalfStart] at shared
    simp only [addressSpaceSharedPml4Start]
    omega
  have here := only _ (tableIndex_lt virtualAddress 39) upper
  generalize entryIs :
    paging.memory paging.space.rootPhysical (tableIndex virtualAddress 39) = entry at here
  by_cases absent : entry &&& entryPresent = 0
  · rw [ring3Shifts, processorPath, entryIs, if_pos (Or.inl absent), userPath_singleton] at reached
    exact reached.1 absent
  have path := processorPath_present 2 entryIs absent
  rw [if_neg (by simp)] at path
  rw [show ring3Shifts = levelShifts 3 from rfl, path, userPath_cons (levelPath_ne_nil 2 _)] at reached
  rw [rootEntrySupervisorOnly, if_neg absent, if_neg reached.1] at here
  cases pdpt : ring3TablePointer paging (entry &&& entryAddressMask) with
  | none =>
    rw [pdpt] at here
    cases here
  | some child =>
    rw [pdpt, ring3TablePointer_eq pdpt] at here
    exact sharedTableSupervisorOnly_sound 2 _ here reached.2

theorem sharedAudit_complete (ready : paging.space.initialized = true)
    (regular : paging.space.bootstrap = false) (kernel : addressSpaceKernelMappingsValid paging = true)
    (readable : SharedTablesReadable paging) (only : SharedHalfSupervisorOnly paging) :
    ring3SharedHigherHalfSupervisorOnly paging = true := by
  rw [sharedHalfSupervisorOnly_iff] at only
  rw [ring3SharedHigherHalfSupervisorOnly, if_neg (by simp [ready, regular, kernel])]
  cases pointer : ring3TablePointer paging paging.space.rootPhysical with
  | none => exact absurd pointer readable.root
  | some root =>
    rw [ring3TablePointer_eq pointer, decide_eq_true_eq]
    intro index inside upper
    rw [rootEntrySupervisorOnly]
    generalize entryIs : paging.memory paging.space.rootPhysical index = entry
    by_cases present : entry &&& entryPresent = 0
    · exact if_pos present
    by_cases user : entry &&& entryUser = 0
    · exact (if_neg present).trans (if_pos user)
    rw [if_neg present, if_neg user]
    by_contra found
    rcases exposed_of_entry inside entryIs present user
      (Or.inr (child_exposes (sharedTableSupervisorOnly_complete 2) found)) with
      ⟨low, small, exposed⟩
    have shared : InSharedHalf (2 ^ 64 - 2 ^ 48 + index * 2 ^ 39 + low) := by
      simp only [addressSpaceSharedPml4Start, addressSpacePageEntries] at upper inside
      simp only [InSharedHalf, sharedHalfStart]
      omega
    rcases exposed (2 ^ 64 - 2 ^ 48) (by decide) with reached | ⟨entry, onPath, unreadable⟩
    · exact only _ shared reached
    · exact readable.below _ shared entry onPath unreadable

/-- An inspection answers if and only if the tables on the way of the processor can be read, and
then it reports what the processor translates the address to.  The audit of the shared half finds
every address of a user, and in a regular space whose tables can be read it finds nothing else. -/
theorem page_table_inspections_exact :
    (∀ vmm virtualAddress,
      ((vmmInspectMapping vmm virtualAddress).isSome = true ↔ vmm.initialized = true ∧
        (addressSpaceCanonical virtualAddress = true →
          ∀ entry ∈ (processorPath vmm.memory virtualAddress ring3Shifts vmm.rootTable).dropLast,
            vmmTableFromPhysical vmm (entry &&& entryAddressMask) ≠ none)) ∧
        ∀ info, vmmInspectMapping vmm virtualAddress = some info →
          info.translation = processorTranslate vmm.memory vmm.rootTable virtualAddress) ∧
      ∀ paging, (ring3SharedHigherHalfSupervisorOnly paging = true → SharedHalfSupervisorOnly paging) ∧
        (paging.space.initialized = true → paging.space.bootstrap = false →
          addressSpaceKernelMappingsValid paging = true → SharedTablesReadable paging →
          (ring3SharedHigherHalfSupervisorOnly paging = true ↔ SharedHalfSupervisorOnly paging)) :=
  ⟨vmmInspectMapping_exact, fun _ => ⟨sharedAudit_sound, fun ready regular kernel readable =>
    ⟨sharedAudit_sound, sharedAudit_complete ready regular kernel readable⟩⟩⟩

/-- Users may pass the root, but not the page of 1 GiB below it. -/
def auditedPaging : Paging where
  memory := fun table index =>
    if table < 0x3000 ∧ (index = 256 ∨ 510 ≤ index) then 0x3007
    else if table = 0x3000 ∧ index = 0 then 0x80000083 else 0
  pmm := pmmResetState
  hhdmOffset := 0xffff800000000000
  cr3 := 0x1000
  nxEnabled := true
  vmmInitialized := true
  addressSpaceInitialized := true
  bootstrapRootPhysical := 0x1000
  space := ⟨0x2000, [0x2000], false, true⟩

theorem auditedPaging_readable : SharedTablesReadable auditedPaging where
  root := by decide
  below := by
    intro virtualAddress _ entry onPath
    by_cases upper : tableIndex virtualAddress 39 = 256 ∨ 510 ≤ tableIndex virtualAddress 39
    · by_cases first : tableIndex virtualAddress 30 = 0
      · simp [ring3Shifts, processorPath, auditedPaging, upper, first, entryPresent, entryLargePage,
          entryAddressMask] at onPath
        rw [onPath]
        decide
      · simp [ring3Shifts, processorPath, auditedPaging, upper, first, entryPresent, entryLargePage,
          entryAddressMask] at onPath
        rw [onPath]
        decide
    · simp [ring3Shifts, processorPath, auditedPaging, upper, entryPresent] at onPath

theorem page_table_inspections_exact_audited :
    ring3SharedHigherHalfSupervisorOnly auditedPaging = true ↔ SharedHalfSupervisorOnly auditedPaging := by
  have kernel : addressSpaceKernelMappingsValid auditedPaging = true := by decide +kernel
  apply (page_table_inspections_exact.2 auditedPaging).2 _ _ kernel auditedPaging_readable
  · rw [auditedPaging]
  · rw [auditedPaging]

/-- The audit rejects the space of the boot, whatever its tables are. -/
theorem bootstrap_space_not_audited :
    ¬ ∀ paging, ring3SharedHigherHalfSupervisorOnly paging = true ↔
      SharedHalfSupervisorOnly paging := by
  intro claim
  have audited : ring3SharedHigherHalfSupervisorOnly auditedPaging = true := by decide +kernel
  have only := sharedAudit_sound audited
  have boot := (claim { auditedPaging with
    space := { auditedPaging.space with bootstrap := true } }).mpr only
  simp [ring3SharedHigherHalfSupervisorOnly] at boot

end BoringOS.Memory
