import BoringOS.Library.LittleEndian
import BoringOS.Memory.PageTables

namespace BoringOS.Memory

open Library

/-!
# The bytes of physical memory

The page tables and the pages of the users lie in the same memory, which is
kept as the 64-bit entries of its frames.  A byte is a part of such an entry.
A sequence of writes is a list of bytes with their physical addresses.
-/

/-- The frame of a physical address -/
def frameOf (physical : Nat) : Nat := physical / vmmPageSize * vmmPageSize

/-- The entry of the frame that holds a physical address -/
def entryOf (physical : Nat) : Nat := physical % vmmPageSize / 8

namespace TableMemory

variable (memory : TableMemory)

variable (physical : Nat)

def readByte : UInt8 := byteAt (memory (frameOf physical) (entryOf physical)) (physical % 8)

def writeByte (byte : UInt8) : TableMemory :=
  memory.store (frameOf physical) (entryOf physical)
    (setByte (memory (frameOf physical) (entryOf physical)) (physical % 8) byte)

variable (writes : List (UInt8 × Nat))

theorem writeByte_elsewhere {physical : Nat} (byte : UInt8)
    {frame index : Nat} (elsewhere : ¬ (frame = frameOf physical ∧ index = entryOf physical)) :
    memory.writeByte physical byte frame index = memory frame index := by
  rw [writeByte, store, if_neg elsewhere]

theorem readByte_writeByte_self (byte : UInt8) :
    (memory.writeByte physical byte).readByte physical = byte := by
  rw [readByte, writeByte, store, if_pos ⟨rfl, rfl⟩, byteAt_setByte_self]

theorem readByte_writeByte_of_ne {physical other : Nat} (byte : UInt8) (different : other ≠ physical) :
    (memory.writeByte physical byte).readByte other = memory.readByte other := by
  rw [readByte, readByte]
  by_cases sameEntry : frameOf other = frameOf physical ∧ entryOf other = entryOf physical
  · have otherPosition : other % 8 ≠ physical % 8 := by
      simp only [frameOf, entryOf, vmmPageSize] at sameEntry
      omega
    simp_all [writeByte, store, byteAt_setByte_of_ne]
  · rw [writeByte_elsewhere _ _ sameEntry]

end TableMemory

/-!
## Queries of user mappings

A transcription of the queries of `kernel/arch/x86_64/ring3_memory.c`.  They
walk the tables of an address space and collect the permissions on the way.
What they answer depends on the root and on the owned tables only, and all
addresses of one page are answered alike.
-/

/-- `ring3_user_range_valid` -/
def ring3UserRangeValid (start length : Nat) : Bool :=
  if length = 0 ∨ canonicalLower start = false ∨ uint64Max - start < length - 1 then false
  else canonicalLower (start + (length - 1))

/-- `struct ring3_user_mapping_info` -/
structure Ring3UserMappingInfo where
  physicalAddress : Nat
  writable : Bool
  executable : Bool
deriving DecidableEq, Repr

/-- The loop of `ring3_user_query_mapping` over the levels, of which the last
one is the third -/
def ring3QueryLevels (paging : Paging) (virtualAddress : Nat) :
    (shifts : List Nat) → (level table : Nat) → (writablePath executablePath : Bool) →
      Option Ring3UserMappingInfo
  | [], _, _, _, _ => none
  | shift :: rest, level, table, writablePath, executablePath =>
    let entry := paging.memory table (tableIndex virtualAddress shift)
    let physicalAddress := entry &&& entryAddressMask
    let writablePath := writablePath && entry &&& entryWritable != 0
    let executablePath :=
      if paging.nxEnabled = true ∧ entry &&& entryNoExecute ≠ 0 then false else executablePath
    if entry &&& entryPresent = 0 ∨ entry &&& entryUser = 0 then none
    else if paging.nxEnabled = false ∧ entry &&& entryNoExecute ≠ 0 then none
    else if level = 3 then
      if pmmFrameIsUsable paging.pmm physicalAddress = false then none
      else
        some ⟨physicalAddress + (virtualAddress &&& (vmmPageSize - 1)), writablePath, executablePath⟩
    else if 0 < level ∧ entry &&& entryLargePage ≠ 0 then none
    else if ownedContains paging.space physicalAddress = false then none
    else
      match ring3TablePointer paging physicalAddress with
      | none => none
      | some next =>
        ring3QueryLevels paging virtualAddress rest (level + 1) next writablePath executablePath

def ring3Shifts : List Nat := [39, 30, 21, 12]

variable (paging : Paging)

/-- `ring3_user_query_mapping` -/
def ring3UserQueryMapping (virtualAddress : Nat) : Option Ring3UserMappingInfo :=
  if paging.space.initialized = false ∨ paging.space.bootstrap = true ∨
      canonicalLower virtualAddress = false then none
  else
    match ring3TablePointer paging paging.space.rootPhysical with
    | none => none
    | some table => ring3QueryLevels paging virtualAddress ring3Shifts 0 table true true

/-- `ring3_user_translate` -/
def ring3UserTranslate (virtualAddress : Nat) (requireWritable : Bool) : Option Nat :=
  match ring3UserQueryMapping paging virtualAddress with
  | none => none
  | some info =>
    if requireWritable = true ∧ info.writable = false then none else some info.physicalAddress

/-- The frames that a query may read -/
def IsTable (frame : Nat) : Prop :=
  frame = paging.space.rootPhysical ∨ frame ∈ paging.space.ownedTableFrames

/-- Two machines that agree on everything that a query reads -/
structure SameTables (paging other : Paging) : Prop where
  space : other.space = paging.space
  pmm : other.pmm = paging.pmm
  hhdmOffset : other.hhdmOffset = paging.hhdmOffset
  nxEnabled : other.nxEnabled = paging.nxEnabled
  vmmInitialized : other.vmmInitialized = paging.vmmInitialized
  memory : ∀ frame, IsTable paging frame → other.memory frame = paging.memory frame

theorem ring3TablePointer_eq {paging : Paging} {frame table : Nat}
    (pointer : ring3TablePointer paging frame = some table) : table = frame := by
  rw [ring3TablePointer] at pointer
  simp_all

theorem SameTables.pointer {paging other : Paging} (same : SameTables paging other) (frame : Nat) :
    ring3TablePointer other frame = ring3TablePointer paging frame := by
  rw [ring3TablePointer, ring3TablePointer, same.hhdmOffset, same.vmmInitialized]

theorem SameTables.queryLevels {paging other : Paging} (same : SameTables paging other)
    (virtualAddress : Nat) (shifts : List Nat) :
    ∀ level table writablePath executablePath, IsTable paging table →
      ring3QueryLevels other virtualAddress shifts level table writablePath executablePath =
        ring3QueryLevels paging virtualAddress shifts level table writablePath executablePath := by
  induction shifts with
  | nil => exact fun _ _ _ _ _ => rfl
  | cons shift rest ih =>
    intro level table writablePath executablePath isTable
    rw [ring3QueryLevels, ring3QueryLevels, same.memory table isTable, same.nxEnabled, same.pmm,
      same.space, same.pointer]
    split
    · rfl
    split
    · rfl
    split
    · rfl
    split
    · rfl
    split
    · rfl
    split
    · rfl
    rename_i next pointer
    refine ih _ next _ _ (Or.inr ?_)
    rw [ring3TablePointer_eq pointer]
    simp_all [ownedContains]

theorem SameTables.query {paging other : Paging} (same : SameTables paging other) (virtualAddress : Nat) :
    ring3UserQueryMapping other virtualAddress = ring3UserQueryMapping paging virtualAddress := by
  rw [ring3UserQueryMapping, ring3UserQueryMapping, same.space, same.pointer]
  split
  · rfl
  split
  · rfl
  · rename_i table pointer
    exact same.queryLevels virtualAddress _ _ table _ _ (Or.inl (ring3TablePointer_eq pointer))

/-- The processor lets a user read, or write, through this entry. -/
def EntryAllows (entry : Nat) (writable : Bool) : Prop :=
  entry &&& entryPresent ≠ 0 ∧ entry &&& entryUser ≠ 0 ∧ (writable = true → entry &&& entryWritable ≠ 0)

/-- The walk of the processor, from a table through the levels that are left to
a physical address.  No level but the last one ends it. -/
inductive UserWalk (memory : TableMemory) (writable : Bool) (virtualAddress : Nat) :
    (shifts : List Nat) → (table physical : Nat) → Prop where
  | page (frame : Nat) :
      UserWalk memory writable virtualAddress [] frame (frame + virtualAddress % vmmPageSize)
  | level {shift table physical : Nat} {rest : List Nat}
      (allows : EntryAllows (memory table (tableIndex virtualAddress shift)) writable)
      (small : shift = 30 ∨ shift = 21 →
        memory table (tableIndex virtualAddress shift) &&& entryLargePage = 0)
      (walk : UserWalk memory writable virtualAddress rest
        (memory table (tableIndex virtualAddress shift) &&& entryAddressMask) physical) :
      UserWalk memory writable virtualAddress (shift :: rest) table physical

/-- A byte of the lower half that a user may read, or write, and its place -/
structure UserAccessible (paging : Paging) (writable : Bool) (virtualAddress physical : Nat) :
    Prop where
  lower : virtualAddress < 2 ^ 47
  walk : UserWalk paging.memory writable virtualAddress ring3Shifts paging.space.rootPhysical
    physical

theorem ring3QueryLevels_walk {paging : Paging} {virtualAddress : Nat} (shifts : List Nat) :
    ∀ level table writablePath executablePath info, shifts = ring3Shifts.drop level →
      ring3QueryLevels paging virtualAddress shifts level table writablePath executablePath = some info →
      (info.writable = true → writablePath = true) ∧
        pmmFrameIsUsable paging.pmm (info.physicalAddress - virtualAddress % vmmPageSize) = true ∧
        ∀ writable, (writable = true → info.writable = true) →
          UserWalk paging.memory writable virtualAddress shifts table info.physicalAddress := by
  induction shifts with
  | nil => exact fun _ _ _ _ _ _ found => nomatch found
  | cons shift rest ih =>
    intro level table writablePath executablePath info here found
    rw [ring3QueryLevels] at found
    generalize entryIs : paging.memory table (tableIndex virtualAddress shift) = entry at found
    split at found
    · cases found
    rename_i admitted
    split at found
    · cases found
    split at found
    · rename_i isLast
      split at found
      · cases found
      cases found
      rw [isLast] at here
      cases here
      rw [show vmmPageSize - 1 = 2 ^ 12 - 1 from rfl, Nat.and_two_pow_sub_one_eq_mod,
        show 2 ^ 12 = vmmPageSize from rfl]
      refine ⟨fun both => (Bool.and_eq_true_iff.mp both).1, ?_, fun writable allowed => ?_⟩
      · simp [*]
      · rw [← entryIs] at admitted allowed ⊢
        refine UserWalk.level ?_ (fun middle => absurd middle (by decide)) (UserWalk.page _)
        simp only [not_or] at admitted
        refine ⟨admitted.1, admitted.2, fun isWritable => ?_⟩
        simp_all
    · split at found
      · cases found
      rename_i small
      split at found
      · cases found
      split at found
      · cases found
      rename_i next pointer
      have restIs : rest = ring3Shifts.drop (level + 1) := by
        rw [List.drop_add_one_eq_tail_drop, ← here, List.tail_cons]
      rcases ih _ _ _ _ _ restIs found with ⟨path, usable, walks⟩
      refine ⟨fun isWritable => (Bool.and_eq_true_iff.mp (path isWritable)).1, usable,
        fun writable allowed => ?_⟩
      have walk := walks writable allowed
      rw [ring3TablePointer_eq pointer] at walk
      rw [← entryIs] at admitted small walk path
      simp only [not_or] at admitted
      refine UserWalk.level ⟨admitted.1, admitted.2, fun isWritable => ?_⟩ ?_ walk
      · grind
      · intro middle
        by_contra large
        refine small ⟨?_, large⟩
        rw [Nat.pos_iff_ne_zero]
        rintro rfl
        cases here
        exact absurd middle (by decide)

/-- What the query translates is what the processor lets the user access. -/
theorem ring3UserTranslate_accessible {paging : Paging} {virtualAddress physical : Nat}
    {requireWritable : Bool}
    (found : ring3UserTranslate paging virtualAddress requireWritable = some physical) :
    UserAccessible paging requireWritable virtualAddress physical ∧
      pmmFrameIsUsable paging.pmm (physical - virtualAddress % vmmPageSize) = true := by
  rw [ring3UserTranslate] at found
  cases query : ring3UserQueryMapping paging virtualAddress with
  | none =>
    rw [query] at found
    cases found
  | some info =>
    rw [query] at found
    simp only at found
    split at found
    · cases found
    cases found
    rw [ring3UserQueryMapping] at query
    split at query
    · cases query
    rename_i checked
    simp only [not_or, Bool.not_eq_false, canonicalLower_iff] at checked
    split at query
    · cases query
    rename_i table pointer
    rw [ring3TablePointer_eq pointer] at query
    rcases ring3QueryLevels_walk ring3Shifts 0 _ _ _ _ rfl query with ⟨-, usable, walks⟩
    refine ⟨⟨checked.2.2, walks requireWritable fun required => ?_⟩, usable⟩
    simp_all

theorem UserWalk.offset {memory : TableMemory} {writable : Bool} {virtualAddress table physical : Nat}
    {shifts : List Nat} (walk : UserWalk memory writable virtualAddress shifts table physical) :
    (shifts = [] → physical = table + virtualAddress % vmmPageSize) ∧
      (shifts ≠ [] → physical % vmmPageSize = virtualAddress % vmmPageSize) := by
  induction walk with
  | page frame => simp
  | @level shift table physical rest allows small walk ih =>
    refine ⟨nofun, fun _ => ?_⟩
    by_cases last : rest = []
    · rw [ih.1 last]
      have aligned : (memory table (tableIndex virtualAddress shift) &&& entryAddressMask) %
          vmmPageSize = 0 := by
        rw [show vmmPageSize = 2 ^ 12 from rfl, ← Nat.and_two_pow_sub_one_eq_mod, Nat.and_assoc,
          show entryAddressMask &&& (2 ^ 12 - 1) = 0 from rfl, Nat.and_zero]
      simp only [vmmPageSize] at aligned ⊢
      omega
    · exact ih.2 last

/-- The place of a byte in its frame is that in its page. -/
theorem ring3UserTranslate_offset {paging : Paging} {virtualAddress physical : Nat}
    {requireWritable : Bool}
    (found : ring3UserTranslate paging virtualAddress requireWritable = some physical) :
    physical % vmmPageSize = virtualAddress % vmmPageSize :=
  (ring3UserTranslate_accessible found).1.walk.offset.2 (by decide)

end BoringOS.Memory
