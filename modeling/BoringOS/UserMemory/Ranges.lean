import BoringOS.Ipc.UserBuffers
import BoringOS.Memory.Pmm

namespace BoringOS.UserMemory

open Ipc Memory

/-!
# Ranges of addresses for user memory

The first part of `kernel/core/user_memory.c`: the tables of a process, and the
search for a range of pages in its arena that touches no active range.  Sums and
products have 64 bits and are formed behind the checks of the source.
-/

def userMemoryPageSize : Nat := 4096
def userMemoryArenaBase : Nat := 0x0000000100000000
def userMemoryArenaLimit : Nat := 0x0000000200000000
def userMemoryAllocationMax : Nat := 32
def userMemoryAnonMaxBytes : Nat := 16 * 1024 * 1024
def userMemoryBufferMaxBytes : Nat := 64 * 1024 * 1024

/-- `struct user_memory_allocation` -/
structure UserMemoryAllocation where
  base : Nat
  pageCount : Nat
  active : Bool
deriving DecidableEq, Repr

/-- `struct user_memory_buffer_mapping` -/
structure UserMemoryBufferMapping where
  base : Nat
  pageCount : Nat
  objectIndex : Nat
  active : Bool
deriving DecidableEq, Repr

/-- `struct user_memory_process_state` -/
structure UserMemoryProcessState where
  allocations : Nat → UserMemoryAllocation
  handles : Nat → BufferHandle
  mappings : Nat → UserMemoryBufferMapping

/-- What `allocation_clear` leaves -/
def allocationClear : UserMemoryAllocation := ⟨0, 0, false⟩

/-- What `mapping_clear` leaves -/
def mappingClear : UserMemoryBufferMapping := ⟨0, 0, userMemoryObjectNone, false⟩

/-- `add_u64` -/
def addU64 (first second : Nat) : Option Nat :=
  if uint64Max - first < second then none else some (first + second)

/-- `mul_u64` -/
def mulU64 (first second : Nat) : Option Nat :=
  if first ≠ 0 ∧ uint64Max / first < second then none else some (first * second)

/-- `page_count_for_size` -/
def pageCountForSize (size maximum : Nat) : Option Nat :=
  if size = 0 ∨ maximum < size ∨ uint64Max - (userMemoryPageSize - 1) < size then none
  else
    let pages := (size + (userMemoryPageSize - 1)) / userMemoryPageSize
    if pages = 0 ∨ uint32Max < pages then none else some pages

/-- `range_bytes` -/
def rangeBytes (pageCount : Nat) : Option Nat :=
  if pageCount = 0 then none else mulU64 pageCount userMemoryPageSize

/-- `ranges_overlap` -/
def rangesOverlap (firstBase firstBytes secondBase secondBytes : Nat) : Bool :=
  match addU64 firstBase firstBytes, addU64 secondBase secondBytes with
  | some firstEnd, some secondEnd =>
    decide (firstBase < secondEnd) && decide (secondBase < firstEnd)
  | _, _ => true

/-- A range of pages, as a base and a number of pages -/
abbrev PageRange := Nat × Nat

variable (state : UserMemoryProcessState)

/-- The ranges of the active allocations, and then those of the active mappings -/
def activeRanges : List PageRange :=
  ((List.range userMemoryAllocationMax).filterMap fun slot =>
    if (state.allocations slot).active = true then
      some ((state.allocations slot).base, (state.allocations slot).pageCount)
    else none) ++
  (List.range userMemoryBufferMappingMax).filterMap fun slot =>
    if (state.mappings slot).active = true then
      some ((state.mappings slot).base, (state.mappings slot).pageCount)
    else none

/-- The loops of `range_conflict`, with the conflict and the farthest end so far.
A range that cannot be computed ends them, and nothing is advanced. -/
def rangeConflictLoop (candidate bytes : Nat) : List PageRange → Bool × Nat → Bool × Nat
  | [], result => result
  | (base, pageCount) :: rest, (conflict, farthest) =>
    match rangeBytes pageCount with
    | none => (true, candidate)
    | some occupiedBytes =>
      match addU64 base occupiedBytes with
      | none => (true, candidate)
      | some occupiedEnd =>
        if rangesOverlap candidate bytes base occupiedBytes = true then
          rangeConflictLoop candidate bytes rest
            (true, if farthest < occupiedEnd then occupiedEnd else farthest)
        else rangeConflictLoop candidate bytes rest (conflict, farthest)

/-- `range_conflict`, with the address to advance to -/
def rangeConflict (candidate bytes : Nat) : Bool × Nat :=
  rangeConflictLoop candidate bytes (activeRanges state) (false, candidate)

/-- The loop of `find_virtual_range`, with the attempts that are left -/
def findVirtualRangeLoop (state : UserMemoryProcessState) (bytes : Nat) :
    (attempts candidate : Nat) → Option Nat
  | 0, _ => none
  | attempts + 1, candidate =>
    match addU64 candidate bytes with
    | none => none
    | some limit =>
      if candidate < userMemoryArenaBase ∨ userMemoryArenaLimit < limit then none
      else
        match rangeConflict state candidate bytes with
        | (false, _) => some candidate
        | (true, advanceTo) =>
          if advanceTo ≤ candidate then none
          else findVirtualRangeLoop state bytes attempts advanceTo

/-- `find_virtual_range` -/
def findVirtualRange (pageCount : Nat) : Option Nat :=
  match rangeBytes pageCount with
  | none => none
  | some bytes =>
    if userMemoryArenaLimit - userMemoryArenaBase < bytes then none
    else
      findVirtualRangeLoop state bytes
        (userMemoryAllocationMax + userMemoryBufferMappingMax + 1) userMemoryArenaBase

/-- The end of a range -/
def PageRange.limit (range : PageRange) : Nat := range.1 + range.2 * userMemoryPageSize

/-- A range of the arena, which is not empty -/
def InArena (range : PageRange) : Prop :=
  0 < range.2 ∧ userMemoryArenaBase ≤ range.1 ∧ range.limit ≤ userMemoryArenaLimit

/-- The ranges have no address in common. -/
def Apart (first second : PageRange) : Prop := first.limit ≤ second.1 ∨ second.limit ≤ first.1

theorem Apart.symm {first second : PageRange} (apart : Apart first second) : Apart second first :=
  apart.elim Or.inr Or.inl

theorem addU64_eq_some {first second sum : Nat} (result : addU64 first second = some sum) :
    sum = first + second := by
  rw [addU64] at result
  simp_all

theorem rangeBytes_eq_some {pageCount bytes : Nat} (result : rangeBytes pageCount = some bytes) :
    0 < pageCount ∧ bytes = pageCount * userMemoryPageSize := by
  grind [rangeBytes, mulU64]

theorem rangesOverlap_eq_false {firstBase firstBytes secondBase secondBytes : Nat}
    (apart : rangesOverlap firstBase firstBytes secondBase secondBytes = false) :
    secondBase + secondBytes ≤ firstBase ∨ firstBase + firstBytes ≤ secondBase := by
  rw [rangesOverlap] at apart
  grind [addU64_eq_some]

/-- Without a conflict there was none before, and every range is apart. -/
theorem rangeConflictLoop_eq_false {candidate bytes : Nat} (ranges : List PageRange) :
    ∀ conflict farthest advanceTo,
      rangeConflictLoop candidate bytes ranges (conflict, farthest) = (false, advanceTo) →
      conflict = false ∧ ∀ range ∈ ranges, range.limit ≤ candidate ∨ candidate + bytes ≤ range.1 := by
  induction ranges with
  | nil =>
    intro conflict farthest advanceTo result
    cases result
    simp
  | cons range rest ih =>
    intro conflict farthest advanceTo result
    rw [rangeConflictLoop] at result
    split at result
    · cases result
    rename_i occupiedBytes isBytes
    split at result
    · cases result
    split at result
    · simp_all
    rename_i apart
    rw [Bool.not_eq_true] at apart
    rcases ih _ _ _ result with ⟨noConflict, others⟩
    refine ⟨noConflict, ?_⟩
    intro range isIn
    rcases List.mem_cons.mp isIn with rfl | isRest
    · have here := rangesOverlap_eq_false apart
      rw [(rangeBytes_eq_some isBytes).2] at here
      exact here
    · exact others range isRest

theorem findVirtualRangeLoop_eq_some {state : UserMemoryProcessState} {bytes base : Nat} (attempts : Nat) :
    ∀ candidate, findVirtualRangeLoop state bytes attempts candidate = some base →
      userMemoryArenaBase ≤ base ∧ base + bytes ≤ userMemoryArenaLimit ∧
        ∀ range ∈ activeRanges state, range.limit ≤ base ∨ base + bytes ≤ range.1 := by
  induction attempts with
  | zero =>
    nofun
  | succ attempts ih =>
    intro candidate result
    rw [findVirtualRangeLoop] at result
    split at result
    · cases result
    rename_i limit isLimit
    split at result
    · cases result
    rename_i inside
    rw [addU64_eq_some isLimit] at inside
    split at result
    · rename_i advanceTo isFree
      cases result
      exact ⟨by omega, by omega, (rangeConflictLoop_eq_false _ _ _ _ isFree).2⟩
    grind

theorem findVirtualRange_eq_some {state : UserMemoryProcessState} {pageCount base : Nat}
    (found : findVirtualRange state pageCount = some base) :
    InArena (base, pageCount) ∧ ∀ range ∈ activeRanges state, Apart range (base, pageCount) := by
  rw [findVirtualRange] at found
  split at found
  · cases found
  rename_i bytes isBytes
  rcases rangeBytes_eq_some isBytes with ⟨positive, rfl⟩
  split at found
  · cases found
  · rcases findVirtualRangeLoop_eq_some _ _ found with ⟨lower, upper, apart⟩
    exact ⟨⟨positive, lower, upper⟩, apart⟩

end BoringOS.UserMemory
