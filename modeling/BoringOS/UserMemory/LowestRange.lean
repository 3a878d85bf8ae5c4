import BoringOS.Library.FirstFit
import BoringOS.UserMemory.Ranges

namespace BoringOS.UserMemory

open Library Ipc Memory

/-!
# The lowest range that is free

`find_virtual_range` jumps from a base with a conflict to the farthest end of
the active ranges in its way, and gives up after as many attempts as there are
slots, and one.  It is the search for the first fit, so no fit is jumped over.
Every jump leaves a range behind, so the attempts are never used up.

The ranges start with pages, since the arena does and their lengths are counted
in pages.
-/

variable (state : UserMemoryProcessState)

/-- A range of the pages at the base starts with a page, lies in the arena, and
overlaps no active range. -/
def Fits (pageCount base : Nat) : Prop :=
  base % userMemoryPageSize = 0 ∧ InArena (base, pageCount) ∧
    ∀ range ∈ activeRanges state, Apart range (base, pageCount)

/-- The active ranges lie in the arena, and start with pages. -/
def Placed : Prop := ∀ range ∈ activeRanges state, InArena range ∧ range.1 % userMemoryPageSize = 0

/-- The search for the pages ends with the lowest fit, and without a result only
if nothing fits. -/
def FindsLowest (pageCount : Nat) : Option Nat → Prop
  | some base => Fits state pageCount base ∧ ∀ other, Fits state pageCount other → base ≤ other
  | none => ∀ base, ¬ Fits state pageCount base

/-- The interval of addresses of a range -/
def PageRange.interval (range : PageRange) : Nat × Nat := (range.1, range.limit)

/-- The active ranges as intervals -/
def taken : List (Nat × Nat) := (activeRanges state).map PageRange.interval

section

variable {state : UserMemoryProcessState} {pageCount : Nat}

theorem PageRange.limit_aligned {range : PageRange} (aligned : range.1 % userMemoryPageSize = 0) :
    range.limit % userMemoryPageSize = 0 := by
  rw [PageRange.limit, Nat.add_mul_mod_self_right]
  exact aligned

theorem taken_length (state : UserMemoryProcessState) :
    (taken state).length ≤ userMemoryAllocationMax + userMemoryBufferMappingMax := by
  rw [taken, List.length_map, activeRanges, List.length_append]
  apply Nat.add_le_add
  · exact (List.length_filterMap_le _ _).trans_eq List.length_range
  · exact (List.length_filterMap_le _ _).trans_eq List.length_range

/-- Outside the active ranges is where no interval is met. -/
theorem clear_taken {base : Nat} :
    Clear (pageCount * userMemoryPageSize) base (taken state) ↔
      ∀ range ∈ activeRanges state, Apart range (base, pageCount) := by
  rw [Clear, taken, List.forall_mem_map]
  apply forall₂_congr
  intro range _
  rw [Meets, not_and_or, Nat.not_lt, Nat.not_lt]
  exact Iff.rfl

theorem rangeBytes_of_inArena {range : PageRange} (inArena : InArena range) :
    rangeBytes range.2 = some (range.2 * userMemoryPageSize) := by
  rcases inArena with ⟨positive, lower, upper⟩
  have small : range.2 * userMemoryPageSize ≤ userMemoryArenaLimit :=
    (Nat.le_add_left _ _).trans upper
  rw [rangeBytes, if_neg (Nat.ne_of_gt positive), mulU64, if_neg]
  rintro ⟨-, beyond⟩
  rw [Nat.div_lt_iff_lt_mul positive, Nat.mul_comm] at beyond
  exact absurd (beyond.trans_le small) (by decide)

theorem addU64_of_le {first second : Nat} (small : first + second ≤ uint64Max) :
    addU64 first second = some (first + second) := by
  rw [addU64, if_neg]
  exact Nat.not_lt.mpr (Nat.le_sub_of_add_le' small)

theorem arenaLimit_le {address : Nat} (inside : address ≤ userMemoryArenaLimit) :
    address ≤ uint64Max :=
  inside.trans (by decide)

theorem rangesOverlap_of_small {firstBase firstBytes secondBase secondBytes : Nat}
    (firstSmall : firstBase + firstBytes ≤ uint64Max) (secondSmall : secondBase + secondBytes ≤ uint64Max) :
    rangesOverlap firstBase firstBytes secondBase secondBytes =
      decide (Meets firstBytes firstBase (secondBase, secondBase + secondBytes)) := by
  rw [rangesOverlap, addU64_of_le firstSmall, addU64_of_le secondSmall]
  exact (Bool.decide_and _ _).symm

/-- The loops find out if there is a conflict, and the farthest end of the
ranges in the way. -/
theorem rangeConflictLoop_of_inArena {candidate bytes : Nat}
    (small : candidate + bytes ≤ uint64Max) (ranges : List PageRange) :
    (∀ range ∈ ranges, InArena range) → ∀ conflict farthest,
      rangeConflictLoop candidate bytes ranges (conflict, farthest) =
        (conflict || !decide (Clear bytes candidate (ranges.map PageRange.interval)),
          farthestEnd bytes candidate (ranges.map PageRange.interval) farthest) := by
  induction ranges with
  | nil =>
    intro _ conflict farthest
    rw [rangeConflictLoop, List.map_nil, farthestEnd]
    have clear : Clear bytes candidate [] := List.forall_mem_nil _
    rw [decide_eq_true clear, Bool.not_true, Bool.or_false]
  | cons range rest ih =>
    intro placed conflict farthest
    have inArena := placed range List.mem_cons_self
    have others : ∀ other ∈ rest, InArena other := fun other isIn =>
      placed other (List.mem_cons_of_mem range isIn)
    have rangeSmall : range.1 + range.2 * userMemoryPageSize ≤ uint64Max :=
      arenaLimit_le inArena.2.2
    rw [rangeConflictLoop, rangeBytes_of_inArena inArena]
    dsimp only
    have overlap : rangesOverlap candidate bytes range.1 (range.2 * userMemoryPageSize) =
        decide (Meets bytes candidate range.interval) :=
      rangesOverlap_of_small small rangeSmall
    rw [addU64_of_le rangeSmall, overlap, List.map_cons, farthestEnd]
    by_cases meets : Meets bytes candidate range.interval
    · have blocked : ¬ Clear bytes candidate (range.interval :: rest.map PageRange.interval) :=
        fun clear => (clear_cons.mp clear).1 meets
      have farther : (if farthest < range.1 + range.2 * userMemoryPageSize then
          range.1 + range.2 * userMemoryPageSize else farthest) = max farthest range.interval.2 := by
        rw [max_def_lt]
        rfl
      dsimp only
      rw [if_pos (decide_eq_true meets), if_pos meets, ih others, farther,
        decide_eq_false blocked, Bool.true_or, Bool.not_false, Bool.or_true]
    · have same : Clear bytes candidate (range.interval :: rest.map PageRange.interval) ↔
          Clear bytes candidate (rest.map PageRange.interval) := by
        rw [clear_cons, and_iff_right meets]
      dsimp only
      rw [if_neg (ne_true_of_eq_false (decide_eq_false meets)), if_neg meets, ih others,
        decide_eq_decide.mpr same]

theorem rangeConflict_of_placed (placed : Placed state) {candidate bytes : Nat}
    (small : candidate + bytes ≤ uint64Max) :
    rangeConflict state candidate bytes = (!decide (Clear bytes candidate (taken state)),
      farthestEnd bytes candidate (taken state) candidate) := by
  rw [rangeConflict, rangeConflictLoop_of_inArena small _ fun range isIn => (placed range isIn).1,
    Bool.false_or]
  rfl

theorem farthestEnd_taken_aligned (placed : Placed state) {bytes base : Nat}
    (aligned : base % userMemoryPageSize = 0) :
    farthestEnd bytes base (taken state) base % userMemoryPageSize = 0 := by
  rcases @farthestEnd_cases bytes base (taken state) base with
    same | ⟨interval, isIn, -, same⟩
  · rw [same]
    exact aligned
  rcases List.mem_map.mp isIn with ⟨range, isRange, rfl⟩
  rw [same]
  exact PageRange.limit_aligned (placed range isRange).2

theorem farthestEnd_taken_le (placed : Placed state) {bytes base : Nat}
    (inside : base ≤ userMemoryArenaLimit) :
    farthestEnd bytes base (taken state) base ≤ userMemoryArenaLimit := by
  rcases @farthestEnd_cases bytes base (taken state) base with
    same | ⟨interval, isIn, -, same⟩
  · rw [same]
    exact inside
  rcases List.mem_map.mp isIn with ⟨range, isRange, rfl⟩
  rw [same]
  exact (placed range isRange).1.2.2

/-- Where the search stands, with the attempts that are left: nothing fits below
the candidate, and there is an attempt for every range that is still ahead. -/
structure Searching (state : UserMemoryProcessState) (pageCount attempts candidate : Nat) : Prop where
  aligned : candidate % userMemoryPageSize = 0
  lower : userMemoryArenaBase ≤ candidate
  upper : candidate ≤ userMemoryArenaLimit
  passed : ∀ base < candidate, ¬ Fits state pageCount base
  enough : ahead candidate (taken state) < attempts

theorem Searching.start (state : UserMemoryProcessState) (pageCount : Nat) :
    Searching state pageCount (userMemoryAllocationMax + userMemoryBufferMappingMax + 1)
      userMemoryArenaBase where
  aligned := by decide
  lower := Nat.le_refl _
  upper := by decide
  passed base below fits := Nat.not_lt.mpr fits.2.1.2.1 below
  enough := Nat.lt_succ_of_le (List.countP_le_length.trans (taken_length state))

/-- After a jump the search stands as before, with an attempt less. -/
theorem Searching.jump (placed : Placed state) {attempts candidate : Nat}
    (searching : Searching state pageCount (attempts + 1) candidate)
    (blocked : ¬ Clear (pageCount * userMemoryPageSize) candidate (taken state)) :
    Searching state pageCount attempts
      (farthestEnd (pageCount * userMemoryPageSize) candidate (taken state) candidate) where
  aligned := farthestEnd_taken_aligned placed searching.aligned
  lower := searching.lower.trans (le_farthestEnd _ _)
  upper := farthestEnd_taken_le placed searching.upper
  passed base below fits := by
    rcases Nat.lt_or_ge base candidate with before | after
    · exact searching.passed base before fits
    · exact not_clear_of_lt_farthestEnd after below (clear_taken.mpr fits.2.2)
  enough := Nat.lt_of_lt_of_le (ahead_farthestEnd blocked) (Nat.le_of_lt_succ searching.enough)

theorem findVirtualRangeLoop_lowest (placed : Placed state) (positive : 0 < pageCount)
    (small : pageCount * userMemoryPageSize ≤ userMemoryArenaLimit - userMemoryArenaBase) (attempts : Nat) :
    ∀ candidate, Searching state pageCount attempts candidate →
      FindsLowest state pageCount
        (findVirtualRangeLoop state (pageCount * userMemoryPageSize) attempts candidate) := by
  induction attempts with
  | zero =>
    intro candidate searching
    exact absurd searching.enough (Nat.not_lt_zero _)
  | succ attempts ih =>
    intro candidate searching
    have noWrap : candidate + pageCount * userMemoryPageSize ≤ uint64Max :=
      (Nat.add_le_add searching.upper small).trans (by decide)
    rw [findVirtualRangeLoop, addU64_of_le noWrap]
    dsimp only
    split
    · rename_i outside
      intro base fits
      rcases outside with below | above
      · exact Nat.not_lt.mpr searching.lower below
      rcases Nat.lt_or_ge base candidate with before | after
      · exact searching.passed base before fits
      · have limit : base + pageCount * userMemoryPageSize ≤ userMemoryArenaLimit := fits.2.1.2.2
        exact Nat.not_lt.mpr ((Nat.add_le_add_right after _).trans limit) above
    · rename_i inside
      rw [not_or, Nat.not_lt, Nat.not_lt] at inside
      rw [rangeConflict_of_placed placed noWrap]
      by_cases clear : Clear (pageCount * userMemoryPageSize) candidate (taken state)
      · rw [decide_eq_true clear]
        refine ⟨⟨searching.aligned, ⟨positive, inside⟩, clear_taken.mp clear⟩, ?_⟩
        intro other fits
        rcases Nat.lt_or_ge other candidate with before | after
        · exact absurd fits (searching.passed other before)
        · exact after
      · rw [decide_eq_false clear, Bool.not_false]
        dsimp only
        rw [if_neg (Nat.not_le.mpr (lt_farthestEnd clear))]
        exact ih _ (searching.jump placed clear)

/-- A range that is not empty fits into the arena somewhere, or not at all. -/
theorem Fits.pageCount_small {base : Nat} (fits : Fits state pageCount base) :
    0 < pageCount ∧
      pageCount * userMemoryPageSize ≤ userMemoryArenaLimit - userMemoryArenaBase := by
  rcases fits with ⟨-, ⟨positive, lower, upper⟩, -⟩
  refine ⟨positive, Nat.le_sub_of_add_le' ?_⟩
  exact (Nat.add_le_add_right lower _).trans upper

theorem findVirtualRange_lowest (placed : Placed state) (pageCount : Nat) :
    FindsLowest state pageCount (findVirtualRange state pageCount) := by
  by_cases possible : 0 < pageCount ∧
      pageCount * userMemoryPageSize ≤ userMemoryArenaLimit - userMemoryArenaBase
  · rcases possible with ⟨positive, small⟩
    have arena : userMemoryArenaBase ≤ userMemoryArenaLimit := by decide
    have bytes : rangeBytes pageCount = some (pageCount * userMemoryPageSize) :=
      @rangeBytes_of_inArena (userMemoryArenaBase, pageCount)
        ⟨positive, Nat.le_refl _, Nat.add_le_of_le_sub' arena small⟩
    rw [findVirtualRange, bytes]
    dsimp only
    rw [if_neg (Nat.not_lt.mpr small)]
    exact findVirtualRangeLoop_lowest placed positive small _ _ (Searching.start state pageCount)
  · cases found : findVirtualRange state pageCount with
    | none => exact fun base fits => possible fits.pageCount_small
    | some base =>
      rcases findVirtualRange_eq_some found with ⟨⟨positive, lower, upper⟩, -⟩
      refine absurd ⟨positive, Nat.le_sub_of_add_le' ?_⟩ possible
      exact (Nat.add_le_add_right lower _).trans upper

end

end BoringOS.UserMemory
