import BoringOS.Library.Run
import BoringOS.Memory.PmmCalls

namespace BoringOS.Memory

open Library

/-!
# Every run of the allocator

The frames that are currently allocated are those that some earlier call
returned and no later call took back.  A trace records them beside the state
of the allocator, from the results of the calls alone.  In every run the
bits agree with that record, and so each single call behaves as a caller
that only knows the record expects.
-/

/-- The entry points of the allocator. -/
inductive PmmCall where
  | allocFrame
  | allocFrameInRange (minimum maximum : Nat)
  | freeFrame (physicalAddress : Nat)
deriving DecidableEq, Repr

/-- The allocator with the record of the frames handed out and not yet
taken back. -/
structure PmmTrace where
  pmm : Pmm
  outstanding : Nat → Bool

def PmmTrace.mark (outstanding : Nat → Bool) (frame : Nat) (value : Bool) : Nat → Bool :=
  fun other => if other = frame then value else outstanding other

/-- Record the result of an allocation. -/
def PmmTrace.allocated (trace : PmmTrace) (result : Option Nat × Pmm) : PmmTrace where
  pmm := result.2
  outstanding :=
    match result.1 with
    | none => trace.outstanding
    | some frame => PmmTrace.mark trace.outstanding frame true

def PmmTrace.step (trace : PmmTrace) : PmmCall → PmmTrace
  | .allocFrame => trace.allocated (pmmAllocFrame trace.pmm)
  | .allocFrameInRange minimum maximum =>
    trace.allocated (pmmAllocFrameInRange trace.pmm minimum maximum)
  | .freeFrame frame =>
    let result := pmmFreeFrame trace.pmm frame
    { pmm := result.2
      outstanding :=
        if result.1 then PmmTrace.mark trace.outstanding frame false else trace.outstanding }

/-- The trace right after initialization: nothing has been handed out. -/
def PmmTrace.initial (memoryMap : List MemmapEntry) : PmmTrace where
  pmm := (pmmInit memoryMap).2
  outstanding := fun _ => false

/-- The bits of the allocator agree with the record of its results. -/
structure PmmTrace.Sound (memoryMap : List MemmapEntry) (trace : PmmTrace) : Prop where
  invariant : PmmInvariant memoryMap trace.pmm
  recorded : ∀ frame, trace.outstanding frame = true ↔ FrameTaken trace.pmm frame

namespace PmmTrace

variable {memoryMap : List MemmapEntry} {trace : PmmTrace}

/-- Marking one frame in the record and its bit in the bitmap keeps them in
agreement. -/
theorem recorded_of_bit (sound : trace.Sound memoryMap) {next : Pmm} {frame index : Nat}
    (value : Bool) (at' : FrameAt trace.pmm frame index) (regions : next.regions = trace.pmm.regions)
    (bits : ∀ other, next.bitmap.isSet other =
      if other = index then value else trace.pmm.bitmap.isSet other) (other : Nat) :
    mark trace.outstanding frame value other = true ↔ FrameTaken next other := by
  have layout := sound.invariant.toPmmLayout
  have sameFrames : ∀ frame index, FrameAt next frame index ↔ FrameAt trace.pmm frame index := by
    intro frame index
    simp only [FrameAt, regions]
  simp only [mark, FrameTaken, sameFrames, bits]
  split
  · rename_i same
    subst same
    constructor
    · grind
    · rintro ⟨found, foundAt, isSet⟩
      rw [if_pos (layout.index_unique foundAt at')] at isSet
      exact isSet
  · rename_i different
    rw [sound.recorded other]
    have elsewhere : ∀ found, FrameAt trace.pmm other found → found ≠ index := by
      intro found foundAt same
      subst same
      exact different (layout.frame_unique foundAt at')
    constructor
    · rintro ⟨found, foundAt, isSet⟩
      grind
    · rintro ⟨found, foundAt, isSet⟩
      rw [if_neg (elsewhere found foundAt)] at isSet
      exact ⟨found, foundAt, isSet⟩

theorem allocated_sound (sound : trace.Sound memoryMap) (minimum maximum : Nat) :
    (trace.allocated (pmmAllocFrameInRange trace.pmm minimum maximum)).Sound memoryMap := by
  refine ⟨pmmAllocFrameInRange_invariant sound.invariant minimum maximum, ?_⟩
  rcases pmmAllocFrameInRange_cases sound.invariant minimum maximum with
    ⟨frame, index, at', -, -, -, result⟩ | ⟨result, -⟩
  · rw [result]
    exact recorded_of_bit sound true at' rfl (WordBitmap.isSet_set trace.pmm.bitmap index)
  · rw [result]
    exact sound.recorded

theorem step_sound (trace : PmmTrace) (call : PmmCall) (sound : trace.Sound memoryMap) :
    (trace.step call).Sound memoryMap := by
  cases call with
  | allocFrame => exact allocated_sound sound 0 uint64Max
  | allocFrameInRange minimum maximum => exact allocated_sound sound minimum maximum
  | freeFrame frame =>
    refine ⟨pmmFreeFrame_invariant sound.invariant frame, ?_⟩
    rcases pmmFreeFrame_cases sound.invariant frame with ⟨index, at', -, result⟩ | ⟨result, -⟩
    · simp only [step, result, if_true]
      grind [recorded_of_bit, WordBitmap.isSet_clear]
    · simp only [step, result, Bool.false_eq_true, if_false]
      exact sound.recorded

theorem initial_sound (accepted : (pmmInit memoryMap).1 = true) :
    (initial memoryMap).Sound memoryMap := by
  obtain ⟨invariant, bitmap⟩ := pmmInit_spec accepted
  refine ⟨invariant, ?_⟩
  intro frame
  constructor
  · intro isTrue
    cases isTrue
  · rintro ⟨index, -, isSet⟩
    simp_all [initial, WordBitmap.isSet_eq_getLsbD, BitVec.getLsbD_zero]

theorem run_sound (accepted : (pmmInit memoryMap).1 = true) (calls : List PmmCall) :
    (run step (initial memoryMap) calls).Sound memoryMap :=
  run_invariant step_sound calls _ (initial_sound accepted)

end PmmTrace

/-- The frame is managed by the allocator and currently not handed out. -/
def FreeFrame (trace : PmmTrace) (frame : Nat) : Prop :=
  pmmFrameIsUsable trace.pmm frame = true ∧ trace.outstanding frame = false

/-- The frame consists of the addresses of one page, all of them in a usable
entry of the memory map. -/
structure WholeUsablePage (memoryMap : List MemmapEntry) (frame : Nat) : Prop where
  aligned : frame % pmmPageSize = 0
  inside : ∃ entry ∈ memoryMap, entry.type = memmapUsable ∧
    entry.base.toNat ≤ frame ∧ frame + pmmPageSize ≤ entry.limit

/-- An allocation with the requested range `minimum ≤ frame < maximum`
behaves as the record demands. -/
structure AllocationExact (memoryMap : List MemmapEntry) (trace : PmmTrace)
    (minimum maximum : Nat) : Prop where
  returned : ∀ frame, (pmmAllocFrameInRange trace.pmm minimum maximum).1 = some frame →
    WholeUsablePage memoryMap frame ∧ minimum ≤ frame ∧ frame < maximum ∧
      trace.outstanding frame = false
  refused : (pmmAllocFrameInRange trace.pmm minimum maximum).1 = none ↔
    ¬ ∃ frame, FreeFrame trace frame ∧ minimum ≤ frame ∧ frame < maximum

/-- The counters agree with the managed bits. -/
structure CountersExact (pmm : Pmm) : Prop where
  free : pmm.freeFrames = pmm.bitmap.clearCount pmm.totalFrames
  used : pmm.totalFrames - pmm.freeFrames = pmm.bitmap.setCount pmm.totalFrames
  managed : ∀ index < pmm.totalFrames, ∃ frame, FrameAt pmm frame index

variable {memoryMap : List MemmapEntry} {trace : PmmTrace}

section

variable (sound : trace.Sound memoryMap)
include sound

theorem PmmTrace.Sound.freeFrame_iff {frame : Nat} :
    FreeFrame trace frame ↔
      ∃ index, FrameAt trace.pmm frame index ∧ trace.pmm.bitmap.isSet index = false := by
  have layout := sound.invariant.toPmmLayout
  rw [FreeFrame, pmmFrameIsUsable_iff sound.invariant]
  constructor
  · rintro ⟨⟨index, at'⟩, unrecorded⟩
    refine ⟨index, at', ?_⟩
    by_contra isSet
    have recorded := (sound.recorded frame).mpr ⟨index, at', Bool.of_not_eq_false isSet⟩
    grind
  · rintro ⟨index, at', isClear⟩
    refine ⟨⟨index, at'⟩, ?_⟩
    by_contra recorded
    obtain ⟨other, otherAt, isSet⟩ := (sound.recorded frame).mp (Bool.of_not_eq_false recorded)
    rw [layout.index_unique otherAt at', isClear] at isSet
    cases isSet

theorem PmmTrace.Sound.allocationExact (minimum maximum : Nat) :
    AllocationExact memoryMap trace minimum maximum := by
  have layout := sound.invariant.toPmmLayout
  rcases pmmAllocFrameInRange_cases sound.invariant minimum maximum with
    ⟨frame, index, at', reached, small, isClear, result⟩ | ⟨result, noneClear⟩
  · have free := sound.freeFrame_iff.mpr ⟨index, at', isClear⟩
    constructor
    · intro other returned
      rw [result] at returned
      cases returned
      obtain ⟨entry, entryIn, usable, above, below, -⟩ := layout.frame_in_entry at'
      exact ⟨⟨layout.frame_aligned at', entry, entryIn, usable, above, below⟩, reached, small, free.2⟩
    grind
  · constructor
    · simp [*]
    · rw [result]
      refine ⟨?_, fun _ => rfl⟩
      rintro - ⟨frame, free, reached, small⟩
      obtain ⟨index, at', isClear⟩ := sound.freeFrame_iff.mp free
      grind

theorem PmmTrace.Sound.freeExact (frame : Nat) :
    (pmmFreeFrame trace.pmm frame).1 = true ↔ trace.outstanding frame = true := by
  rw [sound.recorded frame]
  rcases pmmFreeFrame_cases sound.invariant frame with ⟨index, at', isSet, result⟩ | ⟨result, free⟩
  · rw [result]
    exact ⟨fun _ => ⟨index, at', isSet⟩, fun _ => rfl⟩
  simp [*]

theorem PmmTrace.Sound.countersExact : CountersExact trace.pmm := by
  have total := WordBitmap.clearCount_add_setCount trace.pmm.bitmap trace.pmm.totalFrames
  have counted := sound.invariant.counted
  exact ⟨counted, by omega, fun index below => sound.invariant.toPmmLayout.exists_frame below⟩

end

/-- After every finite sequence of calls on an accepted memory map, the next
allocation in any range, the next release of any address and the counters
are exactly what the record of outstanding frames says. -/
theorem pmm_runs_exact (memoryMap : List MemmapEntry) (calls : List PmmCall)
    (accepted : (pmmInit memoryMap).1 = true) :
    let reached := run PmmTrace.step (PmmTrace.initial memoryMap) calls
    (∀ minimum maximum, AllocationExact memoryMap reached minimum maximum) ∧
      (∀ frame, (pmmFreeFrame reached.pmm frame).1 = true ↔ reached.outstanding frame = true) ∧
      CountersExact reached.pmm :=
  have sound := PmmTrace.run_sound accepted calls
  ⟨sound.allocationExact, sound.freeExact, sound.countersExact⟩

/-- A memory map with one usable entry of three pages. -/
def threePageMap : List MemmapEntry := [⟨0x1000, 0x3000, memmapUsable⟩]

theorem threePageMap_runs_exact :
    let reached := run PmmTrace.step (PmmTrace.initial threePageMap)
      [.allocFrame, .allocFrameInRange 0x2000 0x3000, .freeFrame 0x1000]
    (∀ minimum maximum, AllocationExact threePageMap reached minimum maximum) ∧
      (∀ frame, (pmmFreeFrame reached.pmm frame).1 = true ↔ reached.outstanding frame = true) ∧
      CountersExact reached.pmm :=
  pmm_runs_exact threePageMap _ (by decide)

/-- The range bounds where a frame starts, not where it ends: a maximum that
is not a page boundary admits a frame that reaches beyond it. -/
theorem allocation_may_exceed_unaligned_maximum :
    ¬ ∀ memoryMap minimum maximum frame, (pmmInit memoryMap).1 = true →
      (pmmAllocFrameInRange (PmmTrace.initial memoryMap).pmm minimum maximum).1 = some frame →
      minimum ≤ frame ∧ frame + pmmPageSize ≤ maximum := by
  intro claim
  have beyond := (claim threePageMap 0x1000 0x1001 0x1000 (by decide) (by decide)).2
  exact absurd beyond (by decide)

end BoringOS.Memory
