import BoringOS.Memory.Pmm
import BoringOS.Library.ListFacts

namespace BoringOS.Memory

open Library

/-!
# What the regions of the allocator describe

A successful initialization lays the managed frames out in the bitmap
without gaps and without sharing.  Each region lies inside one usable entry
of the memory map, distinct regions are apart, and consecutive regions use
consecutive bits.  Hence a managed frame has one bit and a managed bit has
one frame, which is what the later proofs about single calls rely on.
-/

/-- The regions from bit `start` on use consecutive bits up to `total`. -/
def ContiguousFrom : Nat → List PmmRegion → Nat → Prop
  | start, [], total => start = total
  | start, region :: rest, total =>
    region.bitmapBase = start ∧ ContiguousFrom (start + region.frameCount) rest total

/-- The two regions share no address. -/
def RegionsApart (first second : PmmRegion) : Prop :=
  first.base + first.frameCount * pmmPageSize ≤ second.base ∨
    second.base + second.frameCount * pmmPageSize ≤ first.base

/-- The first address after an entry. -/
def MemmapEntry.limit (entry : MemmapEntry) : Nat := entry.base.toNat + entry.length.toNat

/-- The region consists of whole pages of this usable entry. -/
structure RegionOfEntry (entry : MemmapEntry) (region : PmmRegion) : Prop where
  usable : entry.type = memmapUsable
  aligned : region.base % pmmPageSize = 0
  inhabited : 0 < region.frameCount
  above : entry.base.toNat ≤ region.base
  below : region.base + region.frameCount * pmmPageSize ≤ entry.limit
  representable : entry.limit ≤ uint64Max

/-- The layout of the managed frames over a memory map. -/
structure PmmLayout (memoryMap : List MemmapEntry) (pmm : Pmm) : Prop where
  contiguous : ContiguousFrom 0 pmm.regions pmm.totalFrames
  capped : pmm.totalFrames ≤ pmmMaxFrames
  fromMap : ∀ region ∈ pmm.regions, ∃ entry ∈ memoryMap, RegionOfEntry entry region
  apart : pmm.regions.Pairwise RegionsApart

/-- The invariant of the running allocator. -/
structure PmmInvariant (memoryMap : List MemmapEntry) (pmm : Pmm) : Prop
    extends PmmLayout memoryMap pmm where
  online : pmm.initialized = true
  counted : pmm.freeFrames = pmm.bitmap.clearCount pmm.totalFrames

/-- The frame at this address has this bit. -/
def FrameAt (pmm : Pmm) (frame index : Nat) : Prop :=
  ∃ region ∈ pmm.regions, ∃ localFrame < region.frameCount,
    frame = region.base + localFrame * pmmPageSize ∧ index = region.bitmapBase + localFrame

theorem pmmEntryEnd_eq_some {entry : MemmapEntry} {limit : Nat} (accepted : pmmEntryEnd entry = some limit) :
    limit = entry.limit ∧ entry.limit ≤ uint64Max := by
  have small : entry.length.toNat < 2 ^ 64 := entry.length.toNat_lt
  unfold pmmEntryEnd at accepted
  split at accepted
  · cases accepted
  grind [MemmapEntry.limit, uint64Max]

theorem pmmAlignDown_le (value : Nat) : pmmAlignDown value ≤ value :=
  Nat.div_mul_le_self value pmmPageSize

theorem pmmAlignDown_mod (value : Nat) : pmmAlignDown value % pmmPageSize = 0 :=
  Nat.mul_mod_left (value / pmmPageSize) pmmPageSize

theorem pmmAlignUp_eq_some {value aligned : Nat} (fits : pmmAlignUp value = some aligned) :
    aligned % pmmPageSize = 0 ∧ value ≤ aligned ∧ aligned < value + pmmPageSize := by
  unfold pmmAlignUp at fits
  split at fits
  · cases fits
  cases fits
  refine ⟨pmmAlignDown_mod _, ?_, ?_⟩
  · simp only [pmmAlignDown, pmmPageSize]
    omega
  · exact Nat.lt_of_le_of_lt (pmmAlignDown_le _) (by simp only [pmmPageSize]; omega)

/-- No page boundary that fits in 64 bits lies above an address whose
rounding overflows. -/
theorem pmmAlignUp_eq_none {value frame : Nat} (overflows : pmmAlignUp value = none)
    (aligned : frame % pmmPageSize = 0) (below : frame + pmmPageSize ≤ uint64Max) :
    frame < value := by
  unfold pmmAlignUp at overflows
  grind

variable {regions : List PmmRegion}

theorem ContiguousFrom.bounds {start total : Nat} (contiguous : ContiguousFrom start regions total) :
    start ≤ total ∧ ∀ region ∈ regions,
      start ≤ region.bitmapBase ∧ region.bitmapBase + region.frameCount ≤ total := by
  induction regions generalizing start with
  | nil =>
    refine ⟨Nat.le_of_eq contiguous, ?_⟩
    intro region member
    cases member
  | cons head rest ih =>
    obtain ⟨first, later⟩ := contiguous
    obtain ⟨reached, -⟩ := ih later
    refine ⟨by omega, ?_⟩
    grind

theorem ContiguousFrom.pairwise {start total : Nat} (contiguous : ContiguousFrom start regions total) :
    regions.Pairwise (fun first second =>
      first.bitmapBase + first.frameCount ≤ second.bitmapBase) := by
  induction regions generalizing start with
  | nil => exact List.Pairwise.nil
  | cons head rest ih =>
    obtain ⟨first, later⟩ := contiguous
    refine List.Pairwise.cons ?_ (ih later)
    intro region member
    have := (later.bounds.2 region member).1
    omega

theorem ContiguousFrom.append {start middle : Nat}
    (contiguous : ContiguousFrom start regions middle) (region : PmmRegion)
    (next : region.bitmapBase = middle) :
    ContiguousFrom start (regions ++ [region]) (middle + region.frameCount) := by
  induction regions generalizing start with
  | nil =>
    have here : start = middle := contiguous
    exact ⟨next.trans here.symm, congrArg (· + region.frameCount) here⟩
  | cons head rest ih => exact ⟨contiguous.1, ih contiguous.2⟩

theorem ContiguousFrom.covers {start total index : Nat}
    (contiguous : ContiguousFrom start regions total) (reached : start ≤ index) (below : index < total) :
    ∃ region ∈ regions, region.bitmapBase ≤ index ∧
      index < region.bitmapBase + region.frameCount := by
  induction regions generalizing start with
  | nil =>
    have here : start = total := contiguous
    omega
  | cons head rest ih =>
    obtain ⟨first, later⟩ := contiguous
    grind

namespace PmmLayout

variable {memoryMap : List MemmapEntry} {pmm : Pmm}

section

variable (layout : PmmLayout memoryMap pmm)
include layout

theorem index_lt {frame index : Nat} (at' : FrameAt pmm frame index) : index < pmm.totalFrames := by
  obtain ⟨region, member, localFrame, inside, -, rfl⟩ := at'
  have := (layout.contiguous.bounds.2 region member).2
  omega

/-- The bit of a frame is determined by its address. -/
theorem index_unique {frame first second : Nat}
    (atFirst : FrameAt pmm frame first) (atSecond : FrameAt pmm frame second) : first = second := by
  obtain ⟨region, member, localFrame, inside, place, rfl⟩ := atFirst
  obtain ⟨other, otherMember, otherLocal, otherInside, otherPlace, rfl⟩ := atSecond
  have related := pairwise_of_mem layout.apart member otherMember
  grind [RegionsApart, pmmPageSize]

/-- A bit belongs to one frame only. -/
theorem frame_unique {first second index : Nat}
    (atFirst : FrameAt pmm first index) (atSecond : FrameAt pmm second index) : first = second := by
  obtain ⟨region, member, localFrame, inside, rfl, place⟩ := atFirst
  obtain ⟨other, otherMember, otherLocal, otherInside, rfl, otherPlace⟩ := atSecond
  rcases pairwise_of_mem layout.contiguous.pairwise member otherMember with
    same | before | after
  · simp_all
  · omega
  · omega

/-- Every managed bit has its frame. -/
theorem exists_frame {index : Nat} (below : index < pmm.totalFrames) : ∃ frame, FrameAt pmm frame index := by
  obtain ⟨region, member, reached, inside⟩ := layout.contiguous.covers (Nat.zero_le index) below
  exact ⟨_, region, member, index - region.bitmapBase, by omega, rfl, by omega⟩

theorem frame_aligned {frame index : Nat} (at' : FrameAt pmm frame index) : frame % pmmPageSize = 0 := by
  obtain ⟨region, member, -, -, rfl, -⟩ := at'
  obtain ⟨entry, -, ofEntry⟩ := layout.fromMap region member
  rw [Nat.add_mul_mod_self_right]
  exact ofEntry.aligned

/-- A managed frame lies wholly inside a usable entry. -/
theorem frame_in_entry {frame index : Nat} (at' : FrameAt pmm frame index) :
    ∃ entry ∈ memoryMap, entry.type = memmapUsable ∧ entry.base.toNat ≤ frame ∧
      frame + pmmPageSize ≤ entry.limit ∧ entry.limit ≤ uint64Max := by
  obtain ⟨region, member, localFrame, inside, rfl, -⟩ := at'
  obtain ⟨entry, entryIn, ofEntry⟩ := layout.fromMap region member
  have above := ofEntry.above
  have below := ofEntry.below
  have room : localFrame * pmmPageSize + pmmPageSize ≤ region.frameCount * pmmPageSize := by
    simp only [pmmPageSize]
    omega
  exact ⟨entry, entryIn, ofEntry.usable, by omega, by omega, ofEntry.representable⟩

theorem index_valid {index : Nat}
    (below : index < pmm.totalFrames) : pmmBitmapIndexValid pmm index = true := by
  have capped := layout.capped
  simp only [pmmBitmapIndexValid, Bool.and_eq_true, decide_eq_true_eq]
  grind [pmmBitmapWords, pmmBitsPerWord]

theorem regionEnd_eq {region : PmmRegion} (member : region ∈ pmm.regions) :
    pmmRegionEnd region = some (region.base + region.frameCount * pmmPageSize) := by
  obtain ⟨entry, -, ofEntry⟩ := layout.fromMap region member
  have below := ofEntry.below
  have representable := ofEntry.representable
  grind [pmmRegionEnd, pmmPageSize]

end

end PmmLayout

end BoringOS.Memory
