import BoringOS.Memory.PmmInvariant

namespace BoringOS.Memory

open Library

/-!
# The calls of the allocator

One specification for each call, over any state that satisfies the
invariant.  The search of an allocation is described by what it leaves
behind: an exhausted search has seen every frame of the range and found its
bit set, so a refusal means that no frame of the range was free.
-/

variable {memoryMap : List MemmapEntry} {pmm : Pmm}

/-- The frame is managed and its bit is set. -/
def FrameTaken (pmm : Pmm) (frame : Nat) : Prop :=
  ∃ index, FrameAt pmm frame index ∧ pmm.bitmap.isSet index = true

/-! ## Initialization -/

/-- Two entries that the first pass lets coexist. -/
def EntriesCompatible (first second : MemmapEntry) : Prop :=
  second.type = memmapUsable → first.limit ≤ second.base.toNat ∨ second.limit ≤ first.base.toNat

theorem pmmLaterEntriesAccepted_spec {entry : MemmapEntry} {rest : List MemmapEntry}
    (accepted : pmmLaterEntriesAccepted entry entry.limit rest = true) :
    ∀ other ∈ rest, EntriesCompatible entry other := by
  induction rest with
  | nil =>
    intro other member
    cases member
  | cons head rest ih =>
    unfold pmmLaterEntriesAccepted at accepted
    cases ends : pmmEntryEnd head with
    | none =>
      grind
    | some limit =>
      simp only [ends] at accepted
      obtain ⟨rfl, -⟩ := pmmEntryEnd_eq_some ends
      split at accepted
      · cases accepted
      rename_i tolerated
      intro other member usable
      rcases List.mem_cons.mp member with same | inRest
      · subst same
        simp only [pmmRangesOverlap, pmmOverlapRequiresRejection, usable,
          Bool.and_eq_true, decide_eq_true_eq, beq_self_eq_true, Bool.or_true,
          Bool.true_or, and_true] at tolerated
        omega
      · exact ih accepted other inRest usable

theorem pmmEntriesAccepted_spec {entries : List MemmapEntry}
    (accepted : pmmEntriesAccepted entries = true) : entries.Pairwise EntriesCompatible := by
  induction entries with
  | nil => exact List.Pairwise.nil
  | cons head rest ih =>
    unfold pmmEntriesAccepted at accepted
    cases ends : pmmEntryEnd head with
    | none =>
      grind
    | some limit =>
      simp only [ends, Bool.and_eq_true] at accepted
      obtain ⟨rfl, -⟩ := pmmEntryEnd_eq_some ends
      exact List.Pairwise.cons (pmmLaterEntriesAccepted_spec accepted.1) (ih accepted.2)

theorem pmmRecordRegion_eq_some {next : Pmm} {alignedBase frameCount : Nat}
    (recorded : pmmRecordRegion pmm alignedBase frameCount = some next) :
    next.regions = pmm.regions ++ [⟨alignedBase, frameCount, pmm.totalFrames⟩] ∧
      next.totalFrames = pmm.totalFrames + frameCount ∧
      next.totalFrames ≤ pmmMaxFrames ∧ next.bitmap = pmm.bitmap := by
  unfold pmmRecordRegion at recorded
  grind

/-- What one round of the second pass can do: skip the entry, or append one
region that consists of whole pages of it. -/
theorem pmmAddEntry_cases {next : Pmm} {entry : MemmapEntry} (added : pmmAddEntry pmm entry = some next) :
    (next.regions = pmm.regions ∧ next.totalFrames = pmm.totalFrames ∧ next.bitmap = pmm.bitmap) ∨
    ∃ region, RegionOfEntry entry region ∧ region.bitmapBase = pmm.totalFrames ∧
      next.regions = pmm.regions ++ [region] ∧
      next.totalFrames = pmm.totalFrames + region.frameCount ∧
      next.totalFrames ≤ pmmMaxFrames ∧ next.bitmap = pmm.bitmap := by
  unfold pmmAddEntry at added
  split at added
  · simp_all
  rename_i usable
  split at added
  · rename_i rawEnd alignedBase ends aligns
    obtain ⟨rfl, representable⟩ := pmmEntryEnd_eq_some ends
    obtain ⟨aligned, above, -⟩ := pmmAlignUp_eq_some aligns
    have below := pmmAlignDown_le entry.limit
    have wholePages : ∀ frameCount, 0 < frameCount →
        frameCount ≤ (pmmAlignDown entry.limit - alignedBase) / pmmPageSize →
        RegionOfEntry entry ⟨alignedBase, frameCount, pmm.totalFrames⟩ := by
      intro frameCount positive fits
      have room : alignedBase + frameCount * pmmPageSize ≤ entry.limit := by
        simp only [pmmPageSize] at *
        omega
      exact ⟨Decidable.not_not.mp usable, aligned, positive, above, room, representable⟩
    simp only at added
    -- The three early exits keep the regions, the last two branches record one.
    split at added
    · grind
    split at added
    · simp_all
    split at added
    · cases added
    split at added
    · grind
    split at added
    · obtain ⟨regions, total, capped, bitmap⟩ := pmmRecordRegion_eq_some added
      grind
    · obtain ⟨regions, total, capped, bitmap⟩ := pmmRecordRegion_eq_some added
      grind
  · cases added

theorem regionsApart_of_compatible {first second : MemmapEntry} {region other : PmmRegion}
    (compatible : EntriesCompatible first second) (ofFirst : RegionOfEntry first region)
    (ofSecond : RegionOfEntry second other) : RegionsApart region other := by
  have firstAbove := ofFirst.above
  have firstBelow := ofFirst.below
  have secondAbove := ofSecond.above
  have secondBelow := ofSecond.below
  rcases compatible ofSecond.usable with before | after
  · exact Or.inl (by omega)
  · exact Or.inr (by omega)

theorem pmmAddEntries_layout {next : Pmm} (rest : List MemmapEntry) :
    ∀ {pmm : Pmm} (done : List MemmapEntry), PmmLayout done pmm →
      (done ++ rest).Pairwise EntriesCompatible → pmmAddEntries pmm rest = some next →
      PmmLayout (done ++ rest) next ∧ next.bitmap = pmm.bitmap := by
  induction rest with
  | nil =>
    intro pmm done layout _ added
    cases added
    grind
  | cons entry rest ih =>
    intro pmm done layout compatible added
    unfold pmmAddEntries at added
    cases here : pmmAddEntry pmm entry with
    | none =>
      rw [here] at added
      cases added
    | some middle =>
      have before : ∀ earlier ∈ done, EntriesCompatible earlier entry := fun earlier member =>
        (List.pairwise_append.mp compatible).2.2 earlier member entry List.mem_cons_self
      have stillIn : ∀ region ∈ pmm.regions, ∃ source ∈ done ++ [entry], RegionOfEntry source region := by
        intro region member
        obtain ⟨source, sourceIn, ofSource⟩ := layout.fromMap region member
        exact ⟨source, List.mem_append_left _ sourceIn, ofSource⟩
      have middleLayout : PmmLayout (done ++ [entry]) middle := by
        rcases pmmAddEntry_cases here with
          ⟨sameRegions, sameTotal, -⟩ | ⟨region, ofEntry, place, regions, total, capped, -⟩
        · exact ⟨by rw [sameRegions, sameTotal]; exact layout.contiguous,
            by rw [sameTotal]; exact layout.capped, by rw [sameRegions]; exact stillIn,
            by rw [sameRegions]; exact layout.apart⟩
        refine ⟨?_, capped, ?_, ?_⟩
        · rw [regions, total]
          exact layout.contiguous.append region place
        · grind
        · rw [regions]
          refine List.pairwise_append.mpr ⟨layout.apart, List.pairwise_singleton _ _, ?_⟩
          intro other member new newIn
          obtain ⟨source, sourceIn, ofSource⟩ := layout.fromMap other member
          grind [regionsApart_of_compatible]
      have sameBitmap : middle.bitmap = pmm.bitmap := by
        rcases pmmAddEntry_cases here with ⟨-, -, same⟩ | ⟨_, -, -, -, -, -, same⟩
        · exact same
        · exact same
      grind

theorem clearCount_zero (bound : Nat) : WordBitmap.clearCount (fun _ => 0#64) bound = bound := by
  have none : WordBitmap.setCount (fun _ => 0#64) bound = 0 :=
    Nat.count_iff_forall_not.mpr fun index _ => by
      simp only [WordBitmap.isSet_eq_getLsbD, BitVec.getLsbD_zero, Bool.false_eq_true, not_false_eq_true]
  have total := WordBitmap.clearCount_add_setCount (fun _ => 0#64) bound
  omega

/-- A successful initialization establishes the invariant with every managed
bit clear. -/
theorem pmmInit_spec (accepted : (pmmInit memoryMap).1 = true) :
    PmmInvariant memoryMap (pmmInit memoryMap).2 ∧
      (pmmInit memoryMap).2.bitmap = fun _ => 0#64 := by
  have empty : PmmLayout [] pmmResetState :=
    ⟨rfl, Nat.zero_le _, fun _ member => (List.not_mem_nil member).elim, List.Pairwise.nil⟩
  unfold pmmInit at accepted ⊢
  split at accepted
  · cases accepted
  split at accepted
  · cases accepted
  split at accepted
  · cases accepted
  rename_i nonempty few entries
  rw [if_neg nonempty, if_neg few, if_neg entries]
  rw [Bool.not_eq_false] at entries
  cases added : pmmAddEntries pmmResetState memoryMap with
  | none =>
    simp_all
  | some built =>
    simp only [added] at accepted ⊢
    split at accepted
    · cases accepted
    rename_i someFrames
    rw [if_neg someFrames]
    obtain ⟨layout, bitmap⟩ :=
      pmmAddEntries_layout memoryMap [] empty (pmmEntriesAccepted_spec entries) added
    exact ⟨⟨{ layout with }, rfl, by simp only [bitmap, pmmResetState, clearCount_zero]⟩, bitmap⟩

/-! ## Looking a frame up -/

theorem pmmFindInRegions_sound {frame index : Nat} (aligned : frame % pmmPageSize = 0)
    (layout : PmmLayout memoryMap pmm) {regions : List PmmRegion}
    (within : ∀ region ∈ regions, region ∈ pmm.regions)
    (found : pmmFindInRegions pmm frame regions = some index) : FrameAt pmm frame index := by
  induction regions with
  | nil => cases found
  | cons region rest ih =>
    have member := within region List.mem_cons_self
    obtain ⟨entry, -, ofEntry⟩ := layout.fromMap region member
    have baseAligned := ofEntry.aligned
    unfold pmmFindInRegions at found
    simp only [layout.regionEnd_eq member] at found
    split at found
    · split at found
      · cases found
      split at found
      · cases found
        simp only [pmmPageSize] at *
        exact ⟨region, member, (frame - region.base) / 4096, by omega,
          by simp only [pmmPageSize]; omega, rfl⟩
      · cases found
    simp_all

theorem pmmFindInRegions_complete (layout : PmmLayout memoryMap pmm)
    {regions : List PmmRegion} (within : ∀ region ∈ regions, region ∈ pmm.regions)
    {region : PmmRegion} (member : region ∈ regions) {localFrame : Nat}
    (inside : localFrame < region.frameCount) :
    (pmmFindInRegions pmm (region.base + localFrame * pmmPageSize) regions).isSome = true := by
  induction regions with
  | nil => cases member
  | cons head rest ih =>
    have headIn := within head List.mem_cons_self
    unfold pmmFindInRegions
    simp only [layout.regionEnd_eq headIn]
    split
    · have bounds := (layout.contiguous.bounds.2 head headIn).2
      have capped := layout.capped
      have localSmall : (region.base + localFrame * pmmPageSize - head.base) / pmmPageSize <
          head.frameCount := by
        simp only [pmmPageSize] at *
        omega
      rw [if_neg, if_pos (layout.index_valid (by omega))]
      · rfl
      · simp only [uint64Max, pmmMaxFrames] at *
        omega
    grind [pmmPageSize]

theorem pmmFindFrame_eq_some_iff (layout : PmmLayout memoryMap pmm) {frame index : Nat} :
    pmmFindFrame pmm frame = some index ↔ FrameAt pmm frame index := by
  constructor
  · grind [pmmFindFrame, pmmFindInRegions_sound]
  · intro at'
    have aligned := layout.frame_aligned at'
    have lookup : pmmFindFrame pmm frame = pmmFindInRegions pmm frame pmm.regions := by
      rw [pmmFindFrame, if_neg (not_not_intro aligned)]
    have known : (pmmFindInRegions pmm frame pmm.regions).isSome = true := by
      obtain ⟨region, member, localFrame, inside, rfl, -⟩ := at'
      exact pmmFindInRegions_complete layout (fun _ => id) member inside
    obtain ⟨other, found⟩ := Option.isSome_iff_exists.mp known
    have same := layout.index_unique at' (pmmFindInRegions_sound aligned layout (fun _ => id) found)
    rw [lookup, found, same]

theorem pmmFrameIsUsable_iff (inv : PmmInvariant memoryMap pmm) {frame : Nat} :
    pmmFrameIsUsable pmm frame = true ↔ ∃ index, FrameAt pmm frame index := by
  simp only [pmmFrameIsUsable, inv.online, Bool.true_and, Option.isSome_iff_exists,
    pmmFindFrame_eq_some_iff inv.toPmmLayout]

theorem pmmBitIsSet_eq (layout : PmmLayout memoryMap pmm) {index : Nat}
    (below : index < pmm.totalFrames) : pmmBitIsSet pmm index = pmm.bitmap.isSet index := by
  rw [pmmBitIsSet, layout.index_valid below, Bool.true_and]

/-! ## Allocation -/

/-- A search never fails; an exhausted one and a successful one report what
they saw. -/
def RegionSearch.Reports (exhausted : Prop) (found : Nat → Nat → Prop) : RegionSearch → Prop
  | .failed => False
  | .exhausted => exhausted
  | .found index frame => found index frame

theorem RegionSearch.Reports.imp {exhausted exhausted' : Prop} {found found' : Nat → Nat → Prop}
    {search : RegionSearch} (reports : search.Reports exhausted found)
    (whenExhausted : exhausted → exhausted')
    (whenFound : ∀ index frame, found index frame → found' index frame) :
    search.Reports exhausted' found' := by
  cases search with
  | failed => exact reports
  | exhausted => exact whenExhausted reports
  | found index frame => exact whenFound index frame reports

section

variable (layout : PmmLayout memoryMap pmm)
include layout

theorem pmmSearchFrames_spec {region : PmmRegion}
    (member : region ∈ pmm.regions) (maximum : Nat) (remaining : Nat) :
    ∀ localFrame, localFrame + remaining = region.frameCount →
      (pmmSearchFrames pmm region maximum remaining localFrame).Reports
        (∀ visited, localFrame ≤ visited → visited < region.frameCount →
          region.base + visited * pmmPageSize < maximum →
          pmm.bitmap.isSet (region.bitmapBase + visited) = true)
        (fun index frame => ∃ visited, localFrame ≤ visited ∧ visited < region.frameCount ∧
          index = region.bitmapBase + visited ∧ frame = region.base + visited * pmmPageSize ∧
          frame < maximum ∧ pmm.bitmap.isSet index = false) := by
  induction remaining with
  | zero =>
    intro localFrame last visited reached inside
    omega
  | succ remaining ih =>
    intro localFrame last
    have total := (layout.contiguous.bounds.2 region member).2
    have below : region.bitmapBase + localFrame < pmm.totalFrames := by omega
    simp only [pmmSearchFrames]
    split
    · rename_i beyond
      intro visited reached _ inRange
      simp only [pmmPageSize] at beyond inRange
      omega
    · rw [if_neg (by rw [layout.index_valid below]; decide), pmmBitIsSet_eq layout below]
      split
      · rename_i isClear
        exact ⟨localFrame, Nat.le_refl _, by omega, rfl, rfl, by omega, isClear⟩
      refine (ih (localFrame + 1) (by omega)).imp ?_ ?_
      · grind
      · rintro index frame ⟨visited, reached, found⟩
        exact ⟨visited, by omega, found⟩

theorem pmmSearchRegion_spec {region : PmmRegion} (member : region ∈ pmm.regions) {alignedMinimum : Nat}
    (aligned : alignedMinimum % pmmPageSize = 0) (maximum : Nat) :
    (pmmSearchRegion pmm alignedMinimum maximum region).Reports
      (∀ visited < region.frameCount, alignedMinimum ≤ region.base + visited * pmmPageSize →
        region.base + visited * pmmPageSize < maximum → pmm.bitmap.isSet (region.bitmapBase + visited) = true)
      (fun index frame => FrameAt pmm frame index ∧ alignedMinimum ≤ frame ∧
        frame < maximum ∧ pmm.bitmap.isSet index = false) := by
  obtain ⟨entry, -, ofEntry⟩ := layout.fromMap region member
  have baseAligned := ofEntry.aligned
  unfold pmmSearchRegion
  simp only [layout.regionEnd_eq member]
  -- The first frame to visit is the lowest one not below the minimum.
  have start : ∀ searchBase, searchBase =
        (if region.base < alignedMinimum then alignedMinimum else region.base) →
      region.base + (searchBase - region.base) / pmmPageSize * pmmPageSize = searchBase ∧
        alignedMinimum ≤ searchBase ∧ region.base ≤ searchBase ∧
        (searchBase = alignedMinimum ∨ searchBase = region.base) := by
    intro searchBase chosen
    simp only [pmmPageSize] at *
    split at chosen <;> omega
  obtain ⟨first, above, -, chosen⟩ := start _ rfl
  generalize (if region.base < alignedMinimum then alignedMinimum else region.base) = searchBase at *
  split
  · intro visited inside reached small
    simp only [pmmPageSize] at *
    omega
  · refine (pmmSearchFrames_spec layout member maximum
      (region.frameCount - (searchBase - region.base) / pmmPageSize)
      ((searchBase - region.base) / pmmPageSize) (by simp only [pmmPageSize] at *; omega)).imp ?_ ?_
    · grind [pmmPageSize]
    · rintro index frame ⟨visited, reached, inFrames, rfl, rfl, small, isClear⟩
      refine ⟨⟨region, member, visited, inFrames, rfl, rfl⟩, ?_, small, isClear⟩
      simp only [pmmPageSize] at *
      omega

theorem pmmSearchRegions_spec {alignedMinimum : Nat}
    (aligned : alignedMinimum % pmmPageSize = 0) (maximum : Nat) (regions : List PmmRegion)
    (within : ∀ region ∈ regions, region ∈ pmm.regions) :
    (pmmSearchRegions pmm alignedMinimum maximum regions).Reports
      (∀ region ∈ regions, ∀ visited < region.frameCount,
        alignedMinimum ≤ region.base + visited * pmmPageSize → region.base + visited * pmmPageSize < maximum →
        pmm.bitmap.isSet (region.bitmapBase + visited) = true)
      (fun index frame => FrameAt pmm frame index ∧ alignedMinimum ≤ frame ∧
        frame < maximum ∧ pmm.bitmap.isSet index = false) := by
  induction regions with
  | nil =>
    intro region member
    cases member
  | cons head rest ih =>
    have here := pmmSearchRegion_spec layout (within head List.mem_cons_self) aligned maximum
    have later := ih fun region member => within region (List.mem_cons_of_mem _ member)
    unfold pmmSearchRegions
    cases outcome : pmmSearchRegion pmm alignedMinimum maximum head with
    | failed =>
      rw [outcome] at here
      exact here.elim
    | found index frame =>
      rw [outcome] at here
      exact here
    | exhausted =>
      rw [outcome] at here
      refine later.imp ?_ fun _ _ => id
      intro inRest region member
      rcases List.mem_cons.mp member with same | afterwards
      · rw [same]
        exact here
      · exact inRest region afterwards

theorem pmmSetBit_eq {index : Nat} (below : index < pmm.totalFrames) :
    pmmSetBit pmm index = some { pmm with bitmap := pmm.bitmap.set index } := by
  rw [pmmSetBit, if_pos (layout.index_valid below)]

end

/-- Every outcome of an allocation.  Either a clear frame of the range is
marked, or the state is kept and no frame of the range is clear. -/
theorem pmmAllocFrameInRange_cases (inv : PmmInvariant memoryMap pmm) (minimum maximum : Nat) :
    (∃ frame index, FrameAt pmm frame index ∧ minimum ≤ frame ∧ frame < maximum ∧
      pmm.bitmap.isSet index = false ∧
      pmmAllocFrameInRange pmm minimum maximum = (some frame,
        { pmm with bitmap := pmm.bitmap.set index, freeFrames := pmm.freeFrames - 1 })) ∨
    (pmmAllocFrameInRange pmm minimum maximum = (none, pmm) ∧
      ∀ frame index, FrameAt pmm frame index → minimum ≤ frame → frame < maximum →
        pmm.bitmap.isSet index = true) := by
  have layout := inv.toPmmLayout
  unfold pmmAllocFrameInRange
  split
  · rename_i refused
    refine Or.inr ⟨rfl, ?_⟩
    intro frame index at' reached small
    rcases refused with offline | full | empty
    · rw [inv.online] at offline
      cases offline
    · rw [inv.counted] at full
      by_contra isClear
      have := WordBitmap.clearCount_pos (layout.index_lt at') (Bool.of_not_eq_true isClear)
      omega
    · omega
  · cases aligns : pmmAlignUp minimum with
    | none =>
      refine Or.inr ⟨rfl, ?_⟩
      intro frame index at' reached _
      obtain ⟨entry, -, -, -, below, representable⟩ := layout.frame_in_entry at'
      have := pmmAlignUp_eq_none aligns (layout.frame_aligned at') (by omega)
      omega
    | some alignedMinimum =>
      obtain ⟨aligned, above, near⟩ := pmmAlignUp_eq_some aligns
      -- A page boundary not below the minimum is not below the aligned one.
      have roundsUp : ∀ frame index, FrameAt pmm frame index → minimum ≤ frame →
          alignedMinimum ≤ frame := by
        intro frame index at' reached
        have frameAligned := layout.frame_aligned at'
        simp only [pmmPageSize] at *
        omega
      simp only
      split
      · grind
      have spec := pmmSearchRegions_spec layout aligned maximum pmm.regions fun _ => id
      cases outcome : pmmSearchRegions pmm alignedMinimum maximum pmm.regions with
      | failed =>
        rw [outcome] at spec
        exact spec.elim
      | exhausted =>
        rw [outcome] at spec
        refine Or.inr ⟨rfl, ?_⟩
        intro frame index at' reached small
        have alignedReached := roundsUp frame index at' reached
        obtain ⟨region, member, visited, inside, rfl, rfl⟩ := at'
        exact spec region member visited inside alignedReached small
      | found index frame =>
        rw [outcome] at spec
        obtain ⟨at', reached, small, isClear⟩ := spec
        simp only [pmmSetBit_eq layout (layout.index_lt at')]
        grind

/-! ## Release -/

/-- Every outcome of a release.  Either the bit of a set frame is cleared, or
the state is kept and the address is not that of a set frame. -/
theorem pmmFreeFrame_cases (inv : PmmInvariant memoryMap pmm) (frame : Nat) :
    (∃ index, FrameAt pmm frame index ∧ pmm.bitmap.isSet index = true ∧
      pmmFreeFrame pmm frame = (true,
        { pmm with bitmap := pmm.bitmap.clear index, freeFrames := pmm.freeFrames + 1 })) ∨
    (pmmFreeFrame pmm frame = (false, pmm) ∧ ¬ FrameTaken pmm frame) := by
  have layout := inv.toPmmLayout
  have lookup : ∀ index, pmmFindFrame pmm frame = some index ↔ FrameAt pmm frame index :=
    fun _ => pmmFindFrame_eq_some_iff layout
  unfold pmmFreeFrame
  rw [if_neg (by rw [inv.online]; decide)]
  cases found : pmmFindFrame pmm frame with
  | none =>
    refine Or.inr ⟨rfl, ?_⟩
    rintro ⟨index, at', -⟩
    simp_all
  | some index =>
    have at' := (lookup index).mp found
    have below := layout.index_lt at'
    simp only [pmmBitIsSet_eq layout below]
    cases bit : pmm.bitmap.isSet index with
    | false =>
      refine Or.inr ⟨by simp, ?_⟩
      rintro ⟨other, otherAt, isSet⟩
      grind
    | true =>
      refine Or.inl ⟨index, at', bit, ?_⟩
      simp [pmmClearBit, layout.index_valid below]

/-! ## The invariant -/

/-- Only the bitmap and the counter change after initialization. -/
theorem PmmLayout.of_same_regions {next : Pmm} (layout : PmmLayout memoryMap pmm)
    (regions : next.regions = pmm.regions) (total : next.totalFrames = pmm.totalFrames) :
    PmmLayout memoryMap next :=
  ⟨by rw [regions, total]; exact layout.contiguous, by rw [total]; exact layout.capped,
    by rw [regions]; exact layout.fromMap, by rw [regions]; exact layout.apart⟩

theorem pmmAllocFrameInRange_invariant (inv : PmmInvariant memoryMap pmm) (minimum maximum : Nat) :
    PmmInvariant memoryMap (pmmAllocFrameInRange pmm minimum maximum).2 := by
  rcases pmmAllocFrameInRange_cases inv minimum maximum with
    ⟨frame, index, at', -, -, isClear, result⟩ | ⟨result, -⟩
  · rw [result]
    have counted := inv.counted
    have one := WordBitmap.clearCount_set (inv.toPmmLayout.index_lt at') isClear
    exact ⟨inv.toPmmLayout.of_same_regions rfl rfl, inv.online, by simp only; omega⟩
  · rw [result]
    exact inv

theorem pmmFreeFrame_invariant (inv : PmmInvariant memoryMap pmm) (frame : Nat) :
    PmmInvariant memoryMap (pmmFreeFrame pmm frame).2 := by
  rcases pmmFreeFrame_cases inv frame with ⟨index, at', isSet, result⟩ | ⟨result, -⟩
  · rw [result]
    have counted := inv.counted
    have one := WordBitmap.clearCount_clear (inv.toPmmLayout.index_lt at') isSet
    exact ⟨inv.toPmmLayout.of_same_regions rfl rfl, inv.online, by simp only; omega⟩
  · rw [result]
    exact inv

end BoringOS.Memory
