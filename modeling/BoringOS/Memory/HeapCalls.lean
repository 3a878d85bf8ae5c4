import BoringOS.Memory.HeapStores

namespace BoringOS.Memory

/-!
# What the heap calls do

A client knows the heap by its used payloads: where each starts and how large
it is.  Growth leaves that list alone, an allocation inserts one payload and
a release deletes one; everything else about the cells is private to the
heap.  Each call also keeps the invariant, on its failing paths too, so the
check that ends a call never flags the heap.
-/

/-! ## Used payloads -/

/-- The used payloads of a sequence of cells, each with its start and size. -/
def payloads : (address : Nat) → List HeapCell → List (Nat × Nat)
  | _, [] => []
  | address, cell :: rest =>
    (if cell.used then [(address + heapHeaderSize, cell.size)] else []) ++
      payloads (address + cell.span) rest

@[simp] theorem payloads_nil (address : Nat) : payloads address [] = [] := rfl

theorem payloads_append (first second : List HeapCell) :
    ∀ address, payloads address (first ++ second) =
      payloads address first ++ payloads (address + extent first) second := by
  induction first with
  | nil => exact fun _ => rfl
  | cons cell rest ih =>
    intro address
    simp only [List.cons_append, payloads, ih, extent_cons, List.append_assoc, Nat.add_assoc]

theorem payloads_cons_free {address : Nat} {cell : HeapCell} {rest : List HeapCell}
    (free : cell.used = false) :
    payloads address (cell :: rest) = payloads (address + cell.span) rest := by
  simp only [payloads, free, Bool.false_eq_true, if_false, List.nil_append]

theorem payloads_cons_used {address : Nat} {cell : HeapCell} {rest : List HeapCell}
    (used : cell.used = true) :
    payloads address (cell :: rest) =
      (address + heapHeaderSize, cell.size) :: payloads (address + cell.span) rest := by
  simp only [payloads, used, if_true, List.singleton_append]

theorem mem_payloads {pointer room : Nat} (cells : List HeapCell) :
    ∀ address, (pointer, room) ∈ payloads address cells ↔
      ∃ front cell back, cells = front ++ cell :: back ∧ cell.used = true ∧
        pointer = address + extent front + heapHeaderSize ∧ room = cell.size := by
  induction cells with
  | nil =>
    simp
  | cons head rest ih =>
    intro address
    rw [payloads, List.mem_append, ih]
    constructor
    · rintro (here | ⟨front, cell, back, split, used, start, size⟩)
      · by_cases used : head.used = true
        · rw [if_pos used, List.mem_singleton, Prod.mk.injEq] at here
          exact ⟨[], head, rest, rfl, used, here.1, here.2⟩
        grind
      grind [extent_cons]
    · rintro ⟨front, cell, back, split, used, start, size⟩
      cases front with
      | nil =>
        simp_all
      | cons other more =>
        grind [extent_cons]

/-- The payloads lie one behind the other, with a header in between. -/
theorem payloads_apart (cells : List HeapCell) :
    ∀ address, (payloads address cells).Pairwise fun first second =>
      first.1 + first.2 + heapHeaderSize ≤ second.1 := by
  induction cells with
  | nil => exact fun _ => List.Pairwise.nil
  | cons cell rest ih =>
    intro address
    by_cases used : cell.used = true
    · rw [payloads_cons_used used]
      refine List.pairwise_cons.mpr ⟨fun payload member => ?_, ih _⟩
      grind [mem_payloads, HeapCell.span]
    simp_all [payloads_cons_free]

/-! ## Rewriting a heap -/

variable {heap : Heap}

/-- New words for the same window. -/
theorem HeapShape.rewrite {cells cells' : List HeapCell} {memory : HeapMemory}
    (shape : HeapShape heap cells) (laid : Laid memory 0 0 heapVirtualBase cells')
    (same : extent cells' = extent cells) (sizes : ∀ cell ∈ cells', cell.SizeOk)
    (inhabited : cells' ≠ []) : HeapShape { heap with memory := memory } cells' where
  initialized := shape.initialized
  sound := shape.sound
  first := shape.first
  pages := shape.pages
  laid := laid
  covers := same.trans shape.covers
  sizes := sizes
  inhabited := inhabited

variable {front back : List HeapCell} {cell : HeapCell}

theorem coalesced_append_cons :
    Coalesced (front ++ cell :: back) ↔
      Coalesced front ∧ Coalesced back ∧ (∀ left ∈ front.getLast?, left.used = true ∨ cell.used = true) ∧
        (∀ right ∈ back.head?, cell.used = true ∨ right.used = true) := by
  rw [Coalesced, List.isChain_append, List.isChain_cons]
  constructor
  · rintro ⟨before, ⟨behind, rest⟩, joint⟩
    exact ⟨before, rest, fun left member => joint left member cell rfl, behind⟩
  · rintro ⟨before, rest, joint, behind⟩
    refine ⟨before, ⟨behind, rest⟩, fun left member right isCell => ?_⟩
    cases isCell
    exact joint left member

/-! ## Growth -/

/-- One more page, mapped at the end of the window. -/
def Heap.extended (heap : Heap) : Heap :=
  { heap with
    memory := heapExtendTail (heap.memory.zeroPage heap.limit) (heapLastBlock heap) heap.limit
    mappedPages := heap.mappedPages + 1 }

theorem HeapInvariant.extended_free {front : List HeapCell} {last : HeapCell}
    (invariant : HeapInvariant heap (front ++ [last])) (room : heap.mappedPages < heapMaxPages)
    (free : last.used = false) :
    HeapInvariant heap.extended (front ++ [⟨last.size + heapPageSize, false⟩]) := by
  have shape := invariant.toHeapShape
  have laid := shape.laid.zeroPage (Nat.le_of_eq shape.end_le.1)
  refine ⟨⟨shape.initialized, shape.sound, shape.first, room, ?_, ?_, ?_, by simp⟩, ?_⟩
  · rw [Heap.extended, shape.lastBlock]
    exact laid_widenTail laid free
  · have covers := shape.covers
    simp only [extent_append, extent_cons, extent_nil, HeapCell.span, Heap.extended, Nat.add_mul,
      Nat.one_mul] at covers ⊢
    omega
  · intro cell member
    rcases List.mem_append.mp member with before | isNew
    · exact shape.sizes cell (List.mem_append_left _ before)
    · rcases shape.sizeOk with ⟨-, aligned⟩
      grind [HeapCell.SizeOk, kernelHeapAlignment, heapPageSize]
  · have chain := coalesced_append_cons.mp invariant.coalesced
    rw [free] at chain
    exact coalesced_append_cons.mpr chain

theorem HeapInvariant.extended_used {front : List HeapCell} {last : HeapCell}
    (invariant : HeapInvariant heap (front ++ [last])) (room : heap.mappedPages < heapMaxPages)
    (used : last.used = true) :
    HeapInvariant heap.extended (front ++ [last, ⟨heapPageSize - heapHeaderSize, false⟩]) := by
  have shape := invariant.toHeapShape
  have limit := shape.end_le.1
  have laid := shape.laid.zeroPage (Nat.le_of_eq limit)
  have oldEnd : heap.limit = heapVirtualBase + extent front + last.span := by
    rw [← limit]
    simp only [extent_append, extent_cons, extent_nil]
    omega
  refine ⟨⟨shape.initialized, shape.sound, shape.first, room, ?_, ?_, ?_, by simp⟩, ?_⟩
  · have appended := laid_appendTail laid used
    rw [← oldEnd] at appended
    rw [Heap.extended, shape.lastBlock]
    exact appended
  · have covers := shape.covers
    simp only [extent_append, extent_cons, extent_nil, HeapCell.span, Heap.extended, Nat.add_mul,
      Nat.one_mul, heapHeaderSize, heapPageSize] at covers ⊢
    omega
  · intro cell member
    rcases List.mem_append.mp member with before | isNew
    · exact shape.sizes cell (List.mem_append_left _ before)
    rcases List.mem_cons.mp isNew with rfl | isNew
    · exact shape.sizeOk
    · rw [List.mem_singleton.mp isNew]
      exact ⟨by decide, by decide⟩
  · have chain := coalesced_append_cons.mp invariant.coalesced
    exact coalesced_append_cons.mpr ⟨chain.1, List.isChain_singleton _, chain.2.2.1, fun _ _ => Or.inl used⟩

/-- Growth either leaves the heap as it is or extends it by a page, and never
touches a used payload. -/
theorem heapGrowOnePage_cases {cells : List HeapCell}
    (invariant : HeapInvariant heap cells) (growth : PageGrowth) :
    heapGrowOnePage heap growth = (false, heap) ∨
      ∃ grown cells', heapGrowOnePage heap growth = (true, grown) ∧ HeapInvariant grown cells' ∧
        payloads heapVirtualBase cells' = payloads heapVirtualBase cells := by
  simp only [heapGrowOnePage, heapMappedEnd_eq invariant.pages]
  split
  · exact Or.inl rfl
  rename_i growable
  have room : heap.mappedPages < heapMaxPages := by
    simp only [not_or, Nat.not_le] at growable
    exact growable.2.1
  split
  · exact Or.inl rfl
  split
  · exact Or.inl rfl
  right
  rcases List.eq_nil_or_concat' cells with empty | ⟨front, last, rfl⟩
  · exact absurd empty invariant.inhabited
  cases used : last.used with
  | false =>
    have grown := invariant.extended_free room used
    refine ⟨heap.extended, _, if_neg ?_, grown, ?_⟩
    · exact ne_false_of_eq_true grown.validates
    simp_all [payloads_append, payloads_cons_free, payloads_nil]
  | true =>
    have grown := invariant.extended_used room used
    refine ⟨heap.extended, _, if_neg ?_, grown, ?_⟩
    · exact ne_false_of_eq_true grown.validates
    simp_all [payloads_append, payloads_cons_used, payloads_cons_free, payloads_nil]

/-! ## Allocation -/

theorem heapAlignRequest_some {size alignedSize : Nat} (aligned : heapAlignRequest size = some alignedSize) :
    size ≤ alignedSize ∧ kernelHeapAlignment ≤ alignedSize ∧
      alignedSize % kernelHeapAlignment = 0 := by
  simp only [heapAlignRequest] at aligned
  split at aligned
  · cases aligned
  grind [kernelHeapAlignment]

theorem HeapInvariant.split
    {alignedSize : Nat} (invariant : HeapInvariant heap (front ++ cell :: back))
    (free : cell.used = false) (least : kernelHeapAlignment ≤ alignedSize)
    (aligned : alignedSize % kernelHeapAlignment = 0)
    (splits : alignedSize + heapHeaderSize + kernelHeapAlignment ≤ cell.size) :
    HeapInvariant
      { heap with
        memory := heapSplitBlock heap.memory (heapVirtualBase + extent front) alignedSize }
      (front ++ ⟨alignedSize, true⟩ :: ⟨cell.size - alignedSize - heapHeaderSize, false⟩ :: back) := by
  have shape := invariant.toHeapShape
  have chain := coalesced_append_cons.mp invariant.coalesced
  refine ⟨shape.rewrite (laid_split shape.laid (by decide) (by omega)) ?_ ?_ (by simp), ?_⟩
  · simp only [extent_append, extent_cons, HeapCell.span]
    omega
  · intro other member
    simp only [List.mem_append, List.mem_cons] at member
    rcases member with before | rfl | rfl | behind
    · exact shape.sizes other (List.mem_append_left _ before)
    · exact ⟨least, aligned⟩
    · rcases shape.sizeOk with ⟨-, sizeAligned⟩
      simp only [HeapCell.SizeOk, kernelHeapAlignment, heapHeaderSize] at *
      omega
    · exact shape.sizes other (List.mem_append_right _ (List.mem_cons_of_mem _ behind))
  · refine coalesced_append_cons.mpr ⟨chain.1, List.isChain_cons.mpr ⟨fun right member => ?_,
      chain.2.1⟩, fun _ _ => Or.inr rfl, fun _ _ => Or.inl rfl⟩
    simp_all

/-- A cell whose state changes keeps the shape. -/
theorem HeapShape.marked (shape : HeapShape heap (front ++ cell :: back)) (used : Bool) :
    HeapShape
      { heap with
        memory := (heap.memory.setState (heapVirtualBase + extent front)
          (HeapCell.state ⟨cell.size, used⟩)).refreshBlock (heapVirtualBase + extent front) }
      (front ++ ⟨cell.size, used⟩ :: back) := by
  apply shape.rewrite (laid_mark shape.laid used)
  · simp only [extent_append, extent_cons, HeapCell.span]
  · intro other member
    simp only [List.mem_append, List.mem_cons] at member
    rcases member with before | rfl | behind
    · exact shape.sizes other (List.mem_append_left _ before)
    · exact shape.sizeOk
    · exact shape.sizes other (List.mem_append_right _ (List.mem_cons_of_mem _ behind))
  · simp

/-- A free cell that is large enough is handed out, and split where a block
remains. -/
theorem heapAllocateFromBlock_cases
    {alignedSize : Nat} (invariant : HeapInvariant heap (front ++ cell :: back))
    (free : cell.used = false) (fits : alignedSize ≤ cell.size)
    (least : kernelHeapAlignment ≤ alignedSize) (aligned : alignedSize % kernelHeapAlignment = 0) :
    ∃ taken cells' room, heapAllocateFromBlock heap (heapVirtualBase + extent front) alignedSize =
        (some (heapVirtualBase + extent front + heapHeaderSize), taken) ∧
      HeapInvariant taken cells' ∧ alignedSize ≤ room ∧
      payloads heapVirtualBase cells' = payloads heapVirtualBase front ++
        (heapVirtualBase + extent front + heapHeaderSize, room) ::
          payloads (heapVirtualBase + extent front + cell.span) back := by
  have shape := invariant.toHeapShape
  have header := shape.headerAt
  have chain := coalesced_append_cons.mp invariant.coalesced
  have bounds := shape.cell_bounds
  have window := shape.end_le.2
  have isFree := cell.state_eq_free.mpr free
  have usable : ¬ (heapBlockValid heap (heapVirtualBase + extent front) = false ∨
      heap.memory.state (heapVirtualBase + extent front) ≠ heapStateFree ∨
      heap.memory.size (heapVirtualBase + extent front) < alignedSize) := by
    rw [shape.blockValid, header.state, header.size, isFree]
    simp only [Bool.true_eq_false, ne_eq, not_true_eq_false, false_or]
    omega
  have small : alignedSize ≤ uint64Max - heapHeaderSize - kernelHeapAlignment := by
    simp only [HeapCell.span, uint64Max, heapHeaderSize, kernelHeapAlignment, heapVirtualLimit,
      heapVirtualBase, heapRegionSize] at *
    omega
  rw [heapAllocateFromBlock, if_neg usable]
  simp only [small, if_true, header.size]
  by_cases splits : alignedSize + heapHeaderSize + kernelHeapAlignment ≤ cell.size
  · have taken := invariant.split free least aligned splits
    refine ⟨_, _, alignedSize, ?_, taken, Nat.le_refl _, ?_⟩
    · simp only [if_pos splits, taken.validates, Bool.true_eq_false, if_false]
    · have rest : heapVirtualBase + extent front + HeapCell.span ⟨alignedSize, true⟩ +
          HeapCell.span ⟨cell.size - alignedSize - heapHeaderSize, false⟩ =
            heapVirtualBase + extent front + cell.span := by
        simp only [HeapCell.span]
        omega
      rw [payloads_append, payloads_cons_used rfl, payloads_cons_free rfl, rest]
  · have taken : HeapInvariant _ _ := ⟨shape.marked true, coalesced_append_cons.mpr
      ⟨chain.1, chain.2.1, fun _ _ => Or.inr rfl, fun _ _ => Or.inl rfl⟩⟩
    have valid := taken.validates
    simp only [HeapCell.state, if_true] at valid
    refine ⟨_, _, cell.size, ?_, taken, fits, ?_⟩
    · simp only [if_neg splits, valid, Bool.true_eq_false, if_false, HeapCell.state, if_true]
    · rw [payloads_append, payloads_cons_used rfl]
      rfl

/-- What an allocation does to the used payloads: nothing, or one more. -/
def AllocationCases (size : Nat) (before : List (Nat × Nat)) (result : Option Nat × Heap) : Prop :=
  ∃ cells', HeapInvariant result.2 cells' ∧
    ((result.1 = none ∧ payloads heapVirtualBase cells' = before) ∨
      ∃ pointer room front back, result.1 = some pointer ∧ size ≤ room ∧ before = front ++ back ∧
        payloads heapVirtualBase cells' = front ++ (pointer, room) :: back)

theorem kmallocGrow_cases {size alignedSize : Nat} (growth : Nat → PageGrowth)
    (least : kernelHeapAlignment ≤ alignedSize) (aligned : alignedSize % kernelHeapAlignment = 0)
    (covers : size ≤ alignedSize) :
    ∀ fuel attempt {heap : Heap} {cells : List HeapCell}, HeapInvariant heap cells →
      AllocationCases size (payloads heapVirtualBase cells)
        (kmallocGrow alignedSize growth fuel attempt heap) := by
  intro fuel
  induction fuel with
  | zero => exact fun _ _ cells invariant => ⟨cells, invariant, Or.inl ⟨rfl, rfl⟩⟩
  | succ fuel ih =>
    intro attempt heap cells invariant
    rcases invariant.toHeapShape.findFit alignedSize with
      ⟨front, cell, back, rfl, free, fits, found⟩ | missing
    · rcases heapAllocateFromBlock_cases invariant free fits least aligned with
        ⟨taken, cells', room, result, kept, large, inserted⟩
      have nonzero : heapFindFit heap alignedSize ≠ 0 := by
        rw [found]
        simp only [heapVirtualBase]
        omega
      rw [kmallocGrow, if_pos nonzero, found, result]
      refine ⟨cells', kept, Or.inr ⟨_, room, _, _, rfl, Nat.le_trans covers large, ?_, inserted⟩⟩
      rw [payloads_append, payloads_cons_free free]
    · rw [kmallocGrow, if_neg (not_not_intro missing)]
      rcases heapGrowOnePage_cases invariant (growth attempt) with
        result | ⟨grown, cells', result, kept, same⟩
      · rw [result]
        exact ⟨cells, invariant, Or.inl ⟨rfl, rfl⟩⟩
      grind

theorem kmalloc_cases {cells : List HeapCell} (invariant : HeapInvariant heap cells)
    (size : Nat) (growth : Nat → PageGrowth) :
    AllocationCases size (payloads heapVirtualBase cells) (kmalloc heap size growth) := by
  have refused : AllocationCases size (payloads heapVirtualBase cells) (none, heap) :=
    ⟨cells, invariant, Or.inl ⟨rfl, rfl⟩⟩
  have ready : ¬ (heap.initialized = false ∨ heap.corrupted = true) := by
    rw [invariant.initialized, invariant.sound]
    decide
  rw [kmalloc, if_neg ready]
  cases request : heapAlignRequest size with
  | none => exact refused
  | some alignedSize =>
    rcases heapAlignRequest_some request with ⟨covers, least, aligned⟩
    split
    · exact refused
    · rw [if_neg (ne_false_of_eq_true invariant.validates)]
      grind [kmallocGrow_cases]

/-! ## Release -/

/-- Two free neighbours are joined. -/
theorem HeapShape.merge {left right : HeapCell}
    (shape : HeapShape heap (front ++ left :: right :: back)) (leftFree : left.used = false)
    (rightFree : right.used = false) :
    ∃ merged, heapMergeWithNext heap (heapVirtualBase + extent front) = (true, merged) ∧
      HeapShape merged (front ++ ⟨left.size + heapHeaderSize + right.size, false⟩ :: back) := by
  have leftHeader := shape.headerAt
  have leftValid := shape.blockValid
  have bounds := shape.cell_bounds
  have window := shape.end_le.2
  have regrouped : HeapShape heap ((front ++ [left]) ++ right :: back) := by
    rw [List.append_assoc]
    exact shape
  have rightHeader := regrouped.headerAt
  have rightValid := regrouped.blockValid
  simp only [extent_append, extent_cons, extent_nil, Nat.add_zero, lastOf_append_singleton,
    ← Nat.add_assoc] at rightHeader rightValid
  simp only [startOf_cons] at leftHeader
  have rightIs : heapVirtualBase + extent front + left.span ≠ 0 := by
    simp only [heapVirtualBase]
    omega
  have leftOk : ¬ (heapBlockValid heap (heapVirtualBase + extent front) = false ∨
      heap.memory.state (heapVirtualBase + extent front) ≠ heapStateFree ∨
      heap.memory.next (heapVirtualBase + extent front) = 0) := by
    rw [leftValid, leftHeader.state, leftHeader.next, left.state_eq_free.mpr leftFree]
    simp only [Bool.true_eq_false, ne_eq, not_true_eq_false, rightIs, or_self, not_false_eq_true]
  have rightOk : ¬ (heapBlockValid heap (heapVirtualBase + extent front + left.span) = false ∨
      heap.memory.state (heapVirtualBase + extent front + left.span) ≠ heapStateFree ∨
      heap.memory.prev (heapVirtualBase + extent front + left.span) ≠
        heapVirtualBase + extent front ∨
      uint64Max - heapHeaderSize < left.size ∨
      uint64Max - right.size < left.size + heapHeaderSize) := by
    rw [rightValid, rightHeader.state, rightHeader.prev, right.state_eq_free.mpr rightFree]
    simp only [Bool.true_eq_false, ne_eq, not_true_eq_false, false_or, HeapCell.span, extent_cons,
      uint64Max, heapHeaderSize, heapVirtualLimit, heapVirtualBase, heapRegionSize] at *
    omega
  refine ⟨{ heap with memory := heapMergeStores heap.memory (heapVirtualBase + extent front) }, ?_, ?_⟩
  · rw [heapMergeWithNext, if_neg leftOk]
    simp only [leftHeader.next, leftHeader.size, rightHeader.size]
    rw [if_neg rightOk]
  · apply shape.rewrite (laid_merge shape.laid (by decide) leftFree)
    · simp only [extent_append, extent_cons, HeapCell.span]
      omega
    · intro other member
      have leftSize := shape.sizeOk
      have rightSize := regrouped.sizeOk
      simp only [List.mem_append, List.mem_cons] at member
      rcases member with before | rfl | behind
      · exact shape.sizes other (List.mem_append_left _ before)
      · simp only [HeapCell.SizeOk, kernelHeapAlignment, heapHeaderSize] at *
        omega
      · exact shape.sizes other (List.mem_append_right _
          (List.mem_cons_of_mem _ (List.mem_cons_of_mem _ behind)))
    · simp

/-- The first join of a release: with the block behind, where that is free. -/
theorem HeapShape.joinNext (shape : HeapShape heap (front ++ cell :: back)) (free : cell.used = false)
    (chain : Coalesced back) :
    ∃ joined cell' back',
      (if heap.memory.next (heapVirtualBase + extent front) ≠ 0 ∧
          heap.memory.state (heap.memory.next (heapVirtualBase + extent front)) = heapStateFree
        then heapMergeWithNext heap (heapVirtualBase + extent front) else (true, heap)) = (true, joined) ∧
      HeapShape joined (front ++ cell' :: back') ∧ cell'.used = false ∧ Coalesced back' ∧
      (∀ right ∈ back'.head?, right.used = true) ∧
      payloads (heapVirtualBase + extent front + cell'.span) back' =
        payloads (heapVirtualBase + extent front + cell.span) back := by
  have header := shape.headerAt
  cases back with
  | nil =>
    refine ⟨heap, cell, [], if_neg ?_, shape, free, chain, fun _ impossible => ?_, rfl⟩
    · rw [header.next]
      exact fun both => both.1 rfl
    · cases impossible
  | cons right back =>
    have regrouped : HeapShape heap ((front ++ [cell]) ++ right :: back) := by
      rw [List.append_assoc]
      exact shape
    have rightHeader := regrouped.headerAt
    simp only [extent_append, extent_cons, extent_nil, Nat.add_zero, ← Nat.add_assoc] at rightHeader
    simp only [startOf_cons] at header
    rw [header.next, rightHeader.state]
    cases used : right.used with
    | true =>
      refine ⟨heap, cell, right :: back, if_neg ?_, shape, free, chain, fun other isRight => ?_,
        rfl⟩
      · intro both
        rw [right.state_eq_free, used] at both
        exact Bool.noConfusion both.2
      · cases isRight
        exact used
    | false =>
      rcases shape.merge free used with ⟨merged, result, kept⟩
      have nonzero : heapVirtualBase + extent front + cell.span ≠ 0 := by
        simp only [heapVirtualBase]
        omega
      refine ⟨merged, _, back, ?_, kept, rfl, (List.isChain_cons.mp chain).2, fun other member => ?_, ?_⟩
      · rw [if_pos ⟨nonzero, right.state_eq_free.mpr used⟩]
        exact result
      · rcases (List.isChain_cons.mp chain).1 other member with wrong | isUsed
        · rw [used] at wrong
          cases wrong
        · exact isUsed
      grind [payloads_cons_free, HeapCell.span]

/-- The second join of a release: with the block before, where that is free. -/
theorem HeapShape.joinPrev (shape : HeapShape heap (front ++ cell :: back)) (free : cell.used = false)
    (before : Coalesced front) (behind : Coalesced back)
    (usedBehind : ∀ right ∈ back.head?, right.used = true) :
    ∃ joined cells',
      (if heap.memory.prev (heapVirtualBase + extent front) ≠ 0 ∧
          heap.memory.state (heap.memory.prev (heapVirtualBase + extent front)) = heapStateFree
        then heapMergeWithNext heap (heap.memory.prev (heapVirtualBase + extent front))
        else (true, heap)) = (true, joined) ∧
      HeapInvariant joined cells' ∧
      payloads heapVirtualBase cells' = payloads heapVirtualBase front ++
        payloads (heapVirtualBase + extent front + cell.span) back := by
  have header := shape.headerAt
  rw [header.prev]
  rcases List.eq_nil_or_concat' front with rfl | ⟨front, left, rfl⟩
  · refine ⟨heap, _, if_neg fun both => both.1 rfl, ⟨shape, coalesced_append_cons.mpr
      ⟨before, behind, fun _ impossible => ?_, fun right member => Or.inr (usedBehind right
        member)⟩⟩, ?_⟩
    · cases impossible
    · rw [List.nil_append, payloads_cons_free free]
      rfl
  · have regrouped : HeapShape heap (front ++ left :: cell :: back) := by
      rw [List.append_assoc] at shape
      exact shape
    have leftHeader := regrouped.headerAt
    have chain := coalesced_append_cons.mp before
    rw [lastOf_append_singleton, leftHeader.state]
    cases used : left.used with
    | true =>
      refine ⟨heap, _, if_neg ?_, ⟨shape, coalesced_append_cons.mpr ⟨before, behind,
        fun other member => ?_, fun right member => Or.inr (usedBehind right member)⟩⟩, ?_⟩
      · intro both
        rw [left.state_eq_free, used] at both
        exact Bool.noConfusion both.2
      · simp_all
      · rw [payloads_append, payloads_cons_free free]
    | false =>
      rcases regrouped.merge used free with ⟨merged, result, kept⟩
      have nonzero : heapVirtualBase + extent front ≠ 0 := by
        simp only [heapVirtualBase]
        omega
      refine ⟨merged, _, ?_, ⟨kept, coalesced_append_cons.mpr ⟨chain.1, behind,
        fun other member => ?_, fun right member => Or.inr (usedBehind right member)⟩⟩, ?_⟩
      · rw [if_pos ⟨nonzero, left.state_eq_free.mpr used⟩]
        exact result
      · simp_all
      · rw [payloads_append, payloads_append, payloads_cons_free rfl, payloads_cons_free used,
          payloads_nil, List.append_nil]
        simp only [HeapCell.span, extent_append, extent_cons, extent_nil]
        grind

/-- The release of a used block joins it with its free neighbours. -/
theorem kfreeBlock_cases (invariant : HeapInvariant heap (front ++ cell :: back)) :
    ∃ freed cells', kfreeBlock heap (heapVirtualBase + extent front) = (true, freed) ∧
      HeapInvariant freed cells' ∧
      payloads heapVirtualBase cells' = payloads heapVirtualBase front ++
        payloads (heapVirtualBase + extent front + cell.span) back := by
  have chain := coalesced_append_cons.mp invariant.coalesced
  have marked := invariant.toHeapShape.marked false
  rcases marked.joinNext rfl chain.2.1 with
    ⟨joined, cell', back', first, shape, free, behind, usedBehind, same⟩
  rcases shape.joinPrev free chain.1 behind usedBehind with
    ⟨done, cells', second, kept, inserted⟩
  simp only [HeapCell.state, Bool.false_eq_true, if_false] at first
  refine ⟨done, cells', ?_, kept, ?_⟩
  · simp only [kfreeBlock]
    rw [first]
    simp only
    rw [second]
    simp only [kept.validates, Bool.true_eq_false, if_false]
  · rw [inserted, same]
    rfl

/-- A release succeeds for the start of a used payload, and then deletes that
payload; for any other pointer it does nothing. -/
theorem kfree_cases {cells : List HeapCell} (invariant : HeapInvariant heap cells) (pointer : Nat) :
    (kfree heap pointer = (false, heap) ∧
      ∀ room, (pointer, room) ∉ payloads heapVirtualBase cells) ∨
    ∃ freed cells' front room back, kfree heap pointer = (true, freed) ∧ HeapInvariant freed cells' ∧
      payloads heapVirtualBase cells = front ++ (pointer, room) :: back ∧
      payloads heapVirtualBase cells' = front ++ back := by
  have shape := invariant.toHeapShape
  have ready : ∀ nonzero : pointer ≠ 0,
      ¬ (heap.initialized = false ∨ heap.corrupted = true ∨ pointer = 0) := by
    rw [shape.initialized, shape.sound]
    simp
  -- A payload start passes the tests on the pointer.
  have tested : ∀ front cell back, cells = front ++ cell :: back →
      pointer = heapVirtualBase + extent front + heapHeaderSize →
      pointer ≠ 0 ∧ ¬ (pointer < heapVirtualBase + heapHeaderSize ∨ heap.limit ≤ pointer ∨
        pointer % kernelHeapAlignment ≠ 0) := by
    intro front cell back split start
    rw [split] at shape
    rcases shape.cell_bounds with ⟨-, total, aligned⟩
    rcases shape.sizeOk with ⟨least, -⟩
    simp only [HeapCell.span, heapHeaderSize, kernelHeapAlignment, heapVirtualBase] at *
    omega
  have refused : ∀ other : (∀ front cell back, cells = front ++ cell :: back →
        pointer = heapVirtualBase + extent front + heapHeaderSize → cell.used = false),
      ∀ room, (pointer, room) ∉ payloads heapVirtualBase cells := by
    intro other room member
    rcases (mem_payloads cells _).mp member with ⟨front, cell, back, split, used, start, -⟩
    rw [other front cell back split start] at used
    cases used
  by_cases nonzero : pointer = 0
  · grind [kfree]
  rw [kfree, if_neg (ready nonzero), heapMappedEnd_eq shape.pages]
  simp only
  split
  · grind
  rw [if_neg (ne_false_of_eq_true invariant.validates)]
  rcases shape.find pointer with ⟨front, cell, back, rfl, start, found⟩ | ⟨missing, found⟩
  · have header := shape.headerAt
    rw [found]
    simp only [header.state]
    cases used : cell.used with
    | false =>
      have notUsed : cell.state ≠ heapStateUsed := by
        rw [ne_eq, cell.state_eq_used, used]
        exact Bool.noConfusion
      refine Or.inl ⟨if_pos notUsed, refused fun other cell' behind split start' => ?_⟩
      have sameAddress : extent other = extent front := by omega
      have header' := (split ▸ shape : HeapShape heap (other ++ cell' :: behind)).headerAt
      rw [sameAddress] at header'
      rw [← cell'.state_eq_free, ← header'.state, header.state, cell.state_eq_free]
      exact used
    | true =>
      rcases kfreeBlock_cases invariant with ⟨freed, cells', result, kept, same⟩
      refine Or.inr ⟨freed, cells', payloads heapVirtualBase front, cell.size, _, ?_, kept, ?_, same⟩
      · rw [if_neg (not_not_intro (cell.state_eq_used.mpr used))]
        exact result
      · rw [payloads_append, payloads_cons_used used, start]
  grind

end BoringOS.Memory
