import Mathlib.Data.List.Chain
import BoringOS.Memory.HeapLayout

namespace BoringOS.Memory

/-!
# What the heap keeps

The cells tile exactly the mapped pages, and no two neighbours are both free.
The first part is the shape of the heap, which holds also between the stores
of a release; the second part makes it an invariant.  The shape already
determines every loop over the block list, so the loops are computed here
once, and the calls are specified in terms of the cells alone.
-/

/-- The cells that the heap consists of tile the mapped window. -/
structure HeapShape (heap : Heap) (cells : List HeapCell) : Prop where
  initialized : heap.initialized = true
  sound : heap.corrupted = false
  first : heap.first = heapVirtualBase
  pages : heap.mappedPages ≤ heapMaxPages
  laid : Laid heap.memory 0 0 heapVirtualBase cells
  covers : extent cells = heap.mappedPages * heapPageSize
  sizes : ∀ cell ∈ cells, cell.SizeOk
  inhabited : cells ≠ []

/-- No two neighbours are both free. -/
def Coalesced (cells : List HeapCell) : Prop :=
  cells.IsChain fun left right => left.used = true ∨ right.used = true

structure HeapInvariant (heap : Heap) (cells : List HeapCell) : Prop extends
    HeapShape heap cells where
  coalesced : Coalesced cells

theorem SizeOk.span {cell : HeapCell} (ok : cell.SizeOk) :
    heapHeaderSize + kernelHeapAlignment ≤ cell.span ∧ cell.span % kernelHeapAlignment = 0 := by
  rcases ok with ⟨least, aligned⟩
  simp only [HeapCell.span, heapHeaderSize, kernelHeapAlignment] at *
  omega

variable {cells : List HeapCell}

theorem extent_aligned (sizes : ∀ cell ∈ cells, cell.SizeOk) :
    extent cells % kernelHeapAlignment = 0 := by
  induction cells with
  | nil => rfl
  | cons cell rest ih =>
    have here := (SizeOk.span (sizes cell List.mem_cons_self)).2
    grind [extent_cons, kernelHeapAlignment]

/-- The end of the mapped window. -/
def Heap.limit (heap : Heap) : Nat := heapVirtualBase + heap.mappedPages * heapPageSize

variable {heap : Heap}

theorem heapMappedEnd_eq (pages : heap.mappedPages ≤ heapMaxPages) :
    heapMappedEnd heap = some heap.limit := by
  have bounded : heap.mappedPages * heapPageSize ≤ heapRegionSize := by
    simp only [heapMaxPages, heapRegionSize, heapPageSize] at *
    omega
  have small : ¬ heapMaxPages < heap.mappedPages := Nat.not_lt.mpr pages
  have noWrap : ¬ uint64Max - heap.mappedPages * heapPageSize < heapVirtualBase := by
    simp only [uint64Max, heapVirtualBase, heapRegionSize] at *
    omega
  have inside : heapVirtualBase + heap.mappedPages * heapPageSize ≤ heapVirtualLimit :=
    Nat.add_le_add_left bounded _
  simp only [heapMappedEnd, small, noWrap, inside, if_true, if_false, Heap.limit]

namespace HeapShape

variable {heap : Heap} {cells : List HeapCell}

/-- The fuel of the loops suffices for the whole list. -/
theorem length_lt_fuel (shape : HeapShape heap cells) : cells.length < heapFuel heap := by
  have bound := length_le_extent cells
  have some : 0 < cells.length := List.length_pos_of_ne_nil shape.inhabited
  rw [shape.covers] at bound
  simp only [heapFuel, heapHeaderSize] at *
  omega

theorem end_le (shape : HeapShape heap cells) :
    heapVirtualBase + extent cells = heap.limit ∧ heap.limit ≤ heapVirtualLimit := by
  have pages := shape.pages
  constructor
  · rw [shape.covers, Heap.limit]
  · simp only [Heap.limit, heapVirtualLimit, heapMaxPages, heapRegionSize, heapPageSize] at *
    omega

/-- Where a cell of the sequence lies. -/
theorem cell_bounds {front back : List HeapCell} {cell : HeapCell}
    (shape : HeapShape heap (front ++ cell :: back)) :
    heapVirtualBase ≤ heapVirtualBase + extent front ∧
      heapVirtualBase + extent front + cell.span + extent back = heap.limit ∧
      (heapVirtualBase + extent front) % kernelHeapAlignment = 0 := by
  have total := shape.end_le.1
  have aligned := extent_aligned fun other member =>
    shape.sizes other (List.mem_append_left (cell :: back) member)
  simp only [extent_append, extent_cons] at total
  refine ⟨Nat.le_add_right _ _, by omega, ?_⟩
  simp only [heapVirtualBase, kernelHeapAlignment] at *
  omega

theorem headerAt {front back : List HeapCell} {cell : HeapCell}
    (shape : HeapShape heap (front ++ cell :: back)) :
    HeaderAt heap.memory (heapVirtualBase + extent front) cell (lastOf 0 heapVirtualBase front)
      (startOf back (heapVirtualBase + extent front + cell.span) 0) :=
  ((laid_append front (cell :: back) 0 heapVirtualBase).mp shape.laid).2.1

theorem sizeOk {front back : List HeapCell} {cell : HeapCell}
    (shape : HeapShape heap (front ++ cell :: back)) : cell.SizeOk :=
  shape.sizes cell (List.mem_append_right front List.mem_cons_self)

end HeapShape

/-- A header in order, with its payload inside the window, passes the check. -/
theorem heapBlockValid_of_headerAt {block prev next : Nat} {cell : HeapCell}
    (pages : heap.mappedPages ≤ heapMaxPages) (header : HeaderAt heap.memory block cell prev next)
    (ok : cell.SizeOk) (above : heapVirtualBase ≤ block) (below : block + cell.span ≤ heap.limit)
    (aligned : block % kernelHeapAlignment = 0) : heapBlockValid heap block = true := by
  have window : heap.limit ≤ heapVirtualLimit := by
    simp only [Heap.limit, heapVirtualLimit, heapMaxPages, heapRegionSize, heapPageSize] at *
    omega
  have nonzero : block ≠ 0 := by simp only [heapVirtualBase] at above; omega
  have inside : ¬ (block < heapVirtualBase ∨ heap.limit - heapHeaderSize < block ∨
      block % kernelHeapAlignment ≠ 0) := by
    simp only [HeapCell.span] at below
    omega
  have noWrap : ¬ uint64Max - heapHeaderSize < block := by
    simp only [uint64Max, heapVirtualLimit, heapVirtualBase, heapRegionSize, heapHeaderSize] at *
    omega
  have stateKnown : ¬ (heap.memory.state block ≠ heapStateFree ∧
      heap.memory.state block ≠ heapStateUsed) := by
    rw [header.state]
    cases used : cell.used <;> simp [HeapCell.state, used]
  have fields : ¬ (heap.memory.magic block ≠ heapBlockMagic ∨
      (heap.memory.state block ≠ heapStateFree ∧ heap.memory.state block ≠ heapStateUsed) ∨
      heap.memory.size block < kernelHeapAlignment ∨ heap.memory.size block % kernelHeapAlignment ≠ 0 ∨
      heap.memory.guard block ≠ heap.memory.guardFor block) := by
    have least := ok.1
    have sizeAligned := ok.2
    have size := header.size
    rintro (wrong | wrong | wrong | wrong | wrong)
    · exact wrong header.magic
    · exact stateKnown wrong
    · omega
    · simp_all
    · exact wrong header.guard
  have fits : heap.memory.size block ≤ heap.limit - (block + heapHeaderSize) := by
    rw [header.size]
    simp only [HeapCell.span] at below
    omega
  simp only [heapBlockValid, heapMappedEnd_eq pages, nonzero, inside, fields, noWrap, if_false,
    fits, decide_true]

theorem HeapShape.blockValid {front back : List HeapCell} {cell : HeapCell}
    (shape : HeapShape heap (front ++ cell :: back)) :
    heapBlockValid heap (heapVirtualBase + extent front) = true := by
  rcases shape.cell_bounds with ⟨above, total, aligned⟩
  exact heapBlockValid_of_headerAt shape.pages shape.headerAt shape.sizeOk above (by omega) aligned

/-- What the validation loop asks of the block before the current one. -/
def PreviousOk (memory : HeapMemory) (previous current : Nat) (cells : List HeapCell) : Prop :=
  previous ≠ 0 → memory.next previous = current ∧
    (memory.state previous = heapStateFree → ∀ cell ∈ cells.head?, cell.used = true)

/-- The validation loop accepts every suffix of a coalesced sequence. -/
theorem heapValidateFrom_of_laid (pages : heap.mappedPages ≤ heapMaxPages) (cells : List HeapCell) :
    ∀ fuel previous address, cells.length < fuel →
      Laid heap.memory 0 previous address cells → heapVirtualBase ≤ address →
      address + extent cells = heap.limit → address % kernelHeapAlignment = 0 →
      (∀ cell ∈ cells, cell.SizeOk) → Coalesced cells →
      PreviousOk heap.memory previous (startOf cells address 0) cells →
      heapValidateFrom heap heap.limit fuel previous (startOf cells address 0) = true := by
  induction cells with
  | nil =>
    intro fuel previous address enough laid above ends aligned sizes chain before
    cases fuel with
    | zero => exact absurd enough (Nat.not_lt_zero _)
    | succ fuel => rfl
  | cons cell rest ih =>
    intro fuel previous address enough laid above ends aligned sizes chain before
    cases fuel with
    | zero => exact absurd enough (Nat.not_lt_zero _)
    | succ fuel =>
      rcases laid with ⟨header, behind⟩
      have ok := sizes cell List.mem_cons_self
      have spanOk := SizeOk.span ok
      simp only [extent_cons] at ends
      simp only [startOf_cons] at before ⊢
      have nonzero : address ≠ 0 := by simp only [heapVirtualBase] at above; omega
      have valid := heapBlockValid_of_headerAt pages header ok above (by omega) aligned
      have fromBefore : ¬ (previous ≠ 0 ∧ (heap.memory.next previous ≠ address ∨
          (heap.memory.state previous = heapStateFree ∧
            heap.memory.state address = heapStateFree))) := by
        rintro ⟨some, wrong | ⟨bothFree, free⟩⟩
        · exact wrong (before some).1
        · have used := (before some).2 bothFree cell rfl
          rw [header.state, cell.state_eq_free, used] at free
          cases free
      have blockEnd : address + heapHeaderSize + heap.memory.size address = address + cell.span := by
        rw [header.size, HeapCell.span]
        omega
      have step : ¬ (startOf rest (address + cell.span) 0 ≠ 0 ∧
          startOf rest (address + cell.span) 0 ≠ address + cell.span) ∧
          ¬ (startOf rest (address + cell.span) 0 = 0 ∧ address + cell.span ≠ heap.limit) := by
        cases rest with
        | nil => simp only [startOf_nil, extent_nil] at *; omega
        | cons other more => simp only [startOf_cons] at *; omega
      have continues := ih fuel address (address + cell.span) (by grind) behind (by omega) (by omega)
        (by have := spanOk.2; simp only [kernelHeapAlignment] at *; omega)
        (fun other member => sizes other (List.mem_cons_of_mem _ member))
        (List.isChain_cons.mp chain).2 (by
          intro _
          refine ⟨header.next, fun free other member => ?_⟩
          rw [header.state, cell.state_eq_free] at free
          rcases (List.isChain_cons.mp chain).1 other member with used | used
          · rw [free] at used
            cases used
          · exact used)
      simp only [heapValidateFrom, nonzero, valid, header.prev, fromBefore, blockEnd,
        header.next, step.1, step.2, continues, if_false, ne_eq, not_true_eq_false, or_false,
        reduceCtorEq]

/-- A heap that keeps its invariant passes its own check. -/
theorem HeapInvariant.validates {cells : List HeapCell}
    (invariant : HeapInvariant heap cells) : heapValidate heap = true := by
  have shape := invariant.toHeapShape
  have start : startOf cells heapVirtualBase 0 = heapVirtualBase := by
    cases cells with
    | nil => exact absurd rfl shape.inhabited
    | cons cell rest => rfl
  have accepted := heapValidateFrom_of_laid shape.pages cells (heapFuel heap) 0 heapVirtualBase
    shape.length_lt_fuel shape.laid (Nat.le_refl _) shape.end_le.1 (by decide) shape.sizes
    invariant.coalesced (fun nonzero => absurd rfl nonzero)
  rw [start] at accepted
  have started : ¬ (heap.initialized = false ∨ heap.corrupted = true ∨ heap.first = 0 ∨
      heap.first ≠ heapVirtualBase) := by
    rw [shape.initialized, shape.sound, shape.first]
    decide
  rw [heapValidate, if_neg started, heapMappedEnd_eq shape.pages, shape.first]
  exact accepted

theorem HeapShape.start {cells : List HeapCell} (shape : HeapShape heap cells) :
    heap.first = startOf cells heapVirtualBase 0 := by
  rw [shape.first]
  cases cells with
  | nil => exact absurd rfl shape.inhabited
  | cons cell rest => rfl

theorem heapLastFrom_of_laid {memory : HeapMemory} (front : List HeapCell) (last : HeapCell) :
    ∀ fuel prev address, front.length < fuel → 0 < address →
      Laid memory 0 prev address (front ++ [last]) →
      heapLastFrom memory fuel address = address + extent front := by
  induction front with
  | nil =>
    intro fuel prev address enough positive laid
    cases fuel with
    | zero => rfl
    | succ fuel =>
      have ends : memory.next address = 0 := laid.1.next
      simp only [heapLastFrom, ends, ne_eq, not_true_eq_false, and_false, if_false, extent_nil,
        Nat.add_zero]
  | cons cell rest ih =>
    intro fuel prev address enough positive laid
    cases fuel with
    | zero => exact absurd enough (Nat.not_lt_zero _)
    | succ fuel =>
      have onwards : memory.next address = address + cell.span := by
        rw [laid.1.next]
        cases rest <;> rfl
      have continues := ih fuel address (address + cell.span) (by grind) (by omega) laid.2
      have here : address ≠ 0 ∧ address + cell.span ≠ 0 := by omega
      simp only [heapLastFrom, onwards, here, ne_eq, not_false_eq_true, and_self, if_true,
        continues, extent_cons, Nat.add_assoc]

theorem HeapShape.lastBlock {front : List HeapCell} {last : HeapCell}
    (shape : HeapShape heap (front ++ [last])) :
    heapLastBlock heap = heapVirtualBase + extent front := by
  have enough := shape.length_lt_fuel
  rw [heapLastBlock, shape.first]
  exact heapLastFrom_of_laid front last _ 0 _ (by grind) (by decide) shape.laid

/-- The search for a fit finds the first free cell that is large enough. -/
theorem heapFindFitFrom_of_laid {memory : HeapMemory} (alignedSize : Nat) (cells : List HeapCell) :
    ∀ fuel prev address, cells.length < fuel → 0 < address →
      Laid memory 0 prev address cells →
      (∃ front cell back, cells = front ++ cell :: back ∧ cell.used = false ∧ alignedSize ≤ cell.size ∧
        heapFindFitFrom memory alignedSize fuel (startOf cells address 0) =
          address + extent front) ∨
        heapFindFitFrom memory alignedSize fuel (startOf cells address 0) = 0 := by
  induction cells with
  | nil =>
    intro fuel prev address enough positive laid
    cases fuel <;> exact Or.inr rfl
  | cons cell rest ih =>
    intro fuel prev address enough positive laid
    cases fuel with
    | zero => exact absurd enough (Nat.not_lt_zero _)
    | succ fuel =>
      rcases laid with ⟨header, behind⟩
      have nonzero : address ≠ 0 := by omega
      by_cases fits : cell.used = false ∧ alignedSize ≤ cell.size
      · refine Or.inl ⟨[], cell, rest, rfl, fits.1, fits.2, ?_⟩
        simp only [startOf_cons, heapFindFitFrom, nonzero, header.state, header.size,
          cell.state_eq_free, fits, and_self, if_true, if_false, extent_nil, Nat.add_zero]
      have skips : heapFindFitFrom memory alignedSize (fuel + 1) (startOf (cell :: rest) address 0) =
          heapFindFitFrom memory alignedSize fuel (startOf rest (address + cell.span) 0) := by
        simp only [startOf_cons, heapFindFitFrom, nonzero, header.state, header.size,
          cell.state_eq_free, fits, if_false, header.next]
      rw [skips]
      rcases ih fuel address (address + cell.span) (by grind) (by omega) behind with
        ⟨front, found, back, split, free, large, result⟩ | none
      · grind [extent_cons]
      · exact Or.inr none

theorem HeapShape.findFit {cells : List HeapCell} (shape : HeapShape heap cells) (alignedSize : Nat) :
    (∃ front cell back, cells = front ++ cell :: back ∧ cell.used = false ∧
      alignedSize ≤ cell.size ∧
      heapFindFit heap alignedSize = heapVirtualBase + extent front) ∨
      heapFindFit heap alignedSize = 0 := by
  rw [heapFindFit, shape.start]
  exact heapFindFitFrom_of_laid alignedSize cells _ 0 _ shape.length_lt_fuel (by decide) shape.laid

/-- The search of a release finds the cell whose payload starts at the
pointer, if there is one. -/
theorem kfreeFind_of_laid {memory : HeapMemory} (pointer : Nat) (cells : List HeapCell) :
    ∀ fuel prev address, cells.length < fuel → 0 < address →
      Laid memory 0 prev address cells →
      (∃ front cell back, cells = front ++ cell :: back ∧ pointer = address + extent front + heapHeaderSize ∧
        kfreeFind memory pointer fuel (startOf cells address 0) = some (address + extent front)) ∨
      ((∀ front cell back, cells = front ++ cell :: back →
          pointer ≠ address + extent front + heapHeaderSize) ∧
        kfreeFind memory pointer fuel (startOf cells address 0) = none) := by
  induction cells with
  | nil =>
    intro fuel prev address enough positive laid
    refine Or.inr ⟨fun front cell back split => ?_, ?_⟩
    · cases front <;> cases split
    · cases fuel <;> rfl
  | cons cell rest ih =>
    intro fuel prev address enough positive laid
    cases fuel with
    | zero => exact absurd enough (Nat.not_lt_zero _)
    | succ fuel =>
      rcases laid with ⟨header, behind⟩
      have nonzero : address ≠ 0 := by omega
      by_cases here : address + heapHeaderSize = pointer
      · refine Or.inl ⟨[], cell, rest, rfl, here.symm, ?_⟩
        simp only [startOf_cons, kfreeFind, nonzero, here, if_true, if_false, extent_nil, Nat.add_zero]
      have skips : kfreeFind memory pointer (fuel + 1) (startOf (cell :: rest) address 0) =
          kfreeFind memory pointer fuel (startOf rest (address + cell.span) 0) := by
        simp only [startOf_cons, kfreeFind, nonzero, here, if_false, header.next]
      rw [skips]
      rcases ih fuel address (address + cell.span) (by grind) (by omega) behind with
        ⟨front, found, back, split, reached, result⟩ | ⟨-, result⟩
      · grind [extent_cons]
      refine Or.inr ⟨fun front found back split => ?_, result⟩
      cases front with
      | nil => exact fun reached => here reached.symm
      | cons head more =>
        grind [extent_cons]

theorem HeapShape.find {cells : List HeapCell} (shape : HeapShape heap cells) (pointer : Nat) :
    (∃ front cell back, cells = front ++ cell :: back ∧
      pointer = heapVirtualBase + extent front + heapHeaderSize ∧
      kfreeFind heap.memory pointer (heapFuel heap) heap.first = some (heapVirtualBase + extent front)) ∨
    ((∀ front cell back, cells = front ++ cell :: back →
        pointer ≠ heapVirtualBase + extent front + heapHeaderSize) ∧
      kfreeFind heap.memory pointer (heapFuel heap) heap.first = none) := by
  rw [shape.start]
  exact kfreeFind_of_laid pointer cells _ 0 _ shape.length_lt_fuel (by decide) shape.laid

end BoringOS.Memory
