import BoringOS.Memory.HeapInvariant

namespace BoringOS.Memory

/-!
# What the stores do to the cells

Four groups of stores change the block list: marking a block, splitting one,
joining two, and extending the tail by a page.  Each is a rewriting of the
sequence of cells at one place.  The part before that place keeps its words,
and of the part behind it at most the back pointer of the first header
changes.
-/

theorem headerAt_written (memory : HeapMemory) (block prev next : Nat) (cell : HeapCell) :
    HeaderAt (((((memory.setSize block cell.size).setPrev block prev).setNext block
      next).setState block cell.state).refreshBlock block) block cell prev next := by
  refine headerAt_refreshBlock ?_ ?_ ?_ ?_ <;>
    simp [HeapMemory.setSize, HeapMemory.setPrev, HeapMemory.setNext, HeapMemory.setState,
      HeapMemory.store, HeapMemory.size, HeapMemory.prev, HeapMemory.next, HeapMemory.state]

theorem written_agreeOutside (memory : HeapMemory) (block size prev next state : Nat) :
    AgreeOutside memory (((((memory.setSize block size).setPrev block prev).setNext block
      next).setState block state).refreshBlock block) block :=
  ((((setSize_agreeOutside _ _ _).trans (setPrev_agreeOutside _ _ _)).trans
    (setNext_agreeOutside _ _ _)).trans (setState_agreeOutside _ _ _)).trans
      (refreshBlock_agreeOutside _ _)

/-- The successor of a changed block, where there is one, is pointed back to
a new predecessor. -/
def HeapMemory.relink (memory : HeapMemory) (successor value : Nat) : HeapMemory :=
  if successor ≠ 0 then (memory.setPrev successor value).refreshBlock successor else memory

variable {memory : HeapMemory}

theorem relink_agreeOn {cells : List HeapCell} {address : Nat}
    (value low : Nat) : AgreeOn memory (memory.relink (startOf cells address 0) value) low
      address := by
  cases cells with
  | nil => exact fun _ _ _ => rfl
  | cons cell rest =>
    rw [startOf_cons, HeapMemory.relink]
    by_cases zero : address = 0
    · rw [if_neg (not_not_intro zero)]
      exact fun _ _ _ => rfl
    rw [if_pos zero]
    exact ((setPrev_agreeOutside _ _ _).trans (refreshBlock_agreeOutside _ _)).agreeOn
      (Or.inl (Nat.le_refl _))

theorem Laid.relink {prev address : Nat} {cells : List HeapCell}
    (laid : Laid memory 0 prev address cells) (positive : 0 < address) (value : Nat) :
    Laid (memory.relink (startOf cells address 0) value) 0 value address cells := by
  cases cells with
  | nil => trivial
  | cons cell rest =>
    have nonzero : address ≠ 0 := by omega
    simp only [startOf_cons, HeapMemory.relink, nonzero, ne_eq, not_false_eq_true, if_true]
    exact laid.setPrev value

variable {front back : List HeapCell}

/-- Some cells are put behind the part before them, which keeps its words, and
in front of the part behind them. -/
theorem Laid.replace {memory memory' : HeapMemory}
    {base block prev : Nat} (middle : List HeapCell) (blockIs : base + extent front = block)
    (prevIs : lastOf 0 base front = prev) (first : Laid memory block 0 base front)
    (nonempty : middle ≠ []) (before : AgreeOn memory memory' base block)
    (between : Laid memory' (startOf back (block + extent middle) 0) prev block middle)
    (behind : Laid memory' 0 (lastOf prev block middle) (block + extent middle) back) :
    Laid memory' 0 0 base (front ++ (middle ++ back)) := by
  subst blockIs prevIs
  refine (laid_append _ _ _ _).mpr ⟨?_, (laid_append _ _ _ _).mpr ⟨between, behind⟩⟩
  have kept := first.of_agreeOn before
  cases middle with
  | nil => exact absurd rfl nonempty
  | cons head more => exact kept

/-- A block changes its state and keeps its place and size. -/
theorem laid_mark {cell : HeapCell}
    {base : Nat} (laid : Laid memory 0 0 base (front ++ cell :: back)) (used : Bool) :
    let marked : HeapCell := ⟨cell.size, used⟩
    Laid ((memory.setState (base + extent front) marked.state).refreshBlock (base + extent front))
      0 0 base (front ++ marked :: back) := by
  intro marked
  rcases (laid_append front (cell :: back) 0 base).mp laid with ⟨first, header, behind⟩
  have outside : AgreeOutside memory ((memory.setState (base + extent front)
      marked.state).refreshBlock (base + extent front)) (base + extent front) :=
    (setState_agreeOutside _ _ _).trans (refreshBlock_agreeOutside _ _)
  apply Laid.replace [marked] rfl rfl first (List.cons_ne_nil _ _)
  · exact outside.agreeOn (Or.inl (Nat.le_refl _))
  · refine ⟨headerAt_refreshBlock ?_ ?_ ?_ ?_, trivial⟩
    · rw [show marked.size = cell.size from rfl, ← header.size]
      simp [HeapMemory.setState, HeapMemory.store, HeapMemory.size]
    · rw [← header.prev]
      simp [HeapMemory.setState, HeapMemory.store, HeapMemory.prev]
    · rw [startOf_nil, extent_cons, extent_nil, Nat.add_zero,
        show marked.span = cell.span from rfl, ← header.next]
      simp [HeapMemory.setState, HeapMemory.store, HeapMemory.next]
    · simp [HeapMemory.setState, HeapMemory.store, HeapMemory.state]
  · refine behind.of_agreeOn (outside.agreeOn (Or.inr ?_))
    simp only [HeapCell.span]
    omega

theorem heapSplitBlock_eq (memory : HeapMemory) (block alignedSize : Nat) :
    heapSplitBlock memory block alignedSize =
      let newBlock := block + heapHeaderSize + alignedSize
      let written := ((((memory.setSize newBlock (memory.size block - alignedSize -
        heapHeaderSize)).setPrev newBlock block).setNext newBlock (memory.next block)).setState
          newBlock heapStateFree).refreshBlock newBlock
      let relinked := written.relink (memory.next block) newBlock
      (((relinked.setSize block alignedSize).setNext block newBlock).setState block
        heapStateUsed).refreshBlock block := rfl

/-- A block becomes a used block of the requested size with a free one behind. -/
theorem laid_split {cell : HeapCell}
    {base alignedSize : Nat} (laid : Laid memory 0 0 base (front ++ cell :: back))
    (positive : 0 < base) (room : alignedSize + heapHeaderSize ≤ cell.size) :
    Laid (heapSplitBlock memory (base + extent front) alignedSize) 0 0 base
      (front ++ ⟨alignedSize, true⟩ :: ⟨cell.size - alignedSize - heapHeaderSize, false⟩ ::
        back) := by
  rcases (laid_append front (cell :: back) 0 base).mp laid with ⟨first, header, behind⟩
  have taken : extent [⟨alignedSize, true⟩, ⟨cell.size - alignedSize - heapHeaderSize, false⟩] =
      cell.span := by
    simp only [extent_cons, extent_nil, HeapCell.span]
    omega
  have room' := room
  simp only [heapHeaderSize] at room'
  rw [heapSplitBlock_eq, header.size, header.next]
  generalize prevIs : lastOf 0 base front = prev at *
  generalize blockIs : base + extent front = block at *
  have newBlockIs : block + heapHeaderSize + alignedSize = block + HeapCell.span ⟨alignedSize, true⟩ := by
    simp only [HeapCell.span, Nat.add_assoc]
  simp only
  -- The new header is written inside the payload of the old block.
  have freshHeader := headerAt_written memory (block + heapHeaderSize + alignedSize) block
    (startOf back (block + cell.span) 0) ⟨cell.size - alignedSize - heapHeaderSize, false⟩
  have fresh := written_agreeOutside memory (block + heapHeaderSize + alignedSize)
    (cell.size - alignedSize - heapHeaderSize) block (startOf back (block + cell.span) 0) heapStateFree
  rw [show HeapCell.state ⟨cell.size - alignedSize - heapHeaderSize, false⟩ = heapStateFree from
    rfl] at freshHeader
  generalize writtenIs : HeapMemory.refreshBlock _ _ = written at *
  -- The block behind the new one points back to it.
  have relinkedBehind := (behind.of_agreeOn (fresh.agreeOn (Or.inr (by
    simp only [HeapCell.span, heapHeaderSize]; omega)))).relink (by omega)
      (block + heapHeaderSize + alignedSize)
  have relinkedBefore : ∀ low, AgreeOn written (written.relink (startOf back (block + cell.span) 0)
      (block + heapHeaderSize + alignedSize)) low (block + cell.span) :=
    relink_agreeOn (block + heapHeaderSize + alignedSize)
  generalize relinkedIs : HeapMemory.relink _ _ _ = relinked at *
  -- Last the old header shrinks.
  have shrunk := (((setSize_agreeOutside relinked block alignedSize).trans
    (setNext_agreeOutside _ block (block + heapHeaderSize + alignedSize))).trans
      (setState_agreeOutside _ block heapStateUsed)).trans (refreshBlock_agreeOutside _ block)
  have oldPrev : relinked.prev block = prev := by
    rw [← header.prev]
    exact (relinkedBefore block (block + 16) (by omega)
      (by simp only [HeapCell.span, heapHeaderSize]; omega)).trans
        (fresh (block + 16) (Or.inl (by simp only [heapHeaderSize]; omega)))
  have before : AgreeOn memory relinked base block := by
    apply (fresh.agreeOn (Or.inl (by omega))).trans
    exact (relinkedBefore base).mono (Nat.le_refl _) (by omega)
  apply Laid.replace [⟨alignedSize, true⟩, ⟨cell.size - alignedSize - heapHeaderSize, false⟩]
    blockIs prevIs first (List.cons_ne_nil _ _)
  · exact before.trans (shrunk.agreeOn (Or.inl (Nat.le_refl _)))
  · rw [taken]
    refine ⟨headerAt_refreshBlock ?_ ?_ ?_ ?_, ?_, trivial⟩
    · simp [HeapMemory.setState, HeapMemory.setNext, HeapMemory.setSize, HeapMemory.store, HeapMemory.size]
    · rw [← oldPrev]
      simp [HeapMemory.setState, HeapMemory.setNext, HeapMemory.setSize, HeapMemory.store, HeapMemory.prev]
    · simp [HeapMemory.setState, HeapMemory.setNext, HeapMemory.store, HeapMemory.next, newBlockIs]
    · simp [HeapMemory.setState, HeapMemory.store, HeapMemory.state, HeapCell.state]
    · rw [startOf_nil, ← newBlockIs]
      apply freshHeader.of_agreeOn
      apply ((relinkedBefore _).mono (Nat.le_refl _) ?_).trans (shrunk.agreeOn (Or.inr ?_))
      · simp only [HeapCell.span, heapHeaderSize]
        omega
      · omega
  · rw [taken]
    simp only [lastOf_cons, lastOf_nil, ← newBlockIs]
    exact relinkedBehind.of_agreeOn (shrunk.agreeOn (Or.inr (by simp only [HeapCell.span]; omega)))

theorem heapMergeStores_eq (memory : HeapMemory) (left : Nat) :
    heapMergeStores memory left =
      let right := memory.next left
      let successor := memory.next right
      let widened := (memory.setSize left (memory.size left + heapHeaderSize +
        memory.size right)).setNext left successor
      let relinked := (widened.relink successor left).refreshBlock left
      (((((relinked.setMagic right 0).setSize right 0).setPrev right 0).setNext right 0).setState
        right 0).setGuard right 0 := rfl

theorem wiped_agreeOutside (memory : HeapMemory) (block : Nat) :
    AgreeOutside memory ((((((memory.setMagic block 0).setSize block 0).setPrev block 0).setNext
      block 0).setState block 0).setGuard block 0) block :=
  (((((setMagic_agreeOutside _ _ _).trans (setSize_agreeOutside _ _ _)).trans
    (setPrev_agreeOutside _ _ _)).trans (setNext_agreeOutside _ _ _)).trans
      (setState_agreeOutside _ _ _)).trans (setGuard_agreeOutside _ _ _)

/-- Two neighbours become one free block that takes the room of both. -/
theorem laid_merge {left right : HeapCell}
    {base : Nat} (laid : Laid memory 0 0 base (front ++ left :: right :: back))
    (positive : 0 < base) (free : left.used = false) :
    Laid (heapMergeStores memory (base + extent front)) 0 0 base
      (front ++ ⟨left.size + heapHeaderSize + right.size, false⟩ :: back) := by
  rcases (laid_append front (left :: right :: back) 0 base).mp laid with
    ⟨first, leftHeader, rightHeader, behind⟩
  have taken : extent [(⟨left.size + heapHeaderSize + right.size, false⟩ : HeapCell)] =
      left.span + right.span := by
    simp only [extent_cons, extent_nil, HeapCell.span]
    omega
  rw [heapMergeStores_eq, leftHeader.next, leftHeader.size]
  simp only [startOf_cons]
  rw [rightHeader.next, rightHeader.size]
  generalize prevIs : lastOf 0 base front = prev at *
  generalize blockIs : base + extent front = block at *
  -- The header of the left block takes the new size and successor.
  have widened := (setSize_agreeOutside memory block (left.size + heapHeaderSize +
    right.size)).trans (setNext_agreeOutside _ block
      (startOf back (block + left.span + right.span) 0))
  have size : ((memory.setSize block (left.size + heapHeaderSize + right.size)).setNext block
      (startOf back (block + left.span + right.span) 0)).size block =
        left.size + heapHeaderSize + right.size := by
    simp [HeapMemory.setNext, HeapMemory.setSize, HeapMemory.store, HeapMemory.size]
  have isPrev : ((memory.setSize block (left.size + heapHeaderSize + right.size)).setNext block
      (startOf back (block + left.span + right.span) 0)).prev block = prev := by
    rw [← leftHeader.prev]
    simp [HeapMemory.setNext, HeapMemory.setSize, HeapMemory.store, HeapMemory.prev]
  have isNext : ((memory.setSize block (left.size + heapHeaderSize + right.size)).setNext block
      (startOf back (block + left.span + right.span) 0)).next block =
        startOf back (block + left.span + right.span) 0 := by
    simp [HeapMemory.setNext, HeapMemory.store, HeapMemory.next]
  have state : ((memory.setSize block (left.size + heapHeaderSize + right.size)).setNext block
      (startOf back (block + left.span + right.span) 0)).state block = left.state := by
    rw [← leftHeader.state]
    simp [HeapMemory.setNext, HeapMemory.setSize, HeapMemory.store, HeapMemory.state]
  generalize widenedIs : HeapMemory.setNext _ _ _ = wide at *
  -- The successor points back to the left block.
  have room : block + heapHeaderSize ≤ block + left.span ∧
      block + left.span + heapHeaderSize ≤ block + left.span + right.span := by
    simp only [HeapCell.span]
    omega
  have relinkedBehind := (behind.of_agreeOn (widened.agreeOn (Or.inr (by omega)))).relink (by omega) block
  have relinkedBefore : ∀ low, AgreeOn wide (wide.relink
      (startOf back (block + left.span + right.span) 0) block) low
      (block + left.span + right.span) := relink_agreeOn block
  generalize relinkedIs : HeapMemory.relink _ _ _ = relinked at *
  have fields := ((relinkedBefore block).mono (Nat.le_refl _)
    (show block + heapHeaderSize ≤ _ by omega)).fields
  rcases fields with ⟨-, sizeSame, prevSame, nextSame, stateSame, -⟩
  have refreshed := refreshBlock_agreeOutside relinked block
  have leftDone : HeaderAt (relinked.refreshBlock block) block
      ⟨left.size + heapHeaderSize + right.size, false⟩ prev
      (startOf back (block + left.span + right.span) 0) := by
    refine headerAt_refreshBlock (sizeSame.trans size) (prevSame.trans isPrev) (nextSame.trans isNext) ?_
    rw [stateSame, state, HeapCell.state, HeapCell.state, free]
  have wiped := wiped_agreeOutside (relinked.refreshBlock block) (block + left.span)
  apply Laid.replace [⟨left.size + heapHeaderSize + right.size, false⟩] blockIs prevIs first
    (List.cons_ne_nil _ _)
  · exact ((widened.agreeOn (Or.inl (Nat.le_refl _))).trans ((relinkedBefore base).mono
      (Nat.le_refl _) (by omega))).trans ((refreshed.agreeOn (Or.inl (Nat.le_refl _))).trans
        (wiped.agreeOn (Or.inl (by omega))))
  · rw [taken, ← Nat.add_assoc]
    exact ⟨leftDone.of_agreeOn (wiped.agreeOn (Or.inl room.1)), trivial⟩
  · rw [taken, ← Nat.add_assoc]
    exact relinkedBehind.of_agreeOn ((refreshed.agreeOn (Or.inr (by omega))).trans
      (wiped.agreeOn (Or.inr (by omega))))

theorem Laid.zeroPage {prev address page : Nat} {cells : List HeapCell}
    (laid : Laid memory 0 prev address cells) (behind : address + extent cells ≤ page) :
    Laid (memory.zeroPage page) 0 prev address cells := by
  apply laid.of_agreeOn
  intro other above below
  have outside : ¬ (page ≤ other ∧ other < page + heapPageSize) := by omega
  simp only [HeapMemory.zeroPage, outside, if_false]

theorem laid_widenTail {front : List HeapCell} {last : HeapCell}
    {base oldEnd : Nat} (laid : Laid memory 0 0 base (front ++ [last])) (free : last.used = false) :
    Laid (heapExtendTail memory (base + extent front) oldEnd) 0 0 base
      (front ++ [⟨last.size + heapPageSize, false⟩]) := by
  rcases (laid_append front [last] 0 base).mp laid with ⟨first, header, -⟩
  have isFree : memory.state (base + extent front) = heapStateFree := by
    rw [header.state]
    exact last.state_eq_free.mpr free
  have outside := (setSize_agreeOutside memory (base + extent front)
    (memory.size (base + extent front) + heapPageSize)).trans (refreshBlock_agreeOutside _ _)
  rw [heapExtendTail, if_pos isFree]
  refine Laid.replace [⟨last.size + heapPageSize, false⟩] rfl rfl first (List.cons_ne_nil _ _)
    (outside.agreeOn (Or.inl (Nat.le_refl _))) ?_ (laid_nil _ _ _ _)
  refine ⟨headerAt_refreshBlock ?_ ?_ ?_ ?_, trivial⟩
  · rw [header.size]
    simp [HeapMemory.setSize, HeapMemory.store, HeapMemory.size]
  · rw [← header.prev]
    simp [HeapMemory.setSize, HeapMemory.store, HeapMemory.prev]
  · rw [startOf_nil, ← startOf_nil (base + extent front + last.span) 0, ← header.next]
    simp [HeapMemory.setSize, HeapMemory.store, HeapMemory.next]
  · rw [show HeapCell.state ⟨last.size + heapPageSize, false⟩ = heapStateFree from rfl, ← isFree]
    simp [HeapMemory.setSize, HeapMemory.store, HeapMemory.state]

/-- A used tail gets a free block behind it. -/
theorem laid_appendTail {front : List HeapCell} {last : HeapCell}
    {base : Nat} (laid : Laid memory 0 0 base (front ++ [last])) (used : last.used = true) :
    Laid (heapExtendTail memory (base + extent front) (base + extent front + last.span)) 0 0 base
      (front ++ [last, ⟨heapPageSize - heapHeaderSize, false⟩]) := by
  rcases (laid_append front [last] 0 base).mp laid with ⟨-, header, -⟩
  have notFree : memory.state (base + extent front) ≠ heapStateFree := by
    rw [header.state, ne_eq, last.state_eq_free, used]
    exact Bool.noConfusion
  rw [heapExtendTail, if_neg notFree]
  have freshHeader := headerAt_written memory (base + extent front + last.span)
    (base + extent front) 0 ⟨heapPageSize - heapHeaderSize, false⟩
  have fresh := written_agreeOutside memory (base + extent front + last.span)
    (heapPageSize - heapHeaderSize) (base + extent front) 0 heapStateFree
  rw [show HeapCell.state ⟨heapPageSize - heapHeaderSize, false⟩ = heapStateFree from rfl] at freshHeader
  generalize HeapMemory.refreshBlock _ (base + extent front + last.span) = written at *
  have kept : Laid written 0 0 base (front ++ [last]) := laid.of_agreeOn (fresh.agreeOn (Or.inl (by
    simp only [extent_append, extent_cons, extent_nil]; omega)))
  have linked := kept.setNext (base + extent front + last.span)
  have outside := (setNext_agreeOutside written (base + extent front)
    (base + extent front + last.span)).trans (refreshBlock_agreeOutside _ _)
  rw [show front ++ [last, ⟨heapPageSize - heapHeaderSize, false⟩] =
    (front ++ [last]) ++ [⟨heapPageSize - heapHeaderSize, false⟩] by simp]
  apply (laid_append _ _ _ _).mpr
  simp only [lastOf_append_singleton, extent_append, extent_cons, extent_nil, Nat.add_zero,
    startOf_cons, ← Nat.add_assoc]
  refine ⟨linked, freshHeader.of_agreeOn (outside.agreeOn (Or.inr ?_)), trivial⟩
  simp only [HeapCell.span]
  omega

end BoringOS.Memory
