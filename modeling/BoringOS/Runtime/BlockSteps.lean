import BoringOS.Runtime.Blocks

namespace BoringOS.Runtime

open Library
open Memory (HeapCell Coalesced)

/-!
# What the stores do to the blocks

Marking a block, splitting one and joining two rewrite the cells of one arena at
one place.  Growing the heap appends an arena.
-/

variable {words : HeapWords} {heap : UserHeap} {before after : List Arena}
  {base size : Nat} {front middle back : List HeapCell}

/-! ## One place -/

/-- What is known at a place from `start` to `stop`, with the blocks behind it -/
structure Focus (heap : UserHeap) (start stop previous : Nat) (middle behind : List HeapBlock) :
    Prop where
  notNull : start ≠ 0
  aligned : start % boringHeapAlignment = 0
  inside : stop ≤ 2 ^ 64
  linked : Linked HeapBlock.address (HeaderAt heap.words) (firstAddress HeapBlock.address behind 0)
    previous middle
  last : heap.last = lastAddress HeapBlock.address (lastAddress HeapBlock.address 0 middle) behind
  link : ∀ block ∈ behind.head?,
    heap.words (block.address + 24) = lastAddress HeapBlock.address 0 middle
  apart : ∀ block ∈ behind.head?, block.address ≠ 0 ∧
    (block.address + blockHeaderSize ≤ start ∨ stop ≤ block.address)

theorem HeapShape.focus (shape : HeapShape heap (before ++ ⟨base, size, front ++ (middle ++ back)⟩ :: after))
    (inhabited : middle ≠ []) :
    Focus heap (base + extentOf front) (base + extentOf front + extentOf middle)
      (lastAddress HeapBlock.address 0 (blocksBefore before base size front))
      (placeCells base size (base + extentOf front) middle)
      (blocksBehind after base size (base + extentOf front + extentOf middle) back) := by
  have linked := shape.linked
  have apart := shape.blocks_apart
  have last := shape.last
  have placed := fun block isBlock => @HeapShape.placed heap _ shape block isBlock
  have filled := shape.filled _ (List.mem_append_right _ List.mem_cons_self)
  rw [blocksOf_middle] at linked apart last placed
  rcases (linked_append _ _ _ _).mp linked with ⟨-, rest⟩
  rcases (linked_append _ _ _ _).mp rest with ⟨here, late⟩
  rcases List.pairwise_append.mp apart with ⟨-, apartRest, -⟩
  rcases List.pairwise_append.mp apartRest with ⟨-, -, apartMiddle⟩
  have lastMiddle := @lastAddress_placeCells base size (base + extentOf front) _ inhabited
  have total := filled.filled
  have inside : base + size ≤ 2 ^ 64 := filled.inside
  have notNull : base ≠ 0 := filled.notNull
  have aligned := filled.aligned
  have frontAligned := extentOf_aligned fun cell inFront =>
    filled.sizes cell (List.mem_append_left _ inFront)
  simp only [extentOf_append, boringHeapPageSize, boringHeapAlignment] at total aligned frontAligned
  have startAligned : (base + extentOf front) % boringHeapAlignment = 0 := by
    change (base + extentOf front) % 16 = 0
    omega
  rw [lastAddress_append, lastAddress_append, lastMiddle] at last
  rw [lastMiddle] at late
  refine ⟨by omega, startAligned, by omega, here, last, fun block isFirst => ?_, fun block isFirst => ?_⟩
  · cases isBehind : blocksBehind after base size (base + extentOf front + extentOf middle) back with
    | nil =>
      grind
    | cons first rest =>
      rw [isBehind] at isFirst late
      rw [← Option.some.inj isFirst]
      exact late.1.previous
  · have isBehind := List.mem_of_mem_head? isFirst
    have outside := apart_from_cells inhabited fun other isOther =>
      (apartMiddle other isOther block isBehind).symm
    refine ⟨(placed block (List.mem_append_right _ (List.mem_append_right _ isBehind))).1.1, ?_⟩
    simp only [HeapBlock.finish] at outside
    omega

/-! ## Stores -/

theorem store_elsewhere {address other value : Nat} (different : other ≠ address) :
    words.store address value other = words other := if_neg different

theorem store_here (words : HeapWords) (address value : Nat) :
    words.store address value address = value := if_pos rfl

theorem writeHeader_elsewhere {block magic size next previous arenaBase arenaSize address : Nat}
    (outside : address < block ∨ block + blockHeaderSize ≤ address) :
    words.writeHeader block magic size next previous arenaBase arenaSize address =
      words address := by
  unfold HeapWords.writeHeader
  grind [blockHeaderSize, store_elsewhere]

theorem headerAt_written (words : HeapWords) (block size next previous arenaBase arenaSize : Nat) :
    HeaderAt (words.writeHeader block boringHeapBlockMagic size next previous arenaBase arenaSize)
      previous ⟨block, size, false, arenaBase, arenaSize⟩ next := by
  constructor <;>
    simp [HeapWords.writeHeader, HeapWords.store, HeapWords.magic, HeapWords.size, HeapWords.next,
      HeapWords.previous, HeapWords.arenaBase, HeapWords.arenaSize, HeapWords.state, stateOf,
      boringHeapBlockFree]

variable {block : HeapBlock}

theorem headerAt_marked {previous next : Nat} (header : HeaderAt words previous block next) (used : Bool) :
    HeaderAt (words.setState block.address (stateOf used)) previous { block with used := used }
      next := by
  have small : stateOf used < 2 ^ 32 := by cases used <;> decide
  constructor
  case magic => simp [HeapWords.setState, HeapWords.store, ← header.magic, HeapWords.magic]
  case size => simp [HeapWords.setState, HeapWords.store, ← header.size, HeapWords.size]
  case next => simp [HeapWords.setState, HeapWords.store, ← header.next, HeapWords.next]
  case previous => simp [HeapWords.setState, HeapWords.store, ← header.previous, HeapWords.previous]
  case arenaBase =>
    simp [HeapWords.setState, HeapWords.store, ← header.arenaBase, HeapWords.arenaBase]
  case arenaSize =>
    simp [HeapWords.setState, HeapWords.store, ← header.arenaSize, HeapWords.arenaSize]
  case state =>
    rw [HeapWords.state, HeapWords.setState, store_here]
    simp_all

/-- The size and the forward pointer of a header change. -/
theorem headerAt_resized {previous next : Nat}
    (header : HeaderAt words previous block next) (size follower : Nat) :
    HeaderAt ((words.setNext block.address follower).setSize block.address size) previous
      { block with size := size } follower := by
  constructor
  case magic =>
    simp [HeapWords.setNext, HeapWords.setSize, HeapWords.store, ← header.magic, HeapWords.magic]
  case size => simp [HeapWords.setSize, HeapWords.store, HeapWords.size]
  case next => simp [HeapWords.setNext, HeapWords.setSize, HeapWords.store, HeapWords.next]
  case previous =>
    simp [HeapWords.setNext, HeapWords.setSize, HeapWords.store, ← header.previous, HeapWords.previous]
  case arenaBase =>
    simp [HeapWords.setNext, HeapWords.setSize, HeapWords.store, ← header.arenaBase, HeapWords.arenaBase]
  case arenaSize =>
    simp [HeapWords.setNext, HeapWords.setSize, HeapWords.store, ← header.arenaSize, HeapWords.arenaSize]
  case state =>
    simp [HeapWords.setNext, HeapWords.setSize, HeapWords.store, ← header.state, HeapWords.state]

/-- Only the forward pointer of a header changes. -/
theorem headerAt_followed {previous next : Nat}
    (header : HeaderAt words previous block next) (follower : Nat) :
    HeaderAt (words.setNext block.address follower) previous block follower := by
  constructor
  case magic => simp [HeapWords.setNext, HeapWords.store, ← header.magic, HeapWords.magic]
  case size => simp [HeapWords.setNext, HeapWords.store, ← header.size, HeapWords.size]
  case next => simp [HeapWords.setNext, HeapWords.store, HeapWords.next]
  case previous => simp [HeapWords.setNext, HeapWords.store, ← header.previous, HeapWords.previous]
  case arenaBase =>
    simp [HeapWords.setNext, HeapWords.store, ← header.arenaBase, HeapWords.arenaBase]
  case arenaSize =>
    simp [HeapWords.setNext, HeapWords.store, ← header.arenaSize, HeapWords.arenaSize]
  case state => simp [HeapWords.setNext, HeapWords.store, ← header.state, HeapWords.state]

section Relink

variable {behind : List HeapBlock} (placed : ∀ first ∈ behind.head?, first.address ≠ 0)
include placed

theorem relink_words (heap : UserHeap) (block : Nat) {address : Nat}
    (different : ∀ first ∈ behind.head?, address ≠ first.address + 24) :
    (relink heap (firstAddress HeapBlock.address behind 0) block).words address =
      heap.words address := by
  cases behind with
  | nil => rfl
  | cons first rest =>
    rw [firstAddress_cons, relink, if_pos (placed first rfl)]
    exact store_elsewhere (different first rfl)

theorem relink_link (heap : UserHeap) (block : Nat) :
    ∀ first ∈ behind.head?,
      (relink heap (firstAddress HeapBlock.address behind 0) block).words (first.address + 24) =
        block := by
  intro first isFirst
  cases behind with
  | nil => cases isFirst
  | cons other rest =>
    rw [firstAddress_cons, relink, if_pos (placed other rfl), Option.some.inj isFirst]
    exact store_here ..

theorem relink_last {before : Nat} (block : Nat)
    (isLast : heap.last = lastAddress HeapBlock.address before behind) :
    (relink heap (firstAddress HeapBlock.address behind 0) block).last =
      lastAddress HeapBlock.address block behind := by
  cases behind with
  | nil => rfl
  | cons first rest =>
    simp_all [firstAddress_cons, relink]

end Relink

theorem relink_first (heap : UserHeap) (next block : Nat) :
    (relink heap next block).first = heap.first := by
  unfold relink
  split <;> rfl

/-! ## Marking -/

/-- A block changes its state and keeps its place and size. -/
theorem HeapShape.marked {cell : HeapCell}
    (shape : HeapShape heap (before ++ ⟨base, size, front ++ ([cell] ++ back)⟩ :: after)) (used : Bool) :
    HeapShape
      { heap with words := heap.words.setState (base + extentOf front) (stateOf used) }
      (before ++ ⟨base, size, front ++ ([⟨cell.size, used⟩] ++ back)⟩ :: after) := by
  have focus := shape.focus (List.cons_ne_nil _ _)
  have apart := focus.apart
  simp only [extentOf_cons, extentOf_nil, blockHeaderSize] at apart
  refine shape.rewrite rfl (fun other isOther => ?_) (List.cons_ne_nil _ _) (List.cons_ne_nil _ _) rfl
    focus.last (fun address outside _ => ?_) (fun block isFirst => ?_) ⟨?_, trivial⟩
  · have sizes := (shape.filled _ (List.mem_append_right _ List.mem_cons_self)).sizes cell
      (List.mem_append_right _ List.mem_cons_self)
    rw [List.mem_singleton.mp isOther]
    exact sizes
  · simp only [extentOf_cons, extentOf_nil, blockHeaderSize] at outside
    exact store_elsewhere (by omega)
  · have isApart := apart block isFirst
    exact (store_elsewhere (by omega)).trans (focus.link block isFirst)
  · exact headerAt_marked focus.linked.1 used

/-! ## Splitting -/

theorem HeapShape.sizeOk {cell : HeapCell}
    (shape : HeapShape heap (before ++ ⟨base, size, front ++ (middle ++ back)⟩ :: after))
    (inMiddle : cell ∈ middle) : cell.SizeOk :=
  (shape.filled _ (List.mem_append_right _ List.mem_cons_self)).sizes cell
    (List.mem_append_right _ (List.mem_append_left _ inMiddle))

/-- The first block of a place can be followed. -/
theorem Focus.valid {start stop previous : Nat} {behind : List HeapBlock} {cell : HeapCell}
    {rest : List HeapCell}
    (focus : Focus heap start stop previous (placeCells base size start (cell :: rest)) behind) :
    heapBlockValid heap.words start = true :=
  focus.linked.1.valid ⟨focus.notNull, focus.aligned⟩

/-- A free block that is large enough is divided, unless what is left is too small. -/
theorem HeapShape.split {cell : HeapCell} {requested : Nat}
    (shape : HeapShape heap (before ++ ⟨base, size, front ++ ([cell] ++ back)⟩ :: after))
    (isFree : cell.used = false) (least : boringHeapAlignment ≤ requested)
    (aligned : requested % boringHeapAlignment = 0) (fits : requested ≤ cell.size) :
    ∃ heap' room tail, heapSplit heap (base + extentOf front) requested = some heap' ∧
      requested ≤ room ∧ (∀ other ∈ tail, other.used = false) ∧
      tail.length ≤ 1 ∧
      HeapShape heap' (before ++ ⟨base, size, front ++ ((⟨room, false⟩ :: tail) ++ back)⟩ :: after) := by
  have focus := shape.focus (List.cons_ne_nil _ _)
  have header := focus.linked.1
  have sizeOk := shape.sizeOk (List.mem_singleton.mpr rfl)
  have isSize : heap.words.size (base + extentOf front) = cell.size := header.size
  have accepted : ¬ (heapBlockValid heap.words (base + extentOf front) = false ∨
      heap.words.state (base + extentOf front) ≠ boringHeapBlockFree ∨
      heap.words.size (base + extentOf front) < requested) := by
    have isState : heap.words.state (base + extentOf front) = stateOf cell.used := header.state
    rw [focus.valid, isState, stateOf_eq_free.mpr isFree, isSize]
    simp only [Bool.true_eq_false, ne_eq, not_true_eq_false, false_or]
    omega
  unfold heapSplit
  rw [if_neg accepted, isSize]
  by_cases small : cell.size - requested < blockHeaderSize + boringHeapAlignment
  · rw [if_pos small]
    refine ⟨heap, cell.size, [], rfl, fits, fun _ inNil => absurd inNil List.not_mem_nil, Nat.zero_le _, ?_⟩
    have isCell : cell = ⟨cell.size, false⟩ := by rw [← isFree]
    rw [isCell] at shape
    exact shape
  · rw [if_neg small]
    refine ⟨_, requested, [⟨cell.size - requested - blockHeaderSize, false⟩], rfl, Nat.le_refl _,
      fun other isOther => ?_, Nat.le_refl _, ?_⟩
    · rw [List.mem_singleton.mp isOther]
    have apart := focus.apart
    have placed := fun first isFirst => (apart first isFirst).1
    have isNext : heap.words.next (base + extentOf front) = firstAddress HeapBlock.address
        (blocksBehind after base size (base + extentOf front + extentOf [cell]) back) 0 :=
      header.next
    have isBase : heap.words.arenaBase (base + extentOf front) = base := header.arenaBase
    have isArena : heap.words.arenaSize (base + extentOf front) = size := header.arenaSize
    have nextKept : ∀ split magic tail next previous arenaBase arenaSize,
        base + extentOf front + blockHeaderSize ≤ split →
        (heap.words.writeHeader split magic tail next previous arenaBase arenaSize).next
          (base + extentOf front) = heap.words.next (base + extentOf front) := by
      intro split magic tail next previous arenaBase arenaSize behind
      simp only [blockHeaderSize] at behind
      exact writeHeader_elsewhere (.inl (by omega))
    have length : extentOf [cell] = blockHeaderSize + cell.size := rfl
    have wide : requested + blockHeaderSize + boringHeapAlignment ≤ cell.size := by omega
    rw [nextKept _ _ _ _ _ _ _ (by rw [heapPayload]; omega), isNext, isBase, isArena, heapPayload]
    refine shape.rewrite ?_ (fun other isOther => ?_) (List.cons_ne_nil _ _) (List.cons_ne_nil _ _)
      (relink_first _ _ _) ?_ (fun address outside notLink => ?_) (fun block isFirst => ?_) ⟨?_, ?_, trivial⟩
    · simp only [extentOf_cons, extentOf_nil, blockHeaderSize, boringHeapAlignment] at wide ⊢
      omega
    · simp only [boringHeapAlignment, blockHeaderSize] at least aligned wide
      simp only [Memory.HeapCell.SizeOk, Memory.kernelHeapAlignment] at sizeOk ⊢
      grind [blockHeaderSize]
    · exact relink_last placed _ focus.last
    · simp only [length, blockHeaderSize] at outside wide
      refine (store_elsewhere (by omega)).trans ((store_elsewhere (by omega)).trans ?_)
      grind [relink_words, writeHeader_elsewhere, blockHeaderSize]
    · have isApart := apart block isFirst
      simp only [length, blockHeaderSize] at isApart wide
      refine (store_elsewhere (by omega)).trans ((store_elsewhere (by omega)).trans ?_)
      exact relink_link placed _ _ block isFirst
    · have header' : HeaderAt heap.words _ ⟨base + extentOf front, cell.size, false, base, size⟩ _ :=
        isFree ▸ header
      refine headerAt_resized (header'.of_same fun address above below => ?_) _ _
      grind [blockHeaderSize, relink_words, writeHeader_elsewhere]
    · refine (headerAt_written heap.words _ _ _ _ _ _).of_same fun address above below => ?_
      simp only [length, blockHeaderSize] at apart wide above below
      refine (store_elsewhere (by omega)).trans ((store_elsewhere (by omega)).trans ?_)
      refine relink_words placed _ _ fun first isFirst => ?_
      have isApart := apart first isFirst
      omega

/-! ## Neighbours -/

/-- Two blocks are found to be adjacent if they are. -/
theorem heapPhysicallyAdjacent_eq {first second : HeapBlock} {previous next previous' next' : Nat}
    (header : HeaderAt words previous first next) (header' : HeaderAt words previous' second next')
    (placed : first.Placed) (placed' : second.Placed) (inside : second.address < 2 ^ 64) :
    heapPhysicallyAdjacent words first.address second.address =
      decide ((first.arenaBase = second.arenaBase ∧ first.arenaSize = second.arenaSize) ∧
        first.finish = second.address) := by
  unfold heapPhysicallyAdjacent heapSameArena
  rw [header.valid placed, header'.valid placed', header.arenaBase, header'.arenaBase,
    header.arenaSize, header'.arenaSize, header.size, Bool.true_and, Bool.true_and]
  by_cases same : first.arenaBase = second.arenaBase ∧ first.arenaSize = second.arenaSize
  · simp only [same, and_self, decide_true, Bool.true_eq_false, if_false, true_and]
    grind [HeapBlock.finish, heapPayload, sizeMax]
  simp [*]

theorem Arena.Filled.sizePositive {arena : Arena} (filled : arena.Filled) : 0 < arena.size := by
  rw [← filled.filled]
  cases isCells : arena.cells with
  | nil => exact absurd isCells filled.inhabited
  | cons cell rest =>
    simp only [extentOf_cons, blockHeaderSize]
    omega

/-- Blocks of different arenas are not adjacent. -/
theorem Arena.Apart.bases {first second : Arena} (apart : first.Apart second)
    (filled : first.Filled) (filled' : second.Filled) : first.base ≠ second.base := by
  have positive := filled.sizePositive
  have positive' := filled'.sizePositive
  unfold Arena.Apart at apart
  omega

theorem HeapShape.foreign_behind
    (shape : HeapShape heap (before ++ ⟨base, size, front ++ (middle ++ back)⟩ :: after))
    (isBlock : block ∈ blocksOf after) : base ≠ block.arenaBase := by
  rcases List.mem_flatMap.mp isBlock with ⟨arena, isArena, inArena⟩
  have apart := (List.pairwise_cons.mp (List.pairwise_append.mp shape.apart).2.1).1 arena isArena
  have filled := shape.filled arena (List.mem_append_right _ (List.mem_cons_of_mem _ isArena))
  rw [(filled.bounds inArena).2.2.2.1]
  exact apart.bases (shape.filled _ (List.mem_append_right _ List.mem_cons_self)) filled

theorem HeapShape.foreign_before
    (shape : HeapShape heap (before ++ ⟨base, size, front ++ (middle ++ back)⟩ :: after))
    (isBlock : block ∈ blocksOf before) : block.arenaBase ≠ base := by
  rcases List.mem_flatMap.mp isBlock with ⟨arena, isArena, inArena⟩
  have apart := (List.pairwise_append.mp shape.apart).2.2 arena isArena _ List.mem_cons_self
  have filled := shape.filled arena (List.mem_append_left _ isArena)
  rw [(filled.bounds inArena).2.2.2.1]
  exact apart.bases filled (shape.filled _ (List.mem_append_right _ List.mem_cons_self))

/-! ## Joining -/

theorem setSize_setNext (words : HeapWords) (block size next : Nat) :
    (words.setSize block size).setNext block next =
      (words.setNext block next).setSize block size := by
  funext address
  simp only [HeapWords.setSize, HeapWords.setNext, HeapWords.store]
  split
  · rw [if_neg (by omega)]
  · rfl

/-- Nothing is joined to a block whose follower is in use or belongs to another arena. -/
theorem HeapShape.unjoined {cell : HeapCell}
    (shape : HeapShape heap (before ++ ⟨base, size, front ++ ([cell] ++ back)⟩ :: after))
    (inUse : ∀ next ∈ back.head?, next.used = true) :
    heapMergeNext heap (base + extentOf front) = heap := by
  have focus := shape.focus (List.cons_ne_nil _ _)
  have header := focus.linked.1
  have isNext : heap.words.next (base + extentOf front) = firstAddress HeapBlock.address
      (blocksBehind after base size (base + extentOf front + extentOf [cell]) back) 0 :=
    header.next
  unfold heapMergeNext
  simp only
  split
  · rfl
  refine if_pos ?_
  rw [isNext]
  cases back with
  | cons next rest =>
    right; left
    have linked := shape.linked
    rw [blocksOf_middle] at linked
    have late := ((linked_append _ _ _ _).mp ((linked_append _ _ _ _).mp linked).2).2
    have isState : heap.words.state (base + extentOf front + extentOf [cell]) =
      stateOf next.used := late.1.state
    change heap.words.state (base + extentOf front + extentOf [cell]) ≠ _
    rw [isState, inUse next rfl]
    decide
  | nil =>
    cases isAfter : blocksOf after with
    | nil =>
      left
      change heapBlockValid heap.words (firstAddress HeapBlock.address (blocksOf after) 0) = false
      rw [isAfter]
      rfl
    | cons other rest =>
      right; right
      have isOther : other ∈ blocksOf after := isAfter ▸ List.mem_cons_self
      have inAll : other ∈ blocksOf (before ++ ⟨base, size, front ++ ([cell] ++ [])⟩ :: after) := by
        rw [blocksOf_middle]
        exact List.mem_append_right _ (List.mem_append_right _ isOther)
      rcases shape.placed inAll with ⟨placed, ends, _, _, otherHeader⟩
      have foreign := shape.foreign_behind isOther
      simp only [HeapBlock.finish, blockHeaderSize] at ends
      change heapPhysicallyAdjacent heap.words _
        (firstAddress HeapBlock.address (blocksOf after) 0) = false
      rw [isAfter, firstAddress_cons]
      refine (heapPhysicallyAdjacent_eq header otherHeader ⟨focus.notNull, focus.aligned⟩ placed
        (by omega)).trans (decide_eq_false fun adjacent => foreign adjacent.1.1)

/-- The second of two blocks in an arena can be followed, and it is adjacent to the first. -/
theorem HeapShape.touching {cell other : HeapCell}
    (shape : HeapShape heap (before ++ ⟨base, size, front ++ ([cell, other] ++ back)⟩ :: after)) :
    heapBlockValid heap.words (base + extentOf front + blockHeaderSize + cell.size) = true ∧
      heapPhysicallyAdjacent heap.words (base + extentOf front)
        (base + extentOf front + blockHeaderSize + cell.size) = true := by
  have focus := shape.focus (List.cons_ne_nil _ _)
  have header' := focus.linked.2.1
  have inside := focus.inside
  have startPlaced : HeapBlock.Placed ⟨base + extentOf front, cell.size, cell.used, base, size⟩ :=
    ⟨focus.notNull, focus.aligned⟩
  have secondPlaced : HeapBlock.Placed
      ⟨base + extentOf front + blockHeaderSize + cell.size, other.size, other.used, base, size⟩ := by
    have aligned := focus.aligned
    have sizeAligned := (@HeapShape.sizeOk _ _ _ _ _ _ _ _ cell shape List.mem_cons_self).2
    have notNull := focus.notNull
    simp only [boringHeapAlignment, Memory.kernelHeapAlignment] at aligned sizeAligned
    constructor
    · simp_all
    · change (base + extentOf front + blockHeaderSize + cell.size) % 16 = 0
      simp only [blockHeaderSize]
      omega
  refine ⟨header'.valid secondPlaced, ?_⟩
  refine (heapPhysicallyAdjacent_eq focus.linked.1 header' startPlaced secondPlaced ?_).trans
    (decide_eq_true ⟨⟨rfl, rfl⟩, rfl⟩)
  grind [blockHeaderSize, extentOf_cons]

/-- A free block takes in the free block that follows it in its arena. -/
theorem HeapShape.joined {cell other : HeapCell}
    (shape : HeapShape heap (before ++ ⟨base, size, front ++ ([cell, other] ++ back)⟩ :: after))
    (isFree : cell.used = false) (otherFree : other.used = false) :
    HeapShape (heapMergeNext heap (base + extentOf front))
      (before ++ ⟨base, size, front ++
        ([⟨cell.size + (blockHeaderSize + other.size), false⟩] ++ back)⟩ :: after) := by
  have focus := shape.focus (List.cons_ne_nil _ _)
  have header := focus.linked.1
  have header' := focus.linked.2.1
  have apart := focus.apart
  have placed := fun first isFirst => (apart first isFirst).1
  have sizeOk := @HeapShape.sizeOk _ _ _ _ _ _ _ _ cell shape List.mem_cons_self
  have otherOk := @HeapShape.sizeOk _ _ _ _ _ _ _ _ other shape
  have length : extentOf [cell, other] = blockHeaderSize + cell.size + (blockHeaderSize + other.size) :=
    rfl
  have isNext : heap.words.next (base + extentOf front) =
      base + extentOf front + blockHeaderSize + cell.size := header.next
  have isState : heap.words.state (base + extentOf front) = boringHeapBlockFree :=
    header.state.trans (stateOf_eq_free.mpr isFree)
  have secondState : heap.words.state (base + extentOf front + blockHeaderSize + cell.size) =
      boringHeapBlockFree := header'.state.trans (stateOf_eq_free.mpr otherFree)
  have secondNext : heap.words.next (base + extentOf front + blockHeaderSize + cell.size) =
      firstAddress HeapBlock.address
        (blocksBehind after base size (base + extentOf front + extentOf [cell, other]) back) 0 :=
    header'.next
  have isSize : heap.words.size (base + extentOf front) = cell.size := header.size
  have secondSize : heap.words.size (base + extentOf front + blockHeaderSize + cell.size) =
      other.size := header'.size
  rcases shape.touching with ⟨secondValid, isAdjacent⟩
  have isValid : heapBlockValid heap.words (base + extentOf front) = true := focus.valid
  unfold heapMergeNext
  simp only
  rw [if_neg (by rw [isValid, isState]; simp), isNext, if_neg (by
    grind), isSize, secondSize, secondNext,
    setSize_setNext]
  have nextKept : ∀ follower joined,
      ((heap.words.setNext (base + extentOf front) follower).setSize (base + extentOf front)
        joined).next (base + extentOf front + blockHeaderSize + cell.size) =
      heap.words.next (base + extentOf front + blockHeaderSize + cell.size) := by
    intro follower joined
    simp only [blockHeaderSize]
    exact (store_elsewhere (by omega)).trans (store_elsewhere (by omega))
  rw [nextKept, secondNext]
  have extents : extentOf [⟨cell.size + (blockHeaderSize + other.size), false⟩] = extentOf [cell, other] := by
    simp only [extentOf_cons, extentOf_nil]
    omega
  refine shape.rewrite extents (fun merged isMerged => ?_) (List.cons_ne_nil _ _)
    (List.cons_ne_nil _ _) (relink_first _ _ _) ?_ (fun address outside notLink => ?_)
    (fun block isFirst => ?_) ⟨?_, trivial⟩
  · grind [Memory.HeapCell.SizeOk, Memory.kernelHeapAlignment, blockHeaderSize]
  · exact relink_last placed _ focus.last
  · simp only [length, blockHeaderSize] at outside
    refine (writeHeader_elsewhere (by simp only [blockHeaderSize]; omega)).trans ?_
    refine (relink_words placed _ _ notLink).trans ?_
    exact (store_elsewhere (by omega)).trans (store_elsewhere (by omega))
  · have isApart := apart block isFirst
    simp only [length, blockHeaderSize] at isApart
    refine (writeHeader_elsewhere (by simp only [blockHeaderSize]; omega)).trans ?_
    exact relink_link placed _ _ block isFirst
  · have header₀ : HeaderAt heap.words _ ⟨base + extentOf front, cell.size, false, base, size⟩ _ :=
      isFree ▸ header
    refine (headerAt_resized header₀ _ _).of_same fun address above below => ?_
    change base + extentOf front ≤ address at above
    simp only [length, blockHeaderSize] at apart below
    refine (writeHeader_elsewhere (by simp only [blockHeaderSize]; omega)).trans ?_
    refine relink_words placed _ _ fun first isFirst => ?_
    have isApart := apart first isFirst
    omega

/-! ## Growing -/

theorem heapRoundArena_eq_some {payload arenaSize : Nat} (rounded : heapRoundArena payload = some arenaSize) :
    payload + blockHeaderSize ≤ arenaSize ∧ arenaSize % boringHeapPageSize = 0 ∧
      boringHeapArenaMin ≤ arenaSize := by
  unfold heapRoundArena at rounded
  split at rounded
  · cases rounded
  simp only at rounded
  split at rounded
  · cases rounded
  grind [Nat.mul_mod_left]

/-- A new arena consists of one free block. -/
def newArena (base size : Nat) : Arena := ⟨base, size, [⟨size - blockHeaderSize, false⟩]⟩

theorem blocksOf_newArena (arenas : List Arena) (base size : Nat) :
    blocksOf (arenas ++ [newArena base size]) =
      blocksOf arenas ++ [⟨base, size - blockHeaderSize, false, base, size⟩] := by
  unfold blocksOf
  rw [List.flatMap_append]
  rfl

theorem HeapShape.apart_from_new {arenas : List Arena} (shape : HeapShape heap arenas)
    (fresh : ∀ arena ∈ arenas, arena.Apart (newArena base size)) {block : HeapBlock}
    (isBlock : block ∈ blocksOf arenas) :
    block.address + blockHeaderSize ≤ base ∨ base + size ≤ block.address := by
  rcases List.mem_flatMap.mp isBlock with ⟨arena, isArena, inArena⟩
  have bounds := (shape.filled arena isArena).bounds inArena
  grind [HeapBlock.finish, Arena.Apart, newArena]

theorem HeapShape.grown {arenas : List Arena} {requested arenaSize base : Nat}
    (shape : HeapShape heap arenas) (rounded : heapRoundArena requested = some arenaSize)
    (notNull : base ≠ 0) (aligned : base % boringHeapPageSize = 0) (inside : base + arenaSize ≤ 2 ^ 64)
    (fresh : ∀ arena ∈ arenas, arena.Apart (newArena base arenaSize)) :
    ∃ heap', heapGrow heap requested (some base) = some (base, heap') ∧
      HeapShape heap' (arenas ++ [newArena base arenaSize]) := by
  have wide := heapRoundArena_eq_some rounded
  simp only [boringHeapPageSize, boringHeapArenaMin] at wide
  have apart := fun block isBlock => @HeapShape.apart_from_new heap base arenaSize arenas shape fresh
    block isBlock
  have filled : (newArena base arenaSize).Filled := by
    refine ⟨notNull, aligned, inside, ?_, fun cell isCell => ?_, List.cons_ne_nil _ _⟩
    · simp only [newArena, extentOf_cons, extentOf_nil, blockHeaderSize]
      omega
    · rw [List.mem_singleton.mp isCell]
      simp only [Memory.HeapCell.SizeOk, Memory.kernelHeapAlignment, blockHeaderSize]
      omega
  have allFilled : ∀ arena ∈ arenas ++ [newArena base arenaSize], arena.Filled := by
    intro arena isArena
    rcases List.mem_append.mp isArena with isOld | isNew
    · exact shape.filled arena isOld
    · grind
  have allApart : (arenas ++ [newArena base arenaSize]).Pairwise Arena.Apart := by
    refine List.pairwise_append.mpr ⟨shape.apart, List.pairwise_singleton _ _,
      fun arena isArena other isNew => ?_⟩
    rw [List.mem_singleton.mp isNew]
    exact fresh arena isArena
  have written := headerAt_written heap.words base (arenaSize - blockHeaderSize) 0 heap.last base arenaSize
  unfold heapGrow
  rw [rounded]
  refine ⟨_, rfl, ?_⟩
  have first := shape.first
  have last := shape.last
  have linked := shape.linked
  rcases List.eq_nil_or_concat (blocksOf arenas) with none | ⟨init, final, isBlocks⟩
  · rw [none] at first last
    have isLast : heap.last = 0 := last
    rw [isLast] at written ⊢
    refine ⟨?_, ?_, ?_, allFilled, allApart⟩
    · rw [blocksOf_newArena, none]
      exact ⟨written, trivial⟩
    · rw [blocksOf_newArena, none]
      rfl
    · rw [blocksOf_newArena, none]
      rfl
  · rw [List.concat_eq_append] at isBlocks
    have isFinal : final ∈ blocksOf arenas := by
      rw [isBlocks]
      exact List.mem_append_right _ List.mem_cons_self
    have finalPlaced := (shape.placed isFinal).1
    have isLast : heap.last = final.address := by
      rw [last, isBlocks, lastAddress_append]
      rfl
    have blocksApart := shape.blocks_apart
    rw [isBlocks] at linked blocksApart first
    rw [isLast, if_pos finalPlaced.1]
    rw [isLast] at written
    rcases (linked_append _ _ _ _).mp linked with ⟨early, atFinal⟩
    have finalApart := apart final isFinal
    have finalHeader : HeaderAt (heap.words.writeHeader base boringHeapBlockMagic
        (arenaSize - blockHeaderSize) 0 final.address base arenaSize)
        (lastAddress HeapBlock.address 0 init) final 0 := by
      refine atFinal.1.of_same fun address above below => writeHeader_elsewhere ?_
      omega
    refine ⟨?_, ?_, ?_, allFilled, allApart⟩
    · rw [blocksOf_newArena, isBlocks, List.append_assoc]
      refine (linked_append _ _ _ _).mpr ⟨?_, ?_, ?_, trivial⟩
      · refine early.imp fun block inInit _ _ header => header.of_same fun address above below => ?_
        have isBlock : block ∈ blocksOf arenas := by
          rw [isBlocks]
          exact List.mem_append_left _ inInit
        have isApart := apart block isBlock
        have fromFinal := (List.pairwise_append.mp blocksApart).2.2 block inInit final List.mem_cons_self
        simp only [HeapBlock.Apart, HeapBlock.finish, blockHeaderSize] at isApart fromFinal below
        refine (store_elsewhere (by omega)).trans (writeHeader_elsewhere ?_)
        omega
      · exact headerAt_followed finalHeader base
      · refine written.of_same fun address above below => store_elsewhere ?_
        grind [blockHeaderSize]
    · simp_all [blocksOf_newArena, List.append_assoc, firstAddress_append]
    · rw [blocksOf_newArena, lastAddress_append]
      rfl

end BoringOS.Runtime
