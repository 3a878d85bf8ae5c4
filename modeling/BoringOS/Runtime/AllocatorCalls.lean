import BoringOS.Library.ListFacts
import BoringOS.Runtime.BlockSteps

namespace BoringOS.Runtime

open Library
open Memory (HeapCell Coalesced coalesced_append_cons)

/-!
# Allocating and releasing

The payloads of a heap are those of its used blocks.  An allocation adds one to
them, a release takes one away, and no neighbours in an arena are both free
afterwards.
-/

variable {heap : UserHeap} {arenas before after : List Arena} {base size : Nat}
  {front middle back : List HeapCell}

/-! ## Payloads -/

/-- The used payloads among some blocks, with their sizes -/
def payloadsIn (blocks : List HeapBlock) : List (Nat × Nat) :=
  blocks.filterMap fun block =>
    if block.used = true then some (heapPayload block.address, block.size) else none

def payloadsOf (arenas : List Arena) : List (Nat × Nat) := payloadsIn (blocksOf arenas)

theorem payloadsIn_append (first second : List HeapBlock) :
    payloadsIn (first ++ second) = payloadsIn first ++ payloadsIn second :=
  List.filterMap_append

theorem payloadsOf_middle (before after : List Arena) (base size : Nat) (front middle back : List HeapCell) :
    payloadsOf (before ++ ⟨base, size, front ++ (middle ++ back)⟩ :: after) =
      payloadsIn (blocksBefore before base size front) ++
        (payloadsIn (placeCells base size (base + extentOf front) middle) ++
          payloadsIn (blocksBehind after base size (base + extentOf front + extentOf middle) back)) := by
  rw [payloadsOf, blocksOf_middle, payloadsIn_append, payloadsIn_append]

theorem payloadsIn_free {cells : List HeapCell} (free : ∀ cell ∈ cells, cell.used = false)
    (address : Nat) : payloadsIn (placeCells base size address cells) = [] := by
  refine List.filterMap_eq_nil_iff.mpr fun block isBlock => ?_
  grind [mem_placeCells]

theorem mem_payloadsOf {payload : Nat × Nat} (isPayload : payload ∈ payloadsOf arenas) :
    ∃ block ∈ blocksOf arenas, block.used = true ∧
      payload = (heapPayload block.address, block.size) := by
  rcases List.mem_filterMap.mp isPayload with ⟨block, isBlock, isPayload⟩
  grind

/-- A payload with its header is apart from every other one. -/
def PayloadsApart (first second : Nat × Nat) : Prop :=
  first.1 + first.2 + blockHeaderSize ≤ second.1 ∨ second.1 + second.2 + blockHeaderSize ≤ first.1

theorem HeapShape.payloads_apart (shape : HeapShape heap arenas) :
    (payloadsOf arenas).Pairwise PayloadsApart := by
  refine shape.blocks_apart.filterMap _ fun first second apart payload isPayload payload' isPayload' => ?_
  split at isPayload
  · split at isPayload'
    · grind [HeapBlock.Apart, HeapBlock.finish, PayloadsApart, heapPayload]
    · cases isPayload'
  · cases isPayload

/-! ## The invariant -/

structure HeapInvariant (heap : UserHeap) (arenas : List Arena) : Prop extends
    HeapShape heap arenas where
  coalesced : ∀ arena ∈ arenas, Coalesced arena.cells

theorem HeapShape.coalescedAt
    (shape : HeapShape heap (before ++ ⟨base, size, front ++ (middle ++ back)⟩ :: after))
    (others : ∀ arena ∈ before ++ after, Coalesced arena.cells)
    (here : Coalesced (front ++ (middle ++ back))) :
    HeapInvariant heap (before ++ ⟨base, size, front ++ (middle ++ back)⟩ :: after) := by
  refine ⟨shape, fun arena isArena => ?_⟩
  grind

theorem HeapInvariant.others
    (invariant : HeapInvariant heap (before ++ ⟨base, size, front ++ (middle ++ back)⟩ :: after)) :
    ∀ arena ∈ before ++ after, Coalesced arena.cells := by
  intro arena isArena
  rcases List.mem_append.mp isArena with inBefore | inAfter
  · exact invariant.coalesced arena (List.mem_append_left _ inBefore)
  · exact invariant.coalesced arena (List.mem_append_right _ (List.mem_cons_of_mem _ inAfter))

theorem HeapInvariant.here
    (invariant : HeapInvariant heap (before ++ ⟨base, size, front ++ (middle ++ back)⟩ :: after)) :
    Coalesced (front ++ (middle ++ back)) :=
  invariant.coalesced _ (List.mem_append_right _ List.mem_cons_self)

/-- What the kernel has given, arena by arena -/
def grants (arenas : List Arena) : List (Nat × Nat) :=
  arenas.map fun arena => (arena.base, arena.size)

theorem grants_middle (before after : List Arena) (base size : Nat) (cells : List HeapCell) :
    grants (before ++ ⟨base, size, cells⟩ :: after) =
      grants before ++ (base, size) :: grants after := by
  unfold grants
  rw [List.map_append, List.map_cons]

/-! ## Allocating -/

theorem heapAlignSize_eq_some {requested aligned : Nat} (isAligned : heapAlignSize requested = some aligned) :
    requested ≤ aligned ∧ boringHeapAlignment ≤ aligned ∧ aligned % boringHeapAlignment = 0 := by
  unfold heapAlignSize at isAligned
  split at isAligned
  · cases isAligned
  grind [boringHeapAlignment]

/-- One payload more than before -/
def Allocates (requested : Nat) (arenas arenas' : List Arena) (pointer : Nat) : Prop :=
  ∃ room earlier later, requested ≤ room ∧ payloadsOf arenas = earlier ++ later ∧
    payloadsOf arenas' = earlier ++ (pointer, room) :: later

theorem takeBlock_cases {cell : HeapCell} {requested : Nat} (invariant : HeapInvariant heap
      (before ++ ⟨base, size, front ++ ([cell] ++ back)⟩ :: after))
    (isFree : cell.used = false) (least : boringHeapAlignment ≤ requested)
    (aligned : requested % boringHeapAlignment = 0) (fits : requested ≤ cell.size) :
    (takeBlock heap (base + extentOf front) requested).1 ≠ 0 ∧
      ∃ arenas', HeapInvariant (takeBlock heap (base + extentOf front) requested).2 arenas' ∧
        grants arenas' = grants (before ++ ⟨base, size, front ++ ([cell] ++ back)⟩ :: after) ∧
        Allocates requested (before ++ ⟨base, size, front ++ ([cell] ++ back)⟩ :: after) arenas'
          (takeBlock heap (base + extentOf front) requested).1 := by
  rcases invariant.toHeapShape.split isFree least aligned fits with
    ⟨divided, room, tail, isDivided, enough, tailFree, short, shape⟩
  have marked : HeapShape _ (before ++ ⟨base, size, front ++ ((⟨room, true⟩ :: tail) ++ back)⟩ :: after) :=
    shape.marked true
  have extents : extentOf (⟨room, true⟩ :: tail) = extentOf [cell] := by
    have old := (invariant.filled _ (List.mem_append_right _ List.mem_cons_self)).filled
    have new := (marked.filled _ (List.mem_append_right _ List.mem_cons_self)).filled
    simp only [extentOf_append] at old new
    omega
  unfold takeBlock
  rw [isDivided]
  refine ⟨by nofun, _, marked.coalescedAt invariant.others ?_, ?_, room,
    payloadsIn (blocksBefore before base size front),
    payloadsIn (blocksBehind after base size (base + extentOf front + extentOf [cell]) back), enough, ?_, ?_⟩
  · rcases coalesced_append_cons.mp invariant.here with ⟨early, late, -, behind⟩
    refine coalesced_append_cons.mpr ⟨early, ?_, fun _ _ => .inr rfl, fun _ _ => .inl rfl⟩
    cases tail with
    | nil => exact late
    | cons first rest =>
      have isEmpty : rest = [] := List.eq_nil_of_length_eq_zero (Nat.le_zero.mp
        (Nat.le_of_succ_le_succ short))
      rw [isEmpty]
      refine List.isChain_cons.mpr ⟨fun right isRight => .inr ?_, late⟩
      simp_all
  · rw [grants_middle, grants_middle]
  · rw [payloadsOf_middle, payloadsIn_free (by simpa using isFree), List.nil_append]
  · have nothing := @payloadsIn_free base size tail tailFree (base + extentOf front + blockHeaderSize + room)
    rw [payloadsOf_middle, extents]
    change _ ++ ((heapPayload (base + extentOf front), room) ::
      payloadsIn (placeCells base size (base + extentOf front + blockHeaderSize + room) tail) ++ _) = _
    rw [nothing]
    rfl

/-- The size of the arena that an allocation asks the kernel for, if it does -/
def requestedArena (heap : UserHeap) (size : Nat) : Option Nat :=
  match heapAlignSize size with
  | none => none
  | some requested =>
    match heapScan heap.words
      (fun block => decide (heap.words.state block = boringHeapBlockFree ∧
        requested ≤ heap.words.size block)) heapFuel heap.first with
    | .ended => heapRoundArena requested
    | _ => none

/-- What the kernel gives to an allocation -/
def grantedBy (heap : UserHeap) (size : Nat) (answer : Option Nat) : List (Nat × Nat) :=
  match requestedArena heap size, answer with
  | some arenaSize, some arenaBase => [(arenaBase, arenaSize)]
  | _, _ => []

/-- A page-aligned range that is disjoint from all that have been given -/
structure FreshRange (given : List (Nat × Nat)) (range : Nat × Nat) : Prop where
  notNull : range.1 ≠ 0
  aligned : range.1 % boringHeapPageSize = 0
  inside : range.1 + range.2 ≤ 2 ^ 64
  apart : ∀ other ∈ given, other.1 + other.2 ≤ range.1 ∨ range.1 + range.2 ≤ other.1

section

variable (invariant : HeapInvariant heap arenas)
include invariant

/-- A search finds a block of some arena, or none fits. -/
theorem HeapInvariant.scan (wanted : Nat → Bool) :
    (heapScan heap.words wanted heapFuel heap.first = .ended ∧
      ∀ block ∈ blocksOf arenas, wanted block.address = false) ∨
    ∃ before base size front cell back after,
      arenas = before ++ ⟨base, size, front ++ ([cell] ++ back)⟩ :: after ∧
      heapScan heap.words wanted heapFuel heap.first = .found (base + extentOf front) ∧
      wanted (base + extentOf front) = true := by
  have scanned := heapScan_linked wanted invariant.linked
    (fun block isBlock => (invariant.placed isBlock).1) invariant.length_lt_fuel
  rw [← invariant.first] at scanned
  cases found : (blocksOf arenas).find? fun block => wanted block.address with
  | none =>
    simp_all
  | some block =>
    rw [found] at scanned
    right
    have isWanted := List.find?_some found
    rcases mem_blocksOf (List.mem_of_find?_eq_some found) with
      ⟨before, arena, after, front, cell, back, isArenas, isCells, isBlock⟩
    rcases arena with ⟨base, size, cells⟩
    change cells = front ++ cell :: back at isCells
    rw [isBlock] at scanned isWanted
    rw [isCells] at isArenas
    exact ⟨before, base, size, front, cell, back, after, isArenas, scanned, isWanted⟩

theorem HeapInvariant.newArena {requested arenaSize arenaBase : Nat}
    (rounded : heapRoundArena requested = some arenaSize)
    (fresh : FreshRange (grants arenas) (arenaBase, arenaSize)) :
    ∃ grown, heapGrow heap requested (some arenaBase) = some (arenaBase, grown) ∧
      HeapInvariant grown (arenas ++ [Runtime.newArena arenaBase arenaSize]) ∧
      grants (arenas ++ [Runtime.newArena arenaBase arenaSize]) = grants arenas ++ [(arenaBase, arenaSize)] ∧
      payloadsOf (arenas ++ [Runtime.newArena arenaBase arenaSize]) = payloadsOf arenas := by
  have apart : ∀ arena ∈ arenas, arena.Apart (Runtime.newArena arenaBase arenaSize) :=
    fun arena isArena => fresh.apart _ (List.mem_map_of_mem isArena)
  rcases invariant.toHeapShape.grown rounded fresh.notNull fresh.aligned fresh.inside apart with
    ⟨grown, isGrown, shape⟩
  refine ⟨grown, isGrown, ⟨shape, fun arena isArena => ?_⟩, ?_, ?_⟩
  · rcases List.mem_append.mp isArena with isOld | isNew
    · exact invariant.coalesced arena isOld
    · rw [List.mem_singleton.mp isNew]
      exact List.isChain_singleton _
  · exact List.map_append
  · rw [payloadsOf, blocksOf_newArena, payloadsIn_append]
    exact List.append_nil _

theorem boringMalloc_cases (requested : Nat) (answer : Option Nat)
    (fresh : ∀ range ∈ grantedBy heap requested answer, FreshRange (grants arenas) range) :
    ∃ arenas', HeapInvariant (boringMalloc heap requested answer).2 arenas' ∧
      grants arenas' = grants arenas ++ grantedBy heap requested answer ∧
      ((boringMalloc heap requested answer).1 = 0 ∧ payloadsOf arenas' = payloadsOf arenas ∨
        (boringMalloc heap requested answer).1 ≠ 0 ∧
          Allocates requested arenas arenas' (boringMalloc heap requested answer).1) := by
  unfold grantedBy requestedArena at fresh ⊢
  unfold boringMalloc
  cases isAligned : heapAlignSize requested with
  | none => grind
  | some aligned =>
    rcases heapAlignSize_eq_some isAligned with ⟨large, least, multiple⟩
    have weaken : ∀ {from' to' pointer}, Allocates aligned from' to' pointer →
        Allocates requested from' to' pointer := by
      rintro from' to' pointer ⟨room, earlier, later, enough, old, new⟩
      exact ⟨room, earlier, later, Nat.le_trans large enough, old, new⟩
    rw [isAligned] at fresh
    simp only at fresh ⊢
    rcases invariant.scan fun block => decide (heap.words.state block = boringHeapBlockFree ∧
      aligned ≤ heap.words.size block) with
      ⟨isEnded, -⟩ | ⟨before, base, size, front, cell, back, after, isArenas, isFound, isWanted⟩
    · rw [isEnded] at fresh ⊢
      cases rounded : heapRoundArena aligned with
      | none =>
        have refused : heapGrow heap aligned answer = none := by
          unfold heapGrow
          rw [rounded]
        grind
      | some arenaSize =>
        rw [rounded] at fresh
        cases answer with
        | none =>
          have refused : heapGrow heap aligned none = none := by
            unfold heapGrow
            rw [rounded]
          grind
        | some arenaBase =>
          rcases invariant.newArena rounded (fresh _ (List.mem_singleton.mpr rfl)) with
            ⟨grown, isGrown, grownInvariant, isGranted, samePayloads⟩
          rw [isGrown]
          have wide := (heapRoundArena_eq_some rounded).1
          rcases @takeBlock_cases _ _ [] _ _ [] [] _ _ grownInvariant rfl least multiple
            (Nat.le_sub_of_add_le wide) with
            ⟨notNull, arenas', taken, kept, room, earlier, later, enough, old, new⟩
          refine ⟨arenas', taken, kept.trans isGranted, .inr ⟨notNull, weaken
            ⟨room, earlier, later, enough, samePayloads.symm.trans old, new⟩⟩⟩
    · rw [isFound]
      have fits := of_decide_eq_true isWanted
      rw [isArenas] at invariant ⊢
      have header := (invariant.toHeapShape.focus (List.cons_ne_nil _ _)).linked.1
      have isFree : cell.used = false := stateOf_eq_free.mp (header.state.symm.trans fits.1)
      have isSize : heap.words.size (base + extentOf front) = cell.size := header.size
      grind [takeBlock_cases]

end

/-! ## Releasing -/

/-- A free block has taken in what follows it, if that was free as well. -/
theorem HeapShape.joinedNext {cell : HeapCell}
    (shape : HeapShape heap (before ++ ⟨base, size, front ++ ([cell] ++ back)⟩ :: after))
    (isFree : cell.used = false) (late : Coalesced back) :
    ∃ room back', HeapShape (heapMergeNext heap (base + extentOf front))
        (before ++ ⟨base, size, front ++ ([⟨room, false⟩] ++ back')⟩ :: after) ∧
      Coalesced back' ∧ (∀ next ∈ back'.head?, next.used = true) ∧
      payloadsOf (before ++ ⟨base, size, front ++ ([⟨room, false⟩] ++ back')⟩ :: after) =
        payloadsOf (before ++ ⟨base, size, front ++ ([cell] ++ back)⟩ :: after) := by
  have isCell : cell = ⟨cell.size, false⟩ := by rw [← isFree]
  by_cases inUse : ∀ next ∈ back.head?, next.used = true
  · rw [shape.unjoined inUse]
    grind
  cases back with
  | nil => grind
  | cons next rest =>
    have nextFree : next.used = false := by
      refine Bool.eq_false_iff.mpr fun used => inUse fun other isOther => ?_
      rw [← Option.some.inj isOther]
      exact used
    have isPair : HeapShape heap
        (before ++ ⟨base, size, front ++ ([cell, next] ++ rest)⟩ :: after) := shape
    have joined := isPair.joined isFree nextFree
    refine ⟨_, rest, joined, (List.isChain_cons.mp late).2, fun other isOther => ?_, ?_⟩
    · rcases (List.isChain_cons.mp late).1 other isOther with wrong | used
      · grind
      · exact used
    · have old := payloadsOf_middle before after base size front [cell, next] rest
      have extents : extentOf [⟨cell.size + (blockHeaderSize + next.size), false⟩] =
          extentOf [cell, next] := by
        simp only [extentOf_cons, extentOf_nil]
        omega
      rw [payloadsIn_free (by simp [isFree, nextFree])] at old
      refine Eq.trans ?_ old.symm
      rw [payloadsOf_middle, extents, payloadsIn_free (by simp)]

/-- The block before a free one takes it in, if it is free and belongs to the same arena. -/
theorem HeapShape.joinedPrevious {room : Nat}
    (shape : HeapShape heap (before ++ ⟨base, size, front ++ ([⟨room, false⟩] ++ back)⟩ :: after))
    (others : ∀ arena ∈ before ++ after, Coalesced arena.cells) (early : Coalesced front)
    (late : Coalesced back) (behind : ∀ next ∈ back.head?, next.used = true) :
    ∃ arenas', HeapInvariant
        (if heap.words.previous (base + extentOf front) ≠ 0 ∧
            heap.words.state (heap.words.previous (base + extentOf front)) = boringHeapBlockFree ∧
            heapPhysicallyAdjacent heap.words (heap.words.previous (base + extentOf front))
              (base + extentOf front) = true then
          heapMergeNext heap (heap.words.previous (base + extentOf front))
        else heap) arenas' ∧
      grants arenas' = grants (before ++ ⟨base, size, front ++ ([⟨room, false⟩] ++ back)⟩ :: after) ∧
      payloadsOf arenas' =
        payloadsOf (before ++ ⟨base, size, front ++ ([⟨room, false⟩] ++ back)⟩ :: after) := by
  have header := (shape.focus (List.cons_ne_nil _ _)).linked.1
  have isPrevious : heap.words.previous (base + extentOf front) =
    lastAddress HeapBlock.address 0 (blocksBefore before base size front) := header.previous
  have unchanged : (∀ left ∈ front.getLast?, left.used = true) →
      HeapInvariant heap (before ++ ⟨base, size, front ++ ([⟨room, false⟩] ++ back)⟩ :: after) := by
    intro leftUsed
    refine shape.coalescedAt others (coalesced_append_cons.mpr ⟨early, late, ?_, ?_⟩)
    · grind
    · simp_all
  rcases List.eq_nil_or_concat front with isEmpty | ⟨front', previous, isFront⟩
  · refine ⟨_, ?_, rfl, rfl⟩
    rw [if_neg, isEmpty]
    · simp_all
    rintro ⟨notNull, -, adjacent⟩
    rw [isPrevious, isEmpty] at notNull adjacent
    have isBefore : blocksBefore before base size [] = blocksOf before := List.append_nil _
    rw [isBefore] at notNull adjacent
    rcases List.eq_nil_or_concat (blocksOf before) with none | ⟨init, other, isBlocks⟩
    · rw [none] at notNull
      exact notNull rfl
    rw [List.concat_eq_append] at isBlocks
    have isOther : other ∈ blocksOf before := by
      rw [isBlocks]
      exact List.mem_append_right _ List.mem_cons_self
    have foreign := shape.foreign_before isOther
    have isOtherLast : lastAddress HeapBlock.address 0 (blocksOf before) = other.address := by
      rw [isBlocks, lastAddress_append]
      rfl
    have inAll : other ∈ blocksOf
        (before ++ ⟨base, size, front ++ ([⟨room, false⟩] ++ back)⟩ :: after) := by
      rw [blocksOf, List.flatMap_append]
      exact List.mem_append_left _ isOther
    rcases shape.placed inAll with ⟨otherPlaced, -, _, _, otherHeader⟩
    have focus := shape.focus (List.cons_ne_nil _ _)
    have inside := focus.inside
    simp only [extentOf_cons, extentOf_nil, blockHeaderSize] at inside
    have decided := heapPhysicallyAdjacent_eq otherHeader header otherPlaced
      ⟨focus.notNull, focus.aligned⟩ (show base + extentOf front < 2 ^ 64 by omega)
    simp_all
  · rw [List.concat_eq_append] at isFront
    have regroup : front ++ ([⟨room, false⟩] ++ back) = front' ++ ([previous, ⟨room, false⟩] ++ back) := by
      rw [isFront, List.append_assoc]
      rfl
    have isStart : base + extentOf front = base + extentOf front' + blockHeaderSize + previous.size := by
      rw [isFront, extentOf_append, extentOf_cons, extentOf_nil]
      omega
    have isBefore : lastAddress HeapBlock.address 0 (blocksBefore before base size front) =
        base + extentOf front' := by
      rw [isFront, blocksBefore, placeCells_append, ← List.append_assoc, lastAddress_append]
      rfl
    have pair := shape
    rw [regroup] at pair
    have focus := pair.focus (List.cons_ne_nil _ _)
    have isState : heap.words.state (base + extentOf front') = stateOf previous.used :=
      focus.linked.1.state
    rw [isPrevious, isBefore, isState, isStart]
    by_cases isFree : previous.used = false
    · rw [isFront] at early
      rcases coalesced_append_cons.mp early with ⟨earlier, -, joint, -⟩
      rw [if_pos ⟨focus.notNull, stateOf_eq_free.mpr isFree, pair.touching.2⟩, regroup]
      refine ⟨_, (pair.joined isFree rfl).coalescedAt others
        (coalesced_append_cons.mpr ⟨earlier, late, fun left isLeft => .inl ?_,
          fun right isRight => .inr (behind right isRight)⟩), ?_, ?_⟩
      · simp_all
      · rw [grants_middle, grants_middle]
      · have extents : extentOf [⟨previous.size + (blockHeaderSize + room), false⟩] =
            extentOf [previous, ⟨room, false⟩] := by
          simp only [extentOf_cons, extentOf_nil]
          omega
        grind [payloadsOf_middle, payloadsIn_free]
    · rw [if_neg fun all => isFree (stateOf_eq_free.mp all.2.1)]
      grind

theorem releaseBlock_cases {cell : HeapCell}
    (invariant : HeapInvariant heap (before ++ ⟨base, size, front ++ ([cell] ++ back)⟩ :: after))
    (inUse : cell.used = true) :
    ∃ arenas', HeapInvariant (releaseBlock heap (base + extentOf front)) arenas' ∧
      grants arenas' = grants (before ++ ⟨base, size, front ++ ([cell] ++ back)⟩ :: after) ∧
      ∃ earlier later, payloadsOf (before ++ ⟨base, size, front ++ ([cell] ++ back)⟩ :: after) =
          earlier ++ (heapPayload (base + extentOf front), cell.size) :: later ∧
        payloadsOf arenas' = earlier ++ later := by
  rcases coalesced_append_cons.mp invariant.here with ⟨early, late, -, -⟩
  have marked := invariant.toHeapShape.marked false
  have without : payloadsOf (before ++ ⟨base, size, front ++ ([⟨cell.size, false⟩] ++ back)⟩ :: after) =
      payloadsIn (blocksBefore before base size front) ++ payloadsIn
        (blocksBehind after base size (base + extentOf front + extentOf [cell]) back) := by
    rw [payloadsOf_middle, payloadsIn_free (by simp), List.nil_append]
    rfl
  have taken : payloadsOf (before ++ ⟨base, size, front ++ ([cell] ++ back)⟩ :: after) =
      payloadsIn (blocksBefore before base size front) ++
        (heapPayload (base + extentOf front), cell.size) :: payloadsIn
          (blocksBehind after base size (base + extentOf front + extentOf [cell]) back) := by
    rw [payloadsOf_middle]
    have isHere : payloadsIn (placeCells base size (base + extentOf front) [cell]) =
        [(heapPayload (base + extentOf front), cell.size)] := by
      simp only [placeCells, payloadsIn, List.filterMap_cons, inUse, if_true, List.filterMap_nil]
    rw [isHere]
    rfl
  rcases marked.joinedNext rfl late with ⟨room, back', shape, late', behind, samePayloads⟩
  rcases shape.joinedPrevious invariant.others early late' behind with
    ⟨arenas', released, sameGrants, samePayloads'⟩
  refine ⟨arenas', released, ?_, _, _, taken, ?_⟩
  · rw [sameGrants, grants_middle, grants_middle]
  · rw [samePayloads', samePayloads, without]

theorem HeapShape.unique (shape : HeapShape heap arenas) {first second : HeapBlock}
    (isFirst : first ∈ blocksOf arenas) (isSecond : second ∈ blocksOf arenas)
    (same : first.address = second.address) : first = second := by
  rcases pairwise_of_mem shape.blocks_apart isFirst isSecond with equal | apart | apart
  · exact equal
  all_goals
    simp only [HeapBlock.Apart, HeapBlock.finish, blockHeaderSize] at apart
    omega

theorem boringFree_cases (invariant : HeapInvariant heap arenas) (pointer : Nat) :
    (boringFree heap pointer = heap ∧ ∀ room, (pointer, room) ∉ payloadsOf arenas) ∨
      ∃ arenas', HeapInvariant (boringFree heap pointer) arenas' ∧ grants arenas' = grants arenas ∧
        ∃ earlier room later, payloadsOf arenas = earlier ++ (pointer, room) :: later ∧
          payloadsOf arenas' = earlier ++ later := by
  unfold boringFree
  by_cases isNull : pointer = 0
  · rw [if_pos isNull]
    refine .inl ⟨rfl, fun room isPayload => ?_⟩
    rcases mem_payloadsOf isPayload with ⟨block, -, -, isBlock⟩
    simp_all [heapPayload, blockHeaderSize]
  · rw [if_neg isNull]
    rcases invariant.scan fun block => decide (heapPayload block = pointer) with
      ⟨isEnded, absent⟩ | ⟨before, base, size, front, cell, back, after, isArenas, isFound, isWanted⟩
    · grind [mem_payloadsOf]
    rw [isFound, ← of_decide_eq_true isWanted]
    simp only
    have header := ((isArenas ▸ invariant.toHeapShape).focus (List.cons_ne_nil _ _)).linked.1
    have isState : heap.words.state (base + extentOf front) = stateOf cell.used := header.state
    have isBlock : (⟨base + extentOf front, cell.size, cell.used, base, size⟩ : HeapBlock) ∈
        blocksOf arenas := by
      rw [isArenas, blocksOf_middle]
      exact List.mem_append_right _ (List.mem_append_left _ List.mem_cons_self)
    rw [isState]
    by_cases isFree : cell.used = false
    · rw [if_pos (stateOf_eq_free.mpr isFree)]
      refine .inl ⟨rfl, fun room isPayload => ?_⟩
      rcases mem_payloadsOf isPayload with ⟨other, isOther, inUse, isPayload⟩
      have address : base + extentOf front + blockHeaderSize =
        other.address + blockHeaderSize := congrArg Prod.fst isPayload
      have same := invariant.toHeapShape.unique isBlock isOther (Nat.add_right_cancel address)
      grind
    · rw [if_neg fun free => isFree (stateOf_eq_free.mp free)]
      rw [isArenas] at invariant ⊢
      rcases releaseBlock_cases invariant (Bool.eq_true_of_not_eq_false isFree) with
        ⟨arenas', released, sameGrants, earlier, later, old, new⟩
      grind

end BoringOS.Runtime
