import BoringOS.Library.LinkedNodes
import BoringOS.Memory.HeapCalls
import BoringOS.Runtime.Allocator

namespace BoringOS.Runtime

open Library
open Memory (HeapCell Coalesced)

/-!
# How the blocks of a program lie in memory

A program has several arenas, each a sequence of cells that fill it, and one
list that runs through all blocks, arena by arena in the order in which they
were obtained.  `HeapShape` says that the words in memory spell out these
blocks.  A change at one place is made good by `HeapShape.rewrite`: it leaves
the words of all other blocks alone, except for the back pointer of the block
that follows.
-/

/-- A block with what its header says about it -/
structure HeapBlock where
  address : Nat
  size : Nat
  used : Bool
  arenaBase : Nat
  arenaSize : Nat

def HeapBlock.finish (block : HeapBlock) : Nat := block.address + blockHeaderSize + block.size

def stateOf (used : Bool) : Nat := if used then boringHeapBlockUsed else boringHeapBlockFree

structure HeaderAt (words : HeapWords) (previous : Nat) (block : HeapBlock) (next : Nat) : Prop where
  magic : words.magic block.address = boringHeapBlockMagic
  size : words.size block.address = block.size
  next : words.next block.address = next
  previous : words.previous block.address = previous
  arenaBase : words.arenaBase block.address = block.arenaBase
  arenaSize : words.arenaSize block.address = block.arenaSize
  state : words.state block.address = stateOf block.used

variable {words words' : HeapWords} {block : HeapBlock} {previous next : Nat}

theorem HeaderAt.of_same (header : HeaderAt words previous block next)
    (same : ∀ address, block.address ≤ address → address < block.address + blockHeaderSize →
      words' address = words address) : HeaderAt words' previous block next := by
  simp only [blockHeaderSize] at same
  constructor
  · exact (same _ (by omega) (by omega)).trans header.magic
  · exact (same _ (by omega) (by omega)).trans header.size
  · exact (same _ (by omega) (by omega)).trans header.next
  · exact (same _ (by omega) (by omega)).trans header.previous
  · exact (same _ (by omega) (by omega)).trans header.arenaBase
  · exact (same _ (by omega) (by omega)).trans header.arenaSize
  · exact (congrArg (· % 2 ^ 32) (same _ (by omega) (by omega))).trans header.state

/-- Only the back pointer of a header changes. -/
theorem HeaderAt.repointed (header : HeaderAt words previous block next) {value : Nat}
    (same : ∀ address, block.address ≤ address → address < block.address + blockHeaderSize →
      address ≠ block.address + 24 → words' address = words address)
    (isValue : words' (block.address + 24) = value) : HeaderAt words' value block next := by
  simp only [blockHeaderSize] at same
  constructor
  · exact (same _ (by omega) (by omega) (by omega)).trans header.magic
  · exact (same _ (by omega) (by omega) (by omega)).trans header.size
  · exact (same _ (by omega) (by omega) (by omega)).trans header.next
  · exact isValue
  · exact (same _ (by omega) (by omega) (by omega)).trans header.arenaBase
  · exact (same _ (by omega) (by omega) (by omega)).trans header.arenaSize
  · exact (congrArg (· % 2 ^ 32) (same _ (by omega) (by omega) (by omega))).trans header.state

/-- A block that can be followed: it is not at the null address, and it is aligned. -/
def HeapBlock.Placed (block : HeapBlock) : Prop :=
  block.address ≠ 0 ∧ block.address % boringHeapAlignment = 0

theorem HeaderAt.valid (header : HeaderAt words previous block next) (placed : block.Placed) :
    heapBlockValid words block.address = true := by
  refine decide_eq_true ⟨placed.1, header.magic, ?_, ?_⟩
  · rw [header.state]
    cases block.used with
    | false => exact .inl rfl
    | true => exact .inr rfl
  · have aligned := placed.2
    simp only [heapPayload, blockHeaderSize, boringHeapAlignment] at aligned ⊢
    omega

theorem stateOf_eq_free {used : Bool} : stateOf used = boringHeapBlockFree ↔ used = false := by
  cases used <;> decide

/-- A range of memory from the kernel, with the cells that it is divided into -/
structure Arena where
  base : Nat
  size : Nat
  cells : List HeapCell

/-- The bytes that cells take, headers included -/
def extentOf : List HeapCell → Nat
  | [] => 0
  | cell :: rest => blockHeaderSize + cell.size + extentOf rest

@[simp] theorem extentOf_nil : extentOf [] = 0 := rfl

@[simp] theorem extentOf_cons (cell : HeapCell) (rest : List HeapCell) :
    extentOf (cell :: rest) = blockHeaderSize + cell.size + extentOf rest := rfl

@[simp] theorem extentOf_append (first second : List HeapCell) :
    extentOf (first ++ second) = extentOf first + extentOf second := by
  induction first with
  | nil => exact (Nat.zero_add _).symm
  | cons cell rest ih => rw [List.cons_append, extentOf_cons, extentOf_cons, ih, Nat.add_assoc _ (extentOf rest)]

theorem extentOf_aligned {cells : List HeapCell} (sizes : ∀ cell ∈ cells, cell.SizeOk) :
    extentOf cells % boringHeapAlignment = 0 := by
  induction cells with
  | nil => rfl
  | cons cell rest ih =>
    have here := (sizes cell List.mem_cons_self).2
    have behind := ih fun other inRest => sizes other (List.mem_cons_of_mem _ inRest)
    simp only [extentOf_cons, blockHeaderSize, boringHeapAlignment, Memory.kernelHeapAlignment] at *
    omega

section Placing

variable (base size : Nat)

/-- The blocks that cells become from an address on -/
def placeCells : (address : Nat) → List HeapCell → List HeapBlock
  | _, [] => []
  | address, cell :: rest =>
    ⟨address, cell.size, cell.used, base, size⟩ :: placeCells (address + blockHeaderSize + cell.size) rest

theorem placeCells_append (first second : List HeapCell) (address : Nat) :
    placeCells base size address (first ++ second) =
      placeCells base size address first ++ placeCells base size (address + extentOf first) second := by
  induction first generalizing address with
  | nil => rfl
  | cons cell rest ih =>
    simp_all [List.cons_append, placeCells, extentOf_cons, Nat.add_assoc]

theorem mem_placeCells {cells : List HeapCell} {address : Nat} {block : HeapBlock}
    (isBlock : block ∈ placeCells base size address cells) :
    ∃ front cell back, cells = front ++ cell :: back ∧
      block = ⟨address + extentOf front, cell.size, cell.used, base, size⟩ := by
  induction cells generalizing address with
  | nil => cases isBlock
  | cons cell rest ih =>
    rcases List.mem_cons.mp isBlock with isFirst | inRest
    · exact ⟨[], cell, rest, rfl, isFirst⟩
    grind [extentOf_cons]

end Placing

def Arena.blocks (arena : Arena) : List HeapBlock :=
  placeCells arena.base arena.size arena.base arena.cells

/-- The blocks of all arenas -/
def blocksOf (arenas : List Arena) : List HeapBlock := arenas.flatMap Arena.blocks

/-- An arena is filled by its cells. -/
structure Arena.Filled (arena : Arena) : Prop where
  notNull : arena.base ≠ 0
  aligned : arena.base % boringHeapPageSize = 0
  inside : arena.base + arena.size ≤ 2 ^ 64
  filled : extentOf arena.cells = arena.size
  sizes : ∀ cell ∈ arena.cells, cell.SizeOk
  inhabited : arena.cells ≠ []

def Arena.Apart (first second : Arena) : Prop :=
  first.base + first.size ≤ second.base ∨ second.base + second.size ≤ first.base

/-- The list in memory runs through the blocks of the arenas. -/
structure HeapShape (heap : UserHeap) (arenas : List Arena) : Prop where
  linked : Linked HeapBlock.address (HeaderAt heap.words) 0 0 (blocksOf arenas)
  first : heap.first = firstAddress HeapBlock.address (blocksOf arenas) 0
  last : heap.last = lastAddress HeapBlock.address 0 (blocksOf arenas)
  filled : ∀ arena ∈ arenas, arena.Filled
  apart : arenas.Pairwise Arena.Apart

def HeapBlock.Apart (first second : HeapBlock) : Prop :=
  first.finish ≤ second.address ∨ second.finish ≤ first.address

theorem mem_blocksOf {arenas : List Arena} (isBlock : block ∈ blocksOf arenas) :
    ∃ before arena after front cell back, arenas = before ++ arena :: after ∧
      arena.cells = front ++ cell :: back ∧
      block = ⟨arena.base + extentOf front, cell.size, cell.used, arena.base, arena.size⟩ := by
  rcases List.mem_flatMap.mp isBlock with ⟨arena, isArena, inArena⟩
  rcases List.append_of_mem isArena with ⟨before, after, isArenas⟩
  rcases mem_placeCells _ _ inArena with ⟨front, cell, back, isCells, isBlock⟩
  grind

theorem Arena.Filled.bounds {arena : Arena} (filled : arena.Filled) (isBlock : block ∈ arena.blocks) :
    arena.base ≤ block.address ∧ block.finish ≤ arena.base + arena.size ∧ block.Placed ∧
      block.arenaBase = arena.base ∧ block.arenaSize = arena.size := by
  rcases mem_placeCells _ _ isBlock with ⟨front, cell, back, isCells, isBlock⟩
  have total := filled.filled
  have notNull := filled.notNull
  have aligned := filled.aligned
  have before := extentOf_aligned fun other inFront =>
    filled.sizes other (isCells ▸ List.mem_append_left _ inFront)
  rw [isCells, extentOf_append, extentOf_cons] at total
  rw [isBlock]
  simp only [boringHeapPageSize, boringHeapAlignment] at aligned before
  refine ⟨Nat.le_add_right _ _, ?_, ⟨?_, ?_⟩, rfl, rfl⟩
  · change arena.base + extentOf front + blockHeaderSize + cell.size ≤ _
    omega
  · grind
  · change (arena.base + extentOf front) % 16 = 0
    omega

theorem placeCells_bounds {base size address : Nat} {cells : List HeapCell}
    (isBlock : block ∈ placeCells base size address cells) :
    address ≤ block.address ∧ block.finish ≤ address + extentOf cells := by
  rcases mem_placeCells _ _ isBlock with ⟨front, cell, back, isCells, isBlock⟩
  rw [isBlock, isCells, extentOf_append, extentOf_cons]
  refine ⟨Nat.le_add_right _ _, ?_⟩
  change address + extentOf front + blockHeaderSize + cell.size ≤ _
  omega

theorem placeCells_apart (base size address : Nat) (cells : List HeapCell) :
    (placeCells base size address cells).Pairwise HeapBlock.Apart := by
  induction cells generalizing address with
  | nil => exact .nil
  | cons cell rest ih =>
    refine .cons (fun other inRest => .inl ?_) (ih _)
    exact (placeCells_bounds inRest).1

namespace HeapShape

variable {heap : UserHeap} {arenas : List Arena}

theorem placed (shape : HeapShape heap arenas) {block : HeapBlock} (isBlock : block ∈ blocksOf arenas) :
    block.Placed ∧ block.finish ≤ 2 ^ 64 ∧ ∃ previous next, HeaderAt heap.words previous block next := by
  rcases List.mem_flatMap.mp isBlock with ⟨arena, isArena, inArena⟩
  have filled := shape.filled arena isArena
  have bounds := filled.bounds inArena
  exact ⟨bounds.2.2.1, Nat.le_trans bounds.2.1 filled.inside, shape.linked.mem isBlock⟩

theorem blocks_apart (shape : HeapShape heap arenas) :
    (blocksOf arenas).Pairwise HeapBlock.Apart := by
  refine List.pairwise_flatMap.mpr ⟨fun arena _ => placeCells_apart .., ?_⟩
  refine List.Pairwise.imp_of_mem (fun isFirst isSecond apart => ?_) shape.apart
  intro first inFirst second inSecond
  have firstBounds := (shape.filled _ isFirst).bounds inFirst
  have secondBounds := (shape.filled _ isSecond).bounds inSecond
  rcases apart with before | behind
  · exact .inl (Nat.le_trans firstBounds.2.1 (Nat.le_trans before secondBounds.1))
  · exact .inr (Nat.le_trans secondBounds.2.1 (Nat.le_trans behind firstBounds.1))

/-- There are fewer blocks than addresses. -/
theorem length_lt_fuel (shape : HeapShape heap arenas) : (blocksOf arenas).length < heapFuel := by
  have distinct : ((blocksOf arenas).map HeapBlock.address).Nodup := by
    refine List.pairwise_map.mpr (shape.blocks_apart.imp fun apart same => ?_)
    simp only [HeapBlock.Apart, HeapBlock.finish, blockHeaderSize] at apart
    omega
  have below : ((blocksOf arenas).map HeapBlock.address).toFinset ⊆ Finset.range (2 ^ 64) := by
    intro address isAddress
    rcases List.mem_map.mp (List.mem_toFinset.mp isAddress) with ⟨block, isBlock, isAddress⟩
    have ends := (shape.placed isBlock).2.1
    simp only [HeapBlock.finish, blockHeaderSize] at ends
    rw [Finset.mem_range, ← isAddress]
    omega
  have count := Finset.card_le_card below
  rw [List.toFinset_card_of_nodup distinct, List.length_map, Finset.card_range] at count
  exact Nat.lt_succ_of_le count

end HeapShape

/-- The block behind a rewritten place, which is the first of these if there is one, points
back to another block, and all else behind that place stays. -/
theorem Linked.behind {blocks : List HeapBlock} {before before' : Nat}
    (linked : Linked HeapBlock.address (HeaderAt words) 0 before blocks)
    (same : ∀ block ∈ blocks, ∀ address, block.address ≤ address →
      address < block.address + blockHeaderSize →
      (∀ first ∈ blocks.head?, address ≠ first.address + 24) → words' address = words address)
    (apart : blocks.Pairwise HeapBlock.Apart)
    (link : ∀ first ∈ blocks.head?, words' (first.address + 24) = before') :
    Linked HeapBlock.address (HeaderAt words') 0 before' blocks := by
  cases blocks with
  | nil => trivial
  | cons block rest =>
    refine ⟨linked.1.repointed (fun address above below different => ?_) (link block rfl),
      linked.2.imp fun other inRest _ _ header => header.of_same fun address above below => ?_⟩
    · simp_all
    · have isApart := (List.pairwise_cons.mp apart).1 other inRest
      grind [HeapBlock.Apart, HeapBlock.finish, blockHeaderSize]

section Rewriting

variable {before after : List Arena} {base size : Nat} {front middle back : List HeapCell}

/-- The blocks before the middle of an arena -/
def blocksBefore (before : List Arena) (base size : Nat) (front : List HeapCell) : List HeapBlock :=
  blocksOf before ++ placeCells base size base front

/-- The blocks behind an address in an arena -/
def blocksBehind (after : List Arena) (base size address : Nat) (back : List HeapCell) :
    List HeapBlock :=
  placeCells base size address back ++ blocksOf after

theorem blocksOf_middle (before after : List Arena) (base size : Nat) (front middle back : List HeapCell) :
    blocksOf (before ++ ⟨base, size, front ++ (middle ++ back)⟩ :: after) =
      blocksBefore before base size front ++
        (placeCells base size (base + extentOf front) middle ++
          blocksBehind after base size (base + extentOf front + extentOf middle) back) := by
  unfold blocksOf blocksBefore blocksBehind blocksOf
  rw [List.flatMap_append, List.flatMap_cons, Arena.blocks]
  simp only [placeCells_append, List.append_assoc]

theorem firstAddress_placeCells {address : Nat} {cells : List HeapCell} (inhabited : cells ≠ [])
    (rest : List HeapBlock) (otherwise : Nat) :
    firstAddress HeapBlock.address (placeCells base size address cells ++ rest) otherwise =
      address := by
  cases cells with
  | nil => exact absurd rfl inhabited
  | cons cell cells => rfl

theorem lastAddress_placeCells {address : Nat} {cells : List HeapCell} (inhabited : cells ≠ [])
    (previous : Nat) :
    lastAddress HeapBlock.address previous (placeCells base size address cells) =
      lastAddress HeapBlock.address 0 (placeCells base size address cells) := by
  cases cells with
  | nil => exact absurd rfl inhabited
  | cons cell cells => rfl

/-- A block that is apart from some neighbouring blocks is apart from all that they take. -/
theorem apart_from_cells {block : HeapBlock} {address : Nat} {cells : List HeapCell} (inhabited : cells ≠ [])
    (apart : ∀ other ∈ placeCells base size address cells, block.Apart other) :
    block.finish ≤ address ∨ address + extentOf cells ≤ block.address := by
  induction cells generalizing address with
  | nil => exact absurd rfl inhabited
  | cons cell rest ih =>
    have here := apart _ List.mem_cons_self
    rcases here with above | below
    · exact .inl above
    change address + blockHeaderSize + cell.size ≤ block.address at below
    rw [extentOf_cons]
    by_cases atEnd : rest = []
    · rw [atEnd, extentOf_nil]
      omega
    · have behind := ih atEnd fun other inRest => apart other (List.mem_cons_of_mem _ inRest)
      grind [HeapBlock.finish, blockHeaderSize]

/-- Some cells of an arena are replaced by others of the same extent. -/
theorem HeapShape.rewrite {heap heap' : UserHeap} {middle' : List HeapCell}
    (shape : HeapShape heap (before ++ ⟨base, size, front ++ (middle ++ back)⟩ :: after))
    (same : extentOf middle' = extentOf middle) (sizes : ∀ cell ∈ middle', cell.SizeOk)
    (inhabited : middle ≠ []) (inhabited' : middle' ≠ []) (isFirst : heap'.first = heap.first)
    (isLast : heap'.last = lastAddress HeapBlock.address
      (lastAddress HeapBlock.address 0 (placeCells base size (base + extentOf front) middle'))
      (blocksBehind after base size (base + extentOf front + extentOf middle) back))
    (frame : ∀ address, address < base + extentOf front ∨ base + extentOf front + extentOf middle ≤ address →
      (∀ block ∈ (blocksBehind after base size (base + extentOf front + extentOf middle) back).head?,
        address ≠ block.address + 24) → heap'.words address = heap.words address) (link : ∀ block ∈
        (blocksBehind after base size (base + extentOf front + extentOf middle) back).head?,
      heap'.words (block.address + 24) =
        lastAddress HeapBlock.address 0 (placeCells base size (base + extentOf front) middle'))
    (between : Linked HeapBlock.address (HeaderAt heap'.words) (firstAddress HeapBlock.address
        (blocksBehind after base size (base + extentOf front + extentOf middle) back) 0)
      (lastAddress HeapBlock.address 0 (blocksBefore before base size front))
      (placeCells base size (base + extentOf front) middle')) :
    HeapShape heap' (before ++ ⟨base, size, front ++ (middle' ++ back)⟩ :: after) := by
  have linked := shape.linked
  have apart := shape.blocks_apart
  have first := shape.first
  rw [blocksOf_middle] at linked apart first
  rcases (linked_append _ _ _ _).mp linked with ⟨early, rest⟩
  rcases (linked_append _ _ _ _).mp rest with ⟨-, late⟩
  rcases List.pairwise_append.mp apart with ⟨-, apartRest, apartEarly⟩
  rcases List.pairwise_append.mp apartRest with ⟨-, apartLate, apartMiddle⟩
  have lastMiddle := @lastAddress_placeCells base size (base + extentOf front) _ inhabited'
  refine ⟨?_, ?_, ?_, ?_, ?_⟩
  · rw [blocksOf_middle, same]
    refine (linked_append _ _ _ _).mpr ⟨?_, (linked_append _ _ _ _).mpr ⟨between, ?_⟩⟩
    · rw [firstAddress_placeCells inhabited']
      rw [firstAddress_placeCells inhabited] at early
      refine early.imp fun block isBlock _ _ header => header.of_same fun address above below => ?_
      have outside := apart_from_cells inhabited fun other isOther =>
        apartEarly block isBlock other (List.mem_append_left _ isOther)
      refine frame address ?_ fun follower isFollower => ?_
      · simp only [HeapBlock.finish] at outside
        omega
      · have isApart := apartEarly block isBlock follower
          (List.mem_append_right _ (List.mem_of_mem_head? isFollower))
        simp only [HeapBlock.Apart, HeapBlock.finish, blockHeaderSize] at isApart below
        omega
    · rw [lastMiddle]
      refine Linked.behind late (fun block isBlock address above below notLink => ?_) apartLate link
      have outside := apart_from_cells inhabited fun other isOther =>
        (apartMiddle other isOther block isBlock).symm
      grind [HeapBlock.finish]
  · grind [blocksOf_middle, firstAddress_append, firstAddress_placeCells]
  · rw [isLast, blocksOf_middle, same, lastAddress_append, lastAddress_append,
      lastMiddle (lastAddress HeapBlock.address 0 (blocksBefore before base size front))]
  · intro arena isArena
    have filled := shape.filled
    rcases List.mem_append.mp isArena with inBefore | inRest
    · grind
    rcases List.mem_cons.mp inRest with isMiddle | inAfter
    · have old := filled _ (List.mem_append_right _ List.mem_cons_self)
      rw [isMiddle]
      refine ⟨old.notNull, old.aligned, old.inside, ?_, fun cell isCell => ?_, ?_⟩
      · have total := old.filled
        simp_all
      · rcases List.mem_append.mp isCell with inFront | inRest
        · exact old.sizes cell (List.mem_append_left _ inFront)
        · rcases List.mem_append.mp inRest with inMiddle | inBack
          · exact sizes cell inMiddle
          · exact old.sizes cell (List.mem_append_right _ (List.mem_append_right _ inBack))
      simp [*]
    simp [*]
  · have old := shape.apart
    rw [List.pairwise_append, List.pairwise_cons] at old ⊢
    refine ⟨old.1, old.2.1, fun arena inBefore other isOther => ?_⟩
    rcases List.mem_cons.mp isOther with isMiddle | inAfter
    · rw [isMiddle]
      have apartOld := old.2.2 arena inBefore ⟨base, size, front ++ (middle ++ back)⟩ List.mem_cons_self
      exact apartOld
    simp [*]

end Rewriting

/-- A search along the list looks at the blocks in their order. -/
theorem heapScan_linked {blocks : List HeapBlock} {before fuel : Nat} (wanted : Nat → Bool)
    (linked : Linked HeapBlock.address (HeaderAt words) 0 before blocks)
    (placed : ∀ block ∈ blocks, block.Placed) (enough : blocks.length < fuel) :
    heapScan words wanted fuel (firstAddress HeapBlock.address blocks 0) =
      match blocks.find? fun block => wanted block.address with
      | none => .ended
      | some block => .found block.address := by
  induction blocks generalizing before fuel with
  | nil =>
    cases fuel with
    | zero => rfl
    | succ fuel => rfl
  | cons block rest ih =>
    cases fuel with
    | zero => cases enough
    | succ fuel =>
      have here := placed block List.mem_cons_self
      rw [firstAddress_cons, heapScan, if_neg here.1, linked.1.valid here,
        if_neg Bool.noConfusion, List.find?_cons]
      cases isWanted : wanted block.address with
      | true => rfl
      | false =>
        rw [if_neg Bool.noConfusion, linked.1.next]
        exact ih linked.2 (fun other inRest => placed other (List.mem_cons_of_mem _ inRest))
          (Nat.lt_of_succ_lt_succ enough)

end BoringOS.Runtime
