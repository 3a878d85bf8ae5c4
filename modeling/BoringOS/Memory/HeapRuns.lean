import BoringOS.Library.ListFacts
import BoringOS.Library.Run
import BoringOS.Memory.HeapCalls

namespace BoringOS.Memory

open Library

/-!
# Every run of the heap

A trace carries the heap together with what its clients know: the pointers
that an allocation returned and no release has taken back, with the requested
sizes.  Between the heap calls the clients write into the payloads that they
own, and growth may fail at any page.  In every run the used payloads are
those of the record, and the statements about the heap follow from its
invariant.
-/

/-- Initialization leaves one free block over the initial pages. -/
theorem heapInit_cases (memory : HeapMemory) (growth : Nat → PageGrowth) :
    (heapInit memory growth).1 = false ∧ heapMapInitial growth heapInitialPages 0 memory = none ∨
      (heapInit memory growth).1 = true ∧ HeapInvariant (heapInit memory growth).2
        [⟨heapInitialPages * heapPageSize - heapHeaderSize, false⟩] := by
  cases initial : heapMapInitial growth heapInitialPages 0 memory with
  | none =>
    grind [heapInit]
  | some mapped =>
    have header := headerAt_written mapped heapVirtualBase 0 0
      ⟨heapInitialPages * heapPageSize - heapHeaderSize, false⟩
    have built : HeapInvariant
        { memory := ((((mapped.setSize heapVirtualBase (heapInitialPages * heapPageSize -
            heapHeaderSize)).setPrev heapVirtualBase 0).setNext heapVirtualBase 0).setState
              heapVirtualBase heapStateFree).refreshBlock heapVirtualBase
          first := heapVirtualBase
          mappedPages := heapInitialPages
          initialized := true
          corrupted := false }
        [⟨heapInitialPages * heapPageSize - heapHeaderSize, false⟩] := by
      refine ⟨⟨rfl, rfl, rfl, ?_, ⟨header, trivial⟩, ?_, fun cell member => ?_,
        List.cons_ne_nil _ _⟩, List.isChain_singleton _⟩
      · exact (by decide : heapInitialPages ≤ heapMaxPages)
      · exact (by decide : extent [⟨heapInitialPages * heapPageSize - heapHeaderSize, false⟩] =
          heapInitialPages * heapPageSize)
      · rw [List.mem_singleton.mp member]
        exact ⟨by decide, by decide⟩
    have valid := built.validates
    simp_all [heapInit, Bool.true_eq_false]

/-- The blocks that the list visits from one block on. -/
def heapBlocksFrom (memory : HeapMemory) : (fuel current : Nat) → List Nat
  | 0, _ => []
  | fuel + 1, current =>
    if current = 0 then [] else current :: heapBlocksFrom memory fuel (memory.next current)

def heapBlocks (heap : Heap) : List Nat := heapBlocksFrom heap.memory (heapFuel heap) heap.first

/-- The second block begins where the first one ends, and they are not both
free. -/
def Neighbours (memory : HeapMemory) (left right : Nat) : Prop :=
  left + heapHeaderSize + memory.size left = right ∧
    ¬ (memory.state left = heapStateFree ∧ memory.state right = heapStateFree)

theorem heapBlocksFrom_of_laid {memory : HeapMemory} (cells : List HeapCell) :
    ∀ fuel prev address, cells.length < fuel → 0 < address →
      Laid memory 0 prev address cells → Coalesced cells →
      (heapBlocksFrom memory fuel (startOf cells address 0)).length = cells.length ∧
        (heapBlocksFrom memory fuel (startOf cells address 0)).head? =
          cells.head?.map (fun _ => address) ∧
        (heapBlocksFrom memory fuel (startOf cells address 0)).IsChain (Neighbours memory) := by
  induction cells with
  | nil =>
    intro fuel prev address enough positive laid chain
    cases fuel with
    | zero => exact absurd enough (Nat.not_lt_zero _)
    | succ fuel => exact ⟨rfl, rfl, List.isChain_nil⟩
  | cons cell rest ih =>
    intro fuel prev address enough positive laid chain
    cases fuel with
    | zero => exact absurd enough (Nat.not_lt_zero _)
    | succ fuel =>
      rcases laid with ⟨header, behind⟩
      have nonzero : address ≠ 0 := by omega
      rcases ih fuel address (address + cell.span) (by grind) (by omega) behind
        (List.isChain_cons.mp chain).2 with ⟨length, head, neighbours⟩
      simp only [startOf_cons, heapBlocksFrom, nonzero, if_false, header.next]
      refine ⟨?_, rfl, List.isChain_cons.mpr ⟨fun right isRight => ?_, neighbours⟩⟩
      · grind
      · rw [head] at isRight
        cases rest with
        | nil => cases isRight
        | cons other more =>
          cases isRight
          have notBoth := (List.isChain_cons.mp chain).1 other rfl
          rw [Neighbours, header.size, header.state, behind.1.state, cell.state_eq_free,
            other.state_eq_free]
          grind [HeapCell.span]

theorem heapStatsFrom_of_laid {memory : HeapMemory} (cells : List HeapCell) :
    ∀ fuel prev address stats, cells.length < fuel → 0 < address →
      Laid memory 0 prev address cells →
      (heapStatsFrom memory fuel (startOf cells address 0) stats).usedBytes +
            (heapStatsFrom memory fuel (startOf cells address 0) stats).freeBytes +
            heapHeaderSize * cells.length =
          stats.usedBytes + stats.freeBytes + extent cells ∧
        (heapStatsFrom memory fuel (startOf cells address 0) stats).mappedBytes =
          stats.mappedBytes := by
  induction cells with
  | nil =>
    intro fuel prev address stats enough positive laid
    cases fuel with
    | zero => exact absurd enough (Nat.not_lt_zero _)
    | succ fuel => exact ⟨rfl, rfl⟩
  | cons cell rest ih =>
    intro fuel prev address stats enough positive laid
    cases fuel with
    | zero => exact absurd enough (Nat.not_lt_zero _)
    | succ fuel =>
      rcases laid with ⟨header, behind⟩
      have nonzero : address ≠ 0 := by omega
      simp only [startOf_cons, heapStatsFrom, nonzero, if_false, header.next, header.size,
        header.state, cell.state_eq_used]
      generalize added : (if cell.used = true then _ else _) = sums
      rcases ih fuel address (address + cell.span) sums (by grind) (by omega) behind with
        ⟨total, mapped⟩
      have here : sums.usedBytes + sums.freeBytes = stats.usedBytes + stats.freeBytes + cell.size ∧
          sums.mappedBytes = stats.mappedBytes := by
        rw [← added]
        split <;> (simp only [and_true]; omega)
      refine ⟨?_, mapped.trans here.2⟩
      have span : cell.span = heapHeaderSize + cell.size := rfl
      rw [List.length_cons, extent_cons, Nat.mul_succ]
      omega

/-- The heap with the requested sizes of the live pointers. -/
structure HeapTrace where
  heap : Heap
  live : Nat → Option Nat

/-- What can happen to a heap.  A growth attempt of an allocation is answered
by the oracle of that call. -/
inductive HeapCall where
  | kmalloc (size : Nat) (growth : Nat → PageGrowth)
  | kmallocZeroed (size : Nat) (growth : Nat → PageGrowth)
  | kfree (pointer : Nat)
  | clientStore (pointer index value : Nat)

namespace HeapTrace

def record (live : Nat → Option Nat) (pointer : Nat) (value : Option Nat) : Nat → Option Nat :=
  fun other => if other = pointer then value else live other

def allocated (trace : HeapTrace) (size : Nat) (result : Option Nat × Heap) : HeapTrace where
  heap := result.2
  live :=
    match result.1 with
    | none => trace.live
    | some pointer => record trace.live pointer (some size)

/-- The owner of a payload clears the words of the requested bytes. -/
def clear (trace : HeapTrace) (pointer : Nat) : HeapTrace :=
  match trace.live pointer with
  | none => trace
  | some size =>
    { trace with
      heap := { trace.heap with
        memory := fun address =>
          if pointer ≤ address ∧ address < pointer + size then 0
          else trace.heap.memory address } }

/-- The owner of a payload stores a word inside the requested bytes. -/
def clientStore (trace : HeapTrace) (pointer index value : Nat) : HeapTrace :=
  match trace.live pointer with
  | none => trace
  | some size =>
    if 8 * index < size then
      { trace with
        heap := { trace.heap with
          memory := trace.heap.memory.store (pointer + 8 * index) value } }
    else trace

def step (trace : HeapTrace) : HeapCall → HeapTrace
  | .kmalloc size growth => trace.allocated size (Memory.kmalloc trace.heap size growth)
  | .kmallocZeroed size growth =>
    let result := Memory.kmalloc trace.heap size growth
    match result.1 with
    | none => trace.allocated size result
    | some pointer => (trace.allocated size result).clear pointer
  | .kfree pointer =>
    let result := Memory.kfree trace.heap pointer
    { heap := result.2
      live := if result.1 then record trace.live pointer none else trace.live }
  | .clientStore pointer index value => trace.clientStore pointer index value

def initial (memory : HeapMemory) (growth : Nat → PageGrowth) : HeapTrace where
  heap := (heapInit memory growth).2
  live := fun _ => none

/-- The used payloads are those on record. -/
structure Sound (trace : HeapTrace) (cells : List HeapCell) : Prop extends
    HeapInvariant trace.heap cells where
  covered : ∀ pointer size, trace.live pointer = some size →
    ∃ room, size ≤ room ∧ (pointer, room) ∈ payloads heapVirtualBase cells
  recorded : ∀ payload ∈ payloads heapVirtualBase cells, ∃ size, trace.live payload.1 = some size

variable {trace : HeapTrace} {cells : List HeapCell}

/-- No other payload starts where one does. -/
theorem payloads_others {front back : List (Nat × Nat)} {pointer room : Nat}
    (split : payloads heapVirtualBase cells = front ++ (pointer, room) :: back) :
    ∀ payload ∈ front ++ back, payload.1 ≠ pointer := by
  have apart := payloads_apart cells heapVirtualBase
  rw [split] at apart
  intro payload member
  rcases List.mem_append.mp member with first | second
  · grind [List.mem_cons_self, heapHeaderSize]
  have ordered := (List.pairwise_cons.mp (List.pairwise_append.mp apart).2.1).1 payload second
  simp only [heapHeaderSize] at ordered
  omega

section

variable (sound : trace.Sound cells)
include sound

/-- An allocation returns a pointer that is not live. -/
theorem Sound.fresh {size pointer : Nat} {growth : Nat → PageGrowth}
    (returned : (Memory.kmalloc trace.heap size growth).1 = some pointer) :
    trace.live pointer = none := by
  rcases kmalloc_cases sound.toHeapInvariant size growth with
    ⟨cells', -, ⟨refused, -⟩ | ⟨given, room, front, back, isGiven, -, before, after⟩⟩
  · rw [refused] at returned
    cases returned
  rw [isGiven, Option.some.injEq] at returned
  subst returned
  by_contra isLive
  rcases Option.ne_none_iff_exists'.mp isLive with ⟨requested, isLive⟩
  rcases sound.covered given requested isLive with ⟨room', -, member⟩
  rw [before] at member
  exact payloads_others after _ member rfl

theorem Sound.allocated {size : Nat} {result : Option Nat × Heap}
    (outcome : AllocationCases size (payloads heapVirtualBase cells) result) :
    ∃ cells', (trace.allocated size result).Sound cells' := by
  rcases result with ⟨returned, heap⟩
  rcases outcome with ⟨cells', kept, ⟨refused, same⟩ | ⟨pointer, room, front, back, given, large,
    before, after⟩⟩
  · subst refused
    refine ⟨cells', kept, ?_, ?_⟩
    · rw [same]
      exact sound.covered
    · rw [same]
      exact sound.recorded
  · subst given
    refine ⟨cells', kept, fun other requested isLive => ?_, fun payload member => ?_⟩
    · simp only [HeapTrace.allocated, record] at isLive
      split at isLive
      · grind
      · rcases sound.covered other requested isLive with ⟨room', large', member⟩
        grind
    · simp only [HeapTrace.allocated, record]
      split
      · exact ⟨size, rfl⟩
      apply sound.recorded payload
      grind

/-- Words inside a used payload may change at will. -/
theorem Sound.rewritePayload {pointer room : Nat} {memory : HeapMemory}
    (member : (pointer, room) ∈ payloads heapVirtualBase cells)
    (agree : ∀ address, address < pointer ∨ pointer + room ≤ address →
      memory address = trace.heap.memory address) :
    Sound { trace with heap := { trace.heap with memory := memory } } cells := by
  have shape := sound.toHeapShape
  rcases (mem_payloads cells _).mp member with ⟨front, cell, back, rfl, -, start, size⟩
  rcases (laid_append front (cell :: back) 0 _).mp shape.laid with ⟨first, header, behind⟩
  refine ⟨⟨shape.rewrite ((laid_append _ _ _ _).mpr ⟨?_, ?_, ?_⟩) rfl shape.sizes
    shape.inhabited, sound.coalesced⟩, sound.covered, sound.recorded⟩
  · apply first.of_agreeOn
    exact fun address above below => agree address (Or.inl (by omega))
  · apply header.of_agreeOn
    exact fun address above below => agree address (Or.inl (by omega))
  · apply behind.of_agreeOn
    refine fun address above below => agree address (Or.inr ?_)
    simp only [HeapCell.span] at above
    omega

theorem Sound.clear (pointer : Nat) : (trace.clear pointer).Sound cells := by
  rw [HeapTrace.clear]
  split
  · exact sound
  rename_i size isLive
  rcases sound.covered pointer size isLive with ⟨room, large, member⟩
  apply sound.rewritePayload member
  grind

theorem Sound.clientStore
    (pointer index value : Nat) : (trace.clientStore pointer index value).Sound cells := by
  rw [HeapTrace.clientStore]
  split
  · exact sound
  rename_i size isLive
  split
  · rcases sound.covered pointer size isLive with ⟨room, large, member⟩
    apply sound.rewritePayload member
    intro address outside
    have different : address ≠ pointer + 8 * index := by omega
    simp only [HeapMemory.store, different, if_false]
  · exact sound

theorem Sound.kfree (pointer : Nat) : ∃ cells', (trace.step (.kfree pointer)).Sound cells' := by
  rcases kfree_cases sound.toHeapInvariant pointer with
    ⟨result, -⟩ | ⟨freed, cells', front, room, back, result, kept, before, after⟩
  · refine ⟨cells, ?_⟩
    rw [step, result]
    exact sound
  have others := payloads_others before
  refine ⟨cells', ?_⟩
  rw [step, result]
  refine ⟨kept, fun other size isLive => ?_, fun payload member => ?_⟩
  · simp only [if_true, record] at isLive
    split at isLive
    · cases isLive
    rcases sound.covered other size isLive with ⟨room', large, member⟩
    grind
  · rw [after] at member
    simp only [if_true, record, others payload member, if_false]
    apply sound.recorded payload
    grind

theorem Sound.step (call : HeapCall) : ∃ cells', (trace.step call).Sound cells' := by
  cases call with
  | kmalloc size growth => exact sound.allocated (kmalloc_cases sound.toHeapInvariant size growth)
  | kmallocZeroed size growth =>
    rcases sound.allocated (kmalloc_cases sound.toHeapInvariant size growth) with ⟨cells', kept⟩
    refine ⟨cells', ?_⟩
    simp only [HeapTrace.step]
    split
    · exact kept
    · exact kept.clear _
  | kfree pointer => exact sound.kfree pointer
  | clientStore pointer index value => exact ⟨cells, sound.clientStore pointer index value⟩

end

theorem run_sound {memory : HeapMemory} {growth : Nat → PageGrowth} (calls : List HeapCall)
    (started : (heapInit memory growth).1 = true) :
    ∃ cells, (run HeapTrace.step (initial memory growth) calls).Sound cells := by
  have kept : ∀ trace call, (∃ cells, Sound trace cells) →
      ∃ cells, (HeapTrace.step trace call).Sound cells := by
    rintro trace call ⟨cells, sound⟩
    exact sound.step call
  apply run_invariant kept calls
  · rcases heapInit_cases memory growth with ⟨failed, -⟩ | ⟨-, invariant⟩
    · rw [failed] at started
      cases started
    · refine ⟨_, invariant, fun pointer size impossible => ?_, fun payload impossible => ?_⟩
      · cases impossible
      · cases impossible

end HeapTrace

/-- The bytes behind a payload start, by the size in the header before it. -/
def Heap.room (heap : Heap) (pointer : Nat) : Nat := heap.memory.size (pointer - heapHeaderSize)

structure HeapExact (trace : HeapTrace) : Prop where
  validates : heapValidate trace.heap = true
  notCorrupted : trace.heap.corrupted = false
  aligned : ∀ pointer size, trace.live pointer = some size → pointer % kernelHeapAlignment = 0
  largeEnough : ∀ pointer size, trace.live pointer = some size →
    size ≤ trace.heap.room pointer ∧ heapVirtualBase ≤ pointer ∧
      pointer + trace.heap.room pointer ≤ trace.heap.limit
  disjoint : ∀ first second size size', trace.live first = some size →
    trace.live second = some size' → first ≠ second →
    first + trace.heap.room first ≤ second ∨ second + trace.heap.room second ≤ first
  /-- An allocation, a zeroed one too, never returns a pointer that is already live. -/
  fresh : ∀ size growth pointer, (kmalloc trace.heap size growth).1 = some pointer →
    trace.live pointer = none
  neighbours : (heapBlocks trace.heap).IsChain (Neighbours trace.heap.memory)
  accounted : ∃ stats, heapGetStats trace.heap = (some stats, trace.heap) ∧
    stats.mappedBytes = trace.heap.mappedPages * heapPageSize ∧
    stats.usedBytes + stats.freeBytes + heapHeaderSize * (heapBlocks trace.heap).length =
      stats.mappedBytes
  freeExact : ∀ pointer, (kfree trace.heap pointer).1 = true ↔ (trace.live pointer).isSome = true

theorem HeapTrace.Sound.room {trace : HeapTrace} {cells : List HeapCell}
    (sound : trace.Sound cells) {pointer room : Nat}
    (member : (pointer, room) ∈ payloads heapVirtualBase cells) :
    trace.heap.room pointer = room ∧ heapVirtualBase ≤ pointer ∧
      pointer + room ≤ trace.heap.limit ∧ pointer % kernelHeapAlignment = 0 := by
  have shape := sound.toHeapShape
  rcases (mem_payloads cells _).mp member with ⟨front, cell, back, rfl, -, start, size⟩
  rcases shape.cell_bounds with ⟨-, total, aligned⟩
  have blockIs : pointer - heapHeaderSize = heapVirtualBase + extent front := by omega
  refine ⟨?_, by omega, ?_, ?_⟩
  · rw [Heap.room, blockIs, shape.headerAt.size, size]
  · simp only [HeapCell.span] at total
    omega
  · simp only [heapHeaderSize, kernelHeapAlignment] at *
    omega

theorem HeapTrace.Sound.freeExact {trace : HeapTrace} {cells : List HeapCell}
    (sound : trace.Sound cells) (pointer : Nat) :
    (Memory.kfree trace.heap pointer).1 = true ↔ (trace.live pointer).isSome = true := by
  rcases kfree_cases sound.toHeapInvariant pointer with
    ⟨result, absent⟩ | ⟨freed, -, front, room, back, result, -, before, -⟩
  · rw [result]
    constructor
    · intro impossible
      cases impossible
    · intro isLive
      rcases Option.isSome_iff_exists.mp isLive with ⟨size, isLive⟩
      rcases sound.covered pointer size isLive with ⟨room, -, member⟩
      exact (absent room member).elim
  · rw [result]
    rcases sound.recorded (pointer, room) (by simp [*]) with ⟨size, isLive⟩
    rw [isLive]
    rfl

theorem HeapTrace.Sound.heapExact {trace : HeapTrace} {cells : List HeapCell}
    (sound : trace.Sound cells) : HeapExact trace := by
  have shape := sound.toHeapShape
  have blocks := heapBlocksFrom_of_laid cells (heapFuel trace.heap) 0 heapVirtualBase
    shape.length_lt_fuel (by decide) shape.laid sound.coalesced
  rw [← shape.start] at blocks
  refine ⟨sound.validates, shape.sound, fun pointer size isLive => ?_, fun pointer size isLive => ?_,
    fun first second size size' firstLive secondLive different => ?_,
    fun _ _ _ => sound.fresh, blocks.2.2, ?_, sound.freeExact⟩
  · rcases sound.covered pointer size isLive with ⟨room, -, member⟩
    exact (sound.room member).2.2.2
  · rcases sound.covered pointer size isLive with ⟨room, large, member⟩
    rcases sound.room member with ⟨roomIs, above, below, -⟩
    omega
  · rcases sound.covered first size firstLive with ⟨room, -, firstIn⟩
    rcases sound.covered second size' secondLive with ⟨room', -, secondIn⟩
    rw [(sound.room firstIn).1, (sound.room secondIn).1]
    grind [pairwise_of_mem, payloads_apart]
  · have sums := heapStatsFrom_of_laid cells (heapFuel trace.heap) 0 heapVirtualBase
      ⟨trace.heap.mappedPages, trace.heap.mappedPages * heapPageSize, 0, 0, 0⟩
      shape.length_lt_fuel (by decide) shape.laid
    rw [← shape.start] at sums
    have ready : ¬ (trace.heap.initialized = false ∨ trace.heap.corrupted = true) := by
      rw [shape.initialized, shape.sound]
      decide
    refine ⟨_, ?_, sums.2, ?_⟩
    · rw [heapGetStats, if_neg ready, if_neg (ne_false_of_eq_true sound.validates)]
    · rw [heapBlocks, blocks.1, sums.1, sums.2, shape.covers]
      exact Nat.zero_add _

/-- After every finite sequence of allocations, zeroed allocations, releases
and stores of the clients, with growth failing anywhere, the heap passes its
check, is not flagged, and is laid out as its clients expect; a release
succeeds exactly for the live pointers. -/
theorem heap_runs_exact (memory : HeapMemory) (growth : Nat → PageGrowth) (calls : List HeapCall)
    (started : (heapInit memory growth).1 = true) :
    HeapExact (run HeapTrace.step (HeapTrace.initial memory growth) calls) := by
  rcases HeapTrace.run_sound calls started with ⟨cells, sound⟩
  exact sound.heapExact

theorem heapInit_of_mapped (memory : HeapMemory) : (heapInit memory fun _ => .mapped).1 = true := by
  rcases heapInit_cases memory (fun _ => .mapped) with ⟨-, none⟩ | ⟨started, -⟩
  · cases none
  · exact started

/-- An allocation that needs a page which cannot be mapped, between others
that succeed. -/
theorem heap_runs_exact_growthFails :
    HeapExact (run HeapTrace.step (HeapTrace.initial (fun _ => 0) fun _ => .mapped)
      [.kmalloc 100 (fun _ => .mapped), .kmallocZeroed 20000 (fun _ => .noFrame),
        .kmallocZeroed 13 (fun _ => .mapFailed), .kfree 0xffffff0000200030]) :=
  heap_runs_exact (fun _ => 0) (fun _ => .mapped) _ (heapInit_of_mapped _)

/-- A heap without live pointers is one free block. -/
theorem HeapTrace.Sound.drained {trace : HeapTrace} {cells : List HeapCell}
    (sound : trace.Sound cells) (nothing : ∀ pointer, trace.live pointer = none) :
    cells = [⟨trace.heap.mappedPages * heapPageSize - heapHeaderSize, false⟩] := by
  have shape := sound.toHeapShape
  have free : ∀ cell ∈ cells, cell.used = false := by
    intro cell member
    by_contra isUsed
    rcases List.append_of_mem member with ⟨front, back, split⟩
    rcases sound.recorded _ ((mem_payloads cells heapVirtualBase).mpr
      ⟨front, cell, back, split, Bool.eq_true_of_not_eq_false isUsed, rfl, rfl⟩) with ⟨size, isLive⟩
    rw [nothing] at isLive
    cases isLive
  have covers := shape.covers
  rcases cells with _ | ⟨⟨size, used⟩, _ | ⟨second, rest⟩⟩
  · exact absurd rfl shape.inhabited
  · simp only [extent_cons, extent_nil, HeapCell.span] at covers
    obtain rfl : used = false := free _ (List.mem_singleton_self _)
    simp [← covers]
  · rcases (List.isChain_cons_cons.mp sound.coalesced).1 with isUsed | isUsed
    · rw [free _ List.mem_cons_self] at isUsed
      cases isUsed
    · rw [free _ (List.mem_cons_of_mem _ List.mem_cons_self)] at isUsed
      cases isUsed

/-- The heap is a single free block, and the next request that fits into its
pages gets the first address without a new page. -/
structure Whole (heap : Heap) : Prop where
  stats : heapGetStats heap = (some ⟨heap.mappedPages, heap.mappedPages * heapPageSize, 0,
    heap.mappedPages * heapPageSize - heapHeaderSize, 0⟩, heap)
  next : ∀ size alignedSize growth, heapAlignRequest size = some alignedSize →
    alignedSize + heapHeaderSize ≤ heap.mappedPages * heapPageSize →
    (kmalloc heap size growth).1 = some (heapVirtualBase + heapHeaderSize)

/-- Nothing is left of the allocations of a run that have all been released, in
whatever order. -/
theorem drained_heap_whole (memory : HeapMemory) (growth : Nat → PageGrowth) (calls : List HeapCall)
    (started : (heapInit memory growth).1 = true)
    (nothing : ∀ pointer,
      (run HeapTrace.step (HeapTrace.initial memory growth) calls).live pointer = none) :
    Whole (run HeapTrace.step (HeapTrace.initial memory growth) calls).heap := by
  rcases HeapTrace.run_sound calls started with ⟨cells, sound⟩
  obtain rfl := sound.drained nothing
  generalize run HeapTrace.step (HeapTrace.initial memory growth) calls = trace at sound
  have shape := sound.toHeapShape
  have header := @HeapShape.headerAt _ [] _ _ shape
  have enough := shape.length_lt_fuel
  have ready : ¬ (trace.heap.initialized = false ∨ trace.heap.corrupted = true) := by
    rw [shape.initialized, shape.sound]
    decide
  have valid := ne_false_of_eq_true sound.validates
  rw [extent_nil, Nat.add_zero] at header
  rcases Nat.exists_eq_add_of_lt enough with ⟨fuel, isFuel⟩
  have base : heapVirtualBase ≠ 0 := by decide
  constructor
  · rw [heapGetStats, if_neg ready, if_neg valid, shape.first, isFuel, heapStatsFrom, if_neg base]
    simp only [header.next, header.size, header.state]
    cases fuel <;> simp [heapStatsFrom, HeapCell.state, heapStateFree, heapStateUsed, startOf]
  · intro size alignedSize answers request fits
    have small : ¬ heapRegionSize - heapHeaderSize < alignedSize := by
      have pages := shape.pages
      simp only [heapMaxPages, heapRegionSize, heapPageSize, heapHeaderSize] at *
      omega
    rcases heapAlignRequest_some request with ⟨-, least, aligned⟩
    have found : heapFindFit trace.heap alignedSize = heapVirtualBase := by
      rw [heapFindFit, shape.first, isFuel, heapFindFitFrom, if_neg base, if_pos]
      rw [header.state, header.size]
      exact ⟨rfl, by dsimp only; omega⟩
    rcases @heapAllocateFromBlock_cases _ [] _ _ _ sound.toHeapInvariant rfl
      (show alignedSize ≤ trace.heap.mappedPages * heapPageSize - heapHeaderSize by omega)
      least aligned with ⟨taken, -, -, result, -⟩
    rw [extent_nil, Nat.add_zero] at result
    rw [kmalloc, if_neg ready, request]
    simp only [if_neg small, if_neg valid]
    rw [kmallocGrow, found, if_pos base, result]

/-- The heap grows for the first of two allocations, and both are released. -/
theorem drained_heap_whole_grown :
    Whole (run HeapTrace.step (HeapTrace.initial (fun _ => 0) fun _ => .mapped)
      [.kmalloc 20000 (fun _ => .mapped), .kmallocZeroed 13 (fun _ => .mapped),
        .kfree 0xffffff0000200030, .kfree 0xffffff0000204e80]).heap := by
  apply drained_heap_whole _ _ _ (heapInit_of_mapped _)
  intro pointer
  change HeapTrace.record (HeapTrace.record (HeapTrace.record (HeapTrace.record (fun _ => none)
    0xffffff0000200030 (some 20000)) 0xffffff0000204e80 (some 13)) 0xffffff0000200030 none)
      0xffffff0000204e80 none pointer = none
  simp only [HeapTrace.record]
  grind

end BoringOS.Memory
