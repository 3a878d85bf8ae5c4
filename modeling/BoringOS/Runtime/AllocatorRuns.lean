import BoringOS.Library.Run
import BoringOS.Runtime.AllocatorCalls

namespace BoringOS.Runtime

open Library
open Memory (Coalesced)

/-!
# Every run of the allocator

A trace carries the heap together with what the program knows: the pointers that
it has been given and has not released, with the requested sizes, and the ranges
that the kernel has given to the heap.  Between the calls the program writes into
the bytes that it has asked for.

The kernel may refuse any request.  Where it grants one, the range is aligned to
pages and disjoint from those that it has given before.
-/

theorem readByte_writeByte_self (words : HeapWords) (address : Nat) (byte : UInt8) :
    (words.writeByte address byte).readByte address = byte := by
  rw [HeapWords.readByte, HeapWords.writeByte, store_here, byteAt_setByte_self]

theorem readByte_writeByte_of_ne (words : HeapWords) {address other : Nat} (byte : UInt8)
    (different : other ≠ address) :
    (words.writeByte address byte).readByte other = words.readByte other := by
  unfold HeapWords.readByte HeapWords.writeByte
  by_cases sameWord : other / 8 * 8 = address / 8 * 8
  · rw [sameWord, store_here, byteAt_setByte_of_ne _ _ (by omega)]
  · rw [store_elsewhere sameWord]

theorem boringMemset_succ (words : HeapWords) (destination length : Nat) (byte : UInt8) :
    boringMemset words destination byte (length + 1) =
      boringMemset (words.writeByte destination byte) (destination + 1) byte length := by
  rfl

theorem readByte_boringMemset_before (byte : UInt8) (length : Nat) :
    ∀ (words : HeapWords) (destination address : Nat), address < destination →
      (boringMemset words destination byte length).readByte address = words.readByte address := by
  induction length with
  | zero => exact fun _ _ _ _ => rfl
  | succ length ih =>
    intro words destination address before
    rw [boringMemset_succ, ih _ _ _ (Nat.lt_succ_of_lt before),
      readByte_writeByte_of_ne _ _ (Nat.ne_of_lt before)]

/-- Every byte of a range has been set. -/
theorem readByte_boringMemset (byte : UInt8) (length : Nat) :
    ∀ (words : HeapWords) (destination offset : Nat), offset < length →
      (boringMemset words destination byte length).readByte (destination + offset) = byte := by
  induction length with
  | zero => nofun
  | succ length ih =>
    intro words destination offset inside
    rw [boringMemset_succ]
    cases offset with
    | zero =>
      simp [readByte_boringMemset_before, readByte_writeByte_self]
    | succ offset =>
      grind

/-- Words without any byte of the range stay. -/
theorem boringMemset_elsewhere (byte : UInt8) (length : Nat) {address : Nat} :
    ∀ (words : HeapWords) (destination : Nat),
      address < destination / 8 * 8 ∨ destination + length ≤ address →
      boringMemset words destination byte length address = words address := by
  induction length with
  | zero => exact fun _ _ _ => rfl
  | succ length ih =>
    intro words destination outside
    rw [boringMemset_succ, ih _ _ (by omega)]
    exact store_elsewhere (by omega)

structure AllocatorTrace where
  heap : UserHeap
  /-- The requested sizes of the live pointers -/
  live : Nat → Option Nat
  /-- The ranges that the kernel has given, with their sizes -/
  given : List (Nat × Nat)

/-- What a program does with its heap.  An allocation comes with the answer that
the kernel gives if it is asked. -/
inductive AllocatorCall where
  | malloc (size : Nat) (answer : Option Nat)
  | calloc (count size : Nat) (answer : Option Nat)
  | free (pointer : Nat)
  | clientWrite (pointer offset : Nat) (byte : UInt8)
deriving DecidableEq, Repr

namespace AllocatorTrace

/-- The ranges that the kernel gives during a call -/
def granted (trace : AllocatorTrace) : AllocatorCall → List (Nat × Nat)
  | .malloc size answer => grantedBy trace.heap size answer
  | .calloc count size answer =>
    if count = 0 ∨ size = 0 ∨ sizeMax / count < size then []
    else grantedBy trace.heap (count * size) answer
  | _ => []

def allocated (trace : AllocatorTrace) (size : Nat) (result : Nat × UserHeap)
    (ranges : List (Nat × Nat)) : AllocatorTrace where
  heap := result.2
  live := if result.1 = 0 then trace.live else Function.update trace.live result.1 (some size)
  given := trace.given ++ ranges

def step (trace : AllocatorTrace) (call : AllocatorCall) : AllocatorTrace :=
  match call with
  | .malloc size answer =>
    trace.allocated size (boringMalloc trace.heap size answer) (trace.granted call)
  | .calloc count size answer =>
    trace.allocated (count * size) (boringCalloc trace.heap count size answer) (trace.granted call)
  | .free pointer =>
    { trace with
      heap := boringFree trace.heap pointer
      live := Function.update trace.live pointer none }
  | .clientWrite pointer offset byte =>
    match trace.live pointer with
    | none => trace
    | some size =>
      if offset < size then
        { trace with
          heap :=
            { trace.heap with words := trace.heap.words.writeByte (pointer + offset) byte } }
      else trace

/-- A program that has not used its heap, in memory with any content -/
def initial (words : HeapWords) : AllocatorTrace := ⟨⟨words, 0, 0⟩, fun _ => none, []⟩

/-- The kernel gives ranges of its own. -/
def GivesFresh (trace : AllocatorTrace) (call : AllocatorCall) : Prop :=
  ∀ range ∈ trace.granted call, FreshRange trace.given range

/-- The used payloads are those on record. -/
structure Sound (trace : AllocatorTrace) (arenas : List Arena) : Prop where
  invariant : HeapInvariant trace.heap arenas
  given : grants arenas = trace.given
  covered : ∀ pointer size, trace.live pointer = some size →
    ∃ room, size ≤ room ∧ (pointer, room) ∈ payloadsOf arenas
  recorded : ∀ payload ∈ payloadsOf arenas, ∃ size, trace.live payload.1 = some size

variable {trace : AllocatorTrace} {arenas : List Arena}

theorem initial_sound (words : HeapWords) : (initial words).Sound [] where
  invariant := ⟨⟨trivial, rfl, rfl, fun _ inNil => absurd inNil List.not_mem_nil, .nil⟩,
    fun _ inNil => absurd inNil List.not_mem_nil⟩
  given := rfl
  covered := fun _ _ impossible => nomatch impossible
  recorded := fun _ inNil => absurd inNil List.not_mem_nil

/-- No other payload starts where one does. -/
theorem payloads_others {heap : UserHeap} (shape : HeapShape heap arenas)
    {earlier later : List (Nat × Nat)} {pointer room : Nat}
    (split : payloadsOf arenas = earlier ++ (pointer, room) :: later) :
    ∀ payload ∈ earlier ++ later, payload.1 ≠ pointer := by
  have apart := shape.payloads_apart
  rw [split] at apart
  intro payload isPayload isPointer
  rcases List.mem_append.mp isPayload with isEarlier | isLater
  · grind [List.mem_cons_self, PayloadsApart, blockHeaderSize]
  have isApart := (List.pairwise_cons.mp (List.pairwise_append.mp apart).2.1).1 payload isLater
  simp only [PayloadsApart, blockHeaderSize] at isApart
  omega

section

variable (sound : trace.Sound arenas)
include sound

/-- An allocation returns a pointer that is not live. -/
theorem Sound.fresh {size : Nat} {answer : Option Nat} (fresh : trace.GivesFresh (.malloc size answer))
    (notNull : (boringMalloc trace.heap size answer).1 ≠ 0) :
    trace.live (boringMalloc trace.heap size answer).1 = none := by
  rcases boringMalloc_cases sound.invariant size answer (by
    rw [sound.given]
    exact fresh) with ⟨arenas', invariant, -, ⟨isNull, -⟩ | ⟨-, room, earlier, later, -, old, new⟩⟩
  · exact absurd isNull notNull
  by_contra isLive
  rcases Option.ne_none_iff_exists'.mp isLive with ⟨requested, isLive⟩
  rcases sound.covered _ requested isLive with ⟨room', -, isPayload⟩
  rw [old] at isPayload
  exact payloads_others invariant.toHeapShape new _ isPayload rfl

theorem Sound.callocFresh {count size : Nat} {answer : Option Nat}
    (fresh : trace.GivesFresh (.calloc count size answer))
    (notNull : (boringCalloc trace.heap count size answer).1 ≠ 0) :
    trace.live (boringCalloc trace.heap count size answer).1 = none := by
  simp only [GivesFresh, granted] at fresh
  rw [boringCalloc] at notNull ⊢
  split at notNull
  · exact absurd rfl notNull
  rename_i accepted
  rw [if_neg accepted] at fresh ⊢
  have same := sound.fresh fresh
  grind

/-- Words inside a used payload may change at will. -/
theorem Sound.rewritePayload {pointer room : Nat} {words : HeapWords}
    (isPayload : (pointer, room) ∈ payloadsOf arenas)
    (agree : ∀ address, address < pointer ∨ pointer + room ≤ address →
      words address = trace.heap.words address) :
    Sound { trace with heap := { trace.heap with words := words } } arenas := by
  have shape := sound.invariant.toHeapShape
  rcases mem_payloadsOf isPayload with ⟨block, isBlock, -, isPayload⟩
  have isPointer : pointer = block.address + blockHeaderSize := congrArg Prod.fst isPayload
  have isRoom : room = block.size := congrArg Prod.snd isPayload
  refine ⟨⟨⟨shape.linked.imp fun other isOther _ _ header => ?_, shape.first, shape.last,
    shape.filled, shape.apart⟩, sound.invariant.coalesced⟩, sound.given, sound.covered, sound.recorded⟩
  refine header.of_same fun address above below => agree address ?_
  rcases pairwise_of_mem shape.blocks_apart isBlock isOther with same | apart | apart
  · simp [*]
  all_goals
    simp only [HeapBlock.Apart, HeapBlock.finish, blockHeaderSize] at apart below isPointer
    omega

theorem Sound.payload {pointer room : Nat} (isPayload : (pointer, room) ∈ payloadsOf arenas) :
    pointer % boringHeapAlignment = 0 ∧ room % boringHeapAlignment = 0 ∧
      trace.heap.words.size (pointer - blockHeaderSize) = room ∧
      ∃ range ∈ trace.given, range.1 ≤ pointer ∧ pointer + room ≤ range.1 + range.2 := by
  have shape := sound.invariant.toHeapShape
  rcases mem_payloadsOf isPayload with ⟨block, isBlock, -, isPayload⟩
  have isPointer : pointer = block.address + blockHeaderSize := congrArg Prod.fst isPayload
  have isRoom : room = block.size := congrArg Prod.snd isPayload
  rcases shape.placed isBlock with ⟨placed, -, _, _, header⟩
  rcases List.mem_flatMap.mp isBlock with ⟨arena, isArena, inArena⟩
  have bounds := (shape.filled arena isArena).bounds inArena
  have sizes := (shape.filled arena isArena).sizes
  have aligned := placed.2
  rcases mem_placeCells _ _ inArena with ⟨front, cell, back, isCells, isCell⟩
  have roomAligned := (sizes cell (isCells ▸ List.mem_append_right _ List.mem_cons_self)).2
  have isSize : block.size = cell.size := congrArg HeapBlock.size isCell
  simp only [boringHeapAlignment, Memory.kernelHeapAlignment, HeapBlock.finish, blockHeaderSize] at *
  refine ⟨by omega, by omega, ?_, (arena.base, arena.size), ?_, by omega, by omega⟩
  · rw [isPointer, Nat.add_sub_cancel, isRoom]
    exact header.size
  · rw [← sound.given]
    exact List.mem_map_of_mem isArena

theorem Sound.writeByte {pointer size offset : Nat}
    (isLive : trace.live pointer = some size) (inside : offset < size) (byte : UInt8) :
    Sound
      { trace with
        heap := { trace.heap with words := trace.heap.words.writeByte (pointer + offset) byte } }
      arenas := by
  rcases sound.covered pointer size isLive with ⟨room, enough, isPayload⟩
  have payload := sound.payload isPayload
  refine sound.rewritePayload isPayload fun address outside => store_elsewhere ?_
  simp only [boringHeapAlignment] at payload
  omega

/-- An allocation puts one more payload on record, or none. -/
theorem Sound.allocated {arenas' : List Arena} {size : Nat}
    {result : Nat × UserHeap} {ranges : List (Nat × Nat)}
    (invariant : HeapInvariant result.2 arenas') (given : grants arenas' = grants arenas ++ ranges)
    (outcome : result.1 = 0 ∧ payloadsOf arenas' = payloadsOf arenas ∨
      result.1 ≠ 0 ∧ Allocates size arenas arenas' result.1) :
    (trace.allocated size result ranges).Sound arenas' := by
  have isGiven : grants arenas' = (trace.allocated size result ranges).given := by
    rw [given, sound.given]
    rfl
  rcases outcome with ⟨refused, same⟩ | ⟨notNull, room, earlier, later, enough, old, new⟩
  · have sameLive : (trace.allocated size result ranges).live = trace.live := if_pos refused
    refine ⟨invariant, isGiven, ?_, ?_⟩
    · rw [sameLive, same]
      exact sound.covered
    · rw [sameLive, same]
      exact sound.recorded
  · have newLive : (trace.allocated size result ranges).live =
      Function.update trace.live result.1 (some size) := if_neg notNull
    refine ⟨invariant, isGiven, fun pointer requested isLive => ?_, fun payload isPayload => ?_⟩
    · rw [newLive] at isLive
      by_cases isNew : pointer = result.1
      · grind
      rw [Function.update_of_ne isNew] at isLive
      rcases sound.covered pointer requested isLive with ⟨room', enough', isPayload⟩
      grind
    · rw [newLive]
      by_cases isNew : payload.1 = result.1
      · simp [*]
      rw [Function.update_of_ne isNew]
      apply sound.recorded
      grind

theorem Sound.malloc (size : Nat) (answer : Option Nat) (fresh : trace.GivesFresh (.malloc size answer)) :
    ∃ arenas', (trace.step (.malloc size answer)).Sound arenas' := by
  rcases boringMalloc_cases sound.invariant size answer (by
    rw [sound.given]
    exact fresh) with ⟨arenas', invariant, given, outcome⟩
  exact ⟨arenas', sound.allocated invariant given outcome⟩

theorem Sound.calloc (count size : Nat) (answer : Option Nat)
    (fresh : trace.GivesFresh (.calloc count size answer)) :
    ∃ arenas', (trace.step (.calloc count size answer)).Sound arenas' := by
  simp only [GivesFresh, granted] at fresh
  simp only [step, granted]
  by_cases refused : count = 0 ∨ size = 0 ∨ sizeMax / count < size
  · rw [if_pos refused, boringCalloc, if_pos refused]
    exact ⟨arenas, sound.allocated sound.invariant (List.append_nil _).symm (.inl ⟨rfl, rfl⟩)⟩
  rw [if_neg refused] at fresh ⊢
  rcases boringMalloc_cases sound.invariant (count * size) answer (by
    rw [sound.given]
    exact fresh) with ⟨arenas', invariant, given, outcome⟩
  have allocated := sound.allocated invariant given outcome
  refine ⟨arenas', ?_⟩
  rw [boringCalloc, if_neg refused]
  simp only
  split
  · rename_i notNull
    have isLive : (trace.allocated (count * size) (boringMalloc trace.heap (count * size) answer)
        (grantedBy trace.heap (count * size) answer)).live
        (boringMalloc trace.heap (count * size) answer).1 = some (count * size) := by
      simp only [AllocatorTrace.allocated, if_neg notNull, Function.update_self]
    rcases allocated.covered _ _ isLive with ⟨room, enough, isPayload⟩
    have payload := allocated.payload isPayload
    refine allocated.rewritePayload isPayload fun address outside => ?_
    simp only [boringHeapAlignment] at payload
    exact boringMemset_elsewhere _ _ _ _ (by omega)
  · exact allocated

theorem Sound.free (pointer : Nat) : ∃ arenas', (trace.step (.free pointer)).Sound arenas' := by
  rcases boringFree_cases sound.invariant pointer with
    ⟨same, absent⟩ | ⟨arenas', invariant, given, earlier, room, later, old, new⟩
  · have notLive : trace.live pointer = none := by
      cases isLive : trace.live pointer with
      | none => rfl
      | some size =>
        rcases sound.covered pointer size isLive with ⟨room, -, isPayload⟩
        exact absurd isPayload (absent room)
    refine ⟨arenas, ?_⟩
    rw [step, same, ← notLive, Function.update_eq_self]
    exact sound
  · have others := payloads_others sound.invariant.toHeapShape old
    refine ⟨arenas', invariant, given.trans sound.given, fun other size isLive => ?_,
      fun payload isPayload => ?_⟩
    · simp only [step] at isLive
      by_cases isPointer : other = pointer
      · simp_all
      rw [Function.update_of_ne isPointer] at isLive
      rcases sound.covered other size isLive with ⟨room', enough, isPayload⟩
      refine ⟨room', enough, ?_⟩
      simp_all
    · rw [new] at isPayload
      simp only [step]
      rw [Function.update_of_ne (others payload isPayload)]
      apply sound.recorded
      grind

end

theorem step_sound (call : AllocatorCall) (sound : ∃ arenas, trace.Sound arenas)
    (fresh : trace.GivesFresh call) : ∃ arenas', (trace.step call).Sound arenas' := by
  rcases sound with ⟨arenas, sound⟩
  cases call with
  | malloc size answer => exact sound.malloc size answer fresh
  | calloc count size answer => exact sound.calloc count size answer fresh
  | free pointer => exact sound.free pointer
  | clientWrite pointer offset byte =>
    simp only [step]
    cases isLive : trace.live pointer with
    | none => exact ⟨arenas, sound⟩
    | some size =>
      simp only
      split
      · rename_i inside
        exact ⟨arenas, sound.writeByte isLive inside byte⟩
      · exact ⟨arenas, sound⟩

theorem run_sound (words : HeapWords) (calls : List AllocatorCall)
    (fresh : Respects step GivesFresh (initial words) calls) :
    ∃ arenas, (run step (initial words) calls).Sound arenas :=
  @run_invariant_of_respects _ _ step GivesFresh (fun trace => ∃ arenas, Sound trace arenas)
    (fun _ call sound fresh => step_sound call sound fresh) calls _ ⟨[], initial_sound words⟩ fresh

end AllocatorTrace

/-- The bytes behind a payload start, by the size in the header before it -/
def UserHeap.room (heap : UserHeap) (pointer : Nat) : Nat :=
  heap.words.size (pointer - blockHeaderSize)

structure AllocatorExact (trace : AllocatorTrace) : Prop where
  aligned : ∀ pointer size, trace.live pointer = some size → pointer % boringHeapAlignment = 0
  enough : ∀ pointer size, trace.live pointer = some size →
    size ≤ trace.heap.room pointer ∧ ∃ range ∈ trace.given,
      range.1 ≤ pointer ∧ pointer + trace.heap.room pointer ≤ range.1 + range.2
  disjoint : ∀ first second size size', trace.live first = some size →
    trace.live second = some size' → first ≠ second →
    first + trace.heap.room first ≤ second ∨ second + trace.heap.room second ≤ first
  /-- An allocation never returns a pointer that is already live. -/
  fresh : ∀ size answer, trace.GivesFresh (.malloc size answer) →
    (boringMalloc trace.heap size answer).1 ≠ 0 →
      trace.live (boringMalloc trace.heap size answer).1 = none
  callocFresh : ∀ count size answer, trace.GivesFresh (.calloc count size answer) →
    (boringCalloc trace.heap count size answer).1 ≠ 0 →
      trace.live (boringCalloc trace.heap count size answer).1 = none
  /-- The list in memory runs through the ranges that the kernel has given. Each is filled
  by its blocks, of which no neighbours are both free. -/
  tiled : ∃ arenas, grants arenas = trace.given ∧
    trace.heap.first = firstAddress HeapBlock.address (blocksOf arenas) 0 ∧
    Linked HeapBlock.address (HeaderAt trace.heap.words) 0 0 (blocksOf arenas) ∧
    ∀ arena ∈ arenas, extentOf arena.cells = arena.size ∧ Coalesced arena.cells
  freeIgnored : ∀ pointer, trace.live pointer = none → boringFree trace.heap pointer = trace.heap
  callocZero : ∀ count size answer, (boringCalloc trace.heap count size answer).1 ≠ 0 →
    ∀ offset, offset < count * size → (boringCalloc trace.heap count size answer).2.words.readByte
      ((boringCalloc trace.heap count size answer).1 + offset) = 0

theorem boringCalloc_zero (heap : UserHeap) (count size : Nat) (answer : Option Nat)
    (success : (boringCalloc heap count size answer).1 ≠ 0) {offset : Nat} (inside : offset < count * size) :
    (boringCalloc heap count size answer).2.words.readByte
      ((boringCalloc heap count size answer).1 + offset) = 0 := by
  unfold boringCalloc at success ⊢
  split
  · simp_all
  rename_i accepted
  rw [if_neg accepted] at success
  simp only at success ⊢
  split
  · exact readByte_boringMemset 0 _ _ _ _ inside
  simp_all

theorem AllocatorTrace.Sound.exact {trace : AllocatorTrace} {arenas : List Arena}
    (sound : trace.Sound arenas) : AllocatorExact trace := by
  have shape := sound.invariant.toHeapShape
  refine ⟨fun pointer size isLive => ?_, fun pointer size isLive => ?_,
    fun first second size size' firstLive secondLive different => ?_,
    fun _ _ => sound.fresh, fun _ _ _ => sound.callocFresh,
    ⟨arenas, sound.given, shape.first, shape.linked, fun arena isArena =>
      ⟨(shape.filled arena isArena).filled, sound.invariant.coalesced arena isArena⟩⟩,
    fun pointer notLive => ?_, fun count size answer success _ inside =>
      boringCalloc_zero trace.heap count size answer success inside⟩
  · rcases sound.covered pointer size isLive with ⟨room, -, isPayload⟩
    exact (sound.payload isPayload).1
  · rcases sound.covered pointer size isLive with ⟨room, enough, isPayload⟩
    rcases sound.payload isPayload with ⟨-, -, isRoom, range⟩
    rw [UserHeap.room, isRoom]
    exact ⟨enough, range⟩
  · rcases sound.covered first size firstLive with ⟨room, -, isFirst⟩
    rcases sound.covered second size' secondLive with ⟨room', -, isSecond⟩
    rw [UserHeap.room, UserHeap.room, (sound.payload isFirst).2.2.1, (sound.payload isSecond).2.2.1]
    rcases pairwise_of_mem shape.payloads_apart isFirst isSecond with same | apart | apart
    · grind
    all_goals
      simp only [PayloadsApart] at apart
      omega
  · rcases boringFree_cases sound.invariant pointer with
      ⟨same, -⟩ | ⟨_, -, -, earlier, room, later, old, -⟩
    · exact same
    · rcases sound.recorded (pointer, room) (by
        simp [*]) with ⟨size, isLive⟩
      rw [notLive] at isLive
      cases isLive

/-- After every sequence of allocations, releases and writes of a program, in memory
with any content, its heap is as the program expects. -/
theorem allocator_runs_exact (words : HeapWords) (calls : List AllocatorCall)
    (fresh : Respects AllocatorTrace.step AllocatorTrace.GivesFresh (AllocatorTrace.initial words)
      calls) : AllocatorExact (run AllocatorTrace.step (AllocatorTrace.initial words) calls) := by
  rcases AllocatorTrace.run_sound words calls fresh with ⟨arenas, sound⟩
  exact sound.exact

instance (given : List (Nat × Nat)) (range : Nat × Nat) : Decidable (FreshRange given range) :=
  decidable_of_iff (range.1 ≠ 0 ∧ range.1 % boringHeapPageSize = 0 ∧ range.1 + range.2 ≤ 2 ^ 64 ∧
    ∀ other ∈ given, other.1 + other.2 ≤ range.1 ∨ range.1 + range.2 ≤ other.1)
    ⟨fun all => ⟨all.1, all.2.1, all.2.2.1, all.2.2.2⟩,
      fun fresh => ⟨fresh.notNull, fresh.aligned, fresh.inside, fresh.apart⟩⟩

instance (trace : AllocatorTrace) (call : AllocatorCall) : Decidable (trace.GivesFresh call) :=
  inferInstanceAs (Decidable (∀ range ∈ trace.granted call, FreshRange trace.given range))

/-- An arena is divided and joined again, and a second one is refused once. -/
theorem allocator_runs_exact_joined :
    AllocatorExact (run AllocatorTrace.step (AllocatorTrace.initial fun _ => 7)
      [.malloc 100 (some 0x400000), .malloc 30 none, .calloc 3 5 none, .malloc 20000 none,
        .malloc 20000 (some 0x404000), .free 0x400040, .free 0x4000f0, .free 0x4000f0]) :=
  allocator_runs_exact _ _ (by decide +kernel)

end BoringOS.Runtime
