import BoringOS.Memory.Pmm

namespace BoringOS.Memory

/-!
# The kernel heap

A transcription of `kernel/core/heap.c`.  The heap lives in one window of
virtual addresses, which the model keeps as a memory of 64-bit words.  A
block header is six consecutive words in that memory, a pointer is an
address, and the null pointer is zero.  Nothing separates the headers from
the payloads: a store at a wrong address would reach a header here as it
does in the machine.

The page tables and the frame allocator enter through what they answer to
one growth attempt.  The loops that follow the block list are bounded by the
mapped bytes, which is more than the number of blocks that fit.
-/

def heapPageSize : Nat := 4096
def heapInitialPages : Nat := 2
def heapRegionSize : Nat := 0x01000000
def heapMaxPages : Nat := heapRegionSize / heapPageSize
def heapVirtualBase : Nat := 0xffffff0000200000
def heapVirtualLimit : Nat := heapVirtualBase + heapRegionSize
def heapBlockMagic : Nat := 0x424f52494e474850
def heapStateFree : Nat := 0x46524545424c4f43
def heapStateUsed : Nat := 0x55534544424c4f43
def heapGuardSeed : Nat := 0x9e3779b97f4a7c15
def kernelHeapAlignment : Nat := 16

/-- `sizeof(struct heap_block)` -/
def heapHeaderSize : Nat := 48

/-- The words of the heap window, by address. -/
abbrev HeapMemory := Nat → Nat

variable (memory : HeapMemory)

def HeapMemory.store (address value : Nat) : HeapMemory :=
  fun other => if other = address then value else memory other

namespace HeapMemory

variable (memory : HeapMemory)

def magic (block : Nat) : Nat := memory block
def size (block : Nat) : Nat := memory (block + 8)
def prev (block : Nat) : Nat := memory (block + 16)
def next (block : Nat) : Nat := memory (block + 24)
def state (block : Nat) : Nat := memory (block + 32)
def guard (block : Nat) : Nat := memory (block + 40)

variable (block value : Nat)

def setMagic : HeapMemory := memory.store block value
def setSize : HeapMemory := memory.store (block + 8) value
def setPrev : HeapMemory := memory.store (block + 16) value
def setNext : HeapMemory := memory.store (block + 24) value
def setState : HeapMemory := memory.store (block + 32) value
def setGuard : HeapMemory := memory.store (block + 40) value

/-- `heap_guard_for` -/
def guardFor (block : Nat) : Nat :=
  heapGuardSeed ^^^ block ^^^ memory.size block ^^^ memory.prev block ^^^ memory.next block ^^^
    memory.state block

/-- `heap_refresh_block` -/
def refreshBlock (block : Nat) : HeapMemory :=
  let marked := memory.setMagic block heapBlockMagic
  marked.setGuard block (marked.guardFor block)

/-- `heap_zero_page` -/
def zeroPage (virtualAddress : Nat) : HeapMemory :=
  fun address =>
    if virtualAddress ≤ address ∧ address < virtualAddress + heapPageSize then 0
    else memory address

end HeapMemory

/-- The static state of the heap. -/
structure Heap where
  memory : HeapMemory
  first : Nat
  mappedPages : Nat
  initialized : Bool
  corrupted : Bool

/-- `heap_reset_state` -/
def heapResetState : Heap := ⟨memory, 0, 0, false, false⟩

variable (heap : Heap)

def heapMappedEnd : Option Nat :=
  if heapMaxPages < heap.mappedPages then none
  else
    let mappedBytes := heap.mappedPages * heapPageSize
    if uint64Max - mappedBytes < heapVirtualBase then none
    else if heapVirtualBase + mappedBytes ≤ heapVirtualLimit then
      some (heapVirtualBase + mappedBytes)
    else none

def heapBlockValid (block : Nat) : Bool :=
  match heapMappedEnd heap with
  | none => false
  | some mappedEnd =>
    if block = 0 then false
    else if block < heapVirtualBase ∨ mappedEnd - heapHeaderSize < block ∨
        block % kernelHeapAlignment ≠ 0 then false
    else if heap.memory.magic block ≠ heapBlockMagic ∨
        (heap.memory.state block ≠ heapStateFree ∧ heap.memory.state block ≠ heapStateUsed) ∨
        heap.memory.size block < kernelHeapAlignment ∨ heap.memory.size block % kernelHeapAlignment ≠ 0 ∨
        heap.memory.guard block ≠ heap.memory.guardFor block then false
    else if uint64Max - heapHeaderSize < block then false
    else decide (heap.memory.size block ≤ mappedEnd - (block + heapHeaderSize))

/-- The loop of `heap_validate` from one block on. -/
def heapValidateFrom (heap : Heap) (mappedEnd : Nat) : (fuel previous current : Nat) → Bool
  | 0, _, _ => false
  | fuel + 1, previous, current =>
    if current = 0 then true
    else if heapBlockValid heap current = false ∨ heap.memory.prev current ≠ previous then false
    else if previous ≠ 0 ∧ (heap.memory.next previous ≠ current ∨
        (heap.memory.state previous = heapStateFree ∧
          heap.memory.state current = heapStateFree)) then false
    else
      let blockEnd := current + heapHeaderSize + heap.memory.size current
      let next := heap.memory.next current
      if next ≠ 0 ∧ next ≠ blockEnd then false
      else if next = 0 ∧ blockEnd ≠ mappedEnd then false
      else heapValidateFrom heap mappedEnd fuel current next

/-- More rounds than there can be blocks. -/
def heapFuel : Nat := heap.mappedPages * heapPageSize

def heapValidate : Bool :=
  if heap.initialized = false ∨ heap.corrupted = true ∨ heap.first = 0 ∨
      heap.first ≠ heapVirtualBase then false
  else
    match heapMappedEnd heap with
    | none => false
    | some mappedEnd => heapValidateFrom heap mappedEnd (heapFuel heap) 0 heap.first

/-- What the page tables and the frame allocator answer to one attempt to
map the next page: it is already mapped, no frame is free, the mapping
fails, or it is made. -/
inductive PageGrowth where
  | translated
  | noFrame
  | mapFailed
  | mapped
deriving DecidableEq, Repr

/-- The loop of `heap_last_block`. -/
def heapLastFrom (memory : HeapMemory) : (fuel current : Nat) → Nat
  | 0, current => current
  | fuel + 1, current =>
    if current ≠ 0 ∧ memory.next current ≠ 0 then heapLastFrom memory fuel (memory.next current)
    else current

def heapLastBlock : Nat := heapLastFrom heap.memory (heapFuel heap) heap.first

/-- The stores of `heap_grow_one_page`, once the page is mapped at `oldEnd`:
a free tail takes the page, a used tail gets a new free block behind it. -/
def heapExtendTail (tail oldEnd : Nat) : HeapMemory :=
  if memory.state tail = heapStateFree then
    (memory.setSize tail (memory.size tail + heapPageSize)).refreshBlock tail
  else
    let written := ((((memory.setSize oldEnd (heapPageSize - heapHeaderSize)).setPrev oldEnd
      tail).setNext oldEnd 0).setState oldEnd heapStateFree).refreshBlock oldEnd
    (written.setNext tail oldEnd).refreshBlock tail

def heapGrowOnePage (growth : PageGrowth) : Bool × Heap :=
  match heapMappedEnd heap with
  | none => (false, heap)
  | some oldEnd =>
    if heapValidate heap = false ∨ heapMaxPages ≤ heap.mappedPages ∨
        heapVirtualLimit - heapPageSize < oldEnd then (false, heap)
    else
      let tail := heapLastBlock heap
      if tail = 0 ∨ (heap.memory.state tail = heapStateFree ∧
          uint64Max - heapPageSize < heap.memory.size tail) then (false, heap)
      else if growth ≠ .mapped then (false, heap)
      else
        let grown := { heap with
          memory := heapExtendTail (heap.memory.zeroPage oldEnd) tail oldEnd
          mappedPages := heap.mappedPages + 1 }
        if heapValidate grown = false then (false, { grown with corrupted := true })
        else (true, grown)

def heapAlignRequest (size : Nat) : Option Nat :=
  if size = 0 ∨ uint64Max - (kernelHeapAlignment - 1) < size then none
  else
    let alignedSize := (size + (kernelHeapAlignment - 1)) / kernelHeapAlignment * kernelHeapAlignment
    if kernelHeapAlignment ≤ alignedSize then some alignedSize else none

/-- The loop of `heap_find_fit`; zero is the null result. -/
def heapFindFitFrom (memory : HeapMemory) (alignedSize : Nat) : (fuel current : Nat) → Nat
  | 0, _ => 0
  | fuel + 1, current =>
    if current = 0 then 0
    else if memory.state current = heapStateFree ∧ alignedSize ≤ memory.size current then current
    else heapFindFitFrom memory alignedSize fuel (memory.next current)

def heapFindFit (alignedSize : Nat) : Nat :=
  heapFindFitFrom heap.memory alignedSize (heapFuel heap) heap.first

/-- The stores that split a block, in the order of the source. -/
def heapSplitBlock (block alignedSize : Nat) : HeapMemory :=
  let oldNext := memory.next block
  let newBlock := block + heapHeaderSize + alignedSize
  let newSize := memory.size block - alignedSize - heapHeaderSize
  let memory := ((((memory.setSize newBlock newSize).setPrev newBlock block).setNext newBlock
    oldNext).setState newBlock heapStateFree).refreshBlock newBlock
  let memory :=
    if oldNext ≠ 0 then (memory.setPrev oldNext newBlock).refreshBlock oldNext else memory
  (((memory.setSize block alignedSize).setNext block newBlock).setState block
    heapStateUsed).refreshBlock block

/-- `heap_allocate_from_block` -/
def heapAllocateFromBlock (block alignedSize : Nat) : Option Nat × Heap :=
  if heapBlockValid heap block = false ∨ heap.memory.state block ≠ heapStateFree ∨
      heap.memory.size block < alignedSize then (none, heap)
  else
    let splitThreshold :=
      if alignedSize ≤ uint64Max - heapHeaderSize - kernelHeapAlignment then
        alignedSize + heapHeaderSize + kernelHeapAlignment
      else uint64Max
    let taken := { heap with
      memory :=
        if splitThreshold ≤ heap.memory.size block then
          heapSplitBlock heap.memory block alignedSize
        else (heap.memory.setState block heapStateUsed).refreshBlock block }
    if heapValidate taken = false then (none, { taken with corrupted := true })
    else (some (block + heapHeaderSize), taken)

/-- The growth loop of `kmalloc`.  The attempts of one call are numbered, and
the window bounds how many can succeed. -/
def kmallocGrow (alignedSize : Nat) (growth : Nat → PageGrowth) :
    (fuel attempt : Nat) → Heap → Option Nat × Heap
  | 0, _, heap => (none, heap)
  | fuel + 1, attempt, heap =>
    let block := heapFindFit heap alignedSize
    if block ≠ 0 then heapAllocateFromBlock heap block alignedSize
    else
      match heapGrowOnePage heap (growth attempt) with
      | (false, stuck) => (none, stuck)
      | (true, grown) => kmallocGrow alignedSize growth fuel (attempt + 1) grown

def kmalloc (size : Nat) (growth : Nat → PageGrowth) : Option Nat × Heap :=
  if heap.initialized = false ∨ heap.corrupted = true then (none, heap)
  else
    match heapAlignRequest size with
    | none => (none, heap)
    | some alignedSize =>
      if heapRegionSize - heapHeaderSize < alignedSize then (none, heap)
      else if heapValidate heap = false then (none, { heap with corrupted := true })
      else kmallocGrow alignedSize growth (heapMaxPages + 1) 0 heap

/-- The stores of `heap_merge_with_next`. -/
def heapMergeStores (left : Nat) : HeapMemory :=
  let right := memory.next left
  let successor := memory.next right
  let combinedSize := memory.size left + heapHeaderSize + memory.size right
  let memory := (memory.setSize left combinedSize).setNext left successor
  let memory :=
    if successor ≠ 0 then (memory.setPrev successor left).refreshBlock successor else memory
  let memory := memory.refreshBlock left
  (((((memory.setMagic right 0).setSize right 0).setPrev right 0).setNext right 0).setState right
    0).setGuard right 0

def heapMergeWithNext (left : Nat) : Bool × Heap :=
  if heapBlockValid heap left = false ∨ heap.memory.state left ≠ heapStateFree ∨
      heap.memory.next left = 0 then (false, heap)
  else
    let right := heap.memory.next left
    if heapBlockValid heap right = false ∨ heap.memory.state right ≠ heapStateFree ∨
        heap.memory.prev right ≠ left ∨ uint64Max - heapHeaderSize < heap.memory.size left ∨
        uint64Max - heap.memory.size right < heap.memory.size left + heapHeaderSize then
      (false, heap)
    else (true, { heap with memory := heapMergeStores heap.memory left })

/-- The search loop of `kfree` for the block with this payload address. -/
def kfreeFind (memory : HeapMemory) (pointer : Nat) : (fuel current : Nat) → Option Nat
  | 0, _ => none
  | fuel + 1, current =>
    if current = 0 then none
    else if current + heapHeaderSize = pointer then some current
    else kfreeFind memory pointer fuel (memory.next current)

/-- The body of `kfree` for a used block that has been found. -/
def kfreeBlock (current : Nat) : Bool × Heap :=
  let freed := { heap with
    memory := (heap.memory.setState current heapStateFree).refreshBlock current }
  let next := freed.memory.next current
  match if next ≠ 0 ∧ freed.memory.state next = heapStateFree then
      heapMergeWithNext freed current else (true, freed) with
  | (false, broken) => (false, { broken with corrupted := true })
  | (true, merged) =>
    let prev := merged.memory.prev current
    match if prev ≠ 0 ∧ merged.memory.state prev = heapStateFree then
        heapMergeWithNext merged prev else (true, merged) with
    | (false, broken) => (false, { broken with corrupted := true })
    | (true, done) =>
      if heapValidate done = false then (false, { done with corrupted := true })
      else (true, done)

def kfree (pointer : Nat) : Bool × Heap :=
  if heap.initialized = false ∨ heap.corrupted = true ∨ pointer = 0 then (false, heap)
  else
    match heapMappedEnd heap with
    | none => (false, heap)
    | some mappedEnd =>
      if pointer < heapVirtualBase + heapHeaderSize ∨ mappedEnd ≤ pointer ∨
          pointer % kernelHeapAlignment ≠ 0 then (false, heap)
      else if heapValidate heap = false then (false, { heap with corrupted := true })
      else
        match kfreeFind heap.memory pointer (heapFuel heap) heap.first with
        | none => (false, heap)
        | some current =>
          if heap.memory.state current ≠ heapStateUsed then (false, heap)
          else kfreeBlock heap current

/-- The mapping loop of `heap_init`: how many of the initial pages got
mapped before the first failure, with the zeroed memory. -/
def heapMapInitial (growth : Nat → PageGrowth) :
    (remaining index : Nat) → HeapMemory → Option HeapMemory
  | 0, _, memory => some memory
  | remaining + 1, index, memory =>
    if growth index ≠ .mapped then none
    else heapMapInitial growth remaining (index + 1)
      (memory.zeroPage (heapVirtualBase + index * heapPageSize))

/-- `heap_init`.  The tests on the constants of the window are closed facts. -/
def heapInit (growth : Nat → PageGrowth) : Bool × Heap :=
  match heapMapInitial growth heapInitialPages 0 memory with
  | none => (false, heapResetState memory)
  | some mapped =>
    let first := heapVirtualBase
    let heap : Heap :=
      { memory := ((((mapped.setSize first (heapInitialPages * heapPageSize -
          heapHeaderSize)).setPrev first 0).setNext first 0).setState first
          heapStateFree).refreshBlock first
        first := first
        mappedPages := heapInitialPages
        initialized := true
        corrupted := false }
    if heapValidate heap = false then (false, { heap with corrupted := true }) else (true, heap)

/-- `struct heap_stats`, less the constant bounds of the window. -/
structure HeapStats where
  mappedPages : Nat
  mappedBytes : Nat
  usedBytes : Nat
  freeBytes : Nat
  allocationCount : Nat
deriving DecidableEq, Repr

/-- The summing loop of `heap_get_stats`. -/
def heapStatsFrom (memory : HeapMemory) : (fuel current : Nat) → HeapStats → HeapStats
  | 0, _, stats => stats
  | fuel + 1, current, stats =>
    if current = 0 then stats
    else
      let size := memory.size current
      heapStatsFrom memory fuel (memory.next current)
        (if memory.state current = heapStateUsed then
          { stats with
            usedBytes := stats.usedBytes + size, allocationCount := stats.allocationCount + 1 }
        else { stats with freeBytes := stats.freeBytes + size })

def heapGetStats : Option HeapStats × Heap :=
  if heap.initialized = false ∨ heap.corrupted = true then (none, heap)
  else if heapValidate heap = false then (none, { heap with corrupted := true })
  else
    (some (heapStatsFrom heap.memory (heapFuel heap) heap.first
      ⟨heap.mappedPages, heap.mappedPages * heapPageSize, 0, 0, 0⟩), heap)

end BoringOS.Memory
