import BoringOS.Library.LittleEndian

namespace BoringOS.Runtime

open Library

/-!
# The heap of a program

`user/runtime/memory.c`.  The memory of a process is kept as 64-bit words by
address, a block header is eight of them, a pointer is an address, and the null
pointer is zero.  Headers and payloads lie in the same words.

`boring_memory_alloc` enters through its answer to each call.  The loops that
follow the block list make at most as many rounds as there are addresses.
-/

def sizeMax : Nat := 2 ^ 64 - 1
def boringHeapAlignment : Nat := 16
def boringHeapPageSize : Nat := 4096
def boringHeapArenaMin : Nat := 16 * 1024
def boringHeapBlockMagic : Nat := 0x424f52494e47484d
def boringHeapBlockFree : Nat := 0
def boringHeapBlockUsed : Nat := 1

/-- `sizeof(struct boring_heap_block)` -/
def blockHeaderSize : Nat := 64

/-- The words of the process, by address -/
abbrev HeapWords := Nat → Nat

namespace HeapWords

variable (words : HeapWords)

def store (address value : Nat) : HeapWords :=
  fun other => if other = address then value else words other

variable (block : Nat)

def magic : Nat := words block
def size : Nat := words (block + 8)
def next : Nat := words (block + 16)
def previous : Nat := words (block + 24)
def arenaBase : Nat := words (block + 32)
def arenaSize : Nat := words (block + 40)

/-- The lower half of its word; the upper half is `reserved`. -/
def state : Nat := words (block + 48) % 2 ^ 32

def setSize (block value : Nat) : HeapWords := words.store (block + 8) value
def setNext (block value : Nat) : HeapWords := words.store (block + 16) value
def setPrevious (block value : Nat) : HeapWords := words.store (block + 24) value
def setState (block value : Nat) : HeapWords :=
  words.store (block + 48) (words (block + 48) / 2 ^ 32 * 2 ^ 32 + value)

/-- All fields of a header, with those that are zero in every header -/
def writeHeader (block magic size next previous arenaBase arenaSize : Nat) : HeapWords :=
  (((((((words.store block magic).store (block + 8) size).store (block + 16) next).store
    (block + 24) previous).store (block + 32) arenaBase).store (block + 40) arenaSize).store
      (block + 48) boringHeapBlockFree).store (block + 56) 0

def readByte (address : Nat) : UInt8 := byteAt (words (address / 8 * 8)) (address % 8)

def writeByte (address : Nat) (byte : UInt8) : HeapWords :=
  words.store (address / 8 * 8) (setByte (words (address / 8 * 8)) (address % 8) byte)

end HeapWords

variable (words : HeapWords)

/-- `boring_memset` -/
def boringMemset (destination : Nat) (byte : UInt8) (length : Nat) : HeapWords :=
  (List.range' destination length).foldl (fun words address => words.writeByte address byte) words

/-- The memory with the static variables of the heap -/
structure UserHeap where
  words : HeapWords
  first : Nat
  last : Nat

def heapAlignSize (size : Nat) : Option Nat :=
  if size = 0 ∨ sizeMax - (boringHeapAlignment - 1) < size then none
  else
    let aligned :=
      (size + (boringHeapAlignment - 1)) / boringHeapAlignment * boringHeapAlignment
    if aligned ≠ 0 then some aligned else none

def heapRoundArena (payload : Nat) : Option Nat :=
  if sizeMax - blockHeaderSize < payload then none
  else
    let required := max (payload + blockHeaderSize) boringHeapArenaMin
    if sizeMax - (boringHeapPageSize - 1) < required then none
    else
      let arenaSize := (required + (boringHeapPageSize - 1)) / boringHeapPageSize * boringHeapPageSize
      if required ≤ arenaSize then some arenaSize else none

def heapPayload (block : Nat) : Nat := block + blockHeaderSize

def heapBlockValid (block : Nat) : Bool :=
  decide (block ≠ 0 ∧ words.magic block = boringHeapBlockMagic ∧
    (words.state block = boringHeapBlockFree ∨ words.state block = boringHeapBlockUsed) ∧
    heapPayload block % boringHeapAlignment = 0)

def heapSameArena (first second : Nat) : Bool :=
  heapBlockValid words first && heapBlockValid words second &&
    decide (words.arenaBase first = words.arenaBase second ∧ words.arenaSize first = words.arenaSize second)

def heapPhysicallyAdjacent (first second : Nat) : Bool :=
  if heapSameArena words first second = false then false
  else if sizeMax - heapPayload first < words.size first then false
  else decide (heapPayload first + words.size first = second)

variable (heap : UserHeap)

/-- The block behind a changed one points back to it, or the list ends there. -/
def relink (next block : Nat) : UserHeap :=
  if next ≠ 0 then { heap with words := heap.words.setPrevious next block }
  else { heap with last := block }

/-- The fields of the block are read before those of the new one are written,
which lies in its payload. -/
def heapSplit (block requested : Nat) : Option UserHeap :=
  let words := heap.words
  if heapBlockValid words block = false ∨ words.state block ≠ boringHeapBlockFree ∨
      words.size block < requested then none
  else if words.size block - requested < blockHeaderSize + boringHeapAlignment then some heap
  else
    let split := heapPayload block + requested
    let written := words.writeHeader split boringHeapBlockMagic
      (words.size block - requested - blockHeaderSize) (words.next block) block
      (words.arenaBase block) (words.arenaSize block)
    let linked := relink { heap with words := written } (written.next block) split
    some { linked with words := (linked.words.setNext block split).setSize block requested }

/-- The parameter is what `boring_memory_alloc` returns, if it succeeds. -/
def heapGrow (requested : Nat) (answer : Option Nat) : Option (Nat × UserHeap) :=
  match heapRoundArena requested, answer with
  | some arenaSize, some block =>
    let written := heap.words.writeHeader block boringHeapBlockMagic (arenaSize - blockHeaderSize)
      0 heap.last block arenaSize
    some (block,
      if heap.last ≠ 0 then
        { heap with
          words := written.setNext heap.last block
          last := block }
      else
        { words := written
          first := block
          last := block })
  | _, _ => none

inductive Scan where
  | invalid
  | ended
  | found (block : Nat)
deriving DecidableEq, Repr

/-- The loops of `boring_malloc` and `boring_free` -/
def heapScan (words : HeapWords) (wanted : Nat → Bool) : (fuel block : Nat) → Scan
  | 0, _ => .ended
  | fuel + 1, block =>
    if block = 0 then .ended
    else if heapBlockValid words block = false then .invalid
    else if wanted block then .found block
    else heapScan words wanted fuel (words.next block)

def heapFuel : Nat := 2 ^ 64 + 1

/-- What both branches of `boring_malloc` do with the block that they have found -/
def takeBlock (block requested : Nat) : Nat × UserHeap :=
  match heapSplit heap block requested with
  | none => (0, heap)
  | some divided =>
    (heapPayload block,
      { divided with words := divided.words.setState block boringHeapBlockUsed })

def boringMalloc (size : Nat) (answer : Option Nat) : Nat × UserHeap :=
  match heapAlignSize size with
  | none => (0, heap)
  | some requested =>
    match heapScan heap.words
      (fun block => decide (heap.words.state block = boringHeapBlockFree ∧
        requested ≤ heap.words.size block)) heapFuel heap.first with
    | .invalid => (0, heap)
    | .found block => takeBlock heap block requested
    | .ended =>
      match heapGrow heap requested answer with
      | none => (0, heap)
      | some (block, grown) => takeBlock grown block requested

def boringCalloc (count size : Nat) (answer : Option Nat) : Nat × UserHeap :=
  if count = 0 ∨ size = 0 ∨ sizeMax / count < size then (0, heap)
  else
    let allocated := boringMalloc heap (count * size) answer
    if allocated.1 ≠ 0 then
      (allocated.1,
        { allocated.2 with words := boringMemset allocated.2.words allocated.1 0 (count * size) })
    else allocated

def heapMergeNext (block : Nat) : UserHeap :=
  let words := heap.words
  if heapBlockValid words block = false ∨ words.state block ≠ boringHeapBlockFree then heap
  else
    let next := words.next block
    if heapBlockValid words next = false ∨ words.state next ≠ boringHeapBlockFree ∨
        heapPhysicallyAdjacent words block next = false then heap
    else
      let joined := (words.setSize block (words.size block + (blockHeaderSize + words.size next))).setNext
        block (words.next next)
      let linked := relink { heap with words := joined } (joined.next next) block
      { linked with words := linked.words.writeHeader next 0 0 0 0 0 0 }

/-- The part of `boring_free` behind the search -/
def releaseBlock (block : Nat) : UserHeap :=
  let freed := { heap with words := heap.words.setState block boringHeapBlockFree }
  let merged := heapMergeNext freed block
  let previous := merged.words.previous block
  if previous ≠ 0 ∧ merged.words.state previous = boringHeapBlockFree ∧
      heapPhysicallyAdjacent merged.words previous block = true then
    heapMergeNext merged previous
  else merged

def boringFree (pointer : Nat) : UserHeap :=
  if pointer = 0 then heap
  else
    match heapScan heap.words (fun block => decide (heapPayload block = pointer)) heapFuel heap.first with
    | .found block =>
      if heap.words.state block = boringHeapBlockFree then heap else releaseBlock heap block
    | _ => heap

end BoringOS.Runtime
