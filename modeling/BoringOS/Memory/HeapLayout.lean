import BoringOS.Memory.KernelHeap

namespace BoringOS.Memory

/-!
# How the block list lies in memory

The heap is a sequence of cells, each a header followed by a payload, that
tile the mapped window.  `Laid` says that the words of a memory describe such
a sequence from one address on: every header carries the size and state of
its cell, points back to the header before it and on to the header behind
it, and has its guard in order.  The description is local, so a store inside
a payload keeps it, and a changed header is made good by its two neighbours.
-/

/-- A block as the list sees it. -/
structure HeapCell where
  size : Nat
  used : Bool
deriving DecidableEq, Repr

namespace HeapCell

variable (cell : HeapCell)

def state : Nat := if cell.used then heapStateUsed else heapStateFree

/-- The bytes that the cell takes, header included. -/
def span : Nat := heapHeaderSize + cell.size

/-- A size that the allocator hands out. -/
def SizeOk : Prop := kernelHeapAlignment ≤ cell.size ∧ cell.size % kernelHeapAlignment = 0

theorem state_eq_free : cell.state = heapStateFree ↔ cell.used = false := by
  cases used : cell.used <;> simp [state, used, heapStateFree, heapStateUsed]

theorem state_eq_used : cell.state = heapStateUsed ↔ cell.used = true := by
  cases used : cell.used <;> simp [state, used, heapStateFree, heapStateUsed]

end HeapCell

/-- The bytes that a sequence of cells takes. -/
def extent : List HeapCell → Nat
  | [] => 0
  | cell :: rest => cell.span + extent rest

@[simp] theorem extent_nil : extent [] = 0 := rfl

@[simp] theorem extent_cons (cell : HeapCell) (rest : List HeapCell) :
    extent (cell :: rest) = cell.span + extent rest := rfl

@[simp] theorem extent_append (first second : List HeapCell) :
    extent (first ++ second) = extent first + extent second := by
  induction first with
  | nil => exact (Nat.zero_add _).symm
  | cons cell rest ih => simp only [List.cons_append, extent_cons, ih, Nat.add_assoc]

theorem length_le_extent (cells : List HeapCell) : heapHeaderSize * cells.length ≤ extent cells := by
  induction cells with
  | nil => exact Nat.zero_le _
  | cons cell rest ih =>
    simp only [List.length_cons, extent_cons, HeapCell.span, Nat.mul_succ]
    omega

/-- The header of a cell, in place and in order. -/
structure HeaderAt (memory : HeapMemory) (block : Nat) (cell : HeapCell) (prev next : Nat) :
    Prop where
  magic : memory.magic block = heapBlockMagic
  size : memory.size block = cell.size
  prev : memory.prev block = prev
  next : memory.next block = next
  state : memory.state block = cell.state
  guard : memory.guard block = memory.guardFor block

/-- The two memories agree from `low` up to, but without, `high`. -/
def AgreeOn (first second : HeapMemory) (low high : Nat) : Prop :=
  ∀ address, low ≤ address → address < high → second address = first address

/-- The two memories agree except on the header of one block. -/
def AgreeOutside (first second : HeapMemory) (block : Nat) : Prop :=
  ∀ address, address < block ∨ block + heapHeaderSize ≤ address → second address = first address

theorem AgreeOutside.trans {first second third : HeapMemory} {block : Nat}
    (before : AgreeOutside first second block) (after : AgreeOutside second third block) :
    AgreeOutside first third block :=
  fun address outside => (after address outside).trans (before address outside)

variable {first second : HeapMemory}

theorem AgreeOutside.agreeOn {block low high : Nat} (agree : AgreeOutside first second block)
    (apart : high ≤ block ∨ block + heapHeaderSize ≤ low) : AgreeOn first second low high := by
  intro address above below
  apply agree
  omega

theorem AgreeOn.trans {first second third : HeapMemory} {low high : Nat}
    (before : AgreeOn first second low high) (after : AgreeOn second third low high) :
    AgreeOn first third low high :=
  fun address above below => (after address above below).trans (before address above below)

theorem AgreeOn.mono {low high low' high' : Nat}
    (agree : AgreeOn first second low high) (above : low ≤ low') (below : high' ≤ high) :
    AgreeOn first second low' high' :=
  fun address above' below' => agree address (by omega) (by omega)

theorem store_agreeOutside (memory : HeapMemory) (block offset value : Nat)
    (inside : offset < heapHeaderSize) :
    AgreeOutside memory (memory.store (block + offset) value) block := by
  intro address outside
  have different : address ≠ block + offset := by omega
  simp only [HeapMemory.store, different, if_false]

section Stores

variable (memory : HeapMemory) (block value : Nat)

theorem setMagic_agreeOutside : AgreeOutside memory (memory.setMagic block value) block :=
  store_agreeOutside memory block 0 value (by decide)
theorem setSize_agreeOutside : AgreeOutside memory (memory.setSize block value) block :=
  store_agreeOutside memory block 8 value (by decide)
theorem setPrev_agreeOutside : AgreeOutside memory (memory.setPrev block value) block :=
  store_agreeOutside memory block 16 value (by decide)
theorem setNext_agreeOutside : AgreeOutside memory (memory.setNext block value) block :=
  store_agreeOutside memory block 24 value (by decide)
theorem setState_agreeOutside : AgreeOutside memory (memory.setState block value) block :=
  store_agreeOutside memory block 32 value (by decide)
theorem setGuard_agreeOutside : AgreeOutside memory (memory.setGuard block value) block :=
  store_agreeOutside memory block 40 value (by decide)
theorem refreshBlock_agreeOutside : AgreeOutside memory (memory.refreshBlock block) block :=
  (setMagic_agreeOutside memory block _).trans (setGuard_agreeOutside _ block _)

end Stores

/-- The fields of a header survive where the words of the header do. -/
theorem AgreeOn.fields {block : Nat} (agree : AgreeOn first second block (block + heapHeaderSize)) :
    second.magic block = first.magic block ∧ second.size block = first.size block ∧
      second.prev block = first.prev block ∧ second.next block = first.next block ∧
      second.state block = first.state block ∧ second.guard block = first.guard block := by
  simp only [heapHeaderSize] at agree
  exact ⟨agree _ (by omega) (by omega), agree _ (by omega) (by omega),
    agree _ (by omega) (by omega), agree _ (by omega) (by omega), agree _ (by omega) (by omega),
    agree _ (by omega) (by omega)⟩

variable {cell : HeapCell}

theorem HeaderAt.of_agreeOn {block : Nat}
    {prev next : Nat} (header : HeaderAt first block cell prev next)
    (agree : AgreeOn first second block (block + heapHeaderSize)) :
    HeaderAt second block cell prev next := by
  rcases agree.fields with ⟨magic, size, prevSame, nextSame, state, guard⟩
  refine ⟨magic.trans header.magic, size.trans header.size, prevSame.trans header.prev,
    nextSame.trans header.next, state.trans header.state, ?_⟩
  rw [guard, header.guard]
  simp only [HeapMemory.guardFor, size, prevSame, nextSame, state]

variable {memory : HeapMemory}

/-- Refreshing completes a header whose other fields are in place. -/
theorem headerAt_refreshBlock {block : Nat}
    {prev next : Nat} (size : memory.size block = cell.size) (isPrev : memory.prev block = prev)
    (isNext : memory.next block = next) (state : memory.state block = cell.state) :
    HeaderAt (memory.refreshBlock block) block cell prev next := by
  constructor
  · simp [HeapMemory.refreshBlock, HeapMemory.setGuard, HeapMemory.setMagic, HeapMemory.store,
      HeapMemory.magic]
  · rw [← size]
    simp [HeapMemory.refreshBlock, HeapMemory.setGuard, HeapMemory.setMagic, HeapMemory.store,
      HeapMemory.size]
  · rw [← isPrev]
    simp [HeapMemory.refreshBlock, HeapMemory.setGuard, HeapMemory.setMagic, HeapMemory.store,
      HeapMemory.prev]
  · rw [← isNext]
    simp [HeapMemory.refreshBlock, HeapMemory.setGuard, HeapMemory.setMagic, HeapMemory.store,
      HeapMemory.next]
  · rw [← state]
    simp [HeapMemory.refreshBlock, HeapMemory.setGuard, HeapMemory.setMagic, HeapMemory.store,
      HeapMemory.state]
  · simp [HeapMemory.refreshBlock, HeapMemory.setGuard, HeapMemory.setMagic, HeapMemory.store,
      HeapMemory.guard, HeapMemory.guardFor, HeapMemory.size, HeapMemory.prev, HeapMemory.next,
      HeapMemory.state]

/-- Where the next header is: at the given address, unless there is none. -/
def startOf (cells : List HeapCell) (address after : Nat) : Nat :=
  match cells with
  | [] => after
  | _ :: _ => address

/-- The address of the last header of a sequence. -/
def lastOf : (prev address : Nat) → List HeapCell → Nat
  | prev, _, [] => prev
  | _, address, cell :: rest => lastOf address (address + cell.span) rest

/-- The cells lie in memory from `address` on.  The first header points back
to `prev`, the last one on to `after`. -/
def Laid (memory : HeapMemory) (after : Nat) : (prev address : Nat) → List HeapCell → Prop
  | _, _, [] => True
  | prev, address, cell :: rest =>
    HeaderAt memory address cell prev (startOf rest (address + cell.span) after) ∧
      Laid memory after address (address + cell.span) rest

@[simp] theorem startOf_nil (address after : Nat) : startOf [] address after = after := rfl

@[simp] theorem startOf_cons (cell : HeapCell) (rest : List HeapCell) (address after : Nat) :
    startOf (cell :: rest) address after = address := rfl

theorem startOf_append (first second : List HeapCell) (address after : Nat) :
    startOf (first ++ second) address after =
      startOf first address (startOf second (address + extent first) after) := by
  cases first <;> rfl

@[simp] theorem lastOf_nil (prev address : Nat) : lastOf prev address [] = prev := rfl

@[simp] theorem lastOf_cons (prev address : Nat) (cell : HeapCell) (rest : List HeapCell) :
    lastOf prev address (cell :: rest) = lastOf address (address + cell.span) rest := rfl

@[simp] theorem lastOf_append_singleton (first : List HeapCell) (cell : HeapCell) :
    ∀ prev address, lastOf prev address (first ++ [cell]) = address + extent first := by
  induction first with
  | nil => exact fun _ _ => rfl
  | cons head rest ih =>
    intro prev address
    simp only [List.cons_append, lastOf_cons, ih, extent_cons, Nat.add_assoc]

@[simp] theorem laid_nil (memory : HeapMemory) (after prev address : Nat) :
    Laid memory after prev address [] := trivial

variable {after prev address : Nat}

theorem laid_cons {rest : List HeapCell} :
    Laid memory after prev address (cell :: rest) ↔
      HeaderAt memory address cell prev (startOf rest (address + cell.span) after) ∧
        Laid memory after address (address + cell.span) rest := Iff.rfl

/-- A sequence splits anywhere: the first part goes on to the second, which
points back to the last header of the first. -/
theorem laid_append {after : Nat} (first second : List HeapCell) :
    ∀ prev address, Laid memory after prev address (first ++ second) ↔
      Laid memory (startOf second (address + extent first) after) prev address first ∧
        Laid memory after (lastOf prev address first) (address + extent first) second := by
  induction first with
  | nil =>
    simp
  | cons cell rest ih =>
    intro prev address
    simp only [List.cons_append, laid_cons, ih, lastOf_cons, extent_cons, startOf_append,
      Nat.add_assoc, and_assoc]

theorem Laid.of_agreeOn {after : Nat} {cells : List HeapCell} :
    ∀ {prev address}, Laid first after prev address cells →
      AgreeOn first second address (address + extent cells) →
      Laid second after prev address cells := by
  induction cells with
  | nil => exact fun _ _ => trivial
  | cons cell rest ih =>
    intro prev address laid agree
    simp only [extent_cons, HeapCell.span] at agree
    refine ⟨laid.1.of_agreeOn (agree.mono (Nat.le_refl _) (by omega)), ih laid.2 ?_⟩
    exact agree.mono (by omega) (by simp only [HeapCell.span]; omega)

/-- The back pointer of the first header is rewritten. -/
theorem Laid.setPrev
    {rest : List HeapCell} (laid : Laid memory after prev address (cell :: rest)) (value : Nat) :
    Laid ((memory.setPrev address value).refreshBlock address) after value address (cell :: rest) := by
  have header := laid.1
  have outside : AgreeOutside memory ((memory.setPrev address value).refreshBlock address)
      address := (setPrev_agreeOutside _ _ _).trans (refreshBlock_agreeOutside _ _)
  refine ⟨headerAt_refreshBlock ?_ ?_ ?_ ?_, laid.2.of_agreeOn (outside.agreeOn ?_)⟩
  · rw [← header.size]
    simp [HeapMemory.setPrev, HeapMemory.store, HeapMemory.size]
  · simp [HeapMemory.setPrev, HeapMemory.store, HeapMemory.prev]
  · rw [← header.next]
    simp [HeapMemory.setPrev, HeapMemory.store, HeapMemory.next]
  · rw [← header.state]
    simp [HeapMemory.setPrev, HeapMemory.store, HeapMemory.state]
  · exact Or.inr (by simp only [HeapCell.span]; omega)

/-- The forward pointer of the last header is rewritten. -/
theorem Laid.setNext {first : List HeapCell} (laid : Laid memory after prev address (first ++ [cell])) (value : Nat) :
    Laid ((memory.setNext (address + extent first) value).refreshBlock (address + extent first))
      value prev address (first ++ [cell]) := by
  rcases (laid_append first [cell] prev address).mp laid with ⟨before, last, -⟩
  have outside : AgreeOutside memory ((memory.setNext (address + extent first)
      value).refreshBlock (address + extent first)) (address + extent first) :=
    (setNext_agreeOutside _ _ _).trans (refreshBlock_agreeOutside _ _)
  refine (laid_append first [cell] prev address).mpr
    ⟨before.of_agreeOn (outside.agreeOn (Or.inl (Nat.le_refl _))), ?_, trivial⟩
  refine headerAt_refreshBlock ?_ ?_ ?_ ?_
  · rw [← last.size]
    simp [HeapMemory.setNext, HeapMemory.store, HeapMemory.size]
  · rw [← last.prev]
    simp [HeapMemory.setNext, HeapMemory.store, HeapMemory.prev]
  · simp [HeapMemory.setNext, HeapMemory.store, HeapMemory.next]
  · rw [← last.state]
    simp [HeapMemory.setNext, HeapMemory.store, HeapMemory.state]

end BoringOS.Memory
