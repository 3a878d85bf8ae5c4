import BoringOS.Memory.MappedFrames
import BoringOS.Syscall.UserCopies

namespace BoringOS.Syscall

open Library Memory

/-!
# The copy routines in every reachable address space

A copy succeeds only for a range that the user itself could access, and it
moves exactly the bytes of that range.  A copy out that fails has written the
pages before the first one that it may not use: the routines of `syscall.c`
leave it to their callers to look through the whole range first.  After such a
check, as in `m36_syscall.c`, nothing has been written.
-/

variable (paging : Paging)

/-- Every byte of the range could be accessed by the user itself. -/
def RangeAccessible (writable : Bool) (address length : Nat) : Prop :=
  ∀ index < length, ∃ physical,
    ring3UserTranslate paging (address + index) writable = some physical ∧
      UserAccessible paging writable (address + index) physical

/-- The bytes have been written to their places, a later one over an earlier
one, and nothing else has changed. -/
structure Written (paging : Paging) (address : Nat) (bytes : List UInt8) (memory : TableMemory) :
    Prop where
  ownBytes : ∀ index byte physical, bytes[index]? = some byte →
    ring3UserTranslate paging (address + index) true = some physical →
    (∀ later, index < later → later < bytes.length →
      ring3UserTranslate paging (address + later) true ≠ some physical) →
    memory.readByte physical = byte
  otherBytes : ∀ physical, (∀ index < bytes.length,
      ring3UserTranslate paging (address + index) true ≠ some physical) →
    memory.readByte physical = paging.memory.readByte physical
  otherEntries : ∀ frame entry, (∀ index < bytes.length, ∀ physical,
      ring3UserTranslate paging (address + index) true = some physical →
      ¬ (frame = frameOf physical ∧ entry = entryOf physical)) →
    memory frame entry = paging.memory frame entry

/-- The checks that are made before any page is looked at -/
def Admitted (paging : Paging) (processAlive given : Bool) (address length : Nat) : Prop :=
  given = true ∧ ring3UserRangeValid address length = true ∧ paging.vmmInitialized = true ∧
    processHasUserMemory paging processAlive = true

/-- What a copy in does, with the bytes that it has put into the buffer -/
structure CopiesIn (paging : Paging) (admitted : Prop) (address length : Nat)
    (result : Bool × List UInt8) : Prop where
  succeeds : result.1 = true ↔ admitted ∧ RangeAccessible paging false address length
  complete : result.1 = true → result.2.length = length
  bytes : result.1 = true → ∀ index < length, ∀ physical,
    ring3UserTranslate paging (address + index) false = some physical →
    result.2[index]? = some (paging.memory.readByte physical)

/-- What a copy out does -/
structure CopiesOut (paging : Paging) (admitted : Prop) (address : Nat) (source : List UInt8)
    (result : Bool × Paging) : Prop where
  onlyMemory : result.2 = { paging with memory := result.2.memory }
  succeeds : result.1 = true ↔ admitted ∧ RangeAccessible paging true address source.length
  written : result.1 = true → Written paging address source result.2.memory
  refused : ¬ admitted → result.2 = paging

variable {memoryMap : List MemmapEntry} {trace : PagingTrace}

variable {writable : Bool}

theorem RangeMapped.accessible {paging : Paging} {address length : Nat}
    (mapped : RangeMapped paging writable address length) :
    RangeAccessible paging writable address length := by
  intro index inside
  rcases mapped index inside with ⟨physical, found⟩
  exact ⟨physical, found, (ring3UserTranslate_accessible found).1⟩

/-- A translation needs the direct map. -/
theorem root_of_translate {paging : Paging} {virtualAddress physical : Nat}
    (found : ring3UserTranslate paging virtualAddress writable = some physical) :
    ring3TablePointer paging paging.space.rootPhysical = some paging.space.rootPhysical := by
  rw [ring3UserTranslate, ring3UserQueryMapping] at found
  split at found
  · cases found
  · grind [ring3TablePointer_eq]

theorem reachable_of_translate (sound : trace.Sound memoryMap) {virtualAddress physical : Nat} (asksForHalf : Bool)
    (found : ring3UserTranslate trace.paging virtualAddress writable = some physical) :
    physicalReachable trace.paging.hhdmOffset asksForHalf physical = true := by
  rcases sound with ⟨tables, leaves, agrees⟩
  have accepted := agrees.invariant.accepted
  have high := (highHalf_of_root accepted (root_of_translate found)).1
  have usable := (ring3UserTranslate_accessible found).2
  have offset := ring3UserTranslate_offset found
  rcases usable_frame accepted high agrees.invariant.ledger.invariant usable with ⟨-, pointer⟩
  have inRange : physical - virtualAddress % vmmPageSize ≤ uint64Max - trace.paging.hhdmOffset ∧
      (physical - virtualAddress % vmmPageSize) % vmmPageSize = 0 := by
    rw [addressSpaceTablePointer] at pointer
    split at pointer
    · cases pointer
    rename_i checked
    simp only [not_or, Bool.not_eq_false, addressSpacePhysicalSupported, Bool.and_eq_true] at checked
    exact ⟨Nat.not_lt.mp checked.2, pageAligned_iff.mp checked.1.1⟩
  have aligned : trace.paging.hhdmOffset % vmmPageSize = 0 ∧ trace.paging.hhdmOffset < uint64Max := by
    rw [vmmHhdmAccepted] at accepted
    simp only [Bool.and_eq_true] at accepted
    refine ⟨pageAligned_iff.mp accepted.1.1, ?_⟩
    have fits := accepted.2
    split at fits
    · cases fits
    · grind
  simp only [HighHalf, vmmPageSize, uint64Max] at high inRange offset aligned
  rw [physicalReachable, Bool.and_eq_true, Bool.or_eq_true, beq_iff_eq, Nat.shiftRight_eq_div_pow]
  grind [uint64Max]

theorem StoppedAt.missing (sound : trace.Sound memoryMap) {asksForHalf : Bool}
    {address length count : Nat}
    (stopped : StoppedAt trace.paging (physicalReachable trace.paging.hhdmOffset asksForHalf) writable
      address length count) :
    ring3UserTranslate trace.paging (address + count) writable = none ∧
      ¬ RangeAccessible trace.paging writable address length := by
  have missing : ring3UserTranslate trace.paging (address + count) writable = none := by
    cases found : ring3UserTranslate trace.paging (address + count) writable with
    | none => rfl
    | some physical =>
      have refused := stopped.refused physical found
      grind [reachable_of_translate]
  refine ⟨missing, fun accessible => ?_⟩
  rcases accessible count stopped.inside with ⟨physical, found, -⟩
  rw [missing] at found
  cases found

section

variable {paging : Paging} {admitted : Prop} {address : Nat} {source : List UInt8}

theorem CopiesOut.refuse (outside : ¬ admitted) :
    CopiesOut paging admitted address source (false, paging) :=
  ⟨rfl, ⟨nofun, fun both => absurd both.1 outside⟩, nofun, fun _ => rfl⟩

theorem CopiesIn.refuse {length : Nat} {output : List UInt8}
    (outside : ¬ (admitted ∧ RangeAccessible paging false address length)) :
    CopiesIn paging admitted address length (false, output) :=
  ⟨⟨nofun, fun both => absurd both outside⟩, nofun, nofun⟩

theorem CopiesOut.granted {result : Bool × Paging} (copies : CopiesOut paging True address source result)
    (inside : admitted) : CopiesOut paging admitted address source result :=
  { copies with
    succeeds := by rw [copies.succeeds, true_and, and_iff_right inside]
    refused := fun outside => absurd inside outside }

theorem CopiesIn.granted {length : Nat} {result : Bool × List UInt8}
    (copies : CopiesIn paging True address length result) (inside : admitted) :
    CopiesIn paging admitted address length result :=
  { copies with succeeds := by rw [copies.succeeds, true_and, and_iff_right inside] }

end

end BoringOS.Syscall
