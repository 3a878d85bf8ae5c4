import BoringOS.Memory.Ring3Queries

namespace BoringOS.Syscall

open Memory

/-!
# Copying from and to user memory

A transcription of the copy routines of `kernel/core/syscall.c` and of
`kernel/core/m36_syscall.c`.  All of them go through a range page by page.
Those of the first file decide at every page anew, and those of the second
look through the whole range before they copy anything.

The process is known by its address space, which is that of the machine, and
by whether it exists and is alive.  A buffer of the kernel is a list of bytes.
-/

variable (paging : Paging) (processAlive : Bool)

/-- The checks that the routines make on the process -/
def processHasUserMemory : Bool := processAlive && !paging.space.bootstrap

/-- The tests on a physical address before the direct map is used.  Only
`syscall.c` asks whether the result lies in the higher half. -/
def physicalReachable (hhdmOffset : Nat) (asksForHalf : Bool) (physical : Nat) : Bool :=
  decide (physical ≤ uint64Max - hhdmOffset) && (!asksForHalf || (hhdmOffset + physical) >>> 48 == 0xffff)

/-- Every byte of the range has a place. -/
def RangeMapped (writable : Bool) (address length : Nat) : Prop :=
  ∀ index < length, ∃ physical, ring3UserTranslate paging (address + index) writable = some physical

/-- The copy cannot go on at this address. -/
def Refused (reachable : Nat → Bool) (writable : Bool) (virtualAddress : Nat) : Prop :=
  ∀ physical, ring3UserTranslate paging virtualAddress writable = some physical → reachable physical = false

/-- The pages of the range hold no tables of the address space. -/
def RangeApart (address length : Nat) : Prop :=
  ∀ index < length, ∀ physical, ring3UserTranslate paging (address + index) true = some physical →
    ¬ IsTable paging (frameOf physical)

theorem RangeMapped.zero (writable : Bool) (address : Nat) :
    RangeMapped paging writable address 0 :=
  fun _ impossible => absurd impossible (Nat.not_lt_zero _)

variable {writable : Bool}

theorem rangeMapped_add {paging : Paging} {address first rest : Nat} :
    RangeMapped paging writable address (first + rest) ↔
      RangeMapped paging writable address first ∧ RangeMapped paging writable (address + first) rest := by
  constructor
  · intro mapped
    refine ⟨fun index _ => mapped index (by omega), fun index inside => ?_⟩
    rw [Nat.add_assoc]
    exact mapped (first + index) (by omega)
  · rintro ⟨inFirst, inRest⟩ index inside
    by_cases early : index < first
    · exact inFirst index early
    · have later := inRest (index - first) (by omega)
      simp_all

theorem RangeApart.rest {paging : Paging} {address first rest : Nat}
    (apart : RangeApart paging address (first + rest)) :
    RangeApart paging (address + first) rest := by
  intro index inside physical found
  rw [Nat.add_assoc] at found
  exact apart (first + index) (by omega) physical found

/-- Where a copy has stopped: at the beginning of the range or of a page -/
structure StoppedAt (paging : Paging) (reachable : Nat → Bool) (writable : Bool)
    (address length count : Nat) : Prop where
  inside : count < length
  atPage : count = 0 ∨ (address + count) % vmmPageSize = 0
  before : RangeMapped paging writable address count
  refused : Refused paging reachable writable (address + count)

theorem StoppedAt.later {paging : Paging} {reachable : Nat → Bool}
    {address first rest count : Nat} (ends : rest = 0 ∨ (address + first) % vmmPageSize = 0)
    (mapped : RangeMapped paging writable address first)
    (stopped : StoppedAt paging reachable writable (address + first) rest count) :
    StoppedAt paging reachable writable address (first + rest) (first + count) := by
  have inside := stopped.inside
  refine ⟨by omega, Or.inr ?_, rangeMapped_add.mpr ⟨mapped, stopped.before⟩, ?_⟩
  · grind [atPage]
  · rw [← Nat.add_assoc]
    exact stopped.refused

end BoringOS.Syscall
