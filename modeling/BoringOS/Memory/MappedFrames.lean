import BoringOS.Memory.AddressSpaceRuns
import BoringOS.Memory.Ring3Queries

namespace BoringOS.Memory

open Library

/-!
# The frames behind user pages

Who maps a frame holds it, and gives it back only when it is mapped no more.
Under this discipline the frames behind the pages of a user are never tables
of the address space, and what a query translates is what the record of the
mappings says.
-/

namespace PagingShape

variable {paging : Paging} {tables : TableMap} {leaves : LeafMap}

theorem next_table (shape : PagingShape paging tables leaves) {page depth frame : Nat}
    (user : page < 2 ^ 35) (notLast : depth < 3) (at' : tables depth (ancestor page depth) = some frame)
    (present : paging.memory frame (ancestor page (depth + 1) % 512) &&& entryPresent ≠ 0) :
    tables (depth + 1) (ancestor page (depth + 1)) =
      some (paging.memory frame (ancestor page (depth + 1) % 512) &&& entryAddressMask) := by
  have above : tables depth (ancestor page (depth + 1) / 512) = some frame := by
    rw [ancestor_div (by omega)]
    exact at'
  have inRoot : depth = 0 → ancestor page (depth + 1) < 256 := by
    rintro rfl
    exact (ancestor_bounds user).2
  have entry := shape.entry depth (ancestor page (depth + 1)) frame notLast above inRoot
  rw [entry] at present ⊢
  cases below : tables (depth + 1) (ancestor page (depth + 1)) with
  | none =>
    simp_all [entryFor, Nat.zero_and]
  | some child => rw [entryFor, (tableEntry_readings (shape.entryAddress below)).2.2.2]

theorem leaf_of_walk (shape : PagingShape paging tables leaves) {writable : Bool}
    {virtualAddress physical : Nat} (accessible : UserAccessible paging writable virtualAddress physical) :
    leaves (virtualAddress / vmmPageSize) ≠ 0 ∧
      physical = (leaves (virtualAddress / vmmPageSize) &&& entryAddressMask) +
        virtualAddress % vmmPageSize := by
  have lower := accessible.lower
  have user : virtualAddress / vmmPageSize < 2 ^ 35 := by
    simp only [vmmPageSize]
    omega
  have root : tables 0 (ancestor (virtualAddress / vmmPageSize) 0) = some paging.space.rootPhysical := by
    rw [(ancestor_bounds user).1]
    exact shape.root
  have indices := tableIndex_ancestor virtualAddress
  rcases accessible.walk with _ | ⟨first, -, walk⟩
  rcases walk with _ | ⟨second, -, walk⟩
  rcases walk with _ | ⟨third, -, walk⟩
  rcases walk with _ | ⟨fourth, -, walk⟩
  rw [indices.1] at first second third fourth walk
  rw [indices.2.1] at second third fourth walk
  rw [indices.2.2.1] at third fourth walk
  rw [indices.2.2.2] at fourth walk
  have pdpt := shape.next_table user (by decide) root first.1
  have pd := shape.next_table user (by decide) pdpt second.1
  have pt := shape.next_table user (by decide) pd third.1
  have parent : ancestor (virtualAddress / vmmPageSize) 3 = virtualAddress / vmmPageSize / 512 := by
    rw [← ancestor_div (by decide), ancestor_four]
  have leaf := shape.leaf (virtualAddress / vmmPageSize) _ (by rw [← parent]; exact pt)
  rw [ancestor_four] at fourth walk
  rw [leaf] at fourth walk
  refine ⟨fun unmapped => ?_, ?_⟩
  · rw [unmapped] at fourth
    exact fourth.1 (Nat.zero_and _)
  · cases walk
    rfl

end PagingShape

namespace PagingTrace

variable {memoryMap : List MemmapEntry} {trace : PagingTrace}

theorem Sound.mapped_of_translate (sound : trace.Sound memoryMap) {virtualAddress physical : Nat}
    {requireWritable : Bool}
    (found : ring3UserTranslate trace.paging virtualAddress requireWritable = some physical) :
    trace.mapped (virtualAddress / vmmPageSize * vmmPageSize) = some (frameOf physical) := by
  rcases sound with ⟨tables, leaves, agrees⟩
  have accessible := (ring3UserTranslate_accessible found).1
  rcases agrees.invariant.shape.leaf_of_walk accessible with ⟨mapped, isPhysical⟩
  have lower := accessible.lower
  have user : UserPage (virtualAddress / vmmPageSize * vmmPageSize) := by
    refine ⟨?_, Nat.mul_mod_left _ _⟩
    simp only [vmmPageSize]
    omega
  rw [agrees.user _ user, Nat.mul_div_cancel _ (by decide), leafTarget, if_neg mapped]
  have aligned : (leaves (virtualAddress / vmmPageSize) &&& entryAddressMask) % vmmPageSize = 0 := by
    rw [show vmmPageSize = 2 ^ 12 from rfl, ← Nat.and_two_pow_sub_one_eq_mod, Nat.and_assoc,
      show entryAddressMask &&& (2 ^ 12 - 1) = 0 from rfl, Nat.and_zero]
  grind [frameOf, vmmPageSize]

/-- Every mapped frame is held. -/
def Held (trace : PagingTrace) : Prop :=
  ∀ virtualAddress frame, trace.mapped virtualAddress = some frame → trace.others frame = true

/-- Under the discipline, the frames behind user pages are no tables. -/
theorem Sound.apart (sound : trace.Sound memoryMap) (held : trace.Held)
    {virtualAddress physical : Nat} {requireWritable : Bool}
    (found : ring3UserTranslate trace.paging virtualAddress requireWritable = some physical) :
    ¬ IsTable trace.paging (frameOf physical) := by
  have isHeld := held _ _ (sound.mapped_of_translate found)
  rcases sound with ⟨tables, leaves, agrees⟩
  have owned : frameOf physical ∉ trace.paging.space.ownedTableFrames := by
    intro member
    rw [agrees.invariant.ledger.apart _ member] at isHeld
    cases isHeld
  rintro (isRoot | isOwned)
  · rw [isRoot] at owned
    exact owned (agrees.invariant.shape.mem_owned agrees.invariant.shape.root)
  · exact owned isOwned

end PagingTrace

end BoringOS.Memory
