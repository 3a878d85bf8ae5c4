import Mathlib.Data.Nat.ModEq

namespace BoringOS.Library

universe u

variable {α : Type u}

/-!
# Ring buffers

A ring buffer is an array with the position of its oldest element and a
count.  What it holds is the list read from that position onwards, around the
end of the array.  Writing behind the last element appends to this list, and
moving the position forward takes off its head; neither depends on what the
unused positions hold.
-/

/-- The elements of a ring, oldest first. -/
def ringContents (slots : Nat → α) (capacity : Nat) : (head count : Nat) → List α
  | _, 0 => []
  | head, count + 1 => slots head :: ringContents slots capacity ((head + 1) % capacity) count

/-- A position that a ring uses. -/
def InRing (capacity head count position : Nat) : Prop :=
  ∃ offset < count, position = (head + offset) % capacity

theorem ringContents_length (slots : Nat → α) (capacity count : Nat) :
    ∀ head, (ringContents slots capacity head count).length = count := by
  induction count with
  | zero => exact fun _ => rfl
  | succ count ih => exact fun head => by rw [ringContents, List.length_cons, ih]

theorem not_inRing_zero (capacity head position : Nat) : ¬ InRing capacity head 0 position := by
  nofun

/-- The used positions are the first one and those of the rest. -/
theorem inRing_succ {capacity head : Nat} (inside : head < capacity) (count position : Nat) :
    InRing capacity head (count + 1) position ↔
      position = head ∨ InRing capacity ((head + 1) % capacity) count position := by
  constructor
  · rintro ⟨offset, below, rfl⟩
    cases offset with
    | zero => exact Or.inl (Nat.mod_eq_of_lt inside)
    | succ offset =>
      refine Or.inr ⟨offset, by omega, ?_⟩
      rw [Nat.mod_add_mod, Nat.add_assoc, Nat.add_comm 1 offset]
  · rintro (rfl | ⟨offset, below, rfl⟩)
    · exact ⟨0, Nat.succ_pos count, (Nat.mod_eq_of_lt inside).symm⟩
    · refine ⟨offset + 1, by omega, ?_⟩
      rw [Nat.mod_add_mod, Nat.add_assoc, Nat.add_comm 1 offset]

/-- The used positions are those of the older elements and the last one. -/
theorem inRing_push (capacity head count position : Nat) :
    InRing capacity head (count + 1) position ↔
      InRing capacity head count position ∨ position = (head + count) % capacity := by
  constructor
  · rintro ⟨offset, below, rfl⟩
    rcases Nat.lt_or_eq_of_le (Nat.lt_succ_iff.mp below) with less | rfl
    · exact Or.inl ⟨offset, less, rfl⟩
    · exact Or.inr rfl
  · rintro (⟨offset, below, rfl⟩ | rfl)
    · exact ⟨offset, Nat.lt_succ_of_lt below, rfl⟩
    · exact ⟨count, Nat.lt_succ_self count, rfl⟩

theorem ring_position_injective {capacity head offset other : Nat} (below : offset < capacity)
    (otherBelow : other < capacity) (same : (head + offset) % capacity = (head + other) % capacity) :
    offset = other := by
  have cancelled : offset % capacity = other % capacity := Nat.ModEq.add_left_cancel' head same
  simp_all [Nat.mod_eq_of_lt]

theorem inRing_lt {capacity head count position : Nat} (positive : 0 < capacity)
    (inside : InRing capacity head count position) : position < capacity := by
  rcases inside with ⟨-, -, rfl⟩
  exact Nat.mod_lt _ positive

/-- The position behind the last element is not used, unless the ring is full. -/
theorem tail_not_inRing {capacity head count : Nat} (room : count < capacity) :
    ¬ InRing capacity head count ((head + count) % capacity) := by
  rintro ⟨offset, below, same⟩
  have equal := ring_position_injective room (Nat.lt_trans below room) same
  omega

/-- The position of an element that has been taken off is not used. -/
theorem head_not_inRing {capacity head count : Nat} (inside : head < capacity)
    (room : count < capacity) : ¬ InRing capacity ((head + 1) % capacity) count head := by
  rintro ⟨offset, below, same⟩
  rw [Nat.mod_add_mod, Nat.add_assoc] at same
  have start : (head + 0) % capacity = (head + (1 + offset)) % capacity := by
    rw [← same, Nat.add_zero, Nat.mod_eq_of_lt inside]
  have equal := ring_position_injective (by omega) (by omega) start
  omega

theorem ringContents_congr {slots other : Nat → α} {capacity : Nat} (count : Nat) :
    ∀ head, head < capacity →
      (∀ position, InRing capacity head count position → slots position = other position) →
      ringContents slots capacity head count = ringContents other capacity head count := by
  induction count with
  | zero => exact fun _ _ _ => rfl
  | succ count ih =>
    grind [ringContents, inRing_succ, Nat.mod_lt]

theorem ringContents_push {slots : Nat → α} {capacity : Nat} (value : α) (count : Nat) :
    ∀ head, head < capacity → count < capacity →
      ringContents (Function.update slots ((head + count) % capacity) value) capacity head
        (count + 1) = ringContents slots capacity head count ++ [value] := by
  induction count with
  | zero =>
    intro head inside _
    rw [Nat.add_zero, Nat.mod_eq_of_lt inside]
    simp only [ringContents, Function.update_self, List.nil_append]
  | succ count ih =>
    intro head inside room
    have next : (head + (count + 1)) % capacity = ((head + 1) % capacity + count) % capacity := by
      rw [Nat.mod_add_mod, Nat.add_assoc, Nat.add_comm 1 count]
    have apart : head ≠ (head + (count + 1)) % capacity := by
      intro same
      have start : (head + 0) % capacity = (head + (count + 1)) % capacity := by
        rw [← same, Nat.add_zero, Nat.mod_eq_of_lt inside]
      have equal := ring_position_injective (by omega) room start
      omega
    grind [ringContents, Nat.mod_lt]

/-- Overwriting an unused position changes nothing. -/
theorem ringContents_update {slots : Nat → α} {capacity head count position : Nat} (value : α)
    (inside : head < capacity) (unused : ¬ InRing capacity head count position) :
    ringContents (Function.update slots position value) capacity head count =
      ringContents slots capacity head count := by
  apply ringContents_congr count head inside
  grind

theorem mem_ringContents {slots : Nat → α} {capacity : Nat} {value : α} (count : Nat) :
    ∀ head, head < capacity → (value ∈ ringContents slots capacity head count ↔
      ∃ position, InRing capacity head count position ∧ slots position = value) := by
  induction count with
  | zero =>
    intro head _
    constructor
    · intro member
      cases member
    nofun
  | succ count ih =>
    intro head inside
    rw [ringContents, List.mem_cons, ih _ (Nat.mod_lt _ (by omega))]
    constructor
    · grind [inRing_succ]
    grind [inRing_succ]

end BoringOS.Library
