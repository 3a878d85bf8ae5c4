import Mathlib.Algebra.BigOperators.Group.Finset.Piecewise

namespace BoringOS.Library

universe u v

/-!
# References and reference counts

Two disciplines for objects that are reached through references.  Under the
first every open object has exactly one reference.  Under the second an
object keeps the number of its references.  A reference can be added, dropped
or handed on, and each discipline has one rule for each of these changes.
The rules take the relation after a change in terms of the one before, so
that they apply however the references are represented.
-/

section UniquelyReferenced

variable {Target : Type u} {Reference : Type v}

/-- Every open target has exactly one reference, and nothing else has any. -/
structure UniquelyReferenced (isOpen : Target → Prop) (refers : Reference → Target → Prop) :
    Prop where
  total : ∀ target, isOpen target → ∃ reference, refers reference target
  sound : ∀ reference target, refers reference target → isOpen target
  unique : ∀ reference other target, refers reference target → refers other target →
    reference = other

variable {isOpen isOpen' : Target → Prop} {refers refers' : Reference → Target → Prop}

namespace UniquelyReferenced

section

variable (before : UniquelyReferenced isOpen refers)
include before

theorem congr (openSame : ∀ target, isOpen' target ↔ isOpen target)
    (refersSame : ∀ reference target, refers' reference target ↔ refers reference target) :
    UniquelyReferenced isOpen' refers' := by
  refine ⟨fun target isOpen => ?_, fun reference target refers => ?_,
    fun reference other target refers otherRefers => ?_⟩
  · rcases before.total target ((openSame target).mp isOpen) with ⟨reference, refers⟩
    grind
  · exact (openSame target).mpr (before.sound _ _ ((refersSame _ _).mp refers))
  · exact before.unique _ _ target ((refersSame _ _).mp refers) ((refersSame _ _).mp otherRefers)

theorem insert {opened : Target} {fresh : Reference} (closed : ¬ isOpen opened)
    (openIff : ∀ target, isOpen' target ↔ isOpen target ∨ target = opened)
    (refersIff : ∀ reference target, refers' reference target ↔
      refers reference target ∨ reference = fresh ∧ target = opened) :
    UniquelyReferenced isOpen' refers' := by
  have unreferenced : ∀ reference, ¬ refers reference opened :=
    fun reference refers => closed (before.sound _ _ refers)
  refine ⟨fun target isOpen => ?_, fun reference target refers => ?_,
    fun reference other target refers otherRefers => ?_⟩
  · rcases (openIff target).mp isOpen with old | rfl
    · rcases before.total target old with ⟨reference, refers⟩
      grind
    simp [*]
  · rcases (refersIff _ _).mp refers with old | ⟨-, rfl⟩
    · exact (openIff target).mpr (Or.inl (before.sound _ _ old))
    · exact (openIff target).mpr (Or.inr rfl)
  · rcases (refersIff _ _).mp refers with old | ⟨rfl, rfl⟩
    · rcases (refersIff _ _).mp otherRefers with otherOld | ⟨-, rfl⟩
      · exact before.unique _ _ target old otherOld
      · exact absurd old (unreferenced reference)
    simp_all

theorem away_iff {dropped : Reference}
    {closed : Target} (inside : refers dropped closed) {reference : Reference} {target : Target} :
    refers reference target ∧ ¬ (reference = dropped ∧ target = closed) ↔
      refers reference target ∧ target ≠ closed := by
  constructor
  · rintro ⟨refers, different⟩
    refine ⟨refers, ?_⟩
    rintro rfl
    exact different ⟨before.unique _ _ _ refers inside, rfl⟩
  simp_all

theorem erase {closed : Target} {dropped : Reference} (inside : refers dropped closed)
    (openIff : ∀ target, isOpen' target ↔ isOpen target ∧ target ≠ closed)
    (refersIff : ∀ reference target, refers' reference target ↔
      refers reference target ∧ ¬ (reference = dropped ∧ target = closed)) :
    UniquelyReferenced isOpen' refers' := by
  simp only [before.away_iff inside] at refersIff
  refine ⟨fun target isOpen => ?_, fun reference target refers => ?_,
    fun reference other target refers otherRefers => ?_⟩
  · rcases (openIff target).mp isOpen with ⟨old, different⟩
    rcases before.total target old with ⟨reference, refers⟩
    grind
  · rcases (refersIff _ _).mp refers with ⟨old, different⟩
    exact (openIff target).mpr ⟨before.sound _ _ old, different⟩
  · exact before.unique _ _ target ((refersIff _ _).mp refers).1 ((refersIff _ _).mp otherRefers).1

theorem transfer {moved : Target} {dropped fresh : Reference} (inside : refers dropped moved)
    (openSame : ∀ target, isOpen' target ↔ isOpen target)
    (refersIff : ∀ reference target, refers' reference target ↔
      refers reference target ∧ ¬ (reference = dropped ∧ target = moved) ∨
        reference = fresh ∧ target = moved) : UniquelyReferenced isOpen' refers' := by
  have without : UniquelyReferenced (fun target => isOpen target ∧ target ≠ moved)
      (fun reference target => refers reference target ∧
        ¬ (reference = dropped ∧ target = moved)) :=
    before.erase inside (fun _ => Iff.rfl) (fun _ _ => Iff.rfl)
  refine without.insert (fun both : isOpen moved ∧ moved ≠ moved => both.2 rfl) ?_ refersIff
  intro target
  rw [openSame]
  constructor
  · grind
  · rintro (⟨isOpen, -⟩ | rfl)
    · exact isOpen
    · exact before.sound _ _ inside

end

end UniquelyReferenced

end UniquelyReferenced

section Counted

variable {Holder : Type u} {holds holds' : Holder → Prop} {count : Nat}

/-- The number of those who hold a reference. -/
def Counted (holds : Holder → Prop) (count : Nat) : Prop :=
  ∃ holders : Finset Holder, (∀ holder, holder ∈ holders ↔ holds holder) ∧ holders.card = count

namespace Counted

theorem none (nobody : ∀ holder, ¬ holds holder) : Counted holds 0 := by
  refine ⟨∅, fun holder => ?_, Finset.card_empty⟩
  simp [*]

section

variable (before : Counted holds count)
include before

theorem congr (same : ∀ holder, holds' holder ↔ holds holder) : Counted holds' count := by
  rcases before with ⟨holders, members, card⟩
  exact ⟨holders, fun holder => (members holder).trans (same holder).symm, card⟩

theorem insert {fresh : Holder} (outside : ¬ holds fresh)
    (after : ∀ holder, holds' holder ↔ holds holder ∨ holder = fresh) :
    Counted holds' (count + 1) := by
  classical
  rcases before with ⟨holders, members, card⟩
  refine ⟨Insert.insert fresh holders, fun holder => ?_, ?_⟩
  · grind
  simp [*]

theorem erase {dropped : Holder} (inside : holds dropped)
    (after : ∀ holder, holds' holder ↔ holds holder ∧ holder ≠ dropped) :
    0 < count ∧ Counted holds' (count - 1) := by
  classical
  rcases before with ⟨holders, members, card⟩
  refine ⟨?_, holders.erase dropped, fun holder => ?_, ?_⟩
  · grind
  · grind
  grind

/-- A reference is handed on. -/
theorem transfer {dropped fresh : Holder} (inside : holds dropped) (outside : ¬ holds fresh)
    (after : ∀ holder, holds' holder ↔ holds holder ∧ holder ≠ dropped ∨ holder = fresh) :
    Counted holds' count := by
  have erased : 0 < count ∧ Counted (fun holder => holds holder ∧ holder ≠ dropped) (count - 1) :=
    before.erase inside (fun _ => Iff.rfl)
  rcases erased with ⟨positive, without⟩
  have again := without.insert (fun both => outside both.1) after
  grind

theorem unique {other : Nat} (again : Counted holds other) : count = other := by
  rcases before with ⟨holders, members, card⟩
  rcases again with ⟨others, otherMembers, otherCard⟩
  have same : holders = others := by
    ext holder
    rw [members, otherMembers]
  rw [← card, ← otherCard, same]

/-- The holders fall into two groups. -/
theorem split (group : Holder → Prop) :
    ∃ inside outside, Counted (fun holder => holds holder ∧ group holder) inside ∧
      Counted (fun holder => holds holder ∧ ¬ group holder) outside ∧
      inside + outside = count := by
  classical
  rcases before with ⟨holders, members, card⟩
  refine ⟨(holders.filter group).card, (holders.filter fun holder => ¬ group holder).card,
    ⟨_, fun holder => ?_, rfl⟩, ⟨_, fun holder => ?_, rfl⟩, ?_⟩
  · rw [Finset.mem_filter, members]
  · rw [Finset.mem_filter, members]
  · rw [← card]
    exact Finset.card_filter_add_card_filter_not group

theorem rename {Name : Type v} (named : Name → Holder)
    (name : Holder → Name) (left : ∀ own, name (named own) = own)
    (right : ∀ holder, holds holder → named (name holder) = holder) :
    Counted (fun own => holds (named own)) count := by
  classical
  rcases before with ⟨holders, members, card⟩
  refine ⟨holders.image name, fun own => ?_, ?_⟩
  · rw [Finset.mem_image]
    grind
  · rw [← card]
    apply Finset.card_image_of_injOn
    intro first isFirst second isSecond same
    grind

end

theorem nobody (before : Counted holds 0) (holder : Holder) : ¬ holds holder := by
  rcases before with ⟨holders, members, card⟩
  simp_all

end Counted

end Counted

/-!
## Tallies of references

Objects that count their references, where the references are kept in places
of a known kind.  A tally is the multiset of all targets that are referred to,
each as often as it is referred to.  Retaining and releasing an object keeps
its tally.  What all places hold together is a total, and a place can be
changed without a look at the other places.
-/

section Tallied

variable {Target : Type u} [DecidableEq Target] {count count' : Target → Nat}
  {references : Multiset Target}

/-- Every target counts the references to it. -/
def Tallied (count : Target → Nat) (references : Multiset Target) : Prop :=
  ∀ target, count target = references.count target

namespace Tallied

theorem none (nothing : ∀ target, count target = 0) : Tallied count 0 := by
  assumption

theorem positive (tallied : Tallied count references) {target : Target}
    (member : target ∈ references) : 0 < count target := by
  rw [tallied target]
  exact Multiset.count_pos.mpr member

theorem congr (tallied : Tallied count references)
    (same : ∀ target, count' target = count target) : Tallied count' references := by
  intro target
  rw [same target, tallied target]

theorem retain (tallied : Tallied count references) {target : Target}
    (counted : count' target = count target + 1)
    (others : ∀ other, other ≠ target → count' other = count other) :
    Tallied count' (target ::ₘ references) := by
  intro other
  by_cases same : other = target
  · rw [same, counted, tallied target, Multiset.count_cons_self]
  · rw [others other same, tallied other, Multiset.count_cons_of_ne same]

theorem release {target : Target} (tallied : Tallied count (target ::ₘ references))
    (counted : count' target = count target - 1)
    (others : ∀ other, other ≠ target → count' other = count other) :
    Tallied count' references := by
  intro other
  by_cases same : other = target
  · rw [same, counted, tallied target, Multiset.count_cons_self, Nat.add_sub_cancel]
  · rw [others other same, tallied other, Multiset.count_cons_of_ne same]

end Tallied

end Tallied

section Totals

variable {Slot : Type u} {Item : Type v} {holds holds' : Slot → Multiset Item}
  {total : Multiset Item}

/-- What all places hold together; all but finitely many places hold nothing. -/
def TotalOf (holds : Slot → Multiset Item) (total : Multiset Item) : Prop :=
  ∃ slots : Finset Slot, (∀ slot, slot ∉ slots → holds slot = 0) ∧ total = ∑ slot ∈ slots, holds slot

namespace TotalOf

theorem nothing (empty : ∀ slot, holds slot = 0) : TotalOf holds 0 :=
  ⟨∅, fun slot _ => empty slot, rfl⟩

/-- A place can be told apart from the rest, and may then hold something else. -/
theorem split (isTotal : TotalOf holds total) (slot : Slot) :
    ∃ rest, total = holds slot + rest ∧ ∀ holds' : Slot → Multiset Item,
      (∀ other, other ≠ slot → holds' other = holds other) → TotalOf holds' (holds' slot + rest) := by
  classical
  rcases isTotal with ⟨slots, outside, rfl⟩
  refine ⟨∑ other ∈ slots.erase slot, holds other, ?_, fun holds' others => ?_⟩
  · by_cases member : slot ∈ slots
    · exact (Finset.add_sum_erase slots holds member).symm
    simp [*]
  · refine ⟨insert slot slots, fun other absent => ?_, ?_⟩
    · simp_all
    · rw [← Finset.add_sum_erase _ holds' (Finset.mem_insert_self slot slots), Finset.erase_insert_eq_erase]
      congr 1
      apply Finset.sum_congr rfl
      simp_all

/-- Places that hold at most one item each are counted by their items. -/
theorem counted (isTotal : TotalOf holds total) (p : Item → Prop) [DecidablePred p]
    (atMostOne : ∀ slot, (holds slot).card ≤ 1) :
    Counted (fun slot => ∃ item, item ∈ holds slot ∧ p item) (total.countP p) := by
  classical
  rcases isTotal with ⟨slots, outside, rfl⟩
  refine ⟨slots.filter fun slot => ∃ item, item ∈ holds slot ∧ p item, fun slot => ?_, ?_⟩
  · rw [Finset.mem_filter]
    constructor
    · exact fun both => both.2
    grind
  · rw [Finset.card_filter, ← Multiset.coe_countPAddMonoidHom, map_sum]
    apply Finset.sum_congr rfl
    intro slot _
    rw [Multiset.coe_countPAddMonoidHom]
    rcases Nat.le_one_iff_eq_zero_or_eq_one.mp (atMostOne slot) with none | one
    · simp_all
    rcases Multiset.card_eq_one.mp one with ⟨item, single⟩
    rw [single, ← Multiset.cons_zero, Multiset.countP_cons, Multiset.countP_zero, zero_add]
    simp

end TotalOf

end Totals

end BoringOS.Library
