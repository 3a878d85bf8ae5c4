import Mathlib.Init

namespace BoringOS.Library

universe u v w

/-!
# Ledgers of owned resources

Resources are handed out and taken back.  A ledger says who owns what: every
resource that has an owner is taken, and it has one owner only.  Nobody can
then give back what belongs to somebody else.
-/

structure Ledger {Owner : Type u} {Resource : Type v} (owns : Owner → Resource → Prop)
    (taken : Resource → Prop) : Prop where
  taken : ∀ owner resource, owns owner resource → taken resource
  unique : ∀ first second resource, owns first resource → owns second resource → first = second

namespace Ledger

variable {Owner : Type u} {Other : Type w} {Resource : Type v} {owns : Owner → Resource → Prop}
  {taken taken' : Resource → Prop}

/-- Owners may be renamed, and may drop out. -/
theorem relabel (ledger : Ledger owns taken) {owns' : Other → Resource → Prop}
    (label : Other → Owner) (owned : ∀ owner resource, owns' owner resource →
      owns (label owner) resource)
    (apart : ∀ first second resource, owns' first resource → owns' second resource →
      label first = label second → first = second) : Ledger owns' taken where
  taken owner resource has := ledger.taken _ _ (owned owner resource has)
  unique first second resource hasFirst hasSecond :=
    apart first second resource hasFirst hasSecond
      (ledger.unique _ _ _ (owned first resource hasFirst) (owned second resource hasSecond))

theorem handOut (ledger : Ledger owns taken) {owns' : Owner → Resource → Prop} (fresh : Owner)
    (resource : Resource) (wasFree : ¬ taken resource)
    (after : ∀ other, taken' other ↔ taken other ∨ other = resource)
    (owned : ∀ owner other, owns' owner other →
      owns owner other ∨ owner = fresh ∧ other = resource) : Ledger owns' taken' where
  taken owner other has := by
    apply (after other).mpr
    rcases owned owner other has with before | ⟨-, isIt⟩
    · exact Or.inl (ledger.taken owner other before)
    · exact Or.inr isIt
  unique first second other hasFirst hasSecond := by
    rcases owned first other hasFirst with firstBefore | ⟨rfl, firstIt⟩
    · rcases owned second other hasSecond with secondBefore | ⟨-, secondIt⟩
      · exact ledger.unique first second other firstBefore secondBefore
      · exact absurd (secondIt ▸ ledger.taken first other firstBefore) wasFree
    · rcases owned second other hasSecond with secondBefore | ⟨rfl, -⟩
      · exact absurd (firstIt ▸ ledger.taken second other secondBefore) wasFree
      · rfl

theorem giveBack (ledger : Ledger owns taken) {owns' : Owner → Resource → Prop} {owner : Owner}
    {resource : Resource} (has : owns owner resource)
    (after : ∀ other, taken' other ↔ taken other ∧ other ≠ resource)
    (owned : ∀ other another, owns' other another → owns other another ∧
      ¬ (other = owner ∧ another = resource)) : Ledger owns' taken' where
  taken other another hasOther := by
    rcases owned other another hasOther with ⟨before, isOther⟩
    apply (after another).mpr
    refine ⟨ledger.taken other another before, ?_⟩
    intro isIt
    subst isIt
    exact isOther ⟨ledger.unique other owner another before has, rfl⟩
  unique first second other hasFirst hasSecond :=
    ledger.unique first second other (owned first other hasFirst).1 (owned second other hasSecond).1

end Ledger

end BoringOS.Library
