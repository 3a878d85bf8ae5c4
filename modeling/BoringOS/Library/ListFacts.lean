import Mathlib.Data.List.Pairwise

namespace BoringOS.Library

universe u

/-!
# Lists of pairwise related items

`List.Pairwise` speaks of items in the order of the list.  The clients of
this file meet two members in an unknown order.
-/

/-- Two members of a list with pairwise related items are the same item, or
they are related in one of the two orders. -/
theorem pairwise_of_mem {Item : Type u} {relation : Item → Item → Prop} {items : List Item}
    (pairwise : items.Pairwise relation) {first second : Item} (firstIn : first ∈ items)
    (secondIn : second ∈ items) : first = second ∨ relation first second ∨ relation second first :=
  List.Pairwise.forall_of_forall_of_flip
    (R := fun one other => one = other ∨ relation one other ∨ relation other one) (fun _ _ => Or.inl rfl)
    (pairwise.imp fun related => Or.inr (Or.inl related))
    (pairwise.imp fun related => Or.inr (Or.inr related)) firstIn secondIn

end BoringOS.Library
