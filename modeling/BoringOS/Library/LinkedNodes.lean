namespace BoringOS.Library

universe u

/-!
# Doubly linked nodes

A sequence of nodes, each at an address, of which every one is in place between
the address of the node before it and that of the node behind it.  What it means
to be in place is up to the user, who has a memory in mind.  A sequence can be
cut anywhere, so a change at one place is made good there.
-/

variable {Node : Type u} (address : Node → Nat)

/-- The address of the first node, or what comes behind when there is none -/
def firstAddress (nodes : List Node) (after : Nat) : Nat :=
  match nodes with
  | [] => after
  | node :: _ => address node

/-- The address of the last node, or what comes before when there is none -/
def lastAddress : (before : Nat) → List Node → Nat
  | before, [] => before
  | _, node :: rest => lastAddress (address node) rest

/-- The nodes follow each other, from `before` to `after`. -/
def Linked (inPlace : Nat → Node → Nat → Prop) (after : Nat) : (before : Nat) → List Node → Prop
  | _, [] => True
  | before, node :: rest =>
    inPlace before node (firstAddress address rest after) ∧ Linked inPlace after (address node) rest

variable {address} {inPlace inPlace' : Nat → Node → Nat → Prop}

@[simp] theorem firstAddress_cons (node : Node) (rest : List Node) (after : Nat) :
    firstAddress address (node :: rest) after = address node := rfl

@[simp] theorem lastAddress_cons (before : Nat) (node : Node) (rest : List Node) :
    lastAddress address before (node :: rest) = lastAddress address (address node) rest := rfl

variable (first second : List Node)

theorem firstAddress_append (after : Nat) :
    firstAddress address (first ++ second) after =
      firstAddress address first (firstAddress address second after) := by
  cases first <;> rfl

theorem lastAddress_append (before : Nat) :
    lastAddress address before (first ++ second) =
      lastAddress address (lastAddress address before first) second := by
  induction first generalizing before with
  | nil => rfl
  | cons node rest ih => exact ih (address node)

theorem linked_append (before after : Nat) :
    Linked address inPlace after before (first ++ second) ↔
      Linked address inPlace (firstAddress address second after) before first ∧
        Linked address inPlace after (lastAddress address before first) second := by
  induction first generalizing before with
  | nil => exact (iff_of_eq (true_and _)).symm
  | cons node rest ih =>
    rw [List.cons_append, Linked, Linked, ih, firstAddress_append, lastAddress_cons, and_assoc]

theorem Linked.imp {nodes : List Node} {before after : Nat}
    (linked : Linked address inPlace after before nodes)
    (kept : ∀ node ∈ nodes, ∀ before after, inPlace before node after → inPlace' before node after) :
    Linked address inPlace' after before nodes := by
  induction nodes generalizing before with
  | nil => trivial
  | cons node rest ih =>
    exact ⟨kept node List.mem_cons_self _ _ linked.1,
      ih linked.2 fun other inRest => kept other (List.mem_cons_of_mem node inRest)⟩

/-- Every node of a linked sequence is in place between some neighbours. -/
theorem Linked.mem {nodes : List Node} {before after : Nat}
    (linked : Linked address inPlace after before nodes) {node : Node} (isNode : node ∈ nodes) :
    ∃ previous next, inPlace previous node next := by
  induction nodes generalizing before with
  | nil => cases isNode
  | cons first rest ih =>
    rcases List.mem_cons.mp isNode with isFirst | inRest
    · rw [isFirst]
      exact ⟨_, _, linked.1⟩
    · exact ih linked.2 inRest

end BoringOS.Library
