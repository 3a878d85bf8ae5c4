import Mathlib.Init

namespace BoringOS.Library

universe u

variable {Node : Type u}

/-!
# Trees by parent pointers

A table of nodes that name their parents is a tree if the parents of every
node lead to the root, which names none.  No node of such a tree lies above
itself.  The rules say which changes of the pointers leave a tree: nodes may be
added and leaves removed, and a node may be moved below another one whose
parents do not lead through it.
-/

/-- The node is the root, or its parents lead there. -/
inductive Rooted (parent : Node → Option Node) (root : Node) : Node → Prop
  | root : Rooted parent root root
  | child {node above : Node} : parent node = some above → Rooted parent root above →
      Rooted parent root node

/-- The first node is the parent of the second, or lies above the parent. -/
inductive Above (parent : Node → Option Node) : Node → Node → Prop
  | parent {above node : Node} : parent node = some above → Above parent above node
  | step {ancestor above node : Node} : parent node = some above →
      Above parent ancestor above → Above parent ancestor node

theorem Above.trans {parent : Node → Option Node} {first second third : Node}
    (upper : Above parent first second) (lower : Above parent second third) :
    Above parent first third := by
  induction lower with
  | parent isParent => exact Above.step isParent upper
  | step isParent _ ih => exact Above.step isParent ih

theorem Rooted.not_above_self {parent : Node → Option Node} {root node : Node}
    (rootless : parent root = none) (rooted : Rooted parent root node) :
    ¬ Above parent node node := by
  induction rooted with
  | root =>
    intro cycle
    cases cycle with
    | parent isParent => cases rootless.symm.trans isParent
    | step isParent _ => cases rootless.symm.trans isParent
  | child isParent _ ih =>
    intro cycle
    cases cycle with
    | parent isSelf =>
      simp_all [Above.parent]
    | step isAbove longer =>
      cases isParent.symm.trans isAbove
      exact ih ((Above.parent isParent).trans longer)

/-- Pointers that agree on nodes which contain their parents. -/
theorem Rooted.congr {parent parent' : Node → Option Node} {root node : Node} (kept : Node → Prop)
    (closed : ∀ node above, kept node → parent node = some above → kept above)
    (same : ∀ node, kept node → parent' node = parent node)
    (rooted : Rooted parent root node) (isKept : kept node) : Rooted parent' root node := by
  induction rooted with
  | root => exact Rooted.root
  | child isParent _ ih =>
    grind [Rooted.child]

theorem Rooted.move {parent parent' : Node → Option Node} {root node : Node}
    (moved target : Node) (same : ∀ node, node ≠ moved → parent' node = parent node)
    (isMoved : parent' moved = some target) (targetRooted : Rooted parent' root target)
    (rooted : Rooted parent root node) : Rooted parent' root node := by
  induction rooted with
  | root => exact Rooted.root
  | @child node above isParent _ ih =>
    grind [Rooted.child]

end BoringOS.Library
