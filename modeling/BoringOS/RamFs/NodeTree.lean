import Mathlib.Algebra.BigOperators.Fin
import BoringOS.Library.ParentTree
import BoringOS.RamFs.Filesystem

namespace BoringOS.RamFs

open Library Vfs

/-!
# The tree of nodes

The invariant of the file system in memory.  The live nodes form a tree with
the first node as its root, the names of siblings differ, and every file fits
into its block.  The blocks together stay in the budget.
-/

/-- The entry holds a node. -/
def Live (ramfs : Ramfs) (index : Fin ramfsMaxNodes) : Prop := (ramfs.nodes index).occupied = true

instance (ramfs : Ramfs) (index : Fin ramfsMaxNodes) : Decidable (Live ramfs index) :=
  inferInstanceAs (Decidable ((ramfs.nodes index).occupied = true))

/-- The entry holds a directory. -/
def IsDirectory (ramfs : Ramfs) (index : Fin ramfsMaxNodes) : Prop :=
  Live ramfs index ∧ (ramfs.nodes index).type = some .directory

/-- The parent of a node other than the root -/
def parentOf (ramfs : Ramfs) (index : Fin ramfsMaxNodes) : Option (Fin ramfsMaxNodes) :=
  if index = rootIndex then none else (ramfs.nodes index).parent

/-- The capacity that a node takes from the budget -/
def heldCapacity (node : RamfsNode) : Nat :=
  if node.occupied = true then node.capacity else 0

/-- The sum of all capacities -/
def capacityTotal (ramfs : Ramfs) : Nat := ∑ index, heldCapacity (ramfs.nodes index)

/-- A live node by itself -/
structure NodeSound (node : RamfsNode) : Prop where
  valid : node.valid = true
  numbered : node.id ≠ 0
  typed : node.type ≠ none
  fits : node.size ≤ node.capacity
  small : node.capacity ≤ ramfsFileMax
  /-- The block is as long as the capacity says, and there is none for 0. -/
  block : (node.data = none ∧ node.capacity = 0) ∨
    ∃ block, node.data = some block ∧ block.length = node.capacity ∧ 0 < node.capacity
  directory : node.type = some .directory → node.capacity = 0

structure RamfsInvariant (ramfs : Ramfs) : Prop where
  root : IsDirectory ramfs rootIndex
  nodes : ∀ index, Live ramfs index → NodeSound (ramfs.nodes index)
  parents : ∀ index, index ≠ rootIndex → Live ramfs index →
    ∃ parent, (ramfs.nodes index).parent = some parent ∧ IsDirectory ramfs parent
  rooted : ∀ index, Live ramfs index → Rooted (parentOf ramfs) rootIndex index
  siblings : ∀ first second, first ≠ rootIndex → second ≠ rootIndex → Live ramfs first →
    Live ramfs second → (ramfs.nodes first).parent = (ramfs.nodes second).parent →
    (ramfs.nodes first).name = (ramfs.nodes second).name → first = second
  names : ∀ index, index ≠ rootIndex → Live ramfs index →
    ramfsValidateName (ramfs.nodes index).name = .ok
  budget : capacityTotal ramfs ≤ ramfsTotalDataMax
  nextNodeId : ramfs.nextNodeId ≠ 0

/-! ## Changes of one node -/

@[simp] theorem setNode_nodes_self (ramfs : Ramfs) (index : Fin ramfsMaxNodes) (node : RamfsNode) :
    (ramfs.setNode index node).nodes index = node := by
  simp only [Ramfs.setNode, Function.update_self]

theorem setNode_nodes_of_ne {ramfs : Ramfs} {index other : Fin ramfsMaxNodes} {node : RamfsNode}
    (different : other ≠ index) : (ramfs.setNode index node).nodes other = ramfs.nodes other := by
  simp only [Ramfs.setNode, Function.update_of_ne different]

@[simp] theorem setNode_same (ramfs : Ramfs) (index : Fin ramfsMaxNodes) :
    ramfs.setNode index (ramfs.nodes index) = ramfs := by
  rw [Ramfs.setNode, Function.update_eq_self]

theorem live_setNode_of_ne {ramfs : Ramfs} {index other : Fin ramfsMaxNodes} {node : RamfsNode}
    (different : other ≠ index) : Live (ramfs.setNode index node) other ↔ Live ramfs other := by
  rw [Live, Live, setNode_nodes_of_ne different]

theorem capacityTotal_setNode (ramfs : Ramfs) (index : Fin ramfsMaxNodes) (node : RamfsNode) :
    capacityTotal (ramfs.setNode index node) + heldCapacity (ramfs.nodes index) =
      capacityTotal ramfs + heldCapacity node := by
  have others : ∀ other ∈ Finset.univ.erase index,
      heldCapacity ((ramfs.setNode index node).nodes other) = heldCapacity (ramfs.nodes other) := by
    intro other isOther
    rw [setNode_nodes_of_ne (Finset.ne_of_mem_erase isOther)]
  rw [capacityTotal, capacityTotal, ← Finset.add_sum_erase _ _ (Finset.mem_univ index),
    ← Finset.add_sum_erase _ (fun other => heldCapacity (ramfs.nodes other))
      (Finset.mem_univ index), Finset.sum_congr rfl others, setNode_nodes_self]
  omega

/-! ## Lookups -/

theorem mem_childIndices {index : Fin ramfsMaxNodes} :
    index ∈ childIndices ↔ index ≠ rootIndex := by
  rw [childIndices, List.mem_filter, decide_eq_true_eq]
  simp

theorem isChild_iff {ramfs : Ramfs} {directory index : Fin ramfsMaxNodes}
    (nodes : ∀ index, Live ramfs index → NodeSound (ramfs.nodes index)) :
    isChild ramfs directory index = true ↔
      Live ramfs index ∧ (ramfs.nodes index).parent = some directory := by
  rw [isChild, Bool.and_eq_true, Bool.and_eq_true, beq_iff_eq]
  constructor
  · rintro ⟨⟨live, -⟩, isParent⟩
    exact ⟨live, isParent⟩
  · rintro ⟨live, isParent⟩
    exact ⟨⟨live, (nodes index live).valid⟩, isParent⟩

theorem ramfsFindChild_eq_some {ramfs : Ramfs} {directory index : Fin ramfsMaxNodes}
    {name : List UInt8} (nodes : ∀ index, Live ramfs index → NodeSound (ramfs.nodes index))
    (found : ramfsFindChild ramfs directory name = some index) :
    index ≠ rootIndex ∧ Live ramfs index ∧ (ramfs.nodes index).parent = some directory ∧
      (ramfs.nodes index).name = name := by
  have holds := List.find?_some found
  rw [Bool.and_eq_true, isChild_iff nodes, beq_iff_eq] at holds
  exact ⟨mem_childIndices.mp (List.mem_of_find?_eq_some found), holds.1.1, holds.1.2, holds.2⟩

theorem ramfsFindChild_eq_none {ramfs : Ramfs} {directory : Fin ramfsMaxNodes}
    {name : List UInt8} (nodes : ∀ index, Live ramfs index → NodeSound (ramfs.nodes index))
    (missing : ramfsFindChild ramfs directory name = none) {index : Fin ramfsMaxNodes}
    (notRoot : index ≠ rootIndex) (live : Live ramfs index)
    (isParent : (ramfs.nodes index).parent = some directory) : (ramfs.nodes index).name ≠ name := by
  intro sameName
  have never := List.find?_eq_none.mp missing index (mem_childIndices.mpr notRoot)
  simp_all [isChild_iff]

theorem ramfsFindFreeNode_eq_some {ramfs : Ramfs} {slot : Fin ramfsMaxNodes}
    (found : ramfsFindFreeNode ramfs = some slot) : slot ≠ rootIndex ∧ ¬ Live ramfs slot := by
  have free := List.find?_some found
  rw [Bool.not_eq_true'] at free
  refine ⟨mem_childIndices.mp (List.mem_of_find?_eq_some found), ?_⟩
  rw [Live, free]
  exact Bool.false_ne_true

theorem ramfsDirectoryHasChildren_eq_false {ramfs : Ramfs} {directory : Fin ramfsMaxNodes}
    (nodes : ∀ index, Live ramfs index → NodeSound (ramfs.nodes index))
    (childless : ramfsDirectoryHasChildren ramfs directory = false) {index : Fin ramfsMaxNodes}
    (notRoot : index ≠ rootIndex) (live : Live ramfs index) :
    (ramfs.nodes index).parent ≠ some directory := by
  intro isParent
  have never := List.any_eq_false.mp childless index (mem_childIndices.mpr notRoot)
  exact never ((isChild_iff nodes).mpr ⟨live, isParent⟩)

theorem ramfsNodeFromVfs_eq_some {ramfs : Ramfs} {node : Option (Fin ramfsMaxNodes)}
    {index : Fin ramfsMaxNodes} (known : ramfsNodeFromVfs ramfs node = some index) :
    node = some index ∧ Live ramfs index := by
  cases node with
  | none => cases known
  | some candidate =>
    rw [ramfsNodeFromVfs] at known
    split at known
    · cases known
    rename_i sound
    rw [not_or, Bool.not_eq_false] at sound
    cases known
    exact ⟨rfl, sound.1⟩

theorem ramfsDirectoryFromVfs_eq_some {ramfs : Ramfs} {node : Option (Fin ramfsMaxNodes)}
    {index : Fin ramfsMaxNodes} (known : ramfsDirectoryFromVfs ramfs node = some index) :
    node = some index ∧ IsDirectory ramfs index := by
  rw [ramfsDirectoryFromVfs] at known
  split at known
  · cases known
  rename_i candidate isNode
  split at known
  · rename_i isDirectory
    cases known
    rcases ramfsNodeFromVfs_eq_some isNode with ⟨same, live⟩
    exact ⟨same, live, isDirectory⟩
  · cases known

theorem ramfsRegularFromVfs_eq_some {ramfs : Ramfs} {node : Option (Fin ramfsMaxNodes)}
    {index : Fin ramfsMaxNodes} (known : ramfsRegularFromVfs ramfs node = some index) :
    node = some index ∧ Live ramfs index ∧ (ramfs.nodes index).type = some .regular := by
  rw [ramfsRegularFromVfs] at known
  split at known
  · cases known
  · grind [ramfsNodeFromVfs_eq_some]

/-! ## The budget -/

theorem foldlM_capacity {ramfs : Ramfs}
    (small : ∀ index, Live ramfs index → (ramfs.nodes index).capacity ≤ ramfsFileMax)
    (indices : List (Fin ramfsMaxNodes)) :
    ∀ total, total + indices.length * ramfsFileMax ≤ Memory.uint64Max →
      indices.foldlM (fun total index =>
        if (ramfs.nodes index).occupied = false then Except.ok (ε := VfsResult) total
        else if ramfsFileMax < (ramfs.nodes index).capacity then .error .corrupt
        else if Memory.uint64Max - total < (ramfs.nodes index).capacity then .error .overflow
        else .ok (total + (ramfs.nodes index).capacity)) total =
        .ok (total + (indices.map fun index => heldCapacity (ramfs.nodes index)).sum) := by
  induction indices with
  | nil => exact fun total _ => rfl
  | cons index rest ih =>
    intro total bounded
    rw [List.length_cons, Nat.succ_mul] at bounded
    rw [List.foldlM_cons, List.map_cons, List.sum_cons]
    by_cases live : Live ramfs index
    · have occupied : ¬ (ramfs.nodes index).occupied = false := by
        rw [Bool.not_eq_false]
        exact live
      have fits := small index live
      have held : heldCapacity (ramfs.nodes index) = (ramfs.nodes index).capacity := if_pos live
      rw [if_neg occupied, if_neg (by omega), if_neg (by omega), held, ← Nat.add_assoc]
      exact ih (total + (ramfs.nodes index).capacity) (by omega)
    · have held : heldCapacity (ramfs.nodes index) = 0 := if_neg live
      rw [Live, Bool.not_eq_true] at live
      rw [if_pos live, held, Nat.zero_add]
      exact ih total (by omega)

theorem ramfsCurrentCapacity_eq {ramfs : Ramfs}
    (small : ∀ index, Live ramfs index → (ramfs.nodes index).capacity ≤ ramfsFileMax) :
    ramfsCurrentCapacity ramfs = .ok (capacityTotal ramfs) := by
  have total := foldlM_capacity small (List.finRange ramfsMaxNodes) 0 (by rw [List.length_finRange]; decide)
  rw [Nat.zero_add, ← Fin.sum_univ_def] at total
  exact total

/-!
## Changes of the tree

What a call may do to the table of nodes: change the file of a node, add a
node, remove one without children, or move one to another directory.  Each of
these keeps the invariant.
-/

variable {ramfs : Ramfs} {index directory : Fin ramfsMaxNodes} {node : RamfsNode}

theorem parentOf_of_ne (notRoot : index ≠ rootIndex) :
    parentOf ramfs index = (ramfs.nodes index).parent :=
  if_neg notRoot

@[simp] theorem parentOf_root (ramfs : Ramfs) : parentOf ramfs rootIndex = none := if_pos rfl

theorem parentOf_setNode_of_ne {other : Fin ramfsMaxNodes} (different : other ≠ index) :
    parentOf (ramfs.setNode index node) other = parentOf ramfs other := by
  rw [parentOf, parentOf, setNode_nodes_of_ne different]

theorem isDirectory_setNode_of_ne {other : Fin ramfsMaxNodes} (different : other ≠ index) :
    IsDirectory (ramfs.setNode index node) other ↔ IsDirectory ramfs other := by
  rw [IsDirectory, IsDirectory, live_setNode_of_ne different, setNode_nodes_of_ne different]

section

variable (invariant : RamfsInvariant ramfs)
include invariant

theorem RamfsInvariant.parent_live {other above : Fin ramfsMaxNodes} (live : Live ramfs other)
    (isParent : parentOf ramfs other = some above) : Live ramfs above := by
  by_cases isRoot : other = rootIndex
  · simp_all
  rw [parentOf_of_ne isRoot] at isParent
  rcases invariant.parents other isRoot live with ⟨parent, hasParent, isDirectory⟩
  cases hasParent.symm.trans isParent
  exact isDirectory.1

/-- A node is written.  The others stay as they are, and the new node may be one of them. -/
theorem RamfsInvariant.written (root : IsDirectory (ramfs.setNode index node) rootIndex)
    (sound : node.occupied = true → NodeSound node)
    (placed : node.occupied = true → index ≠ rootIndex → ∃ directory,
      node.parent = some directory ∧ IsDirectory (ramfs.setNode index node) directory ∧
      ramfsValidateName node.name = .ok ∧ ∀ other, other ≠ index → other ≠ rootIndex →
        Live ramfs other → (ramfs.nodes other).parent = some directory →
        (ramfs.nodes other).name ≠ node.name)
    (directories : ∀ other parent, other ≠ index → other ≠ rootIndex → Live ramfs other →
      (ramfs.nodes other).parent = some parent → IsDirectory ramfs parent →
      IsDirectory (ramfs.setNode index node) parent)
    (rooted : ∀ other, Live (ramfs.setNode index node) other →
      Rooted (parentOf (ramfs.setNode index node)) rootIndex other)
    (budget : capacityTotal (ramfs.setNode index node) ≤ ramfsTotalDataMax) :
    RamfsInvariant (ramfs.setNode index node) := by
  have here : Live (ramfs.setNode index node) index → node.occupied = true := by
    intro isLive
    rw [Live, setNode_nodes_self] at isLive
    exact isLive
  have stays : ∀ {other}, Live (ramfs.setNode index node) other → other ≠ index →
      Live ramfs other := fun isLive away => (live_setNode_of_ne away).mp isLive
  have apart : ∀ other, other ≠ index → index ≠ rootIndex → other ≠ rootIndex →
      Live (ramfs.setNode index node) index → Live (ramfs.setNode index node) other →
      (ramfs.nodes other).parent = node.parent → (ramfs.nodes other).name ≠ node.name := by
    intro other away notRoot otherChild isLive otherLive sameAbove
    rcases placed (here isLive) notRoot with ⟨directory, isParent, -, -, unused⟩
    exact unused other away otherChild (stays otherLive away) (sameAbove.trans isParent)
  refine ⟨root, ?_, ?_, rooted, ?_, ?_, budget, invariant.nextNodeId⟩
  · intro other isLive
    by_cases isIt : other = index
    · subst isIt
      rw [setNode_nodes_self]
      exact sound (here isLive)
    · rw [setNode_nodes_of_ne isIt]
      exact invariant.nodes other (stays isLive isIt)
  · intro other notRoot isLive
    by_cases isIt : other = index
    · subst isIt
      rcases placed (here isLive) notRoot with ⟨directory, isParent, isDirectory, -⟩
      rw [setNode_nodes_self]
      exact ⟨directory, isParent, isDirectory⟩
    · rw [setNode_nodes_of_ne isIt]
      rcases invariant.parents other notRoot (stays isLive isIt) with ⟨parent, isParent, isOne⟩
      exact ⟨parent, isParent, directories other parent isIt notRoot (stays isLive isIt) isParent isOne⟩
  · intro first second firstChild secondChild firstLive secondLive sameAbove sameHere
    by_cases firstIt : first = index <;> by_cases secondIt : second = index
    · rw [firstIt, secondIt]
    · subst firstIt
      rw [setNode_nodes_self, setNode_nodes_of_ne secondIt] at sameAbove sameHere
      exact absurd sameHere.symm
        (apart second secondIt firstChild secondChild firstLive secondLive sameAbove.symm)
    · subst secondIt
      rw [setNode_nodes_self, setNode_nodes_of_ne firstIt] at sameAbove sameHere
      exact absurd sameHere
        (apart first firstIt secondChild firstChild secondLive firstLive sameAbove)
    · rw [setNode_nodes_of_ne firstIt, setNode_nodes_of_ne secondIt] at sameAbove sameHere
      exact invariant.siblings first second firstChild secondChild (stays firstLive firstIt)
        (stays secondLive secondIt) sameAbove sameHere
  · intro other notRoot isLive
    by_cases isIt : other = index
    · subst isIt
      rcases placed (here isLive) notRoot with ⟨directory, -, -, named, -⟩
      rw [setNode_nodes_self]
      exact named
    · rw [setNode_nodes_of_ne isIt]
      exact invariant.names other notRoot (stays isLive isIt)

/-! ## A node with the same links -/

/-- The file of a node changes, and nothing else. -/
theorem RamfsInvariant.rewrite (live : Live ramfs index)
    (sound : NodeSound node) (occupied : node.occupied = true)
    (sameType : node.type = (ramfs.nodes index).type) (sameParent : node.parent = (ramfs.nodes index).parent)
    (sameName : node.name = (ramfs.nodes index).name)
    (budget : capacityTotal (ramfs.setNode index node) ≤ ramfsTotalDataMax) :
    RamfsInvariant (ramfs.setNode index node) := by
  have sameLive : ∀ other, Live (ramfs.setNode index node) other ↔ Live ramfs other := by
    intro other
    by_cases isIt : other = index
    · simp_all [Live, setNode_nodes_self]
    · exact live_setNode_of_ne isIt
  have directories : ∀ {other}, IsDirectory ramfs other →
      IsDirectory (ramfs.setNode index node) other := by
    intro other isOne
    refine ⟨(sameLive other).mpr isOne.1, ?_⟩
    by_cases isIt : other = index
    · rw [isIt, setNode_nodes_self, sameType, ← isIt]
      exact isOne.2
    · rw [setNode_nodes_of_ne isIt]
      exact isOne.2
  have sameTree : parentOf (ramfs.setNode index node) = parentOf ramfs := by
    funext other
    by_cases isIt : other = index
    · rw [isIt, parentOf, parentOf, setNode_nodes_self, sameParent]
    · exact parentOf_setNode_of_ne isIt
  apply invariant.written (directories invariant.root) fun _ => sound
  · intro _ notRoot
    rcases invariant.parents index notRoot live with ⟨parent, isParent, isDirectory⟩
    rw [sameParent, sameName]
    refine ⟨parent, isParent, directories isDirectory, invariant.names index notRoot live, ?_⟩
    intro other away otherChild otherLive sameAbove sameHere
    exact away (invariant.siblings other index otherChild notRoot otherLive live
      (sameAbove.trans isParent.symm) sameHere)
  · exact fun _ _ _ _ _ _ => directories
  · intro other isLive
    rw [sameTree]
    exact invariant.rooted other ((sameLive other).mp isLive)
  · exact budget

/-! ## A new node -/

theorem RamfsInvariant.insert (notRoot : index ≠ rootIndex)
    (free : ¬ Live ramfs index) (isDirectory : IsDirectory ramfs directory)
    (sound : NodeSound node) (occupied : node.occupied = true)
    (isParent : node.parent = some directory) (named : ramfsValidateName node.name = .ok)
    (empty : node.capacity = 0) (unused : ∀ other, other ≠ rootIndex → Live ramfs other →
      (ramfs.nodes other).parent = some directory → (ramfs.nodes other).name ≠ node.name) :
    RamfsInvariant { ramfs.setNode index node with
      nextNodeId := ramfs.nextNodeId + 1 } := by
  have different : ∀ {other}, Live ramfs other → other ≠ index := by
    intro other live isIt
    exact free (isIt ▸ live)
  have directories : ∀ {other}, IsDirectory ramfs other → IsDirectory (ramfs.setNode index node) other :=
    fun isOne => (isDirectory_setNode_of_ne (different isOne.1)).mpr isOne
  have oldRooted : ∀ {other}, Live ramfs other →
      Rooted (parentOf (ramfs.setNode index node)) rootIndex other := by
    intro other live
    apply Rooted.congr (Live ramfs) (fun _ _ => invariant.parent_live) _ (invariant.rooted other live) live
    intro kept isLive
    exact parentOf_setNode_of_ne (different isLive)
  have total := capacityTotal_setNode ramfs index node
  have after : heldCapacity node = 0 := (if_pos occupied).trans empty
  have inBudget := invariant.budget
  have written : RamfsInvariant (ramfs.setNode index node) := by
    apply invariant.written (directories invariant.root) fun _ => sound
    · exact fun _ _ => ⟨directory, isParent, directories isDirectory, named, fun other _ => unused other⟩
    · exact fun _ _ _ _ _ _ => directories
    · intro other isLive
      by_cases isNew : other = index
      · refine Rooted.child ?_ (oldRooted isDirectory.1)
        simp_all [parentOf, setNode_nodes_self]
      · exact oldRooted ((live_setNode_of_ne isNew).mp isLive)
    · omega
  exact { written with nextNodeId := Nat.succ_ne_zero _ }

/-! ## A removed node -/

theorem RamfsInvariant.remove (notRoot : index ≠ rootIndex)
    (childless : ∀ other, other ≠ rootIndex → Live ramfs other →
      (ramfs.nodes other).parent ≠ some index) :
    RamfsInvariant (ramfs.setNode index clearedNode) := by
  have total := capacityTotal_setNode ramfs index clearedNode
  have after : heldCapacity clearedNode = 0 := rfl
  have inBudget := invariant.budget
  have vacant : clearedNode.occupied ≠ true := Bool.false_ne_true
  apply invariant.written ((isDirectory_setNode_of_ne notRoot.symm).mpr invariant.root)
    (fun occupied => absurd occupied vacant) fun occupied => absurd occupied vacant
  · intro other parent _ otherChild otherLive isParent isOne
    refine (isDirectory_setNode_of_ne ?_).mpr isOne
    rintro rfl
    exact childless other otherChild otherLive isParent
  · intro other isLive
    have isOther : other ≠ index := by
      rintro rfl
      rw [Live, setNode_nodes_self] at isLive
      cases isLive
    have otherLive := (live_setNode_of_ne isOther).mp isLive
    apply Rooted.congr (fun kept => kept ≠ index ∧ Live ramfs kept) _ _
      (invariant.rooted other otherLive) ⟨isOther, otherLive⟩
    · intro kept above isKept isParent
      refine ⟨?_, invariant.parent_live isKept.2 isParent⟩
      grind [parentOf_root, parentOf_of_ne]
    · intro kept isKept
      exact parentOf_setNode_of_ne isKept.1
  · omega

end

/-! ## A moved node -/

/-- The node with another name in another directory -/
def renamed (node : RamfsNode) (directory : Fin ramfsMaxNodes) (name : List UInt8) : RamfsNode :=
  { node with
    name := name
    parent := some directory }

theorem RamfsInvariant.move (invariant : RamfsInvariant ramfs) (notRoot : index ≠ rootIndex)
    (live : Live ramfs index) (isDirectory : IsDirectory ramfs directory) {name : List UInt8}
    (named : ramfsValidateName name = .ok) (unused : ∀ other, other ≠ rootIndex → Live ramfs other →
      (ramfs.nodes other).parent = some directory → (ramfs.nodes other).name ≠ name)
    (rooted : Rooted (parentOf (ramfs.setNode index (renamed (ramfs.nodes index) directory name)))
      rootIndex directory) :
    RamfsInvariant (ramfs.setNode index (renamed (ramfs.nodes index) directory name)) := by
  have sameLive : ∀ other, Live (ramfs.setNode index (renamed (ramfs.nodes index) directory name)) other ↔
        Live ramfs other := by
    intro other
    by_cases isIt : other = index
    · rw [isIt, Live, setNode_nodes_self]
      exact Iff.rfl
    · exact live_setNode_of_ne isIt
  have directories : ∀ {other}, IsDirectory ramfs other →
      IsDirectory (ramfs.setNode index (renamed (ramfs.nodes index) directory name)) other := by
    intro other isOne
    by_cases isIt : other = index
    · subst isIt
      refine ⟨(sameLive other).mpr isOne.1, ?_⟩
      rw [setNode_nodes_self]
      exact isOne.2
    · exact (isDirectory_setNode_of_ne isIt).mpr isOne
  have total := capacityTotal_setNode ramfs index (renamed (ramfs.nodes index) directory name)
  have sameHeld : heldCapacity (renamed (ramfs.nodes index) directory name) =
      heldCapacity (ramfs.nodes index) := rfl
  have inBudget := invariant.budget
  apply invariant.written (directories invariant.root) fun _ => { invariant.nodes index live with }
  · exact fun _ _ => ⟨directory, rfl, directories isDirectory, named, fun other _ => unused other⟩
  · exact fun _ _ _ _ _ _ => directories
  · intro other isLive
    apply Rooted.move index directory _ _ rooted (invariant.rooted other ((sameLive other).mp isLive))
    · intro kept isOther
      exact parentOf_setNode_of_ne isOther
    · rw [parentOf_of_ne notRoot, setNode_nodes_self]
      rfl
  · omega

end BoringOS.RamFs
