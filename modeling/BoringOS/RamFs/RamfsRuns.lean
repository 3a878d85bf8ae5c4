import BoringOS.Library.Run
import BoringOS.RamFs.FileCalls

namespace BoringOS.RamFs

open Library Vfs

/-!
# Runs of the file system

The calls in any order, with any answers of the kernel heap.  Between two calls
the virtual file system may change the number of references to a node, which
decides whether the node can be removed.
-/

/-- A call on one file -/
inductive FileCall
  | read (offset length : Nat)
  | write (offset : Nat) (input : List UInt8)
  | truncate (size : Nat)
deriving DecidableEq, Repr

/-- What a call on a file returns if it succeeds -/
inductive FileReply
  | bytes (output : List UInt8)
  | transferred (count : Nat)
  | done
deriving DecidableEq, Repr

/-- The call, on the file that the pointer names -/
def ramfsFileCall (heap : Heap) (ramfs : Ramfs) (node : Option (Fin ramfsMaxNodes)) :
    FileCall → Ramfs × Except VfsResult FileReply
  | .read offset length => (ramfs, (ramfsRead ramfs node offset length).map .bytes)
  | .write offset input =>
    ((ramfsWrite heap ramfs node offset input).1,
      (ramfsWrite heap ramfs node offset input).2.map .transferred)
  | .truncate size =>
    ((ramfsTruncate heap ramfs node size).1,
      match (ramfsTruncate heap ramfs node size).2 with
      | .ok => .ok .done
      | error => .error error)

inductive RamfsCall
  | create (directory : Option (Fin ramfsMaxNodes)) (name : List UInt8)
  | mkdir (directory : Option (Fin ramfsMaxNodes)) (name : List UInt8)
  | unlink (directory : Option (Fin ramfsMaxNodes)) (name : List UInt8)
  | rmdir (directory : Option (Fin ramfsMaxNodes)) (name : List UInt8)
  | rename (oldDirectory : Option (Fin ramfsMaxNodes)) (oldName : List UInt8)
      (newDirectory : Option (Fin ramfsMaxNodes)) (newName : List UInt8)
  | file (node : Option (Fin ramfsMaxNodes)) (call : FileCall)
  /-- The virtual file system sets the number of references to a node. -/
  | references (node : Option (Fin ramfsMaxNodes)) (count : Nat)
deriving DecidableEq, Repr

/-- The result code of a call that returns a value -/
def resultOf {Value : Type} : Except VfsResult Value → VfsResult
  | .ok _ => .ok
  | .error error => error

def ramfsCall (heap : Heap) (ramfs : Ramfs) : RamfsCall → Ramfs × VfsResult
  | .create directory name =>
    ((ramfsCreate ramfs directory name).1, resultOf (ramfsCreate ramfs directory name).2)
  | .mkdir directory name =>
    ((ramfsMkdir ramfs directory name).1, resultOf (ramfsMkdir ramfs directory name).2)
  | .unlink directory name => ramfsUnlink heap ramfs directory name
  | .rmdir directory name => ramfsRmdir heap ramfs directory name
  | .rename oldDirectory oldName newDirectory newName =>
    ramfsRename ramfs oldDirectory oldName newDirectory newName
  | .file node call =>
    ((ramfsFileCall heap ramfs node call).1, resultOf (ramfsFileCall heap ramfs node call).2)
  | .references node count =>
    match ramfsNodeFromVfs ramfs node with
    | none => (ramfs, .corrupt)
    | some index => (ramfs.setNode index { ramfs.nodes index with referenceCount := count }, .ok)

/-- A step of a run: the answers of the kernel heap, and the call. -/
def ramfsStep (ramfs : Ramfs) (step : Heap × RamfsCall) : Ramfs := (ramfsCall step.1 ramfs step.2).1

theorem resultOf_ne_ok {Value : Type} {result : Except VfsResult Value}
    (isError : resultOf result ≠ .ok) : Failed result := by
  cases result with
  | ok value => exact absurd rfl isError
  | error error => exact ⟨error, rfl⟩

variable {ramfs : Ramfs}

/-- A call on a file fails and changes nothing, or it does to the list of bytes
what it says. -/
theorem ramfsFileCall_sound (invariant : RamfsInvariant ramfs) (heap : Heap)
    (node : Option (Fin ramfsMaxNodes)) (call : FileCall) :
    CallSound ramfs (ramfsFileCall heap ramfs node call).1
      (Failed (ramfsFileCall heap ramfs node call).2) := by
  cases call with
  | read offset length => exact CallSound.same invariant _
  | write offset input =>
    rw [ramfsFileCall]
    rcases ramfsWrite_spec invariant heap node offset input with
      ⟨error, failed⟩ | ⟨index, changed, -, -, -, succeeded, kept, -⟩
    · rw [failed]
      exact CallSound.same invariant _
    · rw [succeeded]
      exact CallSound.success kept (not_failed_ok _)
  | truncate size =>
    rw [ramfsFileCall]
    grind [ramfsTruncate_spec, CallSound.same, CallSound.success, not_failed_ok]

variable {index : Fin ramfsMaxNodes}

theorem references_invariant (invariant : RamfsInvariant ramfs)
    (live : Live ramfs index) (count : Nat) : RamfsInvariant
      (ramfs.setNode index { ramfs.nodes index with referenceCount := count }) := by
  have sound := invariant.nodes index live
  have inBudget := invariant.budget
  have total := capacityTotal_setNode ramfs index { ramfs.nodes index with
    referenceCount := count }
  have sameHeld : heldCapacity { ramfs.nodes index with referenceCount := count } =
    heldCapacity (ramfs.nodes index) := rfl
  have sameSound : NodeSound { ramfs.nodes index with referenceCount := count } :=
    { sound with }
  exact invariant.rewrite live sameSound live rfl rfl rfl (by omega)

/-- Every call keeps the invariant, and changes nothing if it fails. -/
theorem ramfsCall_sound (invariant : RamfsInvariant ramfs) (heap : Heap) (call : RamfsCall) :
    CallSound ramfs (ramfsCall heap ramfs call).1 ((ramfsCall heap ramfs call).2 ≠ .ok) := by
  cases call with
  | create directory name =>
    have sound := createIn_sound invariant .regular directory name
    exact ⟨sound.invariant, fun isError => sound.unchanged (resultOf_ne_ok isError)⟩
  | mkdir directory name =>
    have sound := createIn_sound invariant .directory directory name
    exact ⟨sound.invariant, fun isError => sound.unchanged (resultOf_ne_ok isError)⟩
  | unlink directory name => exact ramfsUnlink_sound invariant heap directory name
  | rmdir directory name => exact ramfsRmdir_sound invariant heap directory name
  | rename oldDirectory oldName newDirectory newName =>
    exact ramfsRename_sound invariant oldDirectory oldName newDirectory newName
  | file node call =>
    have sound := ramfsFileCall_sound invariant heap node call
    exact ⟨sound.invariant, fun isError => sound.unchanged (resultOf_ne_ok isError)⟩
  | references node count =>
    rw [ramfsCall.eq_def]
    grind [CallSound.same, CallSound.success, references_invariant, ramfsNodeFromVfs_eq_some]

theorem ramfsCreateFilesystem_nodes_of_ne
    (notRoot : index ≠ rootIndex) : ramfsCreateFilesystem.nodes index = clearedNode := by
  simp only [ramfsCreateFilesystem, Function.update_of_ne notRoot]

theorem ramfsCreateFilesystem_root : ramfsCreateFilesystem.nodes rootIndex = rootNode := by
  rfl

theorem ramfsCreateFilesystem_invariant : RamfsInvariant ramfsCreateFilesystem := by
  have onlyRoot : ∀ index, Live ramfsCreateFilesystem index → index = rootIndex := by
    intro index live
    by_contra notRoot
    rw [Live, ramfsCreateFilesystem_nodes_of_ne notRoot] at live
    cases live
  have nothing : capacityTotal ramfsCreateFilesystem = 0 := by
    apply Finset.sum_eq_zero
    intro index _
    by_cases isRoot : index = rootIndex
    · rw [isRoot, ramfsCreateFilesystem_root]
      rfl
    · rw [ramfsCreateFilesystem_nodes_of_ne isRoot]
      rfl
  exact {
    root := by
      exact ⟨rfl, rfl⟩
    nodes := by
      intro index live
      rw [onlyRoot index live, ramfsCreateFilesystem_root]
      exact ⟨rfl, Nat.one_ne_zero, Option.some_ne_none _, Nat.le_refl 0, Nat.zero_le _,
        Or.inl ⟨rfl, rfl⟩, fun _ => rfl⟩
    parents := fun index notRoot live => absurd (onlyRoot index live) notRoot
    rooted := by
      grind [Rooted.root]
    siblings := fun first _ notRoot _ live _ _ _ => absurd (onlyRoot first live) notRoot
    names := fun index notRoot live => absurd (onlyRoot index live) notRoot
    budget := nothing.trans_le (Nat.zero_le _)
    nextNodeId := by decide }

theorem reachable_invariant (steps : List (Heap × RamfsCall)) :
    RamfsInvariant (run ramfsStep ramfsCreateFilesystem steps) := by
  have kept : ∀ ramfs step, RamfsInvariant ramfs → RamfsInvariant (ramfsStep ramfs step) :=
    fun _ step invariant => (ramfsCall_sound invariant step.1 step.2).invariant
  exact run_invariant kept steps _ ramfsCreateFilesystem_invariant

theorem foldlM_addToStats (invariant : RamfsInvariant ramfs) (indices : List (Fin ramfsMaxNodes)) :
    ∀ stats, stats.liveFileBytes + indices.length * ramfsFileMax ≤ Memory.uint64Max →
      stats.allocatedFileCapacity + indices.length * ramfsFileMax ≤ Memory.uint64Max →
      ∃ last, indices.foldlM (addToStats ramfs) stats = .ok last ∧
        last.allocatedFileCapacity = stats.allocatedFileCapacity +
          (indices.map fun index => heldCapacity (ramfs.nodes index)).sum := by
  induction indices with
  | nil => exact fun stats _ _ => ⟨stats, rfl, rfl⟩
  | cons index rest ih =>
    intro stats bytesBounded capacityBounded
    rw [List.length_cons, Nat.succ_mul] at bytesBounded capacityBounded
    rw [List.foldlM_cons, List.map_cons, List.sum_cons]
    by_cases live : Live ramfs index
    · have sound := invariant.nodes index live
      have held : heldCapacity (ramfs.nodes index) = (ramfs.nodes index).capacity := if_pos live
      have fits := sound.fits
      have small := sound.small
      cases isType : (ramfs.nodes index).type with
      | none => exact absurd isType sound.typed
      | some type =>
        cases type with
        | directory =>
          have added : addToStats ramfs stats index = .ok { stats with
              liveNodes := stats.liveNodes + 1
              liveDirectories := stats.liveDirectories + 1 } := by
            rw [Live] at live
            simp only [addToStats, live, sound.valid, isType, Bool.true_eq_false, if_false]
          rw [added, held, sound.directory isType, Nat.zero_add]
          exact ih _ (by dsimp only; omega) (by dsimp only; omega)
        | regular =>
          have added : addToStats ramfs stats index = .ok { stats with
              liveNodes := stats.liveNodes + 1
              liveFiles := stats.liveFiles + 1
              liveFileBytes := stats.liveFileBytes + (ramfs.nodes index).size
              allocatedFileCapacity :=
                stats.allocatedFileCapacity + (ramfs.nodes index).capacity } := by
            rw [Live] at live
            simp only [addToStats, live, sound.valid, isType, Bool.true_eq_false, if_false]
            rw [if_neg (by omega)]
          rw [added, held, ← Nat.add_assoc]
          exact ih _ (by dsimp only; omega) (by dsimp only; omega)
    · have added : addToStats ramfs stats index = .ok stats := by
        rw [Live, Bool.not_eq_true] at live
        simp only [addToStats, live, if_true]
      have held : heldCapacity (ramfs.nodes index) = 0 := if_neg live
      rw [added, held, Nat.zero_add]
      exact ih stats (by omega) (by omega)

/-- The table of nodes is a tree, and the blocks of the files are accounted for. -/
structure TreeSound (ramfs : Ramfs) : Prop where
  root : IsDirectory ramfs rootIndex
  siblings : ∀ first second, first ≠ rootIndex → second ≠ rootIndex → Live ramfs first →
    Live ramfs second → (ramfs.nodes first).parent = (ramfs.nodes second).parent →
    (ramfs.nodes first).name = (ramfs.nodes second).name → first = second
  /-- A node is found in the directory that it names as its parent, under its
  own name, and nowhere else. -/
  linkedOnce : ∀ index, index ≠ rootIndex → Live ramfs index →
    ∃ parent, (ramfs.nodes index).parent = some parent ∧ IsDirectory ramfs parent ∧
      ∀ directory name, ramfsFindChild ramfs directory name = some index ↔
        directory = parent ∧ name = (ramfs.nodes index).name
  rooted : ∀ index, Live ramfs index → Rooted (parentOf ramfs) rootIndex index
  noOwnAncestor : ∀ index, Live ramfs index → ¬ Above (parentOf ramfs) index index
  /-- The file fits into its capacity, and the capacity into the block. -/
  sizes : ∀ index, Live ramfs index →
    (ramfs.nodes index).size ≤ (ramfs.nodes index).capacity ∧
      (ramfs.nodes index).capacity = ((ramfs.nodes index).data.getD []).length
  total : ramfsCurrentCapacity ramfs = .ok (capacityTotal ramfs)
  statistics : ∃ stats, ramfsGetStats ramfs = .ok stats ∧
    stats.allocatedFileCapacity = capacityTotal ramfs
  budget : capacityTotal ramfs ≤ ramfsTotalDataMax

theorem RamfsInvariant.linkedOnce (invariant : RamfsInvariant ramfs)
    (notRoot : index ≠ rootIndex) (live : Live ramfs index) :
    ∃ parent, (ramfs.nodes index).parent = some parent ∧ IsDirectory ramfs parent ∧
      ∀ directory name, ramfsFindChild ramfs directory name = some index ↔
        directory = parent ∧ name = (ramfs.nodes index).name := by
  rcases invariant.parents index notRoot live with ⟨parent, isParent, isDirectory⟩
  refine ⟨parent, isParent, isDirectory, ?_⟩
  intro directory name
  constructor
  · intro found
    rcases ramfsFindChild_eq_some invariant.nodes found with ⟨-, -, isAbove, isName⟩
    simp_all
  · rintro ⟨rfl, rfl⟩
    cases found : ramfsFindChild ramfs directory (ramfs.nodes index).name with
    | none =>
      exact absurd rfl (ramfsFindChild_eq_none invariant.nodes found notRoot live isParent)
    | some other =>
      rcases ramfsFindChild_eq_some invariant.nodes found with
        ⟨otherNotRoot, otherLive, isAbove, isName⟩
      rw [invariant.siblings other index otherNotRoot notRoot otherLive live
        (isAbove.trans isParent.symm) isName]

theorem RamfsInvariant.treeSound (invariant : RamfsInvariant ramfs) : TreeSound ramfs where
  root := invariant.root
  siblings := invariant.siblings
  linkedOnce index notRoot live := invariant.linkedOnce notRoot live
  rooted := invariant.rooted
  noOwnAncestor index live := (invariant.rooted index live).not_above_self (parentOf_root ramfs)
  sizes := by
    intro index live
    have sound := invariant.nodes index live
    refine ⟨sound.fits, ?_⟩
    rcases sound.block with ⟨absent, isEmpty⟩ | ⟨block, isBlock, length, -⟩
    · rw [absent, isEmpty]
      rfl
    · rw [isBlock, Option.getD_some, length]
  total := ramfsCurrentCapacity_eq fun index live => (invariant.nodes index live).small
  statistics := by
    rcases foldlM_addToStats invariant (List.finRange ramfsMaxNodes) ⟨0, 0, 0, 0, 0⟩
      (by rw [List.length_finRange]; decide) (by rw [List.length_finRange]; decide) with
      ⟨last, isLast, capacity⟩
    rw [Nat.zero_add, ← Fin.sum_univ_def] at capacity
    exact ⟨last, isLast, capacity⟩
  budget := invariant.budget

/-- After any calls the nodes form a tree and the blocks stay in the budget, and
a call that fails then leaves everything as it was. -/
theorem ramfs_tree_sound (steps : List (Heap × RamfsCall)) :
    TreeSound (run ramfsStep ramfsCreateFilesystem steps) ∧
      ∀ heap call, (ramfsCall heap (run ramfsStep ramfsCreateFilesystem steps) call).2 ≠ .ok →
        (ramfsCall heap (run ramfsStep ramfsCreateFilesystem steps) call).1 =
          run ramfsStep ramfsCreateFilesystem steps := by
  have invariant := reachable_invariant steps
  exact ⟨invariant.treeSound, fun heap call => (ramfsCall_sound invariant heap call).unchanged⟩

variable {ramfs : Ramfs} {index : Fin ramfsMaxNodes}

/-! ## The directories as maps -/

/-- Which node a directory holds under a name -/
abbrev Names := Fin ramfsMaxNodes → List UInt8 → Option (Fin ramfsMaxNodes)

/-- The same, but for one name in one directory -/
def Names.put (names : Names) (directory : Fin ramfsMaxNodes) (name : List UInt8)
    (node : Option (Fin ramfsMaxNodes)) : Names :=
  fun other otherName => if other = directory ∧ otherName = name then node else names other otherName

/-- A free name of a directory gets a new node. -/
def Enters (names next : Names) (directory : Option (Fin ramfsMaxNodes)) (name : List UInt8) : Prop :=
  ∃ parent node, directory = some parent ∧ names parent name = none ∧
    (∀ other otherName, names other otherName ≠ some node) ∧ next = names.put parent name (some node)

/-- A name of a directory becomes free, and its node held no names. -/
def Leaves (names next : Names) (directory : Option (Fin ramfsMaxNodes)) (name : List UInt8) : Prop :=
  ∃ parent node, directory = some parent ∧ names parent name = some node ∧
    (∀ other, names node other = none) ∧ next = names.put parent name none

/-- The node of a name goes to another name, which is free without it. -/
def Moves (names next : Names) (oldDirectory : Option (Fin ramfsMaxNodes)) (oldName : List UInt8)
    (newDirectory : Option (Fin ramfsMaxNodes)) (newName : List UInt8) : Prop :=
  ∃ oldParent newParent node, oldDirectory = some oldParent ∧ newDirectory = some newParent ∧
    names oldParent oldName = some node ∧ names.put oldParent oldName none newParent newName = none ∧
    next = (names.put oldParent oldName none).put newParent newName (some node)

/-- What a call that succeeds does to the directories -/
def NamesChange (names next : Names) : RamfsCall → Prop
  | .create directory name | .mkdir directory name => Enters names next directory name
  | .unlink directory name | .rmdir directory name => Leaves names next directory name
  | .rename oldDirectory oldName newDirectory newName =>
    Moves names next oldDirectory oldName newDirectory newName
  | .file _ _ | .references _ _ => next = names

/-- A node is in the same directory, under the same name. -/
def SamePlace (node before : RamfsNode) : Prop :=
  node.occupied = before.occupied ∧ node.parent = before.parent ∧ node.name = before.name

section

variable (invariant : RamfsInvariant ramfs)
include invariant

theorem ramfsFindChild_iff (directory : Fin ramfsMaxNodes) (name : List UInt8) (index) :
    ramfsFindChild ramfs directory name = some index ↔ index ≠ rootIndex ∧ Live ramfs index ∧
      (ramfs.nodes index).parent = some directory ∧ (ramfs.nodes index).name = name := by
  refine ⟨ramfsFindChild_eq_some invariant.nodes, fun ⟨notRoot, live, isParent, isName⟩ => ?_⟩
  rcases invariant.linkedOnce notRoot live with ⟨parent, hasParent, -, found⟩
  rw [found, isName]
  exact ⟨Option.some.inj (isParent.symm.trans hasParent), rfl⟩

/-- Only the entry of the node that is written can change. -/
theorem ramfsFindChild_setNode (node : RamfsNode)
    (after : RamfsInvariant (ramfs.setNode index node)) (notRoot : index ≠ rootIndex)
    (directory : Fin ramfsMaxNodes) (name : List UInt8) (child : Fin ramfsMaxNodes) :
    ramfsFindChild (ramfs.setNode index node) directory name = some child ↔
      if child = index then node.occupied = true ∧ node.parent = some directory ∧ node.name = name
      else ramfsFindChild ramfs directory name = some child := by
  rw [ramfsFindChild_iff after, ramfsFindChild_iff invariant]
  split
  · rename_i isIndex
    simp [isIndex, notRoot, Live]
  · rename_i isOther
    rw [live_setNode_of_ne isOther, setNode_nodes_of_ne isOther]

theorem ramfsFindChild_congr {next : Ramfs} (after : RamfsInvariant next)
    (same : ∀ index, SamePlace (next.nodes index) (ramfs.nodes index)) :
    ramfsFindChild next = ramfsFindChild ramfs := by
  funext directory name
  ext child
  rcases same child with ⟨occupied, parent, isName⟩
  rw [ramfsFindChild_iff after, ramfsFindChild_iff invariant, Live, occupied, parent, isName, Live]

variable {heap : Heap} {directory : Option (Fin ramfsMaxNodes)} {name : List UInt8}

theorem createIn_enters {type : VfsNodeType}
    (succeeded : resultOf (createIn type ramfs directory name).2 = .ok) :
    Enters (ramfsFindChild ramfs) (ramfsFindChild (createIn type ramfs directory name).1) directory name := by
  have after := (createIn_sound invariant type directory name).invariant
  revert succeeded after
  rw [createIn]
  split
  · grind [resultOf, wrongNode]
  rename_i parent isParent
  rw [ramfsCreateNode]
  split
  · exact fun impossible => absurd impossible ‹_›
  split
  · rintro ⟨⟩
  rename_i missing
  split
  · rintro ⟨⟩
  rename_i slot isFree
  split
  · rintro ⟨⟩
  split
  · rintro ⟨⟩
  rename_i node prepared
  intro _ after
  rcases ramfsFindFreeNode_eq_some isFree with ⟨notRoot, free⟩
  have absent : ∀ other otherName, ramfsFindChild ramfs other otherName ≠ some slot :=
    fun _ _ found => free (ramfsFindChild_eq_some invariant.nodes found).2.1
  refine ⟨parent, slot, (ramfsDirectoryFromVfs_eq_some isParent).1, not_ne_iff.mp missing, absent, ?_⟩
  funext other otherName
  ext child
  have changed := ramfsFindChild_setNode invariant { node with occupied := true }
    { after with nextNodeId := invariant.nextNodeId } notRoot other otherName child
  refine changed.trans ?_
  simp only [vfsNodePrepare] at prepared
  grind [Names.put]

/-- A node that nothing names as its parent leaves its directory. -/
theorem ramfsRemoveNode_leaves {parent : Fin ramfsMaxNodes}
    (isParent : ramfsDirectoryFromVfs ramfs directory = some parent)
    (found : ramfsFindChild ramfs parent name = some index)
    (childless : ∀ other, other ≠ rootIndex → Live ramfs other → (ramfs.nodes other).parent ≠ some index)
    (succeeded : (ramfsRemoveNode heap ramfs index).2 = .ok) :
    Leaves (ramfsFindChild ramfs) (ramfsFindChild (ramfsRemoveNode heap ramfs index).1) directory name := by
  rcases ramfsFindChild_eq_some invariant.nodes found with ⟨notRoot, -, -, -⟩
  have after := (ramfsRemoveNode_sound invariant heap notRoot childless).invariant
  refine ⟨parent, index, (ramfsDirectoryFromVfs_eq_some isParent).1, found, fun other => ?_, ?_⟩
  · by_contra present
    rcases Option.ne_none_iff_exists'.mp present with ⟨child, isChild⟩
    rcases ramfsFindChild_eq_some invariant.nodes isChild with ⟨childNotRoot, childLive, isIndex, -⟩
    exact childless child childNotRoot childLive isIndex
  revert succeeded after
  rw [ramfsRemoveNode]
  split
  · rintro ⟨⟩
  split
  · rintro ⟨⟩
  split
  · rintro ⟨⟩
  intro _ after
  funext other otherName
  ext child
  rw [ramfsFindChild_setNode invariant _ after notRoot]
  grind [Names.put, clearedNode, ramfsFindChild_iff invariant]

theorem ramfsUnlink_leaves (succeeded : (ramfsUnlink heap ramfs directory name).2 = .ok) :
    Leaves (ramfsFindChild ramfs) (ramfsFindChild (ramfsUnlink heap ramfs directory name).1) directory name := by
  revert succeeded
  rw [ramfsUnlink]
  split
  · grind [wrongNode]
  rename_i parent isParent
  split
  · exact fun impossible => absurd impossible ‹_›
  split
  · rintro ⟨⟩
  rename_i node found
  split
  · rintro ⟨⟩
  rename_i isRegular
  rw [not_ne_iff] at isRegular
  refine ramfsRemoveNode_leaves invariant isParent found fun other isChild live isAbove => ?_
  rcases invariant.parents other isChild live with ⟨above, has, isDirectory⟩
  cases has.symm.trans isAbove
  cases isRegular.symm.trans isDirectory.2

theorem ramfsRmdir_leaves (succeeded : (ramfsRmdir heap ramfs directory name).2 = .ok) :
    Leaves (ramfsFindChild ramfs) (ramfsFindChild (ramfsRmdir heap ramfs directory name).1) directory name := by
  revert succeeded
  rw [ramfsRmdir]
  split
  · grind [wrongNode]
  rename_i parent isParent
  split
  · exact fun impossible => absurd impossible ‹_›
  split
  · rintro ⟨⟩
  rename_i node found
  split
  · rintro ⟨⟩
  split
  · rintro ⟨⟩
  rename_i childless
  rw [Bool.not_eq_true] at childless
  exact ramfsRemoveNode_leaves invariant isParent found fun other isChild live =>
    ramfsDirectoryHasChildren_eq_false invariant.nodes childless isChild live

theorem ramfsRename_moves {oldDirectory newDirectory : Option (Fin ramfsMaxNodes)}
    {oldName newName : List UInt8}
    (succeeded : (ramfsRename ramfs oldDirectory oldName newDirectory newName).2 = .ok) :
    Moves (ramfsFindChild ramfs)
      (ramfsFindChild (ramfsRename ramfs oldDirectory oldName newDirectory newName).1)
      oldDirectory oldName newDirectory newName := by
  have after := (ramfsRename_sound invariant oldDirectory oldName newDirectory newName).invariant
  revert succeeded after
  rw [ramfsRename]
  split
  · rename_i oldParent newParent isOld isNew
    split
    · exact fun impossible => absurd impossible ‹_›
    split
    · exact fun impossible => absurd impossible ‹_›
    split
    · rintro ⟨⟩
    rename_i node found
    rcases ramfsFindChild_eq_some invariant.nodes found with ⟨notRoot, live, isAbove, isName⟩
    have isOldOne := (ramfsDirectoryFromVfs_eq_some isOld).1
    have isNewOne := (ramfsDirectoryFromVfs_eq_some isNew).1
    split
    · split
      · refine fun _ _ => ⟨oldParent, newParent, node, isOldOne, isNewOne, found, ?_, ?_⟩
        · grind [Names.put]
        · funext other otherName
          grind [Names.put]
      · rintro ⟨⟩
    split
    · exact fun impossible => absurd impossible ‹_›
    refine fun _ after => ⟨oldParent, newParent, node, isOldOne, isNewOne, found, ?_, ?_⟩
    · grind [Names.put]
    funext other otherName
    ext child
    rw [ramfsFindChild_setNode invariant _ after notRoot]
    have only := ramfsFindChild_iff invariant other otherName child
    grind [Names.put, Live]
  · rintro ⟨⟩

end

theorem samePlace_setNode {node : RamfsNode} (same : SamePlace node (ramfs.nodes index))
    (other : Fin ramfsMaxNodes) : SamePlace ((ramfs.setNode index node).nodes other) (ramfs.nodes other) := by
  by_cases isIndex : other = index
  · simpa [isIndex] using same
  · rw [setNode_nodes_of_ne isIndex]
    exact ⟨rfl, rfl, rfl⟩

theorem changeBlock_samePlace {heap : Heap} {node changed : RamfsNode}
    {replacement : Option (List UInt8)} {capacity : Nat} {change : List UInt8 → List UInt8}
    {result : VfsResult}
    (isChanged : changeBlock heap node replacement capacity change = (changed, result)) (size : Nat) :
    SamePlace { changed with size := size } node := by
  obtain rfl : _ = changed := congrArg Prod.fst isChanged
  unfold changeBlock ramfsCommitReplacement
  split
  · dsimp only
    split <;> exact ⟨rfl, rfl, rfl⟩
  · exact ⟨rfl, rfl, rfl⟩
  · exact ⟨rfl, rfl, rfl⟩

theorem ramfsFileCall_samePlace (heap : Heap) (node : Option (Fin ramfsMaxNodes)) (call : FileCall)
    (index : Fin ramfsMaxNodes) :
    SamePlace ((ramfsFileCall heap ramfs node call).1.nodes index) (ramfs.nodes index) := by
  have same : SamePlace (ramfs.nodes index) (ramfs.nodes index) := ⟨rfl, rfl, rfl⟩
  cases call with
  | read offset length => exact same
  | write offset input =>
    simp only [ramfsFileCall, ramfsWrite]
    repeat' split
    all_goals first
      | exact same
      | exact samePlace_setNode (changeBlock_samePlace ‹_› _) index
  | truncate size =>
    simp only [ramfsFileCall, ramfsTruncate]
    repeat' split
    all_goals first
      | exact same
      | exact samePlace_setNode (changeBlock_samePlace ‹_› _) index
      | exact samePlace_setNode (by exact ⟨rfl, rfl, rfl⟩) index

/-- The directories are maps from names to nodes.  After any calls a lookup reads
these maps, and a call that succeeds changes them only as its name says. -/
theorem ramfs_refines_names (steps : List (Heap × RamfsCall)) :
    let ramfs := run ramfsStep ramfsCreateFilesystem steps
    (∀ directory name node, ramfsLookup ramfs (some directory) name = .ok node ↔
      IsDirectory ramfs directory ∧ ramfsFindChild ramfs directory name = some node) ∧
    ∀ heap call, (ramfsCall heap ramfs call).2 = .ok →
      NamesChange (ramfsFindChild ramfs) (ramfsFindChild (ramfsCall heap ramfs call).1) call := by
  intro ramfs
  have invariant : RamfsInvariant ramfs := reachable_invariant steps
  constructor
  · intro directory name node
    have named := invariant.names node
    have found := ramfsFindChild_iff invariant directory name node
    have sound := invariant.nodes directory
    rw [ramfsLookup]
    cases isKnown : ramfsDirectoryFromVfs ramfs (some directory) with
    | none =>
      rw [ramfsDirectoryFromVfs, ramfsNodeFromVfs] at isKnown
      grind [IsDirectory, Live, NodeSound]
    | some parent =>
      rcases ramfsDirectoryFromVfs_eq_some isKnown with ⟨isParent, isDirectory⟩
      cases isParent
      grind
  · intro heap call succeeded
    cases call with
    | create directory name => exact createIn_enters invariant succeeded
    | mkdir directory name => exact createIn_enters invariant succeeded
    | unlink directory name => exact ramfsUnlink_leaves invariant succeeded
    | rmdir directory name => exact ramfsRmdir_leaves invariant succeeded
    | rename oldDirectory oldName newDirectory newName => exact ramfsRename_moves invariant succeeded
    | file node call =>
      exact ramfsFindChild_congr invariant (ramfsCall_sound invariant heap (.file node call)).invariant
        (ramfsFileCall_samePlace heap node call)
    | references node count =>
      refine ramfsFindChild_congr invariant (ramfsCall_sound invariant heap _).invariant fun index => ?_
      simp only [ramfsCall]
      split
      · exact ⟨rfl, rfl, rfl⟩
      · exact samePlace_setNode (by exact ⟨rfl, rfl, rfl⟩) index

end BoringOS.RamFs
