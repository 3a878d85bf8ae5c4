import BoringOS.RamFs.NodeTree

namespace BoringOS.RamFs

open Library Vfs

/-!
# Calls on directories

Creation, removal and renaming.  Every call keeps the invariant, and one that
returns an error leaves the whole file system as it was.
-/

/-- The invariant holds after a call, and nothing changed if the call failed. -/
structure CallSound (ramfs next : Ramfs) (failed : Prop) : Prop where
  invariant : RamfsInvariant next
  unchanged : failed → next = ramfs

theorem CallSound.same {ramfs : Ramfs} (invariant : RamfsInvariant ramfs) (failed : Prop) :
    CallSound ramfs ramfs failed :=
  ⟨invariant, fun _ => rfl⟩

theorem CallSound.success {ramfs next : Ramfs} {failed : Prop} (invariant : RamfsInvariant next)
    (succeeded : ¬ failed) : CallSound ramfs next failed :=
  ⟨invariant, fun impossible => absurd impossible succeeded⟩

/-- The call did not succeed. -/
def Failed {Value : Type} (result : Except VfsResult Value) : Prop := ∃ error, result = .error error

theorem not_failed_ok {Value : Type} (value : Value) :
    ¬ Failed (.ok value : Except VfsResult Value) := by
  nofun

variable {ramfs : Ramfs}

section

variable (invariant : RamfsInvariant ramfs)
include invariant

theorem ramfsCreateNode_sound {directory : Fin ramfsMaxNodes}
    (isDirectory : IsDirectory ramfs directory) (name : List UInt8) (type : VfsNodeType) :
    CallSound ramfs (ramfsCreateNode ramfs directory name type).1
      (Failed (ramfsCreateNode ramfs directory name type).2) := by
  rw [ramfsCreateNode]
  split
  · exact CallSound.same invariant _
  rename_i named
  rw [not_ne_iff] at named
  split
  · exact CallSound.same invariant _
  rename_i missing
  rw [not_ne_iff] at missing
  split
  · exact CallSound.same invariant _
  rename_i slot isFree
  rcases ramfsFindFreeNode_eq_some isFree with ⟨notRoot, free⟩
  have isOther : directory ≠ slot := by
    intro isSlot
    exact free (isSlot ▸ isDirectory.1)
  have above := invariant.nodes directory isDirectory.1
  have accepted : ¬ (ramfs.nextNodeId = 0 ∨ (ramfs.nodes directory).valid = false ∨
      (ramfs.nodes directory).id = 0 ∨
      (ramfs.nodes directory).type ≠ some .directory ∨ directory = slot) := by
    rw [above.valid, isDirectory.2]
    simp only [invariant.nextNodeId, above.numbered, isOther, reduceCtorEq, ne_eq,
      not_true_eq_false, or_self, not_false_eq_true]
  split
  · exact CallSound.same invariant _
  rw [vfsNodePrepare, if_neg accepted]
  apply CallSound.success _ (not_failed_ok slot)
  apply invariant.insert notRoot free isDirectory
  · exact {
      valid := rfl
      numbered := invariant.nextNodeId
      typed := Option.some_ne_none type
      fits := Nat.le_refl 0
      small := Nat.zero_le _
      block := Or.inl ⟨rfl, rfl⟩
      directory := fun _ => rfl }
  · rfl
  · rfl
  · exact named
  · rfl
  · intro other isChild live isParent
    exact ramfsFindChild_eq_none invariant.nodes missing isChild live isParent

theorem createIn_sound (type : VfsNodeType) (directory : Option (Fin ramfsMaxNodes)) (name : List UInt8) :
    CallSound ramfs (createIn type ramfs directory name).1
      (Failed (createIn type ramfs directory name).2) := by
  grind [createIn, CallSound.same, ramfsCreateNode_sound, ramfsDirectoryFromVfs_eq_some]

theorem ramfsRemoveNode_sound (heap : Heap)
    {index : Fin ramfsMaxNodes} (notRoot : index ≠ rootIndex)
    (childless : ∀ other, other ≠ rootIndex → Live ramfs other → (ramfs.nodes other).parent ≠ some index) :
    CallSound ramfs (ramfsRemoveNode heap ramfs index).1 ((ramfsRemoveNode heap ramfs index).2 ≠ .ok) := by
  rw [ramfsRemoveNode]
  split
  · exact CallSound.same invariant _
  split
  · exact CallSound.same invariant _
  split
  · exact CallSound.same invariant _
  · exact CallSound.success (invariant.remove notRoot childless) (not_ne_iff.mpr rfl)

theorem ramfsUnlink_sound (heap : Heap) (directory : Option (Fin ramfsMaxNodes)) (name : List UInt8) :
    CallSound ramfs (ramfsUnlink heap ramfs directory name).1
      ((ramfsUnlink heap ramfs directory name).2 ≠ .ok) := by
  rw [ramfsUnlink]
  split
  · exact CallSound.same invariant _
  split
  · exact CallSound.same invariant _
  split
  · exact CallSound.same invariant _
  rename_i child found
  split
  · exact CallSound.same invariant _
  rename_i isRegular
  rw [not_ne_iff] at isRegular
  apply ramfsRemoveNode_sound invariant heap (ramfsFindChild_eq_some invariant.nodes found).1
  -- a regular node has no children, since parents are directories
  intro other isChild live isParent
  rcases invariant.parents other isChild live with ⟨parent, has, isDirectory⟩
  cases has.symm.trans isParent
  cases isRegular.symm.trans isDirectory.2

theorem ramfsRmdir_sound (heap : Heap) (directory : Option (Fin ramfsMaxNodes)) (name : List UInt8) :
    CallSound ramfs (ramfsRmdir heap ramfs directory name).1
      ((ramfsRmdir heap ramfs directory name).2 ≠ .ok) := by
  rw [ramfsRmdir]
  split
  · exact CallSound.same invariant _
  split
  · exact CallSound.same invariant _
  split
  · exact CallSound.same invariant _
  rename_i child found
  split
  · exact CallSound.same invariant _
  split
  · exact CallSound.same invariant _
  rename_i childless
  rw [Bool.not_eq_true] at childless
  apply ramfsRemoveNode_sound invariant heap (ramfsFindChild_eq_some invariant.nodes found).1
  intro other isChild live
  exact ramfsDirectoryHasChildren_eq_false invariant.nodes childless isChild live

end

/-- Where the loop ends well, the way to the root does not lead through the
source, so that it is still there when the source is moved. -/
theorem renameCycleLoop_rooted {source : Fin ramfsMaxNodes} {moved : RamfsNode} (steps : Nat) :
    ∀ cursor, renameCycleLoop ramfs source steps cursor = .ok →
      Rooted (parentOf (ramfs.setNode source moved)) rootIndex cursor := by
  induction steps with
  | zero =>
    nofun
  | succ steps ih =>
    intro cursor accepted
    rw [renameCycleLoop] at accepted
    split at accepted
    · cases accepted
    rename_i isOther
    split at accepted
    · simp_all [Rooted.root]
    rename_i notRoot
    split at accepted
    · cases accepted
    rename_i above isAbove
    refine Rooted.child ?_ (ih above accepted)
    rw [parentOf_setNode_of_ne isOther, parentOf_of_ne notRoot]
    exact (ramfsDirectoryFromVfs_eq_some isAbove).1

/-- A target that is accepted keeps its way to the root when the source moves. -/
theorem ramfsValidateRenameCycle_rooted (invariant : RamfsInvariant ramfs)
    {source directory : Fin ramfsMaxNodes} {moved : RamfsNode}
    (isDirectory : IsDirectory ramfs directory)
    (accepted : ramfsValidateRenameCycle ramfs source directory = .ok) :
    Rooted (parentOf (ramfs.setNode source moved)) rootIndex directory := by
  rw [ramfsValidateRenameCycle] at accepted
  split at accepted
  · rename_i notDirectory
    -- nothing lies below a regular file
    apply Rooted.congr (IsDirectory ramfs) _ _ (invariant.rooted directory isDirectory.1) isDirectory
    · intro node above isOne isParent
      by_cases isRoot : node = rootIndex
      · simp_all
      rw [parentOf_of_ne isRoot] at isParent
      rcases invariant.parents node isRoot isOne.1 with ⟨parent, has, isAbove⟩
      grind
    · intro node isOne
      apply parentOf_setNode_of_ne
      intro isSource
      exact notDirectory (isSource ▸ isOne.2)
  · exact renameCycleLoop_rooted ramfsMaxNodes directory accepted

theorem ramfsRename_sound (invariant : RamfsInvariant ramfs)
    (oldDirectory : Option (Fin ramfsMaxNodes)) (oldName : List UInt8)
    (newDirectory : Option (Fin ramfsMaxNodes)) (newName : List UInt8) :
    CallSound ramfs (ramfsRename ramfs oldDirectory oldName newDirectory newName).1
      ((ramfsRename ramfs oldDirectory oldName newDirectory newName).2 ≠ .ok) := by
  rw [ramfsRename]
  split
  · rename_i oldParent newParent isOld isNew
    split
    · exact CallSound.same invariant _
    split
    · exact CallSound.same invariant _
    rename_i named
    rw [not_ne_iff] at named
    split
    · exact CallSound.same invariant _
    rename_i source found
    rcases ramfsFindChild_eq_some invariant.nodes found with ⟨notRoot, live, -, -⟩
    have isDirectory := (ramfsDirectoryFromVfs_eq_some isNew).2
    split
    · grind [CallSound.same]
    rename_i missing
    split
    · exact CallSound.same invariant _
    rename_i accepted
    rw [not_ne_iff] at accepted
    apply CallSound.success _ (not_ne_iff.mpr rfl)
    apply invariant.move notRoot live isDirectory named
    · intro other isChild isLive isParent
      exact ramfsFindChild_eq_none invariant.nodes missing isChild isLive isParent
    · exact ramfsValidateRenameCycle_rooted invariant isDirectory accepted
  · exact CallSound.same invariant _

end BoringOS.RamFs
