import BoringOS.Vfs.PathSteps

namespace BoringOS.Vfs

open Library

/-!
# Calls that ask a backend

Whatever a backend answers, and whatever it does to objects that nobody refers
to, the balance is kept.  A resolution and a creation add the path that they
return and nothing else, and they add nothing if they fail.
-/

variable {Context : Type} {vfs : VfsState Context} {live : Multiset VfsPath} {handles : Nat}
  {path pathOut : VfsPath}

theorem vfsFilesystemValid_root {objects : Objects} {filesystem : Option Nat}
    (isValid : vfsFilesystemValid objects filesystem = true) :
    ∃ index root, filesystem = some index ∧ (objects.filesystems index).root = some root ∧
      (objects.nodes root).valid = true ∧ (objects.nodes root).filesystem = filesystem := by
  cases filesystem with
  | none => cases isValid
  | some index =>
    unfold vfsFilesystemValid vfsNodeValidForFilesystem at isValid
    simp only [Objects.filesystem, Option.elim] at isValid
    cases isRoot : (objects.filesystems index).root with
    | none =>
      simp_all
    | some root =>
      simp_all [Objects.node, Option.elim, Bool.and_eq_true, beq_iff_eq]

theorem mem_tableReferences {index node : Nat} (inTable : index < vfsMountMax)
    (member : node ∈ mountReferences vfs index) : node ∈ tableReferences vfs :=
  Multiset.mem_sum.mpr ⟨index, Finset.mem_range.mpr inTable, member⟩

namespace Balanced

section

variable (balanced : Balanced vfs live handles)
include balanced

theorem tableReferenced {index node : Nat}
    (inTable : index < vfsMountMax) (member : node ∈ mountReferences vfs index) :
    (vfs.objects.nodes node).referenceCount ≠ 0 :=
  Nat.ne_of_gt (balanced.tallied.positive
    (Multiset.mem_add.mpr (Or.inr (mem_tableReferences inTable member))))

theorem pathReferenced (member : path ∈ live) {node : Nat}
    (isNode : path.node = some node) : (vfs.objects.nodes node).referenceCount ≠ 0 :=
  Nat.ne_of_gt (balanced.tallied.positive
    (Multiset.mem_add.mpr (Or.inl ((Multiset.mem_filterMap _ live).mpr ⟨path, member, isNode⟩))))

theorem rootReferenced {index : Nat}
    (inTable : index < vfsMountMax) (active : (vfs.mounts index).active = true) :
    ∃ filesystem root, (vfs.mounts index).filesystem = some filesystem ∧
      (vfs.objects.filesystems filesystem).root = some root ∧
      (vfs.objects.nodes root).referenceCount ≠ 0 := by
  rcases vfsFilesystemValid_root (balanced.mounts index inTable active).filesystem with
    ⟨filesystem, root, isFilesystem, isRoot, -, -⟩
  refine ⟨filesystem, root, isFilesystem, isRoot, ?_⟩
  apply balanced.tableReferenced inTable
  unfold mountReferences VfsState.rootOf
  simp_all [VfsState.mount, Option.elim, Objects.filesystem]

theorem answered (reply : BackendReply Context vfs.objects) :
    Balanced (vfs.answered reply) live handles := by
  have keeps := reply.keeps
  have stillSound : ∀ index, index < vfsMountMax → (vfs.mounts index).active = true →
      vfsFilesystemValid reply.objects (vfs.mounts index).filesystem = true ∧
        (reply.objects.filesystem (vfs.mounts index).filesystem).root =
          (vfs.objects.filesystem (vfs.mounts index).filesystem).root := by
    intro index inTable active
    rcases balanced.rootReferenced inTable active with ⟨filesystem, root, isIt, isRoot, counted⟩
    have isValid := (balanced.mounts index inTable active).filesystem
    rw [isIt] at isValid ⊢
    rcases keeps.filesystemValid isValid isRoot counted with ⟨validAfter, rootAfter⟩
    exact ⟨validAfter, rootAfter.trans isRoot.symm⟩
  have sameReferences : tableReferences (vfs.answered reply) = tableReferences vfs := by
    apply Finset.sum_congr rfl
    intro index member
    unfold mountReferences VfsState.rootOf VfsState.answered
    by_cases active : (vfs.mounts index).active = true
    · simp_all [VfsState.mount, Option.elim]
    · simp [*]
  refine ⟨?_, balanced.paths, balanced.opened, fun path member => ?_,
    fun index inTable active => ?_, balanced.idle, balanced.nextMount⟩
  · rw [sameReferences]
    exact balanced.tallied.congr keeps.counts
  · have isValid := balanced.valid path member
    rcases vfsPathValid_node isValid with ⟨node, isNode, -⟩
    unfold vfsPathValid vfsMountValid at isValid ⊢
    cases isMount : path.mount with
    | none =>
      grind
    | some index =>
      simp only [isMount, isNode, Option.elim, VfsState.mount, Bool.and_eq_true,
        decide_eq_true_eq] at isValid ⊢
      rcases isValid with ⟨⟨⟨⟨⟨on, inTable⟩, active⟩, id⟩, -⟩, nodeValid⟩
      refine ⟨⟨⟨⟨⟨on, inTable⟩, active⟩, id⟩, (stillSound index inTable active).1⟩, ?_⟩
      change vfsNodeValidForFilesystem reply.objects _ _ = true
      rw [keeps.nodeValid (balanced.pathReferenced member isNode)]
      exact nodeValid
  · change (vfs.mounts index).active = true at active
    have sound := balanced.mounts index inTable active
    refine ⟨sound.id, (stillSound index inTable active).1, fun node isMountpoint => ?_,
      fun node isMountpoint => ?_⟩
    all_goals change (vfs.mounts index).mountpoint = some node at isMountpoint
    swap
    · change (reply.objects.filesystem (vfs.mounts index).filesystem).root ≠ some node
      rw [(stillSound index inTable active).2]
      exact sound.apart node isMountpoint
    have counted : (vfs.objects.nodes node).referenceCount ≠ 0 := by
      apply balanced.tableReferenced inTable
      unfold mountReferences
      rw [if_pos active, isMountpoint]
      exact Multiset.mem_add.mpr (Or.inr (Multiset.mem_singleton_self node))
    exact (keeps.nodes node counted).2.2.2.trans (sound.mountpoint node isMountpoint)

end

end Balanced

variable (backend : Backend Context)

theorem vfsResolveName_balanced
    (balanced : Balanced vfs (held path + live) handles) (component : List UInt8) :
    Balanced (vfsResolveName backend vfs path component).vfs
      (held (vfsResolveName backend vfs path component).path + live) handles := by
  unfold vfsResolveName
  split
  · exact abandon_balanced balanced _
  split
  · exact abandon_balanced balanced _
  have found := balanced.answered
    (vfs.ask backend (vfs.mount path.mount).filesystem (.lookup path.node component))
  simp only
  split
  · exact abandon_balanced found _
  split
  · exact abandon_balanced found _
  have acquired := vfsPathAcquire_local found path.mount
    (vfs.ask backend (vfs.mount path.mount).filesystem (.lookup path.node component)).node
  split
  · simp_all [vfsPathAcquire_failed, held_empty, abandon_balanced]
  rw [add_left_comm] at acquired
  have released := (vfsPathRelease_held acquired).2
  grind [abandon_balanced, vfsFollowChildMount_balanced]

theorem vfsResolveComponent_balanced
    (balanced : Balanced vfs (held path + live) handles) (component : List UInt8) :
    Balanced (vfsResolveComponent backend vfs path component).vfs
      (held (vfsResolveComponent backend vfs path component).path + live) handles := by
  unfold vfsResolveComponent
  split
  · exact abandon_balanced balanced _
  split
  · exact balanced
  split
  · grind [vfsStepParent_balanced, abandon_balanced]
  · exact vfsResolveName_balanced backend balanced component

/-- A turn of the loop that fails has given up its path. -/
theorem vfsResolveName_failed (vfs : VfsState Context) (path : VfsPath) (component : List UInt8) :
    (vfsResolveName backend vfs path component).result = .ok ∨
      (vfsResolveName backend vfs path component).path = VfsPath.empty := by
  unfold vfsResolveName
  simp only
  split
  · exact Or.inr rfl
  split
  · exact Or.inr rfl
  split
  · exact Or.inr rfl
  split
  · exact Or.inr rfl
  split
  · exact Or.inr rfl
  split
  · exact Or.inr rfl
  · split
    · exact Or.inr rfl
    simp_all

theorem vfsResolveComponent_failed (vfs : VfsState Context) (path : VfsPath) (component : List UInt8) :
    (vfsResolveComponent backend vfs path component).result = .ok ∨
      (vfsResolveComponent backend vfs path component).path = VfsPath.empty := by
  unfold vfsResolveComponent
  simp only
  split
  · exact Or.inr rfl
  split
  · exact Or.inl rfl
  split
  · split
    · exact Or.inr rfl
    simp_all
  · exact vfsResolveName_failed backend vfs path component

theorem vfsResolveComponents_balanced (names : List (List UInt8)) :
    ∀ (vfs : VfsState Context) (path : VfsPath), Balanced vfs (held path + live) handles →
      Balanced (vfsResolveComponents backend names vfs path).vfs
        (held (vfsResolveComponents backend names vfs path).path + live) handles := by
  induction names with
  | nil => exact fun _ _ balanced => balanced
  | cons component rest ih =>
    grind [vfsResolveComponent_balanced, vfsResolveComponents]

theorem vfsResolveComponents_failed (names : List (List UInt8)) :
    ∀ (vfs : VfsState Context) (path : VfsPath),
      (vfsResolveComponents backend names vfs path).result = .ok ∨
        (vfsResolveComponents backend names vfs path).path = VfsPath.empty := by
  induction names with
  | nil => exact fun _ _ => Or.inl rfl
  | cons component rest ih =>
    intro vfs path
    unfold vfsResolveComponents
    grind [vfsResolveComponent_failed]

theorem vfsResolveStart_balanced (balanced : Balanced vfs live handles)
    (start : Option VfsPath) (text : List UInt8) :
    Balanced (vfsResolveStart vfs start text).vfs
      (held (vfsResolveStart vfs start text).path + live) handles ∧
      ((vfsResolveStart vfs start text).result = .ok ∨
        (vfsResolveStart vfs start text).path = VfsPath.empty) := by
  have begun : Balanced vfs (held VfsPath.empty + live) handles := by
    rw [held_empty, zero_add]
    exact balanced
  unfold vfsResolveStart
  split
  · refine ⟨vfsGetRoot_balanced begun, ?_⟩
    unfold vfsGetRoot
    split
    · exact Or.inr rfl
    by_cases isOk : (vfsPathAcquire vfs (some 0) (vfs.rootOf (some 0)) VfsPath.empty).result = .ok
    · exact Or.inl isOk
    · exact Or.inr (vfsPathAcquire_failed vfs _ _ _ isOk)
  · cases start with
    | none => exact ⟨begun, Or.inr rfl⟩
    | some start =>
      refine ⟨vfsPathClone_balanced begun start, ?_⟩
      by_cases isOk : (vfsPathClone vfs start VfsPath.empty).result = .ok
      · exact Or.inl isOk
      · exact Or.inr (vfsPathClone_failed vfs start _ isOk)

theorem vfsResolve_balanced (start : Option VfsPath)
    (text : Option (List UInt8)) (balanced : Balanced vfs (held pathOut + live) handles) :
    Balanced (vfsResolve backend vfs start text pathOut).vfs
      (held (vfsResolve backend vfs start text pathOut).path + live) handles := by
  unfold vfsResolve
  simp only
  split
  · exact balanced
  cases text with
  | none => exact balanced
  | some text =>
    simp only
    split
    · exact balanced
    rename_i isEmpty
    simp only [not_or, not_not] at isEmpty
    have unused := empty_of_fields isEmpty.1 isEmpty.2
    have without := balanced
    split
    · exact balanced
    split
    · exact balanced
    rcases vfsResolveStart_balanced without start text with ⟨begun, given⟩
    split
    · simp_all
    · have walked := vfsResolveComponents_balanced backend (components text) _ _ begun
      grind [vfsResolveComponents_failed, held_empty]

theorem vfsCreateCommon_balanced (balanced : Balanced vfs (held pathOut + live) handles) (directory : VfsPath)
    (name : List UInt8) (directoryRequested : Bool) :
    Balanced (vfsCreateCommon backend vfs directory name pathOut directoryRequested).vfs
      (held (vfsCreateCommon backend vfs directory name pathOut directoryRequested).path + live)
      handles := by
  unfold vfsCreateCommon
  simp only
  split
  · exact balanced
  split
  · exact balanced
  split
  · exact balanced
  split
  · exact balanced
  split
  · exact balanced.answered _
  split
  · exact balanced.answered _
  · exact vfsPathAcquire_balanced (balanced.answered _) _ _

section

variable (balanced : Balanced vfs live handles)
include balanced

theorem vfsRemoveCommon_balanced (directory : VfsPath) (name : List UInt8) (directoryRequested : Bool) :
    Balanced (vfsRemoveCommon backend vfs directory name directoryRequested).2 live handles := by
  unfold vfsRemoveCommon
  simp only
  split
  · exact balanced
  split
  · exact balanced
  split
  · exact balanced
  · exact balanced.answered _

theorem vfsRenameAt_balanced (oldDirectory : VfsPath) (oldName : List UInt8) (newDirectory : VfsPath)
    (newName : List UInt8) :
    Balanced (vfsRenameAt backend vfs oldDirectory oldName newDirectory newName).2 live
      handles := by
  unfold vfsRenameAt
  simp only
  split
  · exact balanced
  split
  · exact balanced
  split
  · exact balanced
  split
  · exact balanced
  split
  · exact balanced
  split
  · exact balanced
  · exact balanced.answered _

theorem vfsTruncatePath_balanced (path : VfsPath) (size : Nat) :
    Balanced (vfsTruncatePath backend vfs path size).2 live handles := by
  unfold vfsTruncatePath
  split
  · exact balanced
  split
  · exact balanced
  · exact balanced.answered _

theorem vfsReaddirPath_balanced (directory : VfsPath) (index : Nat) :
    Balanced (vfsReaddirPath backend vfs directory index).2.2 live handles := by
  unfold vfsReaddirPath
  simp only
  split
  · exact balanced
  split
  · exact balanced
  split
  · exact balanced.answered _
  split
  · exact balanced.answered _
  · exact balanced.answered _

end

end BoringOS.Vfs
