import BoringOS.Vfs.PathSteps
import BoringOS.Vfs.System

namespace BoringOS.Vfs

/-!
# What the directories hold

A backend answers a lookup from its own records.  `Entries` reads these records
as a directory tree: which node a file system holds in a directory under a name.
`HoldsEntries` says that the records are honest.  A lookup that succeeds finds
the entry, and only a request that removes something may change an entry, a
valid node or a valid file system.  The reference counts are no part of the
tree.

Nearly everything in the virtual file system keeps the tree.  The lemmas below
say so for every function that a process can reach without removing anything.
-/

variable {Context : Type}

/-- The node that a file system holds in a directory under a name. -/
def Entries (Context : Type) : Type :=
  Context → Objects → (filesystem directory : Option Nat) → (name : List UInt8) → Option Nat

/-- Whether a request takes an entry out of a directory. -/
def BackendRequest.removes : BackendRequest → Bool
  | .unlink .. => true
  | .rmdir .. => true
  | .rename .. => true
  | _ => false

/-- The records of a backend give its directory tree. -/
structure HoldsEntries (backend : Backend Context) (entries : Entries Context) : Prop where
  uncounted : ∀ context (objects : Objects) index count,
    entries context
        (objects.setNode index { objects.nodes index with referenceCount := count }) =
      entries context objects
  nodes : ∀ context objects filesystem request, request.removes = false →
    ∀ node, (objects.nodes node).valid = true →
      (backend context objects filesystem request).objects.nodes node = objects.nodes node
  filesystems : ∀ context objects filesystem request, request.removes = false →
    ∀ other, (objects.filesystems other).valid = true →
      (backend context objects filesystem request).objects.filesystems other =
        objects.filesystems other
  kept : ∀ context objects filesystem request, request.removes = false →
    ∀ owner directory name node, entries context objects owner directory name = some node →
      entries (backend context objects filesystem request).context
        (backend context objects filesystem request).objects owner directory name = some node
  found : ∀ context objects filesystem directory name,
    (backend context objects filesystem (.lookup directory name)).result = .ok →
      entries context objects filesystem directory name =
        (backend context objects filesystem (.lookup directory name)).node

/-- The tree of the first state is still there in the second one. -/
structure KeepsTree (entries : Entries Context) (before after : VfsState Context) : Prop where
  nodes : ∀ node, (before.objects.nodes node).valid = true →
    ∃ count, after.objects.nodes node =
      { before.objects.nodes node with referenceCount := count }
  filesystems : ∀ filesystem, (before.objects.filesystems filesystem).valid = true →
    after.objects.filesystems filesystem = before.objects.filesystems filesystem
  entries : ∀ filesystem directory name node,
    entries before.context before.objects filesystem directory name = some node →
      entries after.context after.objects filesystem directory name = some node
  mounts : after.mounts = before.mounts
  initialized : after.initialized = before.initialized

namespace KeepsTree

variable {backend : Backend Context} {entries : Entries Context}
  {before middle after vfs : VfsState Context}

theorem refl (vfs : VfsState Context) : KeepsTree entries vfs vfs where
  nodes node _ := ⟨(vfs.objects.nodes node).referenceCount, rfl⟩
  filesystems _ _ := rfl
  entries _ _ _ _ held := held
  mounts := rfl
  initialized := rfl

theorem trans (first : KeepsTree entries before middle) (second : KeepsTree entries middle after) :
    KeepsTree entries before after where
  nodes node isValid := by
    rcases first.nodes node isValid with ⟨_, stored⟩
    have stillValid : (middle.objects.nodes node).valid = true := by
      rw [stored]
      exact isValid
    rcases second.nodes node stillValid with ⟨count, stored'⟩
    grind
  filesystems filesystem isValid := by
    have same := first.filesystems filesystem isValid
    rw [second.filesystems filesystem (same ▸ isValid), same]
  entries filesystem directory name node held :=
    second.entries filesystem directory name node (first.entries filesystem directory name node held)
  mounts := second.mounts.trans first.mounts
  initialized := second.initialized.trans first.initialized

theorem recount (holds : HoldsEntries backend entries) (vfs : VfsState Context)
    (index count : Nat) : KeepsTree entries vfs (vfs.recount index count) where
  nodes node _ := (SameButCounts.recount vfs index count).nodes node
  filesystems _ _ := rfl
  entries filesystem directory name node held := by
    change entries vfs.context (vfs.objects.setNode index _) _ _ _ = _
    rw [holds.uncounted]
    exact held
  mounts := rfl
  initialized := rfl

section

variable (kept : KeepsTree entries before after)
include kept

theorem withPaths (count : Nat) :
    KeepsTree entries before { after with pathReferenceCount := count } :=
  { kept with }

theorem withHandles (count : Nat) :
    KeepsTree entries before { after with openHandleCount := count } :=
  { kept with }

theorem nodeRecord {node : Option Nat} (isValid : (before.objects.node node).valid = true) :
    ∃ count, after.objects.node node =
      { before.objects.node node with referenceCount := count } := by
  cases node with
  | none => cases isValid
  | some index => exact kept.nodes index isValid

theorem filesystemRecord {filesystem : Option Nat}
    (isValid : (before.objects.filesystem filesystem).valid = true) :
    after.objects.filesystem filesystem = before.objects.filesystem filesystem := by
  cases filesystem with
  | none => rfl
  | some index => exact kept.filesystems index isValid

theorem nodeValid {node filesystem : Option Nat}
    (isValid : vfsNodeValidForFilesystem before.objects node filesystem = true) :
    vfsNodeValidForFilesystem after.objects node filesystem = true := by
  have valid : (before.objects.node node).valid = true := by
    simp only [vfsNodeValidForFilesystem, Bool.and_eq_true] at isValid
    exact isValid.1.1.1.2
  rcases kept.nodeRecord valid with ⟨count, stored⟩
  simp_all [vfsNodeValidForFilesystem]

theorem filesystemValid {filesystem : Option Nat}
    (isValid : vfsFilesystemValid before.objects filesystem = true) :
    vfsFilesystemValid after.objects filesystem = true := by
  unfold vfsFilesystemValid at isValid ⊢
  simp only [Bool.and_eq_true, beq_iff_eq] at isValid ⊢
  rcases isValid with ⟨⟨⟨⟨⟨⟨present, valid⟩, id⟩, operations⟩, root⟩, type⟩, parent⟩
  rw [kept.filesystemRecord valid]
  have rootValid : (before.objects.node (before.objects.filesystem filesystem).root).valid = true := by
    simp only [vfsNodeValidForFilesystem, Bool.and_eq_true] at root
    exact root.1.1.1.2
  rcases kept.nodeRecord rootValid with ⟨count, stored⟩
  refine ⟨⟨⟨⟨⟨⟨present, valid⟩, id⟩, operations⟩, kept.nodeValid root⟩, ?_⟩, ?_⟩
  · rw [stored]
    exact type
  · rw [stored]
    exact parent

theorem mount (mount : Option Nat) : after.mount mount = before.mount mount := by
  unfold VfsState.mount
  rw [kept.mounts]

theorem mountValid {mount : Option Nat}
    (isValid : vfsMountValid before mount = true) : vfsMountValid after mount = true := by
  cases mount with
  | none => cases isValid
  | some index =>
    simp only [vfsMountValid, Option.elim, Bool.and_eq_true] at isValid ⊢
    rw [kept.mounts, kept.initialized]
    exact ⟨isValid.1, kept.filesystemValid isValid.2⟩

theorem pathValid {path : VfsPath}
    (isValid : vfsPathValid before path = true) : vfsPathValid after path = true := by
  unfold vfsPathValid at isValid ⊢
  rw [Bool.and_eq_true] at isValid ⊢
  rw [kept.mount]
  exact ⟨kept.mountValid isValid.1, kept.nodeValid isValid.2⟩

theorem pathType {path : VfsPath} (isValid : vfsPathValid before path = true) :
    (after.objects.node path.node).type = (before.objects.node path.node).type := by
  rcases vfsPathValid_node isValid with ⟨index, isNode, nodeValid⟩
  rcases kept.nodes index nodeValid with ⟨count, stored⟩
  rw [isNode]
  change (after.objects.nodes index).type = _
  rw [stored]
  rfl

theorem mountRecord {mount : Option Nat} (isValid : vfsMountValid before mount = true) :
    after.objects.filesystem (after.mount mount).filesystem =
      before.objects.filesystem (before.mount mount).filesystem := by
  rw [kept.mount]
  apply kept.filesystemRecord
  cases mount with
  | none => cases isValid
  | some index =>
    simp only [vfsMountValid, vfsFilesystemValid, Option.elim, Bool.and_eq_true] at isValid
    exact isValid.2.1.1.1.1.1.2

theorem rootOf {mount : Option Nat}
    (isValid : vfsMountValid before mount = true) : after.rootOf mount = before.rootOf mount := by
  unfold VfsState.rootOf
  rw [kept.mountRecord isValid]

theorem supports {path : VfsPath}
    (isValid : vfsMountValid before path.mount = true) (operation : VfsOperation) :
    after.supports path operation = before.supports path operation := by
  unfold VfsState.supports
  rw [kept.mountRecord isValid]

theorem childMount (parent mountpoint : Option Nat) :
    vfsChildMount after parent mountpoint = vfsChildMount before parent mountpoint := by
  unfold vfsChildMount
  rw [kept.mounts]

end

end KeepsTree

end Vfs
end BoringOS

namespace BoringOS
namespace Vfs

/-!
## Calls that keep the directory tree

Every function that only counts references, follows paths or asks a backend to
remove nothing keeps the tree, whether it succeeds or not.
-/

variable {Context : Type} {backend : Backend Context} {entries : Entries Context}

namespace KeepsTree

variable (holds : HoldsEntries backend entries) (vfs : VfsState Context)

include holds

theorem vfsNodeRetain (node : Option Nat) : KeepsTree entries vfs (vfsNodeRetain vfs node).2 := by
  grind [vfsNodeRetain_cases, refl, recount]

theorem vfsNodeRelease (node : Option Nat) : KeepsTree entries vfs (vfsNodeRelease vfs node).2 := by
  unfold Vfs.vfsNodeRelease
  cases node with
  | none => exact refl vfs
  | some index =>
    grind [refl, recount]

theorem vfsPathAcquire (mount node : Option Nat) (pathOut : VfsPath) :
    KeepsTree entries vfs (vfsPathAcquire vfs mount node pathOut).vfs := by
  rcases vfsPathAcquire_cases vfs mount node pathOut with
    ⟨-, -, unchanged⟩ | ⟨-, -, index, -, acquired⟩
  · rw [unchanged]
    exact refl vfs
  · rw [acquired]
    exact (recount holds vfs index _).withPaths _

variable (path : VfsPath)

theorem vfsPathRelease : KeepsTree entries vfs (vfsPathRelease vfs path).vfs := by
  have released := vfsNodeRelease holds vfs path.node
  unfold Vfs.vfsPathRelease
  simp only
  split
  · exact refl vfs
  split
  · exact released
  · exact released.withPaths _

theorem vfsPathReplace (mount node : Option Nat) :
    KeepsTree entries vfs (vfsPathReplace vfs path mount node).vfs := by
  have acquired := vfsPathAcquire holds vfs mount node VfsPath.empty
  have released := acquired.trans (vfsPathRelease holds _ path)
  unfold Vfs.vfsPathReplace
  simp only
  split
  · exact refl vfs
  split
  · exact acquired
  split
  · exact released.trans (vfsPathRelease holds _ _)
  · exact released

theorem vfsPathClone (source destination : VfsPath) :
    KeepsTree entries vfs (vfsPathClone vfs source destination).vfs := by
  grind [Vfs.vfsPathClone, refl, vfsPathAcquire]

theorem vfsGetRoot (pathOut : VfsPath) : KeepsTree entries vfs (vfsGetRoot vfs pathOut).vfs := by
  grind [Vfs.vfsGetRoot, refl, vfsPathAcquire]

theorem abandon (current : VfsPath) (result : VfsResult) :
    KeepsTree entries vfs (abandon vfs current result).vfs :=
  vfsPathRelease holds vfs current

theorem vfsFollowChildMount : KeepsTree entries vfs (vfsFollowChildMount vfs path).vfs := by
  grind [Vfs.vfsFollowChildMount, refl, vfsPathReplace]

theorem vfsStepParent : KeepsTree entries vfs (vfsStepParent vfs path).vfs := by
  unfold Vfs.vfsStepParent
  simp only
  split
  · exact refl vfs
  split
  · split
    · exact refl vfs
    grind [refl, vfsPathReplace]
  grind [refl, vfsPathReplace]

theorem answered (filesystem : Option Nat) (request : BackendRequest) (keeps : request.removes = false) :
    KeepsTree entries vfs (vfs.answered (vfs.ask backend filesystem request)) where
  nodes node isValid := by
    have same := holds.nodes vfs.context vfs.objects filesystem request keeps node isValid
    exact ⟨(vfs.objects.nodes node).referenceCount, same⟩
  filesystems := holds.filesystems vfs.context vfs.objects filesystem request keeps
  entries := holds.kept vfs.context vfs.objects filesystem request keeps
  mounts := rfl
  initialized := rfl

theorem vfsResolveName (current : VfsPath) (component : List UInt8) :
    KeepsTree entries vfs (vfsResolveName backend vfs current component).vfs := by
  have found := answered holds vfs (vfs.mount current.mount).filesystem (.lookup current.node component) rfl
  have acquired := found.trans (vfsPathAcquire holds _ current.mount
    (vfs.ask backend (vfs.mount current.mount).filesystem
      (.lookup current.node component)).node VfsPath.empty)
  have released := acquired.trans (vfsPathRelease holds _ current)
  unfold Vfs.vfsResolveName
  simp only
  split
  · exact abandon holds vfs _ _
  split
  · exact abandon holds vfs _ _
  split
  · exact found.trans (abandon holds _ _ _)
  split
  · exact found.trans (abandon holds _ _ _)
  split
  · exact acquired.trans (abandon holds _ _ _)
  split
  · exact released.trans (abandon holds _ _ _)
  · split
    · exact (released.trans (vfsFollowChildMount holds _ _)).trans (abandon holds _ _ _)
    · exact released.trans (vfsFollowChildMount holds _ _)

theorem vfsResolveComponent (current : VfsPath) (component : List UInt8) :
    KeepsTree entries vfs (vfsResolveComponent backend vfs current component).vfs := by
  have stepped := vfsStepParent holds vfs current
  unfold Vfs.vfsResolveComponent
  simp only
  split
  · exact abandon holds vfs _ _
  split
  · exact refl vfs
  split
  · split
    · exact stepped.trans (abandon holds _ _ _)
    · exact stepped
  · exact vfsResolveName holds vfs _ _

omit vfs in
theorem vfsResolveComponents (names : List (List UInt8)) :
    ∀ (vfs : VfsState Context) (current : VfsPath),
      KeepsTree entries vfs (vfsResolveComponents backend names vfs current).vfs := by
  induction names with
  | nil => exact fun vfs _ => refl vfs
  | cons component rest ih =>
    intro vfs current
    have stepped := vfsResolveComponent holds vfs current component
    unfold Vfs.vfsResolveComponents
    simp only
    split
    · exact stepped
    · exact stepped.trans (ih _ _)

theorem vfsResolveStart (start : Option VfsPath) (path : List UInt8) :
    KeepsTree entries vfs (vfsResolveStart vfs start path).vfs := by
  unfold Vfs.vfsResolveStart
  split
  · exact vfsGetRoot holds vfs _
  cases start with
  | none => exact refl vfs
  | some start => exact vfsPathClone holds vfs _ _

theorem vfsResolve (start : Option VfsPath) (path : Option (List UInt8)) (pathOut : VfsPath) :
    KeepsTree entries vfs (vfsResolve backend vfs start path pathOut).vfs := by
  unfold Vfs.vfsResolve
  simp only
  split
  · exact refl vfs
  cases path with
  | none => exact refl vfs
  | some path =>
    have first := vfsResolveStart holds vfs start path
    have last := first.trans (vfsResolveComponents holds (components path) _
      (Vfs.vfsResolveStart vfs start path).path)
    split
    · exact refl vfs
    grind [refl]

theorem vfsCreateCommon (directory : VfsPath) (name : List UInt8) (pathOut : VfsPath)
    (directoryRequested : Bool) :
    KeepsTree entries vfs
      (vfsCreateCommon backend vfs directory name pathOut directoryRequested).vfs := by
  have keeps : (createRequest directoryRequested directory.node name).2.1.removes = false := by
    cases directoryRequested <;> rfl
  have created := answered holds vfs (vfs.mount directory.mount).filesystem _ keeps
  unfold Vfs.vfsCreateCommon
  simp only
  split
  · exact refl vfs
  split
  · exact refl vfs
  split
  · exact refl vfs
  split
  · exact refl vfs
  split
  · exact created
  split
  · exact created
  · exact created.trans (vfsPathAcquire holds _ _ _ _)

theorem vfsTruncatePath (size : Nat) :
    KeepsTree entries vfs (vfsTruncatePath backend vfs path size).2 := by
  unfold Vfs.vfsTruncatePath
  split
  · exact refl vfs
  split
  · exact refl vfs
  · exact answered holds vfs _ _ rfl

theorem vfsReaddirPath (directory : VfsPath) (index : Nat) :
    KeepsTree entries vfs (vfsReaddirPath backend vfs directory index).2.2 := by
  have read := answered holds vfs (vfs.mount directory.mount).filesystem (.readdir directory.node index) rfl
  unfold Vfs.vfsReaddirPath
  grind [refl]

theorem vfsHandleOpen (access : UInt32) (handle : VfsHandle) :
    KeepsTree entries vfs (vfsHandleOpen vfs path access handle).vfs := by
  have cloned := vfsPathClone holds vfs path handle.path
  unfold Vfs.vfsHandleOpen
  simp only
  split
  · exact refl vfs
  split
  · exact refl vfs
  split
  · exact refl vfs
  split
  · exact cloned
  · exact cloned.withHandles _

theorem vfsHandleTransfer (handle : VfsHandle) (length : Nat) (access : UInt32)
    (operation : VfsOperation) {request : BackendRequest} (keeps : request.removes = false) :
    KeepsTree entries vfs
      (vfsHandleTransfer backend vfs handle length access operation request).vfs := by
  have served := answered holds vfs (vfs.mount handle.path.mount).filesystem _ keeps
  unfold Vfs.vfsHandleTransfer
  simp only
  split
  · exact refl vfs
  split
  · exact refl vfs
  split
  · exact refl vfs
  grind [refl]

theorem vfsHandleClose (handle : VfsHandle) :
    KeepsTree entries vfs (vfsHandleClose vfs handle).vfs := by
  have released := vfsPathRelease holds vfs handle.path
  unfold Vfs.vfsHandleClose
  simp only
  split
  · exact refl vfs
  split
  · exact released
  · exact released.withHandles _

theorem processStoreText (process : ProcessDirectory) (text : Option (List UInt8)) :
    KeepsTree entries vfs (processStoreText vfs process text).vfs := by
  cases text with
  | none => exact refl vfs
  | some text =>
    grind [Vfs.processStoreText, vfsPathRelease, refl]

theorem processReplaceCwd (process : ProcessDirectory) (cwd : VfsPath) (text : Option (List UInt8)) :
    KeepsTree entries vfs (processReplaceCwd vfs process cwd text).vfs := by
  have cloned := vfsPathClone holds vfs cwd VfsPath.empty
  have released := cloned.trans (vfsPathRelease holds _ process.cwd)
  unfold Vfs.processReplaceCwd
  simp only
  split
  · exact refl vfs
  split
  · exact cloned
  split
  · split
    · exact released.trans (vfsPathRelease holds _ _)
    · exact released.trans (processStoreText holds _ _ _)
  · exact cloned.trans (processStoreText holds _ _ _)

end KeepsTree

end BoringOS.Vfs
