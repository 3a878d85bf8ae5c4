import BoringOS.Library.References
import BoringOS.Vfs.Core

namespace BoringOS.Vfs

open Library

/-!
# The balance of references

The virtual file system is balanced against the paths that are in use: every
node counts the paths and the mounts that refer to it, and the counters of
paths and handles are right.  The paths are given as a multiset, so that a
local variable of a function counts like a variable of a caller.
-/

variable {Context : Type} {vfs after : VfsState Context} {live live' : Multiset VfsPath}
  {handles : Nat}

/-- The nodes to which a mount refers: its root and its mount point. -/
def mountReferences (vfs : VfsState Context) (index : Nat) : Multiset Nat :=
  if (vfs.mounts index).active then
    ((vfs.rootOf (some index)).toList : Multiset Nat) + (vfs.mounts index).mountpoint.toList
  else 0

/-- The nodes to which the mount table refers. -/
def tableReferences (vfs : VfsState Context) : Multiset Nat :=
  ∑ index ∈ Finset.range vfsMountMax, mountReferences vfs index

/-- What a path variable holds: nothing if it is empty. -/
def held (path : VfsPath) : Multiset VfsPath :=
  if path = VfsPath.empty then 0 else {path}

@[simp] theorem held_empty : held VfsPath.empty = 0 := if_pos rfl

theorem held_of_ne {path : VfsPath} (inUse : path ≠ VfsPath.empty) : held path = {path} :=
  if_neg inUse

/-- What holds of an active mount. -/
structure MountSound (vfs : VfsState Context) (index : Nat) : Prop where
  id : (vfs.mounts index).id ≠ 0
  filesystem : vfsFilesystemValid vfs.objects (vfs.mounts index).filesystem = true
  mountpoint : ∀ node, (vfs.mounts index).mountpoint = some node →
    (vfs.objects.nodes node).valid = true
  apart : ∀ node, (vfs.mounts index).mountpoint = some node → vfs.rootOf (some index) ≠ some node

structure Balanced (vfs : VfsState Context) (live : Multiset VfsPath) (handles : Nat) : Prop where
  tallied : Tallied (fun node => (vfs.objects.nodes node).referenceCount)
    (live.filterMap VfsPath.node + tableReferences vfs)
  paths : vfs.pathReferenceCount = live.card
  opened : vfs.openHandleCount = handles
  valid : ∀ path, path ∈ live → vfsPathValid vfs path = true
  mounts : ∀ index, index < vfsMountMax → (vfs.mounts index).active = true → MountSound vfs index
  idle : vfs.initialized = false →
    (∀ index, index < vfsMountMax → (vfs.mounts index).active = false) ∧ handles = 0
  nextMount : vfs.initialized = true → vfs.nextMountId ≠ 0

structure SameButCounts (vfs after : VfsState Context) : Prop where
  nodes : ∀ node, ∃ count, after.objects.nodes node =
    { vfs.objects.nodes node with referenceCount := count }
  filesystems : after.objects.filesystems = vfs.objects.filesystems
  mounts : after.mounts = vfs.mounts
  initialized : after.initialized = vfs.initialized
  nextMount : after.nextMountId = vfs.nextMountId

namespace SameButCounts

theorem recount (vfs : VfsState Context) (index count : Nat) :
    SameButCounts vfs (vfs.recount index count) where
  nodes node := by
    unfold VfsState.recount
    by_cases same : node = index
    · simp [*]
    · exact ⟨(vfs.objects.nodes node).referenceCount, by rw [nodes_setNode_other same]⟩
  filesystems := rfl
  mounts := rfl
  initialized := rfl
  nextMount := rfl

theorem trans {middle : VfsState Context} (first : SameButCounts vfs middle)
    (second : SameButCounts middle after) : SameButCounts vfs after where
  nodes node := by
    rcases first.nodes node with ⟨_, stored⟩
    rcases second.nodes node with ⟨count, stored'⟩
    grind
  filesystems := second.filesystems.trans first.filesystems
  mounts := second.mounts.trans first.mounts
  initialized := second.initialized.trans first.initialized
  nextMount := second.nextMount.trans first.nextMount

section

variable (same : SameButCounts vfs after)
include same

theorem withPaths (count : Nat) : SameButCounts vfs { after with pathReferenceCount := count } :=
  { same with }

theorem nodeValid (node filesystem : Option Nat) :
    vfsNodeValidForFilesystem after.objects node filesystem =
      vfsNodeValidForFilesystem vfs.objects node filesystem := by
  cases node with
  | none => rfl
  | some node =>
    rcases same.nodes node with ⟨count, stored⟩
    simp only [vfsNodeValidForFilesystem, Objects.node, Option.elim, stored]

theorem type (node : Option Nat) :
    (after.objects.node node).type = (vfs.objects.node node).type := by
  cases node with
  | none => rfl
  | some node =>
    rcases same.nodes node with ⟨count, stored⟩
    simp only [Objects.node, Option.elim, stored]

theorem parent (node : Option Nat) :
    (after.objects.node node).parent = (vfs.objects.node node).parent := by
  cases node with
  | none => rfl
  | some node =>
    rcases same.nodes node with ⟨count, stored⟩
    simp only [Objects.node, Option.elim, stored]

theorem filesystem (filesystem : Option Nat) :
    after.objects.filesystem filesystem = vfs.objects.filesystem filesystem := by
  unfold Objects.filesystem
  rw [same.filesystems]

theorem filesystemValid (filesystem : Option Nat) :
    vfsFilesystemValid after.objects filesystem = vfsFilesystemValid vfs.objects filesystem := by
  unfold vfsFilesystemValid
  simp only [same.filesystem, same.nodeValid, same.type, same.parent]

theorem mountValid (mount : Option Nat) : vfsMountValid after mount = vfsMountValid vfs mount := by
  unfold vfsMountValid
  simp only [same.mounts, same.initialized, same.filesystemValid]

theorem mount (mount : Option Nat) : after.mount mount = vfs.mount mount := by
  unfold VfsState.mount
  rw [same.mounts]

theorem pathValid (path : VfsPath) : vfsPathValid after path = vfsPathValid vfs path := by
  unfold vfsPathValid
  rw [same.mountValid, same.mount, same.nodeValid]

theorem rootOf (mount : Option Nat) : after.rootOf mount = vfs.rootOf mount := by
  unfold VfsState.rootOf
  rw [same.mount, same.filesystem]

theorem mountReferences (index : Nat) :
    mountReferences after index = mountReferences vfs index := by
  unfold Vfs.mountReferences
  rw [same.rootOf, same.mounts]

theorem tableReferences : tableReferences after = tableReferences vfs :=
  Finset.sum_congr rfl fun index _ => same.mountReferences index

theorem mountSound {index : Nat} (sound : MountSound vfs index) : MountSound after index where
  id := by
    rw [same.mounts]
    exact sound.id
  filesystem := by
    rw [same.mounts, same.filesystemValid]
    exact sound.filesystem
  mountpoint node isMountpoint := by
    rcases same.nodes node with ⟨count, stored⟩
    rw [same.mounts] at isMountpoint
    rw [stored]
    exact sound.mountpoint node isMountpoint
  apart node isMountpoint := by
    rw [same.mounts] at isMountpoint
    rw [same.rootOf]
    exact sound.apart node isMountpoint

end

end SameButCounts

namespace Balanced

/-- Counters may change together with the paths and handles that they count. -/
theorem recounted (balanced : Balanced vfs live handles) (same : SameButCounts vfs after)
    {handles' : Nat} (tallied : Tallied (fun node => (after.objects.nodes node).referenceCount)
      (live'.filterMap VfsPath.node + tableReferences vfs))
    (paths : after.pathReferenceCount = live'.card) (counted : after.openHandleCount = handles')
    (valid : ∀ path, path ∈ live' → vfsPathValid vfs path = true)
    (idle : vfs.initialized = false → handles' = 0) : Balanced after live' handles' where
  tallied := by
    rw [same.tableReferences]
    exact tallied
  paths := paths
  opened := counted
  valid path member := by
    rw [same.pathValid]
    exact valid path member
  mounts index inTable active := by
    rw [same.mounts] at active
    exact same.mountSound (balanced.mounts index inTable active)
  idle off := by
    rw [same.initialized] at off
    rw [same.mounts]
    exact ⟨(balanced.idle off).1, idle off⟩
  nextMount on := by
    rw [same.initialized] at on
    rw [same.nextMount]
    exact balanced.nextMount on

/-- Nothing is in use before the virtual file system is initialised. -/
theorem idle_live (balanced : Balanced vfs live handles) (off : vfs.initialized = false) :
    live = 0 := by
  apply Multiset.eq_zero_of_forall_notMem
  intro path member
  have isValid := balanced.valid path member
  unfold vfsPathValid vfsMountValid at isValid
  cases mount : path.mount with
  | none => simp_all
  | some index =>
    simp_all

end Balanced

end Vfs
end BoringOS

namespace BoringOS
namespace Vfs

open Library

/-!
## Paths keep the balance

A function that works on a path variable keeps the balance between the virtual
file system and that variable, whatever else is in use.  A local path that a
function gives up leaves nothing behind.
-/

variable {Context : Type} {vfs : VfsState Context} {live : Multiset VfsPath} {handles : Nat}
  {path pathOut : VfsPath}

theorem recount_same (vfs : VfsState Context) (index count : Nat) :
    ((vfs.recount index count).objects.nodes index).referenceCount = count := by
  unfold VfsState.recount
  rw [nodes_setNode_same]

theorem recount_other (vfs : VfsState Context) {index other : Nat} (count : Nat) (different : other ≠ index) :
    ((vfs.recount index count).objects.nodes other).referenceCount =
      (vfs.objects.nodes other).referenceCount := by
  unfold VfsState.recount
  rw [nodes_setNode_other different]

theorem vfsNodeRetain_cases (vfs : VfsState Context) (node : Option Nat) :
    (vfsNodeRetain vfs node).1 ≠ .ok ∧ (vfsNodeRetain vfs node).2 = vfs ∨
      ∃ index, node = some index ∧ vfsNodeRetain vfs node =
        (.ok, vfs.recount index ((vfs.objects.nodes index).referenceCount + 1)) := by
  cases node with
  | none => exact Or.inl ⟨nofun, rfl⟩
  | some index =>
    unfold vfsNodeRetain
    grind

variable {index : Nat}

theorem vfsNodeRelease_ok (vfs : VfsState Context) (valid : (vfs.objects.nodes index).valid = true)
    (positive : 0 < (vfs.objects.nodes index).referenceCount) :
    vfsNodeRelease vfs (some index) =
      (.ok, vfs.recount index ((vfs.objects.nodes index).referenceCount - 1)) := by
  unfold vfsNodeRelease
  grind

theorem tallied_retain {references : Multiset Nat}
    (tallied : Tallied (fun node => (vfs.objects.nodes node).referenceCount) references) :
    Tallied (fun node => ((vfs.recount index
      ((vfs.objects.nodes index).referenceCount + 1)).objects.nodes node).referenceCount)
      (index ::ₘ references) :=
  tallied.retain (recount_same vfs index _) fun _ different => recount_other vfs _ different

theorem tallied_release {references : Multiset Nat}
    (tallied : Tallied (fun node => (vfs.objects.nodes node).referenceCount)
      (index ::ₘ references)) :
    Tallied (fun node => ((vfs.recount index
      ((vfs.objects.nodes index).referenceCount - 1)).objects.nodes node).referenceCount)
      references :=
  tallied.release (recount_same vfs index _) fun _ different => recount_other vfs _ different

theorem vfsPathValid_empty (vfs : VfsState Context) : vfsPathValid vfs VfsPath.empty = false := rfl

section

variable (isValid : vfsPathValid vfs path = true)
include isValid

theorem vfsPathValid_node :
    ∃ index, path.node = some index ∧ (vfs.objects.nodes index).valid = true := by
  unfold vfsPathValid vfsNodeValidForFilesystem at isValid
  cases node : path.node with
  | none =>
    simp_all
  | some index =>
    simp only [node, Bool.and_eq_true] at isValid
    exact ⟨index, rfl, isValid.2.1.1.1.2⟩

theorem vfsPathValid_owner (isNode : path.node = some index) :
    (vfs.objects.nodes index).filesystem = (vfs.mount path.mount).filesystem := by
  unfold vfsPathValid vfsNodeValidForFilesystem at isValid
  simp only [isNode, Bool.and_eq_true, beq_iff_eq] at isValid
  exact isValid.2.2

theorem ne_empty_of_valid : path ≠ VfsPath.empty := by
  grind [vfsPathValid_empty]

end

theorem empty_of_fields (mount : path.mount = none) (node : path.node = none) :
    path = VfsPath.empty := by
  cases path
  cases mount
  cases node
  rfl

theorem vfsPathAcquire_cases (vfs : VfsState Context) (mount node : Option Nat) (pathOut : VfsPath) :
    ((vfsPathAcquire vfs mount node pathOut).result ≠ .ok ∧
        (vfsPathAcquire vfs mount node pathOut).path = pathOut ∧
        (vfsPathAcquire vfs mount node pathOut).vfs = vfs) ∨
      pathOut = VfsPath.empty ∧ vfsPathValid vfs ⟨mount, node⟩ = true ∧
        ∃ index, node = some index ∧ vfsPathAcquire vfs mount node pathOut =
          { result := .ok
            path := { mount := mount, node := node }
            vfs := { vfs.recount index ((vfs.objects.nodes index).referenceCount + 1) with
              pathReferenceCount := vfs.pathReferenceCount + 1 } } := by
  unfold vfsPathAcquire
  split
  · exact Or.inl ⟨nofun, rfl, rfl⟩
  rename_i accepted
  simp only [not_or, not_not, Bool.not_eq_false] at accepted
  rcases accepted with ⟨noMount, noNode, mountValid, nodeValid⟩
  split
  · exact Or.inl ⟨nofun, rfl, rfl⟩
  rcases vfsNodeRetain_cases vfs node with ⟨failed, unchanged⟩ | ⟨index, isNode, retained⟩
  · simp [*]
  rw [retained, if_neg (fun notOk => notOk rfl)]
  refine Or.inr ⟨empty_of_fields noMount noNode, ?_, index, isNode, rfl⟩
  grind [vfsPathValid]

/-- A path that is acquired joins the paths in use. -/
theorem Balanced.retained (balanced : Balanced vfs live handles) {mount : Option Nat}
    (isValid : vfsPathValid vfs ⟨mount, some index⟩ = true) :
    Balanced { vfs.recount index ((vfs.objects.nodes index).referenceCount + 1) with
      pathReferenceCount := vfs.pathReferenceCount + 1 } (⟨mount, some index⟩ ::ₘ live) handles := by
  have same := SameButCounts.recount vfs index ((vfs.objects.nodes index).referenceCount + 1)
  refine balanced.recounted (same.withPaths (vfs.pathReferenceCount + 1))
    ?_ ?_ balanced.opened ?_ fun off => (balanced.idle off).2
  · rw [Multiset.filterMap_cons_some VfsPath.node ⟨mount, some index⟩ live rfl, Multiset.cons_add]
    exact tallied_retain balanced.tallied
  · rw [Multiset.card_cons, ← balanced.paths]
  · intro path member
    rcases Multiset.mem_cons.mp member with rfl | old
    · exact isValid
    · exact balanced.valid path old

theorem vfsPathAcquire_balanced (balanced : Balanced vfs (held pathOut + live) handles)
    (mount node : Option Nat) :
    Balanced (vfsPathAcquire vfs mount node pathOut).vfs
      (held (vfsPathAcquire vfs mount node pathOut).path + live) handles := by
  rcases vfsPathAcquire_cases vfs mount node pathOut with
    ⟨-, samePath, sameVfs⟩ | ⟨isEmpty, isValid, index, isNode, acquired⟩
  · rw [samePath, sameVfs]
    exact balanced
  subst isNode
  rw [isEmpty, held_empty, zero_add] at balanced
  rw [acquired, held_of_ne (ne_empty_of_valid isValid), Multiset.singleton_add]
  exact balanced.retained isValid

theorem vfsPathAcquire_local (balanced : Balanced vfs live handles) (mount node : Option Nat) :
    Balanced (vfsPathAcquire vfs mount node VfsPath.empty).vfs
      (held (vfsPathAcquire vfs mount node VfsPath.empty).path + live) handles := by
  apply vfsPathAcquire_balanced
  rw [held_empty, zero_add]
  exact balanced

theorem vfsPathAcquire_failed (vfs : VfsState Context) (mount node : Option Nat)
    (pathOut : VfsPath) (failed : (vfsPathAcquire vfs mount node pathOut).result ≠ .ok) :
    (vfsPathAcquire vfs mount node pathOut).path = pathOut := by
  grind [vfsPathAcquire_cases]

theorem vfsPathRelease_invalid (vfs : VfsState Context) :
    vfsPathRelease vfs VfsPath.empty =
      { result := .invalidArgument, path := VfsPath.empty, vfs := vfs } := by
  rfl

/-- A path in use is released without fail. -/
theorem vfsPathRelease_live (balanced : Balanced vfs (path ::ₘ live) handles) :
    (vfsPathRelease vfs path).result = .ok ∧
      (vfsPathRelease vfs path).path = VfsPath.empty ∧
      Balanced (vfsPathRelease vfs path).vfs live handles := by
  have isValid := balanced.valid path (Multiset.mem_cons_self path live)
  rcases vfsPathValid_node isValid with ⟨index, isNode, nodeValid⟩
  have tallied := balanced.tallied
  rw [Multiset.filterMap_cons_some VfsPath.node path live isNode, Multiset.cons_add] at tallied
  have positive : 0 < (vfs.objects.nodes index).referenceCount :=
    tallied.positive (Multiset.mem_cons_self index _)
  have counted : vfs.pathReferenceCount = live.card + 1 := by
    rw [balanced.paths, Multiset.card_cons]
  have released : vfsPathRelease vfs path =
      { result := .ok
        path := VfsPath.empty
        vfs := { vfs.recount index ((vfs.objects.nodes index).referenceCount - 1) with
          pathReferenceCount := vfs.pathReferenceCount - 1 } } := by
    unfold vfsPathRelease
    rw [if_neg, isNode, vfsNodeRelease_ok vfs nodeValid positive]
    · exact if_neg fun notOk => notOk rfl
    · simp [*]
  rw [released]
  refine ⟨rfl, rfl, ?_⟩
  have same := SameButCounts.recount vfs index ((vfs.objects.nodes index).referenceCount - 1)
  refine balanced.recounted (same.withPaths (vfs.pathReferenceCount - 1))
    (tallied_release tallied) ?_ balanced.opened ?_ fun off => (balanced.idle off).2
  · simp [*]
  · exact fun other member => balanced.valid other (Multiset.mem_cons_of_mem member)

section

variable (balanced : Balanced vfs (held path + live) handles)
include balanced

/-- A path variable is empty after its release, whether it was in use or not. -/
theorem vfsPathRelease_held :
    (vfsPathRelease vfs path).path = VfsPath.empty ∧
      Balanced (vfsPathRelease vfs path).vfs live handles := by
  by_cases isEmpty : path = VfsPath.empty
  · simp_all [held_empty, vfsPathRelease_invalid]
  grind [held_of_ne, Multiset.singleton_add, vfsPathRelease_live]

theorem vfsPathRelease_balanced :
    Balanced (vfsPathRelease vfs path).vfs (held (vfsPathRelease vfs path).path + live)
      handles := by
  rcases vfsPathRelease_held balanced with ⟨isEmpty, after⟩
  simp [*]

theorem abandon_balanced (result : VfsResult) :
    Balanced (abandon vfs path result).vfs (held (abandon vfs path result).path + live)
      handles := by
  unfold abandon
  simp only [held_empty, zero_add]
  exact (vfsPathRelease_held balanced).2

theorem vfsPathReplace_balanced (mount node : Option Nat) :
    Balanced (vfsPathReplace vfs path mount node).vfs
      (held (vfsPathReplace vfs path mount node).path + live) handles := by
  unfold vfsPathReplace
  split
  · exact balanced
  have acquired := vfsPathAcquire_local balanced mount node
  simp only
  split
  · grind [vfsPathAcquire_failed, held_empty]
  rw [add_left_comm] at acquired
  split
  · rcases vfsPathRelease_held acquired with ⟨isEmpty, after⟩
    rw [isEmpty, held_empty, zero_add]
    exact (vfsPathRelease_held after).2
  · exact (vfsPathRelease_held acquired).2

end

theorem vfsPathClone_balanced (balanced : Balanced vfs (held pathOut + live) handles) (source : VfsPath) :
    Balanced (vfsPathClone vfs source pathOut).vfs
      (held (vfsPathClone vfs source pathOut).path + live) handles := by
  grind [vfsPathClone, vfsPathAcquire_balanced]

theorem vfsPathClone_local (balanced : Balanced vfs live handles) (source : VfsPath) :
    Balanced (vfsPathClone vfs source VfsPath.empty).vfs
      (held (vfsPathClone vfs source VfsPath.empty).path + live) handles := by
  apply vfsPathClone_balanced
  rw [held_empty, zero_add]
  exact balanced

theorem vfsPathClone_failed (vfs : VfsState Context) (source pathOut : VfsPath)
    (failed : (vfsPathClone vfs source pathOut).result ≠ .ok) :
    (vfsPathClone vfs source pathOut).path = pathOut := by
  grind [vfsPathClone, vfsPathAcquire_failed]

theorem vfsGetRoot_balanced (balanced : Balanced vfs (held pathOut + live) handles) :
    Balanced (vfsGetRoot vfs pathOut).vfs (held (vfsGetRoot vfs pathOut).path + live)
      handles := by
  grind [vfsGetRoot, vfsPathAcquire_balanced]

theorem vfsFollowChildMount_balanced (balanced : Balanced vfs (held path + live) handles) :
    Balanced (vfsFollowChildMount vfs path).vfs
      (held (vfsFollowChildMount vfs path).path + live) handles := by
  grind [vfsFollowChildMount, vfsPathReplace_balanced]

theorem vfsStepParent_balanced (balanced : Balanced vfs (held path + live) handles) :
    Balanced (vfsStepParent vfs path).vfs (held (vfsStepParent vfs path).path + live)
      handles := by
  unfold vfsStepParent
  simp only
  split
  · exact balanced
  split
  · split
    · exact balanced
    grind [vfsPathReplace_balanced]
  grind [vfsPathReplace_balanced]

end BoringOS.Vfs
