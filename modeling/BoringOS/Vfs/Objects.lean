import Mathlib.Data.Nat.Count

namespace BoringOS.Vfs

/-!
# Results and limits of the virtual file system

The enumerations and constants of `kernel/include/boring/vfs.h` that file
systems and their callers share.
-/

def vfsPathMax : Nat := 1024
def vfsNameMax : Nat := 255
def vfsIoMax : Nat := 4096
def vfsMountMax : Nat := 8

/-- `enum vfs_result` -/
inductive VfsResult
  | ok
  | invalidArgument
  | notInitialized
  | alreadyInitialized
  | notFound
  | notDirectory
  | notRegular
  | pathTooLong
  | nameTooLong
  | emptyPath
  | alreadyMounted
  | mountConflict
  | crossFilesystem
  | notSupported
  | overflow
  | busy
  | corrupt
  | noCwd
  | accessDenied
  | noSpace
  | alreadyExists
  | notEmpty
deriving DecidableEq, Repr

/-- `enum vfs_node_type` -/
inductive VfsNodeType
  | directory
  | regular
deriving DecidableEq, Repr

/-!
## Nodes, file systems and their backends

The objects of `kernel/include/boring/vfs.h` that a backend owns, and the
functions of `kernel/core/vfs.c` by which it sets them up.  A pointer to an
object is its number, and a null pointer is `none`.  The backend itself is
code behind a table of callbacks.  It keeps a context of its own, and it may
change the objects while it serves a request, but it leaves alone what the
virtual file system refers to: a backend removes a node, or sets up a node
anew, only if the node's reference count is zero.
-/

def uint32Max : Nat := 2 ^ 32 - 1
def uint64Max : Nat := 2 ^ 64 - 1

/-- The callbacks of `struct vfs_operations`. -/
inductive VfsOperation
  | lookup
  | create
  | mkdir
  | unlink
  | rmdir
  | rename
  | read
  | write
  | truncate
  | readdir
deriving DecidableEq, Repr

/-- `struct vfs_node` without the backend's context; the type of a node that
is neither a directory nor a regular file is `none`. -/
structure VfsNode where
  id : Nat
  type : Option VfsNodeType
  filesystem : Option Nat
  parent : Option Nat
  referenceCount : Nat
  valid : Bool
deriving DecidableEq, Repr

/-- `struct vfs_filesystem` without the backend's context; the table of
operations is the list of the callbacks that are present. -/
structure VfsFilesystem where
  id : Nat
  operations : Option (List VfsOperation)
  root : Option Nat
  valid : Bool
deriving DecidableEq, Repr

/-- All nodes and file systems. -/
structure Objects where
  nodes : Nat → VfsNode
  filesystems : Nat → VfsFilesystem

/-- An object whose memory is zero. -/
def VfsNode.cleared : VfsNode :=
  { id := 0, type := none, filesystem := none, parent := none, referenceCount := 0, valid := false }

def VfsFilesystem.cleared : VfsFilesystem :=
  { id := 0, operations := none, root := none, valid := false }

/-- The node behind a pointer. -/
def Objects.node (objects : Objects) (node : Option Nat) : VfsNode :=
  node.elim VfsNode.cleared objects.nodes

/-- The file system behind a pointer. -/
def Objects.filesystem (objects : Objects) (filesystem : Option Nat) : VfsFilesystem :=
  filesystem.elim VfsFilesystem.cleared objects.filesystems

variable (objects : Objects)

def Objects.setNode (index : Nat) (node : VfsNode) : Objects :=
  { objects with nodes := Function.update objects.nodes index node }

def Objects.setFilesystem (index : Nat) (filesystem : VfsFilesystem) : Objects :=
  { objects with filesystems := Function.update objects.filesystems index filesystem }

section

variable {objects : Objects} {index other : Nat} {node : VfsNode} {filesystem : VfsFilesystem}

@[simp] theorem nodes_setNode_same : (objects.setNode index node).nodes index = node := by
  simp only [Objects.setNode, Function.update_self]

theorem nodes_setNode_other (different : other ≠ index) :
    (objects.setNode index node).nodes other = objects.nodes other := by
  exact Function.update_of_ne different ..

@[simp] theorem filesystems_setNode :
    (objects.setNode index node).filesystems = objects.filesystems := rfl

@[simp] theorem nodes_setFilesystem :
    (objects.setFilesystem index filesystem).nodes = objects.nodes := rfl

theorem filesystems_setFilesystem_other (different : other ≠ index) :
    (objects.setFilesystem index filesystem).filesystems other = objects.filesystems other := by
  exact Function.update_of_ne different ..

end

def vfsNodeValidForFilesystem (node filesystem : Option Nat) : Bool :=
  node.isSome && (objects.node node).valid && (objects.node node).id != 0 &&
    (objects.node node).type.isSome && (objects.node node).filesystem == filesystem

def vfsFilesystemValid (filesystem : Option Nat) : Bool :=
  let record := objects.filesystem filesystem
  filesystem.isSome && record.valid && record.id != 0 && record.operations.isSome &&
    vfsNodeValidForFilesystem objects record.root filesystem &&
    (objects.node record.root).type == some .directory && (objects.node record.root).parent == record.root

def vfsFilesystemPrepare (filesystem id : Nat) (operations : Option (List VfsOperation)) : Bool × Objects :=
  if id = 0 ∨ operations = none then (false, objects)
  else (true, objects.setFilesystem filesystem
    { id := id, operations := operations, root := none, valid := true })

def vfsNodePrepare (node filesystem id : Nat) (type : Option VfsNodeType)
    (parent : Option Nat) : Bool × Objects :=
  let prepared := objects.setNode node
    { id := id
      type := type
      filesystem := some filesystem
      parent := parent
      referenceCount := 0
      valid := true }
  if (objects.filesystems filesystem).valid = false ∨ id = 0 ∨ type = none then (false, objects)
  else
    match parent with
    | some directory =>
      if vfsNodeValidForFilesystem objects parent (some filesystem) = false ∨
          (objects.nodes directory).type ≠ some .directory ∨ directory = node then
        (false, objects)
      else (true, prepared)
    | none => if type ≠ some .directory then (false, objects) else (true, prepared)

def vfsFilesystemSetRoot (filesystem root : Nat) : Bool × Objects :=
  let record := objects.filesystems filesystem
  if record.valid = false ∨ record.root ≠ none ∨
      vfsNodeValidForFilesystem objects (some root) (some filesystem) = false ∨
      (objects.nodes root).type ≠ some .directory ∨ (objects.nodes root).parent ≠ none then
    (false, objects)
  else
    let rooted := objects.setNode root { objects.nodes root with parent := some root }
    (true, rooted.setFilesystem filesystem { record with root := some root })

/-- No reference count changes, a node that is referred to stays the same
object, and so does a file system whose root is referred to. -/
structure KeepsReferenced (before after : Objects) : Prop where
  counts : ∀ node, (after.nodes node).referenceCount = (before.nodes node).referenceCount
  nodes : ∀ node, (before.nodes node).referenceCount ≠ 0 →
    (after.nodes node).id = (before.nodes node).id ∧
      (after.nodes node).type = (before.nodes node).type ∧
      (after.nodes node).filesystem = (before.nodes node).filesystem ∧
      (after.nodes node).valid = (before.nodes node).valid
  filesystems : ∀ filesystem root, vfsFilesystemValid before (some filesystem) = true →
    (before.filesystems filesystem).root = some root →
    (before.nodes root).referenceCount ≠ 0 →
    after.filesystems filesystem = before.filesystems filesystem ∧
      (after.nodes root).parent = (before.nodes root).parent

namespace KeepsReferenced

variable {before middle after objects : Objects}

theorem refl (objects : Objects) : KeepsReferenced objects objects where
  counts _ := rfl
  nodes _ _ := ⟨rfl, rfl, rfl, rfl⟩
  filesystems _ _ _ _ _ := ⟨rfl, rfl⟩

theorem nodeValid (keeps : KeepsReferenced before after) {node : Nat}
    (referenced : (before.nodes node).referenceCount ≠ 0) (filesystem : Option Nat) :
    vfsNodeValidForFilesystem after (some node) filesystem =
      vfsNodeValidForFilesystem before (some node) filesystem := by
  rcases keeps.nodes node referenced with ⟨id, type, owner, valid⟩
  simp only [vfsNodeValidForFilesystem, Objects.node, Option.elim, id, type, owner, valid]

/-- A file system whose root is referred to stays valid. -/
theorem filesystemValid (keeps : KeepsReferenced before after) {filesystem root : Nat}
    (isValid : vfsFilesystemValid before (some filesystem) = true)
    (isRoot : (before.filesystems filesystem).root = some root)
    (referenced : (before.nodes root).referenceCount ≠ 0) :
    vfsFilesystemValid after (some filesystem) = true ∧
      (after.filesystems filesystem).root = some root := by
  rcases keeps.filesystems filesystem root isValid isRoot referenced with ⟨record, parent⟩
  refine ⟨?_, record ▸ isRoot⟩
  rw [← isValid]
  simp only [vfsFilesystemValid, Objects.filesystem, Option.elim, record, isRoot, keeps.nodeValid referenced]
  simp only [Objects.node, Option.elim, (keeps.nodes root referenced).2.1, parent]

theorem trans (first : KeepsReferenced before middle) (second : KeepsReferenced middle after) :
    KeepsReferenced before after where
  counts node := (second.counts node).trans (first.counts node)
  nodes node referenced := by
    rcases first.nodes node referenced with ⟨id, type, owner, valid⟩
    rcases second.nodes node (by rw [first.counts node]; exact referenced) with
      ⟨id', type', owner', valid'⟩
    simp [*]
  filesystems filesystem root isValid isRoot referenced := by
    rcases first.filesystemValid isValid isRoot referenced with ⟨validMiddle, rootMiddle⟩
    rcases first.filesystems filesystem root isValid isRoot referenced with ⟨record, parent⟩
    rcases second.filesystems filesystem root validMiddle rootMiddle
      (by rw [first.counts root]; exact referenced) with ⟨record', parent'⟩
    simp [*]

/-- A node to which nothing refers may be replaced by one that counts no
reference. -/
theorem setNode (index : Nat) {node : VfsNode}
    (unreferenced : (objects.nodes index).referenceCount = 0) (fresh : node.referenceCount = 0) :
    KeepsReferenced objects (objects.setNode index node) := by
  have different : ∀ other, (objects.nodes other).referenceCount ≠ 0 → other ≠ index := by
    intro other referenced same
    exact referenced (same ▸ unreferenced)
  refine ⟨fun other => ?_, fun other referenced => ?_, fun _ root _ _ referenced => ?_⟩
  · by_cases same : other = index
    · simp [*]
    · rw [nodes_setNode_other same]
  · simp_all [nodes_setNode_other]
  simp_all [nodes_setNode_other]

/-- A file system that is not valid may be replaced. -/
theorem setFilesystem (index : Nat) (filesystem : VfsFilesystem)
    (isInvalid : vfsFilesystemValid objects (some index) = false) :
    KeepsReferenced objects (objects.setFilesystem index filesystem) where
  counts _ := rfl
  nodes _ _ := ⟨rfl, rfl, rfl, rfl⟩
  filesystems other _ isValid _ _ := by
    have different : other ≠ index := by
      intro same
      rw [same, isInvalid] at isValid
      cases isValid
    exact ⟨filesystems_setFilesystem_other different, rfl⟩

/-! The functions by which a backend sets up its objects. -/

theorem vfsFilesystemPrepare (filesystem id : Nat) (operations : Option (List VfsOperation))
    (isInvalid : vfsFilesystemValid objects (some filesystem) = false) :
    KeepsReferenced objects (vfsFilesystemPrepare objects filesystem id operations).2 := by
  grind [Vfs.vfsFilesystemPrepare, refl, setFilesystem]

theorem vfsNodePrepare (node filesystem id : Nat) (type : Option VfsNodeType)
    (parent : Option Nat) (unreferenced : (objects.nodes node).referenceCount = 0) :
    KeepsReferenced objects (vfsNodePrepare objects node filesystem id type parent).2 := by
  have prepared : ∀ fresh : VfsNode, fresh.referenceCount = 0 →
      KeepsReferenced objects (objects.setNode node fresh) :=
    fun _ zero => setNode node unreferenced zero
  unfold Vfs.vfsNodePrepare
  simp only
  split
  · exact refl objects
  split
  · grind [refl]
  grind [refl]

theorem vfsFilesystemSetRoot (filesystem root : Nat)
    (unreferenced : (objects.nodes root).referenceCount = 0) :
    KeepsReferenced objects (vfsFilesystemSetRoot objects filesystem root).2 := by
  unfold Vfs.vfsFilesystemSetRoot
  simp only
  split
  · exact refl objects
  rename_i accepted
  have rootless : (objects.filesystems filesystem).root = none := by
    by_contra present
    exact accepted (Or.inr (Or.inl present))
  have rooted : KeepsReferenced objects
      (objects.setNode root { objects.nodes root with parent := some root }) :=
    setNode root unreferenced unreferenced
  refine rooted.trans (setFilesystem filesystem _ ?_)
  simp only [vfsFilesystemValid, vfsNodeValidForFilesystem, Objects.filesystem, Option.elim,
    filesystems_setNode, rootless, Option.isSome_none, Bool.false_and, Bool.and_false]

end KeepsReferenced

/-- `struct vfs_dirent`; `terminated` says that a zero follows the name. -/
structure VfsDirent where
  nodeId : Nat
  type : Option VfsNodeType
  name : List UInt8
  terminated : Bool
deriving DecidableEq, Repr

/-- A call of one of the callbacks. -/
inductive BackendRequest
  | lookup (directory : Option Nat) (name : List UInt8)
  | create (directory : Option Nat) (name : List UInt8)
  | mkdir (directory : Option Nat) (name : List UInt8)
  | unlink (directory : Option Nat) (name : List UInt8)
  | rmdir (directory : Option Nat) (name : List UInt8)
  | rename (oldDirectory : Option Nat) (oldName : List UInt8) (newDirectory : Option Nat)
      (newName : List UInt8)
  | read (node : Option Nat) (offset length : Nat)
  | write (node : Option Nat) (offset : Nat) (bytes : List UInt8)
  | truncate (node : Option Nat) (size : Nat)
  | readdir (directory : Option Nat) (index : Nat)
deriving DecidableEq, Repr

/-- What a callback returns, stores through its pointers and leaves behind. -/
structure BackendReply (Context : Type) (before : Objects) where
  result : VfsResult
  node : Option Nat := none
  transferred : Nat := 0
  bytes : List UInt8 := []
  entry : VfsDirent := ⟨0, none, [], true⟩
  context : Context
  objects : Objects
  keeps : KeepsReferenced before objects

/-- The backends of all file systems. -/
def Backend (Context : Type) : Type :=
  Context → (objects : Objects) → (filesystem : Option Nat) → BackendRequest → BackendReply Context objects

end BoringOS.Vfs
