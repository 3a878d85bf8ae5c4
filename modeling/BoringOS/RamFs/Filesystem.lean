import BoringOS.Library.GrowingBuffer
import BoringOS.Memory.Pmm
import BoringOS.Vfs.Objects

namespace BoringOS.RamFs

open Library Vfs

/-!
# The file system in memory

A transcription of `kernel/core/ramfs.c`.  A file system is a table of nodes
that name their parents, and the files keep their bytes in blocks of the kernel
heap.  A pointer to a node is the number of its entry; it is absent for every
pointer that is not one into the table.  The pointers of a node to its own file
system, and the pointers for results, are left out.

The kernel heap is a parameter of every call: whether it has a block to give,
and whether it takes one back.
-/

def ramfsMaxNodes : Nat := 32
def ramfsFileMax : Nat := 8192
def ramfsTotalDataMax : Nat := 32768

/-- The answers of the kernel heap during one call -/
structure Heap where
  kmalloc : Bool
  kfree : Bool
deriving DecidableEq, Repr

/-- `struct ramfs_node`, with the fields of its `struct vfs_node` -/
structure RamfsNode where
  id : Nat
  type : Option VfsNodeType
  parent : Option (Fin ramfsMaxNodes)
  referenceCount : Nat
  valid : Bool
  name : List UInt8
  data : Option (List UInt8)
  size : Nat
  capacity : Nat
  occupied : Bool
deriving DecidableEq, Repr

/-- `struct ramfs`.  The root of the file system is its first node. -/
structure Ramfs where
  nodes : Fin ramfsMaxNodes → RamfsNode
  nextNodeId : Nat

/-- What `ramfs_node_clear` leaves -/
def clearedNode : RamfsNode := ⟨0, none, none, 0, false, [], none, 0, 0, false⟩

variable (ramfs : Ramfs)

def Ramfs.setNode (index : Fin ramfsMaxNodes) (node : RamfsNode) : Ramfs :=
  { ramfs with nodes := Function.update ramfs.nodes index node }

def rootIndex : Fin ramfsMaxNodes := ⟨0, by decide⟩

/-- The indices that the loops over the table visit if they start at 1 -/
def childIndices : List (Fin ramfsMaxNodes) := (List.finRange ramfsMaxNodes).filter (· ≠ rootIndex)

/-- `ramfs_node_from_vfs` -/
def ramfsNodeFromVfs : Option (Fin ramfsMaxNodes) → Option (Fin ramfsMaxNodes)
  | none => none
  | some index =>
    let candidate := ramfs.nodes index
    if candidate.occupied = false ∨ candidate.valid = false ∨ candidate.id = 0 ∨
        candidate.type = none then none
    else some index

variable (node : Option (Fin ramfsMaxNodes))

/-- `ramfs_directory_from_vfs` -/
def ramfsDirectoryFromVfs : Option (Fin ramfsMaxNodes) :=
  match ramfsNodeFromVfs ramfs node with
  | none => none
  | some index => if (ramfs.nodes index).type = some .directory then some index else none

/-- `ramfs_regular_from_vfs` -/
def ramfsRegularFromVfs : Option (Fin ramfsMaxNodes) :=
  match ramfsNodeFromVfs ramfs node with
  | none => none
  | some index => if (ramfs.nodes index).type = some .regular then some index else none

/-- The result for a node that is not of the type that a call needs -/
def wrongNode (otherwise : VfsResult) : VfsResult :=
  if ramfsNodeFromVfs ramfs node = none then .corrupt else otherwise

/-- `ramfs_validate_name` -/
def ramfsValidateName (name : List UInt8) : VfsResult :=
  if name.length = 0 then .invalidArgument
  else if vfsNameMax < name.length then .nameTooLong
  else if name = [0x2e] ∨ name = [0x2e, 0x2e] then .invalidArgument
  else if name.any (fun byte => byte == 0x2f || byte == 0) then .invalidArgument
  else .ok

/-- The node is a child of the directory. -/
def isChild (directory index : Fin ramfsMaxNodes) : Bool :=
  (ramfs.nodes index).occupied && (ramfs.nodes index).valid && (ramfs.nodes index).parent == some directory

variable (directory : Fin ramfsMaxNodes)

/-- `ramfs_find_child`, with `ramfs_names_equal` -/
def ramfsFindChild (name : List UInt8) : Option (Fin ramfsMaxNodes) :=
  childIndices.find? fun index =>
    isChild ramfs directory index && (ramfs.nodes index).name == name

/-- `ramfs_directory_has_children` -/
def ramfsDirectoryHasChildren : Bool := childIndices.any (isChild ramfs directory)

/-- `ramfs_find_free_node` -/
def ramfsFindFreeNode : Option (Fin ramfsMaxNodes) :=
  childIndices.find? fun index => !(ramfs.nodes index).occupied

/-- `vfs_node_prepare`, for a node of this file system with a parent -/
def vfsNodePrepare (node : RamfsNode) (index : Fin ramfsMaxNodes) (id : Nat)
    (type : VfsNodeType) (parent : Fin ramfsMaxNodes) : Option RamfsNode :=
  let above := ramfs.nodes parent
  if id = 0 ∨ above.valid = false ∨ above.id = 0 ∨ above.type ≠ some .directory ∨ parent = index then none
  else
    some { node with
      id := id
      type := some type
      parent := some parent
      referenceCount := 0
      valid := true }

/-- `ramfs_create_node` -/
def ramfsCreateNode (name : List UInt8) (type : VfsNodeType) : Ramfs × Except VfsResult (Fin ramfsMaxNodes) :=
  if ramfsValidateName name ≠ .ok then (ramfs, .error (ramfsValidateName name))
  else if ramfsFindChild ramfs directory name ≠ none then (ramfs, .error .alreadyExists)
  else
    match ramfsFindFreeNode ramfs with
    | none => (ramfs, .error .noSpace)
    | some slot =>
      if ramfs.nextNodeId = Memory.uint64Max then (ramfs, .error .overflow)
      else
        match vfsNodePrepare ramfs { clearedNode with name := name } slot ramfs.nextNodeId type
            directory with
        | none => (ramfs.setNode slot clearedNode, .error .corrupt)
        | some node =>
          ({ ramfs.setNode slot { node with occupied := true } with
            nextNodeId := ramfs.nextNodeId + 1 }, .ok slot)

/-- `ramfs_lookup` -/
def ramfsLookup (directory : Option (Fin ramfsMaxNodes)) (name : List UInt8) :
    Except VfsResult (Fin ramfsMaxNodes) :=
  match ramfsDirectoryFromVfs ramfs directory with
  | none => .error (wrongNode ramfs directory .notDirectory)
  | some parent =>
    if ramfsValidateName name ≠ .ok then .error (ramfsValidateName name)
    else
      match ramfsFindChild ramfs parent name with
      | none => .error .notFound
      | some child => .ok child

/-- What `ramfs_create` and `ramfs_mkdir` have in common -/
def createIn (type : VfsNodeType) (ramfs : Ramfs) (directory : Option (Fin ramfsMaxNodes))
    (name : List UInt8) : Ramfs × Except VfsResult (Fin ramfsMaxNodes) :=
  match ramfsDirectoryFromVfs ramfs directory with
  | none => (ramfs, .error (wrongNode ramfs directory .notDirectory))
  | some parent => ramfsCreateNode ramfs parent name type

/-- `ramfs_create` -/
def ramfsCreate : Ramfs → Option (Fin ramfsMaxNodes) → List UInt8 →
    Ramfs × Except VfsResult (Fin ramfsMaxNodes) :=
  createIn .regular

/-- `ramfs_mkdir` -/
def ramfsMkdir : Ramfs → Option (Fin ramfsMaxNodes) → List UInt8 →
    Ramfs × Except VfsResult (Fin ramfsMaxNodes) :=
  createIn .directory

variable (heap : Heap)

/-- `ramfs_remove_node` -/
def ramfsRemoveNode (ramfs : Ramfs) (index : Fin ramfsMaxNodes) : Ramfs × VfsResult :=
  let node := ramfs.nodes index
  if node.occupied = false ∨ node.valid = false then (ramfs, .corrupt)
  else if node.referenceCount ≠ 0 then (ramfs, .busy)
  else if node.data.isSome = true ∧ heap.kfree = false then (ramfs, .corrupt)
  else (ramfs.setNode index clearedNode, .ok)

/-- `ramfs_unlink` -/
def ramfsUnlink (ramfs : Ramfs) (directory : Option (Fin ramfsMaxNodes))
    (name : List UInt8) : Ramfs × VfsResult :=
  match ramfsDirectoryFromVfs ramfs directory with
  | none => (ramfs, wrongNode ramfs directory .notDirectory)
  | some parent =>
    if ramfsValidateName name ≠ .ok then (ramfs, ramfsValidateName name)
    else
      match ramfsFindChild ramfs parent name with
      | none => (ramfs, .notFound)
      | some child =>
        if (ramfs.nodes child).type ≠ some .regular then (ramfs, .notRegular)
        else ramfsRemoveNode heap ramfs child

/-- `ramfs_rmdir` -/
def ramfsRmdir (ramfs : Ramfs) (directory : Option (Fin ramfsMaxNodes))
    (name : List UInt8) : Ramfs × VfsResult :=
  match ramfsDirectoryFromVfs ramfs directory with
  | none => (ramfs, wrongNode ramfs directory .notDirectory)
  | some parent =>
    if ramfsValidateName name ≠ .ok then (ramfs, ramfsValidateName name)
    else
      match ramfsFindChild ramfs parent name with
      | none => (ramfs, .notFound)
      | some child =>
        if (ramfs.nodes child).type ≠ some .directory then (ramfs, .notDirectory)
        else if ramfsDirectoryHasChildren ramfs child then (ramfs, .notEmpty)
        else ramfsRemoveNode heap ramfs child

/-- The loop of `ramfs_validate_rename_cycle`, with the steps that are left -/
def renameCycleLoop (ramfs : Ramfs) (source : Fin ramfsMaxNodes) :
    (steps : Nat) → (cursor : Fin ramfsMaxNodes) → VfsResult
  | 0, _ => .corrupt
  | steps + 1, cursor =>
    if cursor = source then .invalidArgument
    else if cursor = rootIndex then .ok
    else
      match ramfsDirectoryFromVfs ramfs (ramfs.nodes cursor).parent with
      | none => .corrupt
      | some above => renameCycleLoop ramfs source steps above

/-- `ramfs_validate_rename_cycle` -/
def ramfsValidateRenameCycle (source newDirectory : Fin ramfsMaxNodes) : VfsResult :=
  if (ramfs.nodes source).type ≠ some .directory then .ok
  else renameCycleLoop ramfs source ramfsMaxNodes newDirectory

/-- `ramfs_rename` -/
def ramfsRename (oldDirectory : Option (Fin ramfsMaxNodes)) (oldName : List UInt8)
    (newDirectory : Option (Fin ramfsMaxNodes)) (newName : List UInt8) : Ramfs × VfsResult :=
  match ramfsDirectoryFromVfs ramfs oldDirectory, ramfsDirectoryFromVfs ramfs newDirectory with
  | some oldParent, some newParent =>
    if ramfsValidateName oldName ≠ .ok then (ramfs, ramfsValidateName oldName)
    else if ramfsValidateName newName ≠ .ok then (ramfs, ramfsValidateName newName)
    else
      match ramfsFindChild ramfs oldParent oldName with
      | none => (ramfs, .notFound)
      | some source =>
        match ramfsFindChild ramfs newParent newName with
        | some collision =>
          if collision = source ∧ oldParent = newParent ∧
              (ramfs.nodes source).name = newName then (ramfs, .ok)
          else (ramfs, .alreadyExists)
        | none =>
          if ramfsValidateRenameCycle ramfs source newParent ≠ .ok then
            (ramfs, ramfsValidateRenameCycle ramfs source newParent)
          else
            (ramfs.setNode source { ramfs.nodes source with
              name := newName
              parent := some newParent }, .ok)
  | _, _ => (ramfs, .notDirectory)

/-- `ramfs_current_capacity` -/
def ramfsCurrentCapacity : Except VfsResult Nat :=
  (List.finRange ramfsMaxNodes).foldlM (fun total index =>
    let node := ramfs.nodes index
    if node.occupied = false then .ok total
    else if ramfsFileMax < node.capacity then .error .corrupt
    else if Memory.uint64Max - total < node.capacity then .error .overflow
    else .ok (total + node.capacity)) 0

/-- `ramfs_prepare_capacity`.  A block is returned only if a new one is needed,
and beside it the capacity.  The budget that is left is computed in 64 bits. -/
def ramfsPrepareCapacity (ramfs : Ramfs) (node : RamfsNode) (requiredSize : Nat) :
    Except VfsResult (Option (List UInt8) × Nat) :=
  if requiredSize ≤ node.capacity then .ok (none, node.capacity)
  else if ramfsFileMax < requiredSize then .error .noSpace
  else
    match ramfsCurrentCapacity ramfs with
    | .error result => .error result
    | .ok totalCapacity =>
      if totalCapacity < node.capacity then .error .corrupt
      else
        let withoutOld := totalCapacity - node.capacity
        if (2 ^ 64 + ramfsTotalDataMax - withoutOld) % 2 ^ 64 < requiredSize then .error .noSpace
        else if heap.kmalloc = false then .error .noSpace
        else if node.capacity < node.size then .error .corrupt
        else
          let replacement := List.replicate requiredSize 0
          match node.data with
          | some data =>
            if node.size ≠ 0 then
              .ok (some (copyInto replacement 0 (data.take node.size)), requiredSize)
            else if node.capacity = 0 then .error .corrupt
            else .ok (some replacement, requiredSize)
          | none =>
            if node.capacity ≠ 0 then .error .corrupt
            else .ok (some replacement, requiredSize)

/-- `ramfs_commit_replacement` -/
def ramfsCommitReplacement (node : RamfsNode) (replacement : Option (List UInt8))
    (replacementCapacity : Nat) : RamfsNode × VfsResult :=
  match replacement with
  | none => (node, .ok)
  | some block =>
    if node.data.isSome = true ∧ heap.kfree = false then (node, .corrupt)
    else ({ node with
      data := some block
      capacity := replacementCapacity }, .ok)

/-- `ramfs_read` -/
def ramfsRead (offset length : Nat) : Except VfsResult (List UInt8) :=
  match ramfsRegularFromVfs ramfs node with
  | none => .error (wrongNode ramfs node .notRegular)
  | some index =>
    let regular := ramfs.nodes index
    if vfsIoMax < length then .error .invalidArgument
    else if regular.capacity < regular.size then .error .corrupt
    else if regular.size ≤ offset ∨ length = 0 then .ok []
    else
      let available := regular.size - offset
      let transferred := if available < length then available else length
      match regular.data with
      | none => .error .corrupt
      | some data => .ok ((data.drop offset).take transferred)

/-- The bytes of `ramfs_write` in a block that is large enough: the gap behind
the end of the file is cleared first. -/
def writeInto (target : List UInt8) (size offset : Nat) (input : List UInt8) : List UInt8 :=
  copyInto (if size < offset then copyInto target size (List.replicate (offset - size) 0)
    else target) offset input

/-- A change of the bytes, in a new block or in the block of the node.  Without
a new block nothing is left to commit. -/
def changeBlock (node : RamfsNode) (replacement : Option (List UInt8))
    (replacementCapacity : Nat) (change : List UInt8 → List UInt8) : RamfsNode × VfsResult :=
  match replacement, node.data with
  | some block, _ => ramfsCommitReplacement heap node (some (change block)) replacementCapacity
  | none, some data =>
    ramfsCommitReplacement heap { node with data := some (change data) } none replacementCapacity
  | none, none => (node, .corrupt)

/-- `ramfs_write`.  The number of bytes that were transferred is returned. -/
def ramfsWrite (ramfs : Ramfs) (node : Option (Fin ramfsMaxNodes)) (offset : Nat)
    (input : List UInt8) : Ramfs × Except VfsResult Nat :=
  match ramfsRegularFromVfs ramfs node with
  | none => (ramfs, .error (wrongNode ramfs node .notRegular))
  | some index =>
    let regular := ramfs.nodes index
    if vfsIoMax < input.length then (ramfs, .error .invalidArgument)
    else if input.length = 0 then (ramfs, .ok 0)
    else if Memory.uint64Max - offset < input.length then (ramfs, .error .overflow)
    else
      let end' := offset + input.length
      if ramfsFileMax < end' then (ramfs, .error .noSpace)
      else
        let newSize := if regular.size < end' then end' else regular.size
        match ramfsPrepareCapacity heap ramfs regular newSize with
        | .error result => (ramfs, .error result)
        | .ok (replacement, replacementCapacity) =>
          match changeBlock heap regular replacement replacementCapacity
              fun target => writeInto target regular.size offset input with
          | (changed, .ok) =>
            (ramfs.setNode index { changed with size := newSize }, .ok input.length)
          | (changed, result) => (ramfs.setNode index changed, .error result)

/-- `ramfs_truncate` -/
def ramfsTruncate (ramfs : Ramfs) (node : Option (Fin ramfsMaxNodes)) (size : Nat) :
    Ramfs × VfsResult :=
  match ramfsRegularFromVfs ramfs node with
  | none => (ramfs, wrongNode ramfs node .notRegular)
  | some index =>
    let regular := ramfs.nodes index
    if ramfsFileMax < size then (ramfs, .noSpace)
    else if size = 0 then
      if regular.data.isSome = true ∧ heap.kfree = false then (ramfs, .corrupt)
      else (ramfs.setNode index { regular with
        data := none
        capacity := 0
        size := 0 }, .ok)
    else if size ≤ regular.size then (ramfs.setNode index { regular with size := size }, .ok)
    else
      match ramfsPrepareCapacity heap ramfs regular size with
      | .error result => (ramfs, result)
      | .ok (replacement, replacementCapacity) =>
        match changeBlock heap regular replacement replacementCapacity fun target =>
            copyInto target regular.size (List.replicate (size - regular.size) 0) with
        | (changed, .ok) => (ramfs.setNode index { changed with size := size }, .ok)
        | (changed, result) => (ramfs.setNode index changed, result)

/-- The root directory of a new file system -/
def rootNode : RamfsNode where
  id := 1
  type := some .directory
  parent := some rootIndex
  referenceCount := 0
  valid := true
  name := []
  data := none
  size := 0
  capacity := 0
  occupied := true

/-- The file system that `ramfs_create_filesystem` returns -/
def ramfsCreateFilesystem : Ramfs := ⟨Function.update (fun _ => clearedNode) rootIndex rootNode, 2⟩

/-- `struct ramfs_stats` -/
structure RamfsStats where
  liveNodes : Nat
  liveDirectories : Nat
  liveFiles : Nat
  liveFileBytes : Nat
  allocatedFileCapacity : Nat
deriving DecidableEq, Repr

/-- One round of the loop of `ramfs_get_stats` -/
def addToStats (stats : RamfsStats) (index : Fin ramfsMaxNodes) : Except VfsResult RamfsStats :=
  let node := ramfs.nodes index
  if node.occupied = false then .ok stats
  else if node.valid = false then .error .corrupt
  else
    match node.type with
    | none => .error .corrupt
    | some .directory =>
      .ok { stats with
        liveNodes := stats.liveNodes + 1
        liveDirectories := stats.liveDirectories + 1 }
    | some .regular =>
      if Memory.uint64Max - stats.liveFileBytes < node.size ∨
          Memory.uint64Max - stats.allocatedFileCapacity < node.capacity then .error .overflow
      else
        .ok { stats with
          liveNodes := stats.liveNodes + 1
          liveFiles := stats.liveFiles + 1
          liveFileBytes := stats.liveFileBytes + node.size
          allocatedFileCapacity := stats.allocatedFileCapacity + node.capacity }

/-- `ramfs_get_stats` -/
def ramfsGetStats : Except VfsResult RamfsStats :=
  (List.finRange ramfsMaxNodes).foldlM (addToStats ramfs) ⟨0, 0, 0, 0, 0⟩

end BoringOS.RamFs
