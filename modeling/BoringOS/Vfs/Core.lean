import BoringOS.Vfs.Objects

namespace BoringOS.Vfs

/-!
# Mounts, paths and handles

A transcription of `kernel/core/vfs.c`.  A pointer to a mount is its index in
the mount table.  Paths and handles belong to the callers: a function that
stores through a pointer to one takes its old value and returns the new one.
These pointers are not null, apart from the start of a resolution.  A name or
a path string is the list of its bytes before the terminating zero.
-/

/-- `struct vfs_mount` -/
structure VfsMount where
  id : Nat
  filesystem : Option Nat
  parent : Option Nat
  mountpoint : Option Nat
  active : Bool
deriving DecidableEq, Repr

/-- `struct vfs_path` -/
structure VfsPath where
  mount : Option Nat
  node : Option Nat
deriving DecidableEq, Repr

/-- `struct vfs_handle` -/
structure VfsHandle where
  path : VfsPath
  offset : Nat
  access : UInt32
  isOpen : Bool
deriving DecidableEq, Repr

/-- The state of the virtual file system, with the objects and the context of
the backends. -/
structure VfsState (Context : Type) where
  objects : Objects
  context : Context
  mounts : Nat → VfsMount
  initialized : Bool
  nextMountId : Nat
  pathReferenceCount : Nat
  openHandleCount : Nat

/-- What a function returns and leaves in the path that it works on. -/
structure PathOutcome (Context : Type) where
  result : VfsResult
  path : VfsPath
  vfs : VfsState Context

def VfsMount.cleared : VfsMount :=
  { id := 0, filesystem := none, parent := none, mountpoint := none, active := false }

/-- The path `{ NULL, NULL }` -/
def VfsPath.empty : VfsPath := { mount := none, node := none }

def VfsHandle.closed : VfsHandle :=
  { path := VfsPath.empty, offset := 0, access := 0, isOpen := false }

variable {Context : Type}

/-- The mount behind a pointer. -/
def VfsState.mount (vfs : VfsState Context) (mount : Option Nat) : VfsMount :=
  mount.elim VfsMount.cleared vfs.mounts

variable (vfs : VfsState Context)

/-- `mount->filesystem->root` -/
def VfsState.rootOf (mount : Option Nat) : Option Nat :=
  (vfs.objects.filesystem (vfs.mount mount).filesystem).root

def VfsState.setMount (index : Nat) (mount : VfsMount) : VfsState Context :=
  { vfs with mounts := Function.update vfs.mounts index mount }

/-- Stores the reference count of a node. -/
def VfsState.recount (index count : Nat) : VfsState Context :=
  { vfs with
    objects := vfs.objects.setNode index
      { vfs.objects.nodes index with referenceCount := count } }

variable (backend : Backend Context) (filesystem : Option Nat)

/-- Calls a callback of a file system. -/
def VfsState.ask (request : BackendRequest) : BackendReply Context vfs.objects :=
  backend vfs.context vfs.objects filesystem request

/-- The state that a backend leaves behind. -/
def VfsState.answered (reply : BackendReply Context vfs.objects) : VfsState Context :=
  { vfs with
    objects := reply.objects
    context := reply.context }

variable (path : VfsPath)

/-- Whether the operation table of the path's file system has a callback. -/
def VfsState.supports (operation : VfsOperation) : Bool :=
  ((vfs.objects.filesystem (vfs.mount path.mount).filesystem).operations.getD []).contains operation

/-! ## Validity of mounts and paths -/

def vfsMountValid (mount : Option Nat) : Bool :=
  mount.elim false fun index =>
    vfs.initialized && decide (index < vfsMountMax) && (vfs.mounts index).active &&
      (vfs.mounts index).id != 0 && vfsFilesystemValid vfs.objects (vfs.mounts index).filesystem

def vfsPathValid : Bool :=
  vfsMountValid vfs path.mount &&
    vfsNodeValidForFilesystem vfs.objects path.node (vfs.mount path.mount).filesystem

/-! ## References -/

def vfsNodeRetain : Option Nat → VfsResult × VfsState Context
  | none => (.corrupt, vfs)
  | some index =>
    let node := vfs.objects.nodes index
    if node.valid = false then (.corrupt, vfs)
    else if node.referenceCount = uint32Max then (.overflow, vfs)
    else (.ok, vfs.recount index (node.referenceCount + 1))

def vfsNodeRelease : Option Nat → VfsResult × VfsState Context
  | none => (.corrupt, vfs)
  | some index =>
    let node := vfs.objects.nodes index
    if node.valid = false ∨ node.referenceCount = 0 then (.corrupt, vfs)
    else (.ok, vfs.recount index (node.referenceCount - 1))

def vfsPathAcquire (mount node : Option Nat) (pathOut : VfsPath) : PathOutcome Context :=
  if pathOut.mount ≠ none ∨ pathOut.node ≠ none ∨ vfsMountValid vfs mount = false ∨
      vfsNodeValidForFilesystem vfs.objects node (vfs.mount mount).filesystem = false then
    { result := .invalidArgument, path := pathOut, vfs := vfs }
  else if vfs.pathReferenceCount = uint64Max then
    { result := .overflow, path := pathOut, vfs := vfs }
  else
    let retained := vfsNodeRetain vfs node
    if retained.1 ≠ .ok then { result := retained.1, path := pathOut, vfs := retained.2 }
    else
      { result := .ok
        path := { mount := mount, node := node }
        vfs := { retained.2 with pathReferenceCount := retained.2.pathReferenceCount + 1 } }

def vfsPathRelease : PathOutcome Context :=
  if vfsPathValid vfs path = false ∨ vfs.pathReferenceCount = 0 then
    { result := .invalidArgument, path := path, vfs := vfs }
  else
    let released := vfsNodeRelease vfs path.node
    if released.1 ≠ .ok then { result := released.1, path := path, vfs := released.2 }
    else
      { result := .ok
        path := VfsPath.empty
        vfs := { released.2 with pathReferenceCount := released.2.pathReferenceCount - 1 } }

def vfsPathReplace (mount node : Option Nat) : PathOutcome Context :=
  if vfsPathValid vfs path = false then
    { result := .invalidArgument, path := path, vfs := vfs }
  else
    let replacement := vfsPathAcquire vfs mount node VfsPath.empty
    if replacement.result ≠ .ok then
      { result := replacement.result, path := path, vfs := replacement.vfs }
    else
      let released := vfsPathRelease replacement.vfs path
      if released.result ≠ .ok then
        { result := released.result
          path := released.path
          vfs := (vfsPathRelease released.vfs replacement.path).vfs }
      else { result := .ok, path := replacement.path, vfs := released.vfs }

def vfsPathClone (source destination : VfsPath) : PathOutcome Context :=
  if vfsPathValid vfs source = false then
    { result := .invalidArgument, path := destination, vfs := vfs }
  else vfsPathAcquire vfs source.mount source.node destination

def vfsGetRoot (pathOut : VfsPath) : PathOutcome Context :=
  if vfs.initialized = false then { result := .notInitialized, path := pathOut, vfs := vfs }
  else vfsPathAcquire vfs (some 0) (vfs.rootOf (some 0)) pathOut

def vfsPathEqual (left right : VfsPath) : Bool :=
  vfsPathValid vfs left && vfsPathValid vfs right && decide (left = right)

def vfsPathIsDirectory : Bool :=
  vfsPathValid vfs path && (vfs.objects.node path.node).type == some .directory

/-! ## Mount tables -/

def vfsChildMount (parent mountpoint : Option Nat) : Option Nat :=
  (List.range' 1 (vfsMountMax - 1)).find? fun index =>
    (vfs.mounts index).active && (vfs.mounts index).parent == parent &&
      (vfs.mounts index).mountpoint == mountpoint

def vfsFilesystemIsMounted : Bool :=
  (List.range vfsMountMax).any fun index =>
    (vfs.mounts index).active && (vfs.mounts index).filesystem == filesystem

/-- The initialised state with an empty mount table; the root mount takes the
identifier 1. -/
def vfsBlank : VfsState Context :=
  { vfs with
    mounts := fun index => if index < vfsMountMax then VfsMount.cleared else vfs.mounts index
    initialized := true
    nextMountId := 2
    pathReferenceCount := 0
    openHandleCount := 0 }

def rootMount : VfsMount :=
  { id := 1, filesystem := filesystem, parent := none, mountpoint := none, active := true }

def vfsInit (rootFilesystem : Option Nat) : VfsResult × VfsState Context :=
  if vfs.initialized then (.alreadyInitialized, vfs)
  else if vfsFilesystemValid vfs.objects rootFilesystem = false then (.invalidArgument, vfs)
  else
    let mounted := (vfsBlank vfs).setMount 0 (rootMount rootFilesystem)
    let retained := vfsNodeRetain mounted (mounted.objects.filesystem rootFilesystem).root
    if retained.1 ≠ .ok then
      (retained.1, { retained.2.setMount 0 VfsMount.cleared with initialized := false })
    else (.ok, retained.2)

/-- The body of the loop of `vfs_shutdown` for one mount. -/
def vfsShutdownMount (index : Nat) : VfsResult × VfsState Context :=
  let mount := vfs.mounts index
  if mount.active = false then (.ok, vfs)
  else
    let root := vfsNodeRelease vfs (vfs.rootOf (some index))
    if root.1 ≠ .ok then (.corrupt, root.2)
    else if mount.mountpoint = none then (.ok, root.2.setMount index VfsMount.cleared)
    else
      let mountpoint := vfsNodeRelease root.2 mount.mountpoint
      if mountpoint.1 ≠ .ok then (.corrupt, mountpoint.2)
      else (.ok, mountpoint.2.setMount index VfsMount.cleared)

/-- The loop of `vfs_shutdown`, which goes through the table from its end. -/
def vfsShutdownMounts (vfs : VfsState Context) : Nat → VfsResult × VfsState Context
  | 0 => (.ok, vfs)
  | index + 1 =>
    let released := vfsShutdownMount vfs index
    if released.1 ≠ .ok then released else vfsShutdownMounts released.2 index

def vfsShutdown : VfsResult × VfsState Context :=
  if vfs.initialized = false then (.notInitialized, vfs)
  else if vfs.pathReferenceCount ≠ 0 ∨ vfs.openHandleCount ≠ 0 then (.busy, vfs)
  else
    let released := vfsShutdownMounts vfs vfsMountMax
    if released.1 ≠ .ok then released
    else
      (.ok, { released.2 with
        initialized := false
        nextMountId := 0 })

/-- The end of `vfs_mount_filesystem`, which retains the two nodes of a mount
and enters it into a free slot. -/
def vfsEnterMount (target : VfsPath) (slot : Nat) : VfsResult × VfsState Context :=
  let retained := vfsNodeRetain vfs target.node
  if retained.1 ≠ .ok then retained
  else
    let rooted := vfsNodeRetain retained.2 (retained.2.objects.filesystem filesystem).root
    if rooted.1 ≠ .ok then (rooted.1, (vfsNodeRelease rooted.2 target.node).2)
    else
      let mount : VfsMount :=
        { id := rooted.2.nextMountId
          filesystem := filesystem
          parent := target.mount
          mountpoint := target.node
          active := true }
      (.ok, { rooted.2.setMount slot mount with nextMountId := rooted.2.nextMountId + 1 })

def vfsMountFilesystem (target : VfsPath) : VfsResult × VfsState Context :=
  if vfs.initialized = false then (.notInitialized, vfs)
  else if vfsPathValid vfs target = false then (.invalidArgument, vfs)
  else if (vfs.objects.node target.node).type ≠ some .directory then (.notDirectory, vfs)
  else if vfsFilesystemValid vfs.objects filesystem = false then (.invalidArgument, vfs)
  else if target.node = vfs.rootOf target.mount ∨
      filesystem = (vfs.mount target.mount).filesystem then (.mountConflict, vfs)
  else if vfsFilesystemIsMounted vfs filesystem then (.alreadyMounted, vfs)
  else if vfsChildMount vfs target.mount target.node ≠ none then (.mountConflict, vfs)
  else if vfs.nextMountId = uint64Max then (.overflow, vfs)
  else
    match (List.range' 1 (vfsMountMax - 1)).find? fun index => !(vfs.mounts index).active with
    | none => (.noSpace, vfs)
    | some slot => vfsEnterMount vfs filesystem target slot

/-! ## Resolution -/

def slash : UInt8 := 47
def dot : UInt8 := 46

def vfsValidateName (name : List UInt8) : VfsResult :=
  if name.length > vfsNameMax then .nameTooLong
  else if name = [] then .emptyPath
  else if name = [dot] ∨ name = [dot, dot] then .invalidArgument
  else if slash ∈ name then .invalidArgument
  else .ok

def vfsValidateDirectory : VfsResult :=
  if vfsPathValid vfs path = false then .invalidArgument
  else if (vfs.objects.node path.node).type ≠ some .directory then .notDirectory
  else .ok

def vfsValidateRegular : VfsResult :=
  if vfsPathValid vfs path = false then .invalidArgument
  else if (vfs.objects.node path.node).type ≠ some .regular then .notRegular
  else .ok

def vfsValidateBackendChild (objects : Objects) (filesystem directory node : Option Nat)
    (expectedType : VfsNodeType) (requireType : Bool) : VfsResult :=
  if vfsNodeValidForFilesystem objects node filesystem = false ∨ node = directory ∨
      (objects.node node).parent ≠ directory then .corrupt
  else if requireType = true ∧ (objects.node node).type ≠ some expectedType then .corrupt
  else .ok

def vfsFollowChildMount : PathOutcome Context :=
  if vfsPathValid vfs path = false then
    { result := .invalidArgument, path := path, vfs := vfs }
  else
    match vfsChildMount vfs path.mount path.node with
    | none => { result := .ok, path := path, vfs := vfs }
    | some child => vfsPathReplace vfs path (some child) (vfs.rootOf (some child))

def vfsStepParent : PathOutcome Context :=
  let corrupt : PathOutcome Context := { result := .corrupt, path := path, vfs := vfs }
  if vfsPathValid vfs path = false then
    { result := .invalidArgument, path := path, vfs := vfs }
  else if path.node = vfs.rootOf path.mount then
    let mount := vfs.mount path.mount
    if path.mount = some 0 then { result := .ok, path := path, vfs := vfs }
    else if mount.parent = none ∨ mount.mountpoint = none ∨
        vfsMountValid vfs mount.parent = false then corrupt
    else
      let parentNode := (vfs.objects.node mount.mountpoint).parent
      if vfsNodeValidForFilesystem vfs.objects parentNode (vfs.mount mount.parent).filesystem = false ∨
          (vfs.objects.node parentNode).type ≠ some .directory then corrupt
      else vfsPathReplace vfs path mount.parent parentNode
  else
    let parentNode := (vfs.objects.node path.node).parent
    if vfsNodeValidForFilesystem vfs.objects parentNode (vfs.mount path.mount).filesystem = false ∨
        (vfs.objects.node parentNode).type ≠ some .directory then corrupt
    else vfsPathReplace vfs path path.mount parentNode

/-- Releases the local path of a resolution that fails with `result`. -/
def abandon (current : VfsPath) (result : VfsResult) : PathOutcome Context :=
  { result := result, path := VfsPath.empty, vfs := (vfsPathRelease vfs current).vfs }

/-- The part of the loop of `vfs_resolve` that looks up an ordinary component. -/
def vfsResolveName (vfs : VfsState Context) (current : VfsPath)
    (component : List UInt8) : PathOutcome Context :=
  if (vfs.objects.node current.node).type ≠ some .directory then abandon vfs current .notDirectory
  else if vfs.supports current .lookup = false then abandon vfs current .notSupported
  else
    let filesystem := (vfs.mount current.mount).filesystem
    let reply := vfs.ask backend filesystem (.lookup current.node component)
    let found := vfs.answered reply
    let checked := vfsValidateBackendChild found.objects filesystem current.node reply.node .regular false
    if reply.result ≠ .ok then abandon found current reply.result
    else if checked ≠ .ok then abandon found current checked
    else
      let next := vfsPathAcquire found current.mount reply.node VfsPath.empty
      if next.result ≠ .ok then abandon next.vfs current next.result
      else
        let released := vfsPathRelease next.vfs current
        if released.result ≠ .ok then abandon released.vfs next.path released.result
        else
          let followed := vfsFollowChildMount released.vfs next.path
          if followed.result ≠ .ok then abandon followed.vfs followed.path followed.result
          else followed

/-- One turn of the loop of `vfs_resolve`. -/
def vfsResolveComponent (vfs : VfsState Context) (current : VfsPath)
    (component : List UInt8) : PathOutcome Context :=
  if component.length > vfsNameMax then abandon vfs current .nameTooLong
  else if component = [dot] then { result := .ok, path := current, vfs := vfs }
  else if component = [dot, dot] then
    let stepped := vfsStepParent vfs current
    if stepped.result ≠ .ok then abandon stepped.vfs stepped.path stepped.result else stepped
  else vfsResolveName backend vfs current component

def vfsResolveComponents (backend : Backend Context) :
    List (List UInt8) → VfsState Context → VfsPath → PathOutcome Context
  | [], vfs, current => { result := .ok, path := current, vfs := vfs }
  | component :: rest, vfs, current =>
    let stepped := vfsResolveComponent backend vfs current component
    if stepped.result ≠ .ok then stepped
    else vfsResolveComponents backend rest stepped.vfs stepped.path

/-- The runs of other characters between the slashes of a path. -/
def components (path : List UInt8) : List (List UInt8) :=
  (path.splitOn slash).filter fun component => component ≠ []

/-- The local path with which a resolution starts. -/
def vfsResolveStart (start : Option VfsPath) (path : List UInt8) : PathOutcome Context :=
  if path.head? = some slash then vfsGetRoot vfs VfsPath.empty
  else
    match start with
    | some start => vfsPathClone vfs start VfsPath.empty
    | none => { result := .invalidArgument, path := VfsPath.empty, vfs := vfs }

def vfsResolve (vfs : VfsState Context) (start : Option VfsPath)
    (path : Option (List UInt8)) (pathOut : VfsPath) : PathOutcome Context :=
  let failed (result : VfsResult) : PathOutcome Context :=
    { result := result, path := pathOut, vfs := vfs }
  if vfs.initialized = false then failed .notInitialized
  else
    match path with
    | none => failed .invalidArgument
    | some path =>
      if pathOut.mount ≠ none ∨ pathOut.node ≠ none then failed .invalidArgument
      else if path.length > vfsPathMax then failed .pathTooLong
      else if path = [] then failed .emptyPath
      else
        let first := vfsResolveStart vfs start path
        if first.result ≠ .ok then { result := first.result, path := pathOut, vfs := first.vfs }
        else
          let last := vfsResolveComponents backend (components path) first.vfs first.path
          if last.result ≠ .ok then { result := last.result, path := pathOut, vfs := last.vfs }
          else last

/-! ## Changes of directories -/

/-- The callback that creates a directory or a regular file, and the type of
node that it has to return. -/
def createRequest (directoryRequested : Bool) (directory : Option Nat) (name : List UInt8) :
    VfsOperation × BackendRequest × VfsNodeType :=
  if directoryRequested then (.mkdir, .mkdir directory name, .directory)
  else (.create, .create directory name, .regular)

def vfsCreateCommon (vfs : VfsState Context) (directory : VfsPath)
    (name : List UInt8) (pathOut : VfsPath) (directoryRequested : Bool) : PathOutcome Context :=
  let failed (result : VfsResult) : PathOutcome Context :=
    { result := result, path := pathOut, vfs := vfs }
  let filesystem := (vfs.mount directory.mount).filesystem
  let request := createRequest directoryRequested directory.node name
  if vfsValidateDirectory vfs directory ≠ .ok then failed (vfsValidateDirectory vfs directory)
  else if pathOut.mount ≠ none ∨ pathOut.node ≠ none then failed .invalidArgument
  else if vfsValidateName name ≠ .ok then failed (vfsValidateName name)
  else if vfs.supports directory request.1 = false then failed .notSupported
  else
    let reply := vfs.ask backend filesystem request.2.1
    let created := vfs.answered reply
    let checked := vfsValidateBackendChild created.objects filesystem directory.node reply.node
      request.2.2 true
    if reply.result ≠ .ok then { result := reply.result, path := pathOut, vfs := created }
    else if checked ≠ .ok then { result := checked, path := pathOut, vfs := created }
    else vfsPathAcquire created directory.mount reply.node pathOut

def vfsCreateAt (vfs : VfsState Context) (directory : VfsPath)
    (name : List UInt8) (pathOut : VfsPath) : PathOutcome Context :=
  vfsCreateCommon backend vfs directory name pathOut false

def vfsMkdirAt (vfs : VfsState Context) (directory : VfsPath)
    (name : List UInt8) (pathOut : VfsPath) : PathOutcome Context :=
  vfsCreateCommon backend vfs directory name pathOut true

/-- The callback that removes a directory or a regular file. -/
def removeRequest (directoryRequested : Bool) (directory : Option Nat) (name : List UInt8) :
    VfsOperation × BackendRequest :=
  if directoryRequested then (.rmdir, .rmdir directory name)
  else (.unlink, .unlink directory name)

def vfsRemoveCommon (vfs : VfsState Context) (directory : VfsPath)
    (name : List UInt8) (directoryRequested : Bool) : VfsResult × VfsState Context :=
  let filesystem := (vfs.mount directory.mount).filesystem
  let request := removeRequest directoryRequested directory.node name
  if vfsValidateDirectory vfs directory ≠ .ok then (vfsValidateDirectory vfs directory, vfs)
  else if vfsValidateName name ≠ .ok then (vfsValidateName name, vfs)
  else if vfs.supports directory request.1 = false then (.notSupported, vfs)
  else
    let reply := vfs.ask backend filesystem request.2
    (reply.result, vfs.answered reply)

def vfsUnlinkAt (vfs : VfsState Context) (directory : VfsPath)
    (name : List UInt8) : VfsResult × VfsState Context :=
  vfsRemoveCommon backend vfs directory name false

def vfsRmdirAt (vfs : VfsState Context) (directory : VfsPath)
    (name : List UInt8) : VfsResult × VfsState Context :=
  vfsRemoveCommon backend vfs directory name true

def vfsRenameAt (vfs : VfsState Context) (oldDirectory : VfsPath)
    (oldName : List UInt8) (newDirectory : VfsPath) (newName : List UInt8) :
    VfsResult × VfsState Context :=
  let filesystem := (vfs.mount oldDirectory.mount).filesystem
  if vfsValidateDirectory vfs oldDirectory ≠ .ok then (vfsValidateDirectory vfs oldDirectory, vfs)
  else if vfsValidateDirectory vfs newDirectory ≠ .ok then
    (vfsValidateDirectory vfs newDirectory, vfs)
  else if vfsValidateName oldName ≠ .ok then (vfsValidateName oldName, vfs)
  else if vfsValidateName newName ≠ .ok then (vfsValidateName newName, vfs)
  else if oldDirectory.mount ≠ newDirectory.mount ∨
      filesystem ≠ (vfs.mount newDirectory.mount).filesystem then (.crossFilesystem, vfs)
  else if vfs.supports oldDirectory .rename = false then (.notSupported, vfs)
  else
    let reply := vfs.ask backend filesystem (.rename oldDirectory.node oldName newDirectory.node newName)
    (reply.result, vfs.answered reply)

def vfsTruncatePath (vfs : VfsState Context) (path : VfsPath) (size : Nat) : VfsResult × VfsState Context :=
  if vfsValidateRegular vfs path ≠ .ok then (vfsValidateRegular vfs path, vfs)
  else if vfs.supports path .truncate = false then (.notSupported, vfs)
  else
    let reply := vfs.ask backend (vfs.mount path.mount).filesystem (.truncate path.node size)
    (reply.result, vfs.answered reply)

/-- The checks that `vfs_readdir_path` makes of an entry. -/
def vfsDirentValid (entry : VfsDirent) : Bool :=
  entry.nodeId != 0 && entry.type.isSome && decide (entry.name ≠ []) &&
    decide (entry.name.length ≤ vfsNameMax) && entry.terminated &&
    decide (entry.name ≠ [dot]) && decide (entry.name ≠ [dot, dot]) && decide (slash ∉ entry.name)

def vfsReaddirPath (vfs : VfsState Context) (directory : VfsPath)
    (index : Nat) : VfsResult × VfsDirent × VfsState Context :=
  let empty : VfsDirent := { nodeId := 0, type := none, name := [], terminated := true }
  if vfsValidateDirectory vfs directory ≠ .ok then (vfsValidateDirectory vfs directory, empty, vfs)
  else if vfs.supports directory .readdir = false then (.notSupported, empty, vfs)
  else
    let reply := vfs.ask backend (vfs.mount directory.mount).filesystem (.readdir directory.node index)
    if reply.result ≠ .ok then (reply.result, reply.entry, vfs.answered reply)
    else if vfsDirentValid reply.entry = false then (.corrupt, reply.entry, vfs.answered reply)
    else (.ok, reply.entry, vfs.answered reply)

/-! ## Handles -/

def vfsAccessRead : UInt32 := 1
def vfsAccessWrite : UInt32 := 2
def vfsAccessMask : UInt32 := 3

/-- What a function returns and leaves in the handle that it works on. -/
structure HandleOutcome (Context : Type) where
  result : VfsResult
  transferred : Nat := 0
  bytes : List UInt8 := []
  handle : VfsHandle
  vfs : VfsState Context

def vfsHandleValid (handle : VfsHandle) : Bool :=
  handle.isOpen && handle.access &&& ~~~vfsAccessMask == 0 &&
    handle.access &&& vfsAccessMask != 0 && vfsPathValid vfs handle.path

def vfsHandleOpen (access : UInt32) (handleOut : VfsHandle) : HandleOutcome Context :=
  if vfsValidateRegular vfs path ≠ .ok then
    { result := vfsValidateRegular vfs path, handle := handleOut, vfs := vfs }
  else if handleOut.isOpen = true ∨ handleOut.path.mount ≠ none ∨ handleOut.path.node ≠ none ∨
      access &&& vfsAccessMask = 0 ∨ access &&& ~~~vfsAccessMask ≠ 0 then
    { result := .invalidArgument, handle := handleOut, vfs := vfs }
  else if vfs.openHandleCount = uint64Max then
    { result := .overflow, handle := handleOut, vfs := vfs }
  else
    let cloned := vfsPathClone vfs path handleOut.path
    if cloned.result ≠ .ok then
      { result := cloned.result
        handle := { handleOut with path := cloned.path }
        vfs := cloned.vfs }
    else
      { result := .ok
        handle := { path := cloned.path, offset := 0, access := access, isOpen := true }
        vfs := { cloned.vfs with openHandleCount := cloned.vfs.openHandleCount + 1 } }

/-- The part that `vfs_handle_read` and `vfs_handle_write` have in common: the
checks before the callback `operation` is called, and what is done with its
reply. -/
def vfsHandleTransfer (vfs : VfsState Context) (handle : VfsHandle)
    (length : Nat) (access : UInt32) (operation : VfsOperation) (request : BackendRequest) :
    HandleOutcome Context :=
  let failed (result : VfsResult) : HandleOutcome Context :=
    { result := result, handle := handle, vfs := vfs }
  if vfsHandleValid vfs handle = false then failed .invalidArgument
  else if handle.access &&& access = 0 then failed .accessDenied
  else if length > vfsIoMax then failed .invalidArgument
  else if length > uint64Max - handle.offset then failed .overflow
  else if vfs.supports handle.path operation = false then failed .notSupported
  else
    let reply := vfs.ask backend (vfs.mount handle.path.mount).filesystem request
    let served := vfs.answered reply
    if reply.result ≠ .ok then { result := reply.result, handle := handle, vfs := served }
    else if reply.transferred > length then { result := .corrupt, handle := handle, vfs := served }
    else
      { result := .ok
        transferred := reply.transferred
        bytes := reply.bytes
        handle := { handle with offset := handle.offset + reply.transferred }
        vfs := served }

def vfsHandleRead (vfs : VfsState Context) (handle : VfsHandle) (length : Nat) : HandleOutcome Context :=
  vfsHandleTransfer backend vfs handle length vfsAccessRead .read
    (.read handle.path.node handle.offset length)

def vfsHandleWrite (vfs : VfsState Context) (handle : VfsHandle)
    (buffer : List UInt8) : HandleOutcome Context :=
  vfsHandleTransfer backend vfs handle buffer.length vfsAccessWrite .write
    (.write handle.path.node handle.offset buffer)

def vfsHandleClose (handle : VfsHandle) : HandleOutcome Context :=
  if vfsHandleValid vfs handle = false ∨ vfs.openHandleCount = 0 then
    { result := .invalidArgument, handle := handle, vfs := vfs }
  else
    let released := vfsPathRelease vfs handle.path
    if released.result ≠ .ok then
      { result := released.result
        handle := { handle with path := released.path }
        vfs := released.vfs }
    else
      { result := .ok
        handle := { path := released.path, offset := 0, access := 0, isOpen := false }
        vfs := { released.vfs with openHandleCount := released.vfs.openHandleCount - 1 } }

end BoringOS.Vfs
