import BoringOS.Vfs.Core

namespace BoringOS.Vfs

/-!
# The callers of the virtual file system

The kernel keeps paths in variables, in open handles and as the working
directories of processes.  The functions on working directories are those of
`kernel/core/process.c`; the rest of a process plays no part here.  A step of
the system is one call, or a backend that acts on its own: it may set up a new
file system, or take one down that nobody refers to.
-/

/-- The working directory of a `struct process`; the text is the bytes before
its terminating zero.  A process is alive until it is marked as finished, and
its slot is in use until it is cleared. -/
structure ProcessDirectory where
  slotUsed : Bool
  alive : Bool
  cwd : VfsPath
  cwdText : List UInt8
  cwdValid : Bool
  cwdTextValid : Bool

def ProcessDirectory.cleared : ProcessDirectory :=
  { slotUsed := false
    alive := false
    cwd := VfsPath.empty
    cwdText := []
    cwdValid := false
    cwdTextValid := false }

/-- What a function returns and leaves in the process that it works on. -/
structure ProcessOutcome (Context : Type) where
  result : Bool
  process : ProcessDirectory
  vfs : VfsState Context

/-- Everything that holds paths. -/
structure System (Context : Type) where
  vfs : VfsState Context
  pathSlots : Nat → VfsPath
  handles : Nat → VfsHandle
  processes : Nat → ProcessDirectory
  current : Option Nat

/-- A place where a path is kept. -/
inductive PathPlace
  | slot (index : Nat)
  | handle (index : Nat)
  | cwd (process : Nat)
deriving DecidableEq, Repr

variable {Context : Type}

variable (system : System Context)

def System.pathAt : PathPlace → VfsPath
  | .slot index => system.pathSlots index
  | .handle index => (system.handles index).path
  | .cwd process => (system.processes process).cwd

/-- Whether the text fits together with its terminating zero, and what is
stored of it. -/
def processCopyText (capacity : Nat) (text : List UInt8) : Bool × List UInt8 :=
  if text.length < capacity then (true, text) else (false, text.take (capacity - 1))

/-- The end of `process_replace_cwd`, which stores the text of a directory
that has been replaced. -/
def processStoreText (vfs : VfsState Context) (process : ProcessDirectory) :
    Option (List UInt8) → ProcessOutcome Context
  | none => { result := true, process := process, vfs := vfs }
  | some text =>
    let copied := processCopyText (vfsPathMax + 1) text
    if copied.1 = false then
      { result := false
        process := { process with
          cwd := VfsPath.empty
          cwdText := copied.2
          cwdValid := false }
        vfs := (vfsPathRelease vfs process.cwd).vfs }
    else
      { result := true
        process := { process with
          cwdText := copied.2
          cwdTextValid := true }
        vfs := vfs }

def processReplaceCwd (vfs : VfsState Context) (process : ProcessDirectory) (cwd : VfsPath)
    (text : Option (List UInt8)) : ProcessOutcome Context :=
  if vfsPathIsDirectory vfs cwd = false then
    { result := false, process := process, vfs := vfs }
  else
    let replacement := vfsPathClone vfs cwd VfsPath.empty
    if replacement.result ≠ .ok then
      { result := false, process := process, vfs := replacement.vfs }
    else
      let replaced : ProcessDirectory :=
        { process with
          cwd := replacement.path
          cwdText := []
          cwdValid := true
          cwdTextValid := false }
      if process.cwdValid then
        let released := vfsPathRelease replacement.vfs process.cwd
        if released.result ≠ .ok then
          { result := false
            process := { process with cwd := released.path }
            vfs := (vfsPathRelease released.vfs replacement.path).vfs }
        else processStoreText released.vfs replaced text
      else processStoreText replacement.vfs replaced text

variable (process : Nat)

/-- The text that `process_set_cwd` finds for a path. -/
def cwdTextFor (cwd : VfsPath) : Option (List UInt8) :=
  if cwd.node ≠ none ∧ (system.vfs.objects.node cwd.node).parent = cwd.node then some [slash]
  else
    match system.current with
    | none => none
    | some current =>
      let directory := system.processes current
      if current ≠ process ∧ directory.cwdValid ∧ directory.cwdTextValid ∧
          vfsPathEqual system.vfs cwd directory.cwd then some directory.cwdText
      else none

def processSetCwd (cwd : VfsPath) : ProcessOutcome Context :=
  let directory := system.processes process
  if directory.slotUsed = false ∨ directory.alive = false then
    { result := false, process := directory, vfs := system.vfs }
  else processReplaceCwd system.vfs directory cwd (cwdTextFor system process cwd)

def processSetCwdText (cwd : VfsPath) (text : List UInt8) : ProcessOutcome Context :=
  let directory := system.processes process
  if (processCopyText (vfsPathMax + 1) text).1 = false ∨ text.head? ≠ some slash ∨
      directory.slotUsed = false ∨ directory.alive = false then
    { result := false, process := directory, vfs := system.vfs }
  else processReplaceCwd system.vfs directory cwd (some text)

def processClearCwd : ProcessOutcome Context :=
  let directory := system.processes process
  let cleared : ProcessDirectory :=
    { directory with
      cwd := VfsPath.empty
      cwdText := []
      cwdValid := false
      cwdTextValid := false }
  if directory.slotUsed = false ∨ directory.alive = false then
    { result := false, process := directory, vfs := system.vfs }
  else if directory.cwdValid then
    let released := vfsPathRelease system.vfs directory.cwd
    if released.result ≠ .ok then
      { result := false
        process := { directory with cwd := released.path }
        vfs := released.vfs }
    else { result := true, process := cleared, vfs := released.vfs }
  else { result := true, process := cleared, vfs := system.vfs }

/-- `process_get_cwd`; the result of a clone that fails is lost. -/
def processGetCwd (cwdOut : VfsPath) : Bool × PathOutcome Context :=
  let directory := system.processes process
  if directory.slotUsed = false ∨ directory.alive = false ∨ directory.cwdValid = false then
    (false, { result := .ok, path := cwdOut, vfs := system.vfs })
  else
    let cloned := vfsPathClone system.vfs directory.cwd cwdOut
    (decide (cloned.result = .ok), cloned)

/-- The part of `process_clear` that concerns the working directory. -/
def processClear : ProcessOutcome Context :=
  let directory := system.processes process
  { result := true
    process := ProcessDirectory.cleared
    vfs := if directory.cwdValid then (vfsPathRelease system.vfs directory.cwd).vfs
      else system.vfs }

def vfsResolveProcess (backend : Backend Context) (system : System Context) (process : Nat)
    (path : Option (List UInt8)) (pathOut : VfsPath) : PathOutcome Context :=
  let directory := system.processes process
  if directory.slotUsed = false ∨ directory.alive = false ∨ path = none then
    { result := .invalidArgument, path := pathOut, vfs := system.vfs }
  else if (path.getD []).head? = some slash then vfsResolve backend system.vfs none path pathOut
  else if directory.cwdValid = false then
    { result := .noCwd, path := pathOut, vfs := system.vfs }
  else vfsResolve backend system.vfs (some directory.cwd) path pathOut

/-- A call of the virtual file system, a change of a process, or an action of
a backend on its own. -/
inductive Call (Context : Type)
  | init (filesystem : Option Nat)
  | shutdown
  | getRoot (out : Nat)
  | pathClone (source : PathPlace) (out : Nat)
  | pathRelease (path : Nat)
  | resolve (start : Option PathPlace) (path : Option (List UInt8)) (out : Nat)
  | resolveProcess (process : Nat) (path : Option (List UInt8)) (out : Nat)
  | mountFilesystem (filesystem : Option Nat) (target : PathPlace)
  | createAt (directory : PathPlace) (name : List UInt8) (out : Nat)
  | mkdirAt (directory : PathPlace) (name : List UInt8) (out : Nat)
  | unlinkAt (directory : PathPlace) (name : List UInt8)
  | rmdirAt (directory : PathPlace) (name : List UInt8)
  | renameAt (oldDirectory : PathPlace) (oldName : List UInt8) (newDirectory : PathPlace)
      (newName : List UInt8)
  | truncatePath (path : PathPlace) (size : Nat)
  | readdirPath (directory : PathPlace) (index : Nat)
  | handleOpen (path : PathPlace) (access : UInt32) (handle : Nat)
  | handleRead (handle length : Nat)
  | handleWrite (handle : Nat) (buffer : List UInt8)
  | handleClose (handle : Nat)
  | processCreate (process : Nat)
  | processMarkFinished (process : Nat)
  | processClear (process : Nat)
  | processActivate (process : Option Nat)
  | processSetCwd (process : Nat) (cwd : PathPlace)
  | processSetCwdText (process : Nat) (cwd : PathPlace) (text : List UInt8)
  | processClearCwd (process : Nat)
  | processGetCwd (process out : Nat)
  | backendActs (action : Context → (objects : Objects) → BackendReply Context objects)

def System.withVfs (vfs : VfsState Context) : System Context :=
  { system with vfs := vfs }

def System.withPath (out : Nat) (outcome : PathOutcome Context) : System Context :=
  { system with
    vfs := outcome.vfs
    pathSlots := Function.update system.pathSlots out outcome.path }

def System.withHandle (handle : Nat) (outcome : HandleOutcome Context) : System Context :=
  { system with
    vfs := outcome.vfs
    handles := Function.update system.handles handle outcome.handle }

def System.withProcess (outcome : ProcessOutcome Context) : System Context :=
  { system with
    vfs := outcome.vfs
    processes := Function.update system.processes process outcome.process }

/-- A process object is allocated and zeroed. -/
def processCreate : ProcessOutcome Context :=
  let directory := system.processes process
  if directory.slotUsed then { result := false, process := directory, vfs := system.vfs }
  else
    { result := true
      process := { ProcessDirectory.cleared with
        slotUsed := true
        alive := true }
      vfs := system.vfs }

def processMarkFinished : ProcessOutcome Context :=
  let directory := system.processes process
  if directory.slotUsed = false ∨ directory.alive = false ∨ system.current = some process then
    { result := false, process := directory, vfs := system.vfs }
  else { result := true, process := { directory with alive := false }, vfs := system.vfs }

def step (backend : Backend Context) (system : System Context) :
    Call Context → System Context
  | .init filesystem => system.withVfs (vfsInit system.vfs filesystem).2
  | .shutdown => system.withVfs (vfsShutdown system.vfs).2
  | .getRoot out => system.withPath out (vfsGetRoot system.vfs (system.pathSlots out))
  | .pathClone source out =>
    system.withPath out (vfsPathClone system.vfs (system.pathAt source) (system.pathSlots out))
  | .pathRelease path =>
    system.withPath path (vfsPathRelease system.vfs (system.pathSlots path))
  | .resolve start path out =>
    system.withPath out
      (vfsResolve backend system.vfs (start.map system.pathAt) path (system.pathSlots out))
  | .resolveProcess process path out =>
    system.withPath out (vfsResolveProcess backend system process path (system.pathSlots out))
  | .mountFilesystem filesystem target =>
    system.withVfs (vfsMountFilesystem system.vfs filesystem (system.pathAt target)).2
  | .createAt directory name out =>
    system.withPath out
      (vfsCreateAt backend system.vfs (system.pathAt directory) name (system.pathSlots out))
  | .mkdirAt directory name out =>
    system.withPath out
      (vfsMkdirAt backend system.vfs (system.pathAt directory) name (system.pathSlots out))
  | .unlinkAt directory name =>
    system.withVfs (vfsUnlinkAt backend system.vfs (system.pathAt directory) name).2
  | .rmdirAt directory name =>
    system.withVfs (vfsRmdirAt backend system.vfs (system.pathAt directory) name).2
  | .renameAt oldDirectory oldName newDirectory newName =>
    system.withVfs (vfsRenameAt backend system.vfs (system.pathAt oldDirectory) oldName
      (system.pathAt newDirectory) newName).2
  | .truncatePath path size =>
    system.withVfs (vfsTruncatePath backend system.vfs (system.pathAt path) size).2
  | .readdirPath directory index =>
    system.withVfs (vfsReaddirPath backend system.vfs (system.pathAt directory) index).2.2
  | .handleOpen path access handle =>
    system.withHandle handle (vfsHandleOpen system.vfs (system.pathAt path) access (system.handles handle))
  | .handleRead handle length =>
    system.withHandle handle (vfsHandleRead backend system.vfs (system.handles handle) length)
  | .handleWrite handle buffer =>
    system.withHandle handle (vfsHandleWrite backend system.vfs (system.handles handle) buffer)
  | .handleClose handle =>
    system.withHandle handle (vfsHandleClose system.vfs (system.handles handle))
  | .processCreate process => system.withProcess process (Vfs.processCreate system process)
  | .processMarkFinished process =>
    system.withProcess process (Vfs.processMarkFinished system process)
  | .processClear process => system.withProcess process (Vfs.processClear system process)
  | .processActivate process => { system with current := process }
  | .processSetCwd process cwd =>
    system.withProcess process (Vfs.processSetCwd system process (system.pathAt cwd))
  | .processSetCwdText process cwd text =>
    system.withProcess process (Vfs.processSetCwdText system process (system.pathAt cwd) text)
  | .processClearCwd process =>
    system.withProcess process (Vfs.processClearCwd system process)
  | .processGetCwd process out =>
    system.withPath out (Vfs.processGetCwd system process (system.pathSlots out)).2
  | .backendActs action =>
    system.withVfs (system.vfs.answered (action system.vfs.context system.vfs.objects))

/-- The system before its first call: no path is in use, no handle is open and
no process exists. -/
def boot (context : Context) : System Context :=
  { vfs :=
      { objects :=
          { nodes := fun _ => VfsNode.cleared
            filesystems := fun _ => VfsFilesystem.cleared }
        context := context
        mounts := fun _ => VfsMount.cleared
        initialized := false
        nextMountId := 0
        pathReferenceCount := 0
        openHandleCount := 0 }
    pathSlots := fun _ => VfsPath.empty
    handles := fun _ => VfsHandle.closed
    processes := fun _ => ProcessDirectory.cleared
    current := none }

end BoringOS.Vfs
