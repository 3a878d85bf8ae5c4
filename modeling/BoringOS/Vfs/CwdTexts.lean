import BoringOS.Spawn.Records
import BoringOS.Vfs.CanonicalText
import BoringOS.Vfs.ReferenceCounts

namespace BoringOS.Vfs

open Spawn (SyscallError)

/-!
# Changes of working directories

The system calls that set a working directory: `chdir` of
`kernel/core/syscall.c`, and `spawn` of `kernel/core/m36_syscall.c`, as far as
the directory of the child is concerned.  A path variable of a function is one
of the path variables of the system, empty on entry.  The string that `chdir`
gets is the one that was copied from the caller.

A sequence of directory calls may do everything else that takes no entry out of
a directory.  It may mount file systems, create files and directories, open,
read and write files, and let processes come and go.
-/

variable {Context : Type}

/-- The error number for a result; none for `VFS_RESULT_OK`. -/
def syscallVfsError : VfsResult → Option SyscallError
  | .ok => none
  | .notFound => some .enoent
  | .alreadyExists => some .eexist
  | .notDirectory => some .enotdir
  | .notRegular => some .eisdir
  | .notEmpty => some .enotempty
  | .noSpace => some .enospc
  | .busy | .alreadyMounted | .mountConflict => some .ebusy
  | .pathTooLong | .nameTooLong => some .enametoolong
  | .accessDenied => some .eacces
  | .notSupported | .crossFilesystem => some .enotsup
  | .invalidArgument | .emptyPath | .noCwd | .overflow => some .einval
  | .notInitialized | .alreadyInitialized | .corrupt => some .eio

variable (system : System Context)

/-- Releases a path variable. -/
def System.release (path : Nat) : System Context :=
  system.withPath path (vfsPathRelease system.vfs (system.pathSlots path))

def syscallFsChdir (backend : Backend Context) (system : System Context) (resolved : Nat)
    (path : List UInt8) : Option SyscallError × System Context :=
  match system.current with
  | none => (some .einval, system)
  | some process =>
    let directory := system.processes process
    if directory.slotUsed = false ∨ directory.alive = false then (some .einval, system)
    else
      match syscallBuildCanonicalCwd directory path with
      | none => (some .einval, system)
      | some canonical =>
        let outcome := vfsResolveProcess backend system process (some path) (system.pathSlots resolved)
        let found := system.withPath resolved outcome
        if outcome.result ≠ .ok then (syscallVfsError outcome.result, found)
        else if vfsPathIsDirectory found.vfs outcome.path = false then
          (some .enotdir, found.release resolved)
        else
          let stored := processSetCwdText found process outcome.path canonical
          let changed := found.withProcess process stored
          if stored.result = false then (some .eio, changed.release resolved)
          else if (vfsPathRelease changed.vfs (changed.pathSlots resolved)).result ≠ .ok then
            (some .eio, changed.release resolved)
          else (none, changed.release resolved)

/-- What happens in a spawn apart from the working directory: whether the
process could be created and named, the error of a later stage, and whether a
child that failed could be discarded. -/
structure SpawnAnswers where
  created : Bool
  named : Bool
  failure : Option SyscallError
  discarded : Bool

def m36SpawnRollback (child : Nat) (answers : SpawnAnswers)
    (error : SyscallError) : Option SyscallError × System Context :=
  if answers.discarded = false then (some .eio, system)
  else (some error, system.withProcess child (processClear system child))

/-- The part of `m36_spawn` from the creation of the child, with the parent's
directory in a path variable. -/
def m36SpawnChild (child parentCwd : Nat) (answers : SpawnAnswers) :
    Option SyscallError × System Context :=
  let created := processCreate system child
  if answers.created = false ∨ created.result = false then
    (some .enospc, system.release parentCwd)
  else
    let born := system.withProcess child created
    if answers.named = false then m36SpawnRollback (born.release parentCwd) child answers .eio
    else
      let stored := processSetCwd born child (born.pathSlots parentCwd)
      let inherited := born.withProcess child stored
      if stored.result = false ∨
          (vfsPathRelease inherited.vfs (inherited.pathSlots parentCwd)).result ≠ .ok then
        m36SpawnRollback (inherited.release parentCwd) child answers .eio
      else
        match answers.failure with
        | some error => m36SpawnRollback (inherited.release parentCwd) child answers error
        | none => (none, inherited.release parentCwd)

def m36Spawn (child parentCwd : Nat) (answers : SpawnAnswers) :
    Option SyscallError × System Context :=
  match system.current with
  | none => (some .eacces, system)
  | some parent =>
    let directory := system.processes parent
    if directory.slotUsed = false ∨ directory.alive = false then (some .eacces, system)
    else
      let got := processGetCwd system parent (system.pathSlots parentCwd)
      let held := system.withPath parentCwd got.2
      if got.1 = false then (some .einval, held)
      else m36SpawnChild held child parentCwd answers

/-- How the kernel starts its first process, which it has created before. -/
def startAtRoot (process root : Nat) : System Context :=
  let outcome := vfsGetRoot system.vfs (system.pathSlots root)
  let found := system.withPath root outcome
  if outcome.result ≠ .ok then found
  else
    let stored := processSetCwdText found process (found.pathSlots root) [slash]
    (found.withProcess process stored).release root

/-- A call that takes no entry away, and that is no change of a working
directory with a text of the caller's own. -/
def Call.leavesTree : Call Context → Bool
  | .init _ => false
  | .shutdown => false
  | .unlinkAt .. => false
  | .rmdirAt .. => false
  | .renameAt .. => false
  | .processSetCwdText .. => false
  | .backendActs _ => false
  | _ => true

/-- A step of a sequence of directory calls. -/
inductive DirectoryCall (Context : Type)
  | call (call : Call Context) (leavesTree : call.leavesTree = true)
  | startAtRoot (process root : Nat)
  | chdir (resolved : Nat) (path : List UInt8)
  | spawn (child parentCwd : Nat) (answers : SpawnAnswers)

def directoryStep (backend : Backend Context) (system : System Context) :
    DirectoryCall Context → System Context
  | .call call _ => step backend system call
  | .startAtRoot process root => Vfs.startAtRoot system process root
  | .chdir resolved path => (syscallFsChdir backend system resolved path).2
  | .spawn child parentCwd answers => (m36Spawn system child parentCwd answers).2

end Vfs
end BoringOS

namespace BoringOS
namespace Vfs

/-!
## Texts that lead to their directories

`TextLeads` is what a valid text of a working directory means: it is canonical,
and its names lead from the root to the directory.  A change of the directory
keeps this if the text that is stored with the directory leads to it.
-/

variable {Context : Type} {backend : Backend Context} {entries : Entries Context}
  {vfs : VfsState Context} {system : System Context}

/-- A canonical text leads to a path. -/
def LeadsTo (entries : Entries Context) (vfs : VfsState Context) (text : List UInt8)
    (path : VfsPath) : Prop :=
  ∃ names, Separable names ∧ text = canonicalText names ∧ Leads entries vfs (rootPath vfs) names path

/-- The text of a working directory leads to it, if it is valid. -/
def TextLeads (entries : Entries Context) (vfs : VfsState Context) (process : ProcessDirectory) : Prop :=
  process.cwdTextValid = true → vfsPathValid vfs (rootPath vfs) = true ∧ process.cwdText.length ≤ vfsPathMax ∧
      LeadsTo entries vfs process.cwdText process.cwd

/-- The invariant of the sequences of directory calls. -/
structure Anchored (entries : Entries Context) (system : System Context) : Prop where
  sound : SystemSound system
  texts : ∀ process, TextLeads entries system.vfs (system.processes process)

theorem LeadsTo.kept {after : VfsState Context} {text : List UInt8} {path : VfsPath}
    (leads : LeadsTo entries vfs text path) (kept : KeepsTree entries vfs after)
    (rootValid : vfsPathValid vfs (rootPath vfs) = true) : LeadsTo entries after text path := by
  rcases leads with ⟨names, separable, isText, toPath⟩
  refine ⟨names, separable, isText, ?_⟩
  rw [rootPath_kept kept rootValid]
  exact toPath.kept kept

theorem TextLeads.kept {after : VfsState Context} {process : ProcessDirectory}
    (textLeads : TextLeads entries vfs process) (kept : KeepsTree entries vfs after) :
    TextLeads entries after process := by
  intro hasText
  rcases textLeads hasText with ⟨rootValid, short, leads⟩
  refine ⟨?_, short, leads.kept kept rootValid⟩
  rw [rootPath_kept kept rootValid]
  exact kept.pathValid rootValid

/-- The root's own text leads to the root. -/
theorem leadsTo_root (vfs : VfsState Context) : LeadsTo entries vfs [slash] (rootPath vfs) :=
  ⟨[], nofun, rfl, rfl⟩

namespace Anchored

section

variable (anchored : Anchored entries system)
include anchored

theorem withPath (out : Nat) {outcome : PathOutcome Context}
    (keeps : ∀ live handles, Balanced system.vfs (held (system.pathSlots out) + live) handles →
      Balanced outcome.vfs (held outcome.path + live) handles)
    (kept : KeepsTree entries system.vfs outcome.vfs) :
    Anchored entries (system.withPath out outcome) :=
  ⟨anchored.sound.withPath out keeps, fun process => (anchored.texts process).kept kept⟩

theorem withVfs {next : VfsState Context}
    (keeps : ∀ live handles, Balanced system.vfs live handles → Balanced next live handles)
    (kept : KeepsTree entries system.vfs next) : Anchored entries (system.withVfs next) :=
  ⟨anchored.sound.withVfs keeps, fun process => (anchored.texts process).kept kept⟩

theorem withHandle (handle : Nat) {outcome : HandleOutcome Context} (keeps : ∀ live rest,
      Balanced system.vfs (held (system.handles handle).path + live)
          ((opened (system.handles handle)).card + rest) →
        Balanced outcome.vfs (held outcome.handle.path + live)
            ((opened outcome.handle).card + rest) ∧ HandleSound outcome.handle)
    (kept : KeepsTree entries system.vfs outcome.vfs) :
    Anchored entries (system.withHandle handle outcome) :=
  ⟨anchored.sound.withHandle handle keeps, fun process => (anchored.texts process).kept kept⟩

/-- A sound change of one process whose text still leads to its directory. -/
theorem withProcess (process : Nat)
    {outcome : ProcessOutcome Context} (sound : SystemSound (system.withProcess process outcome))
    (kept : KeepsTree entries system.vfs outcome.vfs)
    (leads : TextLeads entries outcome.vfs outcome.process) :
    Anchored entries (system.withProcess process outcome) where
  sound := sound
  texts other := by
    change TextLeads entries outcome.vfs (Function.update system.processes process outcome.process other)
    by_cases same : other = process
    · simp [*]
    · rw [Function.update_of_ne same]
      exact (anchored.texts other).kept kept

theorem release (holds : HoldsEntries backend entries)
    (path : Nat) : Anchored entries (system.release path) :=
  anchored.withPath path (fun _ _ balanced => vfsPathRelease_balanced balanced)
    (KeepsTree.vfsPathRelease holds _ _)

end

end Anchored

theorem vfsPathRelease_failed {path : VfsPath} (failed : (vfsPathRelease vfs path).result ≠ .ok) :
    (vfsPathRelease vfs path).path = path := by
  unfold vfsPathRelease at failed ⊢
  split
  · rfl
  · grind

theorem processStoreText_leads {process : ProcessDirectory} {text : Option (List UInt8)}
    (blank : process.cwdTextValid = false) (leads : ∀ stored, text = some stored →
      vfsPathValid vfs (rootPath vfs) = true ∧ LeadsTo entries vfs stored process.cwd) :
    TextLeads entries (processStoreText vfs process text).vfs
      (processStoreText vfs process text).process := by
  cases text with
  | none =>
    intro hasText
    change process.cwdTextValid = true at hasText
    rw [blank] at hasText
    cases hasText
  | some text =>
    unfold processStoreText processCopyText
    by_cases fits : text.length < vfsPathMax + 1
    · simp only [if_pos fits, Bool.true_eq_false, if_false]
      exact fun _ => ⟨(leads text rfl).1, Nat.le_of_lt_succ fits, (leads text rfl).2⟩
    simp only [if_neg fits, if_true]
    intro hasText
    simp_all

theorem processReplaceCwd_leads (holds : HoldsEntries backend entries)
    {process : ProcessDirectory} {cwd : VfsPath} {text : Option (List UInt8)}
    (old : TextLeads entries vfs process)
    (leads : vfsPathIsDirectory vfs cwd = true → ∀ stored, text = some stored →
      vfsPathValid vfs (rootPath vfs) = true ∧ LeadsTo entries vfs stored cwd) :
    TextLeads entries (processReplaceCwd vfs process cwd text).vfs
      (processReplaceCwd vfs process cwd text).process := by
  have cloned := KeepsTree.vfsPathClone holds vfs cwd VfsPath.empty
  have released := cloned.trans (KeepsTree.vfsPathRelease holds _ process.cwd)
  unfold processReplaceCwd
  by_cases noDirectory : vfsPathIsDirectory vfs cwd = false
  · rw [if_pos noDirectory]
    exact old
  rw [if_neg noDirectory]
  have stored : ∀ {after : VfsState Context} {replaced : ProcessDirectory},
      KeepsTree entries vfs after → replaced.cwdTextValid = false → replaced.cwd = cwd →
        TextLeads entries (processStoreText after replaced text).vfs
          (processStoreText after replaced text).process := by
    intro after replaced kept blank isCwd
    refine processStoreText_leads blank fun stored isText => ?_
    rcases leads (Bool.eq_true_of_not_eq_false noDirectory) stored isText with ⟨rootValid, toCwd⟩
    rw [isCwd, rootPath_kept kept rootValid]
    exact ⟨kept.pathValid rootValid, toCwd.kept kept rootValid⟩
  by_cases uncloned : (vfsPathClone vfs cwd VfsPath.empty).result ≠ .ok
  · rw [if_pos uncloned]
    exact old.kept cloned
  rw [if_neg uncloned]
  have isCwd : (vfsPathClone vfs cwd VfsPath.empty).path = cwd := by
    have isOk := not_not.mp uncloned
    unfold vfsPathClone at isOk ⊢
    by_cases isInvalid : vfsPathValid vfs cwd = false
    · grind
    · simp_all [vfsPathAcquire_ok_path]
  by_cases isValid : process.cwdValid = true
  · rw [if_pos isValid]
    by_cases stuck : (vfsPathRelease (vfsPathClone vfs cwd VfsPath.empty).vfs process.cwd).result ≠ .ok
    · rw [if_pos stuck, vfsPathRelease_failed stuck]
      exact old.kept (released.trans (KeepsTree.vfsPathRelease holds _ _))
    simp [*]
  simp [*]

end BoringOS.Vfs
