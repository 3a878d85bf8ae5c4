import BoringOS.Vfs.ResolvedPaths

namespace BoringOS.Vfs

/-!
# Calls that keep the texts

Under its condition each call keeps `Anchored`.  A mount must not cover a
directory on the way to a working directory.  And a working directory that is
its own parent, which `process_set_cwd` takes for the root, must be the root.
-/

variable {Context : Type} {backend : Backend Context} {entries : Entries Context}
  {vfs : VfsState Context} {system : System Context}

/-- A directory that is its own parent is the root. -/
def CwdMeets (vfs : VfsState Context) (cwd : VfsPath) : Prop :=
  vfsPathIsDirectory vfs cwd = true → (vfs.objects.node cwd.node).parent = cwd.node → cwd = rootPath vfs

/-- No working directory with a text lies at or below a path. -/
def MountMeets (entries : Entries Context) (system : System Context) (target : VfsPath) : Prop :=
  ∀ process front, (system.processes process).cwdTextValid = true →
    front <+: components (system.processes process).cwdText →
    ¬ Leads entries system.vfs (rootPath system.vfs) front target

/-- The child of a spawn is created and named, and `process_set_cwd` is called for it. -/
def ChildSetsCwd (system : System Context) (child : Nat) (answers : SpawnAnswers) : Prop :=
  answers.created = true ∧ (system.processes child).slotUsed = false ∧ answers.named = true

/-- A mount has to meet its condition if it succeeds, and a spawn if it gets as far as the
working directory of the child. -/
def DirectoryCall.Meets (entries : Entries Context) (system : System Context) :
    DirectoryCall Context → Prop
  | .call (.mountFilesystem filesystem target) _ =>
    (vfsMountFilesystem system.vfs filesystem (system.pathAt target)).1 = .ok →
      MountMeets entries system (system.pathAt target)
  | .call (.processSetCwd _ cwd) _ => CwdMeets system.vfs (system.pathAt cwd)
  | .spawn child parentCwd answers => ∀ parent, system.current = some parent →
    (processGetCwd system parent (system.pathSlots parentCwd)).1 = true →
    ChildSetsCwd system child answers → CwdMeets system.vfs (system.processes parent).cwd
  | _ => True

theorem vfsPathIsDirectory_valid {path : VfsPath} (isDirectory : vfsPathIsDirectory vfs path = true) :
    vfsPathValid vfs path = true := by
  unfold vfsPathIsDirectory at isDirectory
  simp_all

theorem cwdTextFor_leads (anchored : Anchored entries system) {process : Nat} {cwd : VfsPath}
    (meets : CwdMeets system.vfs cwd) (isDirectory : vfsPathIsDirectory system.vfs cwd = true)
    {stored : List UInt8} (isText : cwdTextFor system process cwd = some stored) :
    vfsPathValid system.vfs (rootPath system.vfs) = true ∧ LeadsTo entries system.vfs stored cwd := by
  unfold cwdTextFor at isText
  by_cases isRoot : cwd.node ≠ none ∧ (system.vfs.objects.node cwd.node).parent = cwd.node
  · rw [if_pos isRoot] at isText
    have same := meets isDirectory isRoot.2
    grind [vfsPathIsDirectory_valid, leadsTo_root]
  rw [if_neg isRoot] at isText
  cases isCurrent : system.current with
  | none =>
    grind
  | some current =>
    rw [isCurrent] at isText
    simp only at isText
    by_cases inherits : current ≠ process ∧ (system.processes current).cwdValid = true ∧
        (system.processes current).cwdTextValid = true ∧
        vfsPathEqual system.vfs cwd (system.processes current).cwd = true
    · rw [if_pos inherits] at isText
      rcases inherits with ⟨-, -, hasText, isEqual⟩
      have same : cwd = (system.processes current).cwd := by
        unfold vfsPathEqual at isEqual
        simp only [Bool.and_eq_true, decide_eq_true_eq] at isEqual
        exact isEqual.2
      rcases anchored.texts current hasText with ⟨rootValid, -, leads⟩
      simp_all
    simp_all

theorem processSetCwd_anchored (holds : HoldsEntries backend entries)
    (anchored : Anchored entries system) (process : Nat) {cwd : VfsPath} (meets : CwdMeets system.vfs cwd) :
    TextLeads entries (processSetCwd system process cwd).vfs
        (processSetCwd system process cwd).process ∧
      KeepsTree entries system.vfs (processSetCwd system process cwd).vfs := by
  unfold processSetCwd
  simp only
  split
  · exact ⟨anchored.texts process, KeepsTree.refl _⟩
  refine ⟨?_, KeepsTree.processReplaceCwd holds _ _ _ _⟩
  exact processReplaceCwd_leads holds (anchored.texts process) fun isDirectory stored isText =>
    cwdTextFor_leads anchored meets isDirectory isText

theorem processSetCwdText_anchored (holds : HoldsEntries backend entries)
    (anchored : Anchored entries system) (process : Nat) {cwd : VfsPath} {text : List UInt8}
    (leads : vfsPathIsDirectory system.vfs cwd = true →
      vfsPathValid system.vfs (rootPath system.vfs) = true ∧ LeadsTo entries system.vfs text cwd) :
    TextLeads entries (processSetCwdText system process cwd text).vfs
        (processSetCwdText system process cwd text).process ∧
      KeepsTree entries system.vfs (processSetCwdText system process cwd text).vfs := by
  unfold processSetCwdText
  simp only
  split
  · exact ⟨anchored.texts process, KeepsTree.refl _⟩
  refine ⟨?_, KeepsTree.processReplaceCwd holds _ _ _ _⟩
  refine processReplaceCwd_leads holds (anchored.texts process) fun isDirectory stored isText => ?_
  simp_all

/-- The same for the whole system; the path is kept in a place of the system. -/
theorem Anchored.setCwd (anchored : Anchored entries system)
    (holds : HoldsEntries backend entries) (process : Nat) (place : PathPlace)
    (meets : CwdMeets system.vfs (system.pathAt place)) :
    Anchored entries
      (system.withProcess process (processSetCwd system process (system.pathAt place))) := by
  rcases processSetCwd_anchored holds anchored process meets with ⟨leads, kept⟩
  exact anchored.withProcess process
    (step_sound backend system (.processSetCwd process place) anchored.sound) kept leads

theorem Anchored.setCwdText (anchored : Anchored entries system)
    (holds : HoldsEntries backend entries) (process path : Nat) (text : List UInt8)
    (leads : vfsPathIsDirectory system.vfs (system.pathSlots path) = true →
      vfsPathValid system.vfs (rootPath system.vfs) = true ∧
        LeadsTo entries system.vfs text (system.pathSlots path)) :
    Anchored entries (system.withProcess process
      (processSetCwdText system process (system.pathSlots path) text)) := by
  rcases processSetCwdText_anchored holds anchored process leads with ⟨textLeads, kept⟩
  exact anchored.withProcess process
    (step_sound backend system (.processSetCwdText process (.slot path) text) anchored.sound) kept textLeads

theorem textLeads_blank {process : ProcessDirectory} (blank : process.cwdTextValid = false) :
    TextLeads entries vfs process := by
  intro hasText
  rw [blank] at hasText
  cases hasText

section

variable (holds : HoldsEntries backend entries)
include holds

theorem processClear_keeps (process : Nat) :
    KeepsTree entries system.vfs (processClear system process).vfs := by
  grind [processClear, KeepsTree.vfsPathRelease, KeepsTree.refl]

theorem vfsResolveProcess_keeps (system : System Context)
    (process : Nat) (path : Option (List UInt8)) (pathOut : VfsPath) :
    KeepsTree entries system.vfs (vfsResolveProcess backend system process path pathOut).vfs := by
  unfold vfsResolveProcess
  simp only
  split
  · exact KeepsTree.refl _
  grind [KeepsTree.vfsResolve, KeepsTree.refl]

theorem processGetCwd_keeps (system : System Context) (process : Nat) (cwdOut : VfsPath) :
    KeepsTree entries system.vfs (processGetCwd system process cwdOut).2.vfs := by
  grind [processGetCwd, KeepsTree.refl, KeepsTree.vfsPathClone]

theorem processClearCwd_keeps (process : Nat) :
    KeepsTree entries system.vfs (processClearCwd system process).vfs := by
  have released := KeepsTree.vfsPathRelease holds system.vfs (system.processes process).cwd
  unfold processClearCwd
  grind [KeepsTree.refl]

end

theorem Anchored.clear (anchored : Anchored entries system)
    (holds : HoldsEntries backend entries) (process : Nat) :
    Anchored entries (system.withProcess process (processClear system process)) :=
  anchored.withProcess process (processClear_sound anchored.sound process)
    (processClear_keeps holds process) (textLeads_blank rfl)

theorem Anchored.create (anchored : Anchored entries system)
    (_holds : HoldsEntries backend entries) (process : Nat) :
    Anchored entries (system.withProcess process (processCreate system process)) := by
  refine anchored.withProcess process
    (step_sound backend system (.processCreate process) anchored.sound) ?_ ?_
  · grind [processCreate, KeepsTree.refl]
  · unfold processCreate
    simp only
    split
    · exact anchored.texts process
    · exact textLeads_blank rfl

theorem Anchored.clearCwd (anchored : Anchored entries system)
    (holds : HoldsEntries backend entries) (process : Nat) :
    Anchored entries (system.withProcess process (processClearCwd system process)) := by
  have released := KeepsTree.vfsPathRelease holds system.vfs (system.processes process).cwd
  refine anchored.withProcess process (processClearCwd_sound anchored.sound process)
    (processClearCwd_keeps holds process) ?_
  unfold processClearCwd
  simp only
  split
  · exact anchored.texts process
  split
  · split
    · rename_i stuck
      rw [vfsPathRelease_failed stuck]
      exact (anchored.texts process).kept released
    · exact textLeads_blank rfl
  · exact textLeads_blank rfl

/-- A mount covers no directory on the way to a working directory. -/
theorem Anchored.mount (anchored : Anchored entries system)
    (holds : HoldsEntries backend entries) (filesystem : Option Nat) (place : PathPlace)
    (meets : (vfsMountFilesystem system.vfs filesystem (system.pathAt place)).1 = .ok →
      MountMeets entries system (system.pathAt place)) :
    Anchored entries (system.withVfs
      (vfsMountFilesystem system.vfs filesystem (system.pathAt place)).2) := by
  have sound := step_sound backend system (.mountFilesystem filesystem place) anchored.sound
  rcases vfsMountFilesystem_cases holds system.vfs filesystem (system.pathAt place) with
    kept | ⟨isOk, uncovered, middle, slot, mount, following, kept, free, isParent, isMountpoint, isMounted⟩
  · exact ⟨sound, fun process => (anchored.texts process).kept kept⟩
  refine ⟨sound, fun process hasText => ?_⟩
  change vfsPathValid (vfsMountFilesystem _ _ _).2 (rootPath (vfsMountFilesystem _ _ _).2) = true ∧
    _ ∧ LeadsTo entries (vfsMountFilesystem _ _ _).2 _ _
  rw [isMounted]
  rcases anchored.texts process hasText with ⟨rootValid, short, names, separable, isText, leads⟩
  have keptRoot := rootPath_kept kept rootValid
  have validRoot := kept.pathValid rootValid
  have mountValid : vfsMountValid middle (some 0) = true := vfsPathValid_mount validRoot
  have sameRoot : rootPath { middle.setMount slot mount with nextMountId := following } =
      rootPath system.vfs := by
    have same := (mount_mounted mount following free mountValid).1
    rw [← keptRoot]
    simp only [rootPath, VfsState.rootOf, same]
    rfl
  rw [sameRoot]
  refine ⟨pathValid_mounted free validRoot, short, names, separable, isText, ?_⟩
  rw [sameRoot]
  rw [← kept.childMount] at uncovered
  refine leads_mounted free uncovered isParent isMountpoint (leads.kept kept)
    fun front isFront toTarget => ?_
  -- In front of the mount the same names led to the same path.
  rcases isFront with ⟨rest, isNames⟩
  rw [← isNames, leads_append] at leads
  rcases leads with ⟨reached, toReached, -⟩
  have avoids := meets isOk
  rw [toTarget.unique (toReached.kept kept)] at avoids
  have inText : components (system.processes process).cwdText = names := by
    rw [isText]
    exact components_canonicalText separable
  exact avoids process front hasText (by rw [inText]; exact ⟨rest, isNames⟩) toReached

/-- Every other call of the sequence. -/
theorem Anchored.call (anchored : Anchored entries system)
    (holds : HoldsEntries backend entries) {call : Call Context} (leavesTree : call.leavesTree = true)
    (meets : (DirectoryCall.call call leavesTree).Meets entries system) :
    Anchored entries (step backend system call) := by
  have sound := anchored.sound
  cases call with
  | init filesystem => cases leavesTree
  | shutdown => cases leavesTree
  | getRoot out =>
    exact anchored.withPath out (fun _ _ balanced => vfsGetRoot_balanced balanced)
      (KeepsTree.vfsGetRoot holds _ _)
  | pathClone source out =>
    exact anchored.withPath out (fun _ _ balanced => vfsPathClone_balanced balanced _)
      (KeepsTree.vfsPathClone holds _ _ _)
  | pathRelease path => exact anchored.release holds path
  | resolve start path out =>
    exact anchored.withPath out (fun _ _ balanced => vfsResolve_balanced backend _ _ balanced)
      (KeepsTree.vfsResolve holds _ _ _ _)
  | resolveProcess process path out =>
    refine ⟨vfsResolveProcess_sound sound backend process path out, fun other => ?_⟩
    exact (anchored.texts other).kept (vfsResolveProcess_keeps holds system process path _)
  | mountFilesystem filesystem target => exact anchored.mount holds filesystem target meets
  | createAt directory name out =>
    exact anchored.withPath out (fun _ _ balanced => vfsCreateCommon_balanced backend balanced _ _ _)
      (KeepsTree.vfsCreateCommon holds _ _ _ _ _)
  | mkdirAt directory name out =>
    exact anchored.withPath out (fun _ _ balanced => vfsCreateCommon_balanced backend balanced _ _ _)
      (KeepsTree.vfsCreateCommon holds _ _ _ _ _)
  | unlinkAt directory name => cases leavesTree
  | rmdirAt directory name => cases leavesTree
  | renameAt oldDirectory oldName newDirectory newName => cases leavesTree
  | truncatePath path size =>
    exact anchored.withVfs (fun _ _ balanced => vfsTruncatePath_balanced backend balanced _ _)
      (KeepsTree.vfsTruncatePath holds _ _ _)
  | readdirPath directory index =>
    exact anchored.withVfs (fun _ _ balanced => vfsReaddirPath_balanced backend balanced _ _)
      (KeepsTree.vfsReaddirPath holds _ _ _)
  | handleOpen path access handle =>
    exact anchored.withHandle handle
      (fun _ _ balanced => vfsHandleOpen_balanced (sound.handles handle) balanced _ _)
      (KeepsTree.vfsHandleOpen holds _ _ _ _)
  | handleRead handle length =>
    exact anchored.withHandle handle
      (fun _ _ balanced =>
        vfsHandleTransfer_balanced backend (sound.handles handle) balanced _ _ _ _)
      (KeepsTree.vfsHandleTransfer holds _ _ _ _ _ rfl)
  | handleWrite handle buffer =>
    exact anchored.withHandle handle
      (fun _ _ balanced =>
        vfsHandleTransfer_balanced backend (sound.handles handle) balanced _ _ _ _)
      (KeepsTree.vfsHandleTransfer holds _ _ _ _ _ rfl)
  | handleClose handle =>
    exact anchored.withHandle handle
      (fun _ _ balanced => vfsHandleClose_balanced (sound.handles handle) balanced)
      (KeepsTree.vfsHandleClose holds _ _)
  | processCreate process => exact anchored.create holds process
  | processMarkFinished process =>
    refine anchored.withProcess process
      (step_sound backend system (.processMarkFinished process) sound) ?_ ?_
    · grind [processMarkFinished, KeepsTree.refl]
    · unfold processMarkFinished
      simp only
      split
      · exact anchored.texts process
      · exact anchored.texts process
  | processClear process => exact anchored.clear holds process
  | processActivate process =>
    exact ⟨⟨sound.balanced, sound.handles, sound.processes⟩, anchored.texts⟩
  | processSetCwd process cwd => exact anchored.setCwd holds process cwd meets
  | processSetCwdText process cwd text => cases leavesTree
  | processClearCwd process => exact anchored.clearCwd holds process
  | processGetCwd process out =>
    refine ⟨processGetCwd_sound sound process out, fun other => ?_⟩
    exact (anchored.texts other).kept (processGetCwd_keeps holds system process _)
  | backendActs action => cases leavesTree

theorem Anchored.startAtRoot (anchored : Anchored entries system)
    (holds : HoldsEntries backend entries) (process root : Nat) :
    Anchored entries (startAtRoot system process root) := by
  have found := anchored.withPath root (fun _ _ balanced => vfsGetRoot_balanced balanced)
    (KeepsTree.vfsGetRoot holds system.vfs (system.pathSlots root))
  unfold Vfs.startAtRoot
  by_cases failed : (vfsGetRoot system.vfs (system.pathSlots root)).result ≠ .ok
  · rw [if_pos failed]
    exact found
  rw [if_neg failed]
  refine (found.setCwdText holds process root [slash] fun isDirectory => ?_).release holds root
  rcases vfsGetRoot_ok (not_not.mp failed) with ⟨isRoot, rootValid⟩
  have kept := KeepsTree.vfsGetRoot holds system.vfs (system.pathSlots root)
  have isPath : (system.withPath root (vfsGetRoot system.vfs (system.pathSlots root))).pathSlots
      root = rootPath system.vfs := by
    rw [← isRoot]
    exact Function.update_self ..
  rw [isPath]
  change vfsPathValid (vfsGetRoot _ _).vfs (rootPath (vfsGetRoot _ _).vfs) = true ∧
    LeadsTo entries (vfsGetRoot _ _).vfs [slash] _
  rw [← rootPath_kept kept rootValid]
  refine ⟨?_, leadsTo_root _⟩
  rw [rootPath_kept kept rootValid]
  exact kept.pathValid rootValid

end BoringOS.Vfs
