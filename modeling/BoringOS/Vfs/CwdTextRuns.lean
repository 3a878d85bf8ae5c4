import BoringOS.Vfs.AnchoredCalls
import BoringOS.Vfs.WalkedPaths

namespace BoringOS.Vfs

open Library
open Spawn (SyscallError)

/-!
# Working directories and their texts over whole runs

`cwdText_resolves` is about every sequence of directory calls.  The text of a
working directory, resolved from the root, gives the directory itself, as long
as every step meets its condition.  The condition is needed: `process_set_cwd`
takes the root of every mounted file system for the root, so that a child that
is spawned there gets the text of another directory.
-/

variable {Context : Type} {backend : Backend Context} {entries : Entries Context}
  {vfs : VfsState Context} {system : System Context}

theorem processGetCwdText_some {process : ProcessDirectory} {text : List UInt8}
    (isText : processGetCwdText process = some text) :
    process.cwdTextValid = true ∧ text = process.cwdText := by
  unfold processGetCwdText processCopyText at isText
  split at isText
  · cases isText
  · grind

theorem chdir_leads (holds : HoldsEntries backend entries)
    {process : Nat} {path canonical : List UInt8} {pathOut : VfsPath}
    (textLeads : path.head? ≠ some slash → TextLeads entries system.vfs (system.processes process))
    (built : syscallBuildCanonicalCwd (system.processes process) path = some canonical)
    (isOk : (vfsResolveProcess backend system process (some path) pathOut).result = .ok) :
    vfsPathValid system.vfs (rootPath system.vfs) = true ∧
      ∃ names, Separable names ∧ canonical = canonicalText names ∧
        Leads entries (vfsResolveProcess backend system process (some path) pathOut).vfs
          (rootPath system.vfs) names
          (vfsResolveProcess backend system process (some path) pathOut).path := by
  unfold vfsResolveProcess at isOk ⊢
  unfold syscallBuildCanonicalCwd at built
  simp only [Option.getD_some] at isOk ⊢
  by_cases dead : (system.processes process).slotUsed = false ∨
      (system.processes process).alive = false ∨ some path = none
  · rw [if_pos dead] at isOk
    cases isOk
  rw [if_neg dead] at isOk ⊢
  by_cases isAbsolute : path.head? = some slash
  · rw [if_pos isAbsolute] at isOk built ⊢
    rcases vfsResolve_leads holds [] (fun other => absurd isAbsolute other) isOk with
      ⟨rootValid, leads⟩
    unfold startingNames at leads
    have fromRoot : syscallBuildComponents (components path) (canonicalText []) = some canonical := built
    grind [Separable, syscallBuildComponents_canonicalText, components_separable]
  rw [if_neg isAbsolute] at isOk built ⊢
  by_cases noCwd : (system.processes process).cwdValid = false
  · rw [if_pos noCwd] at isOk
    cases isOk
  rw [if_neg noCwd] at isOk ⊢
  cases isText : processGetCwdText (system.processes process) with
  | none =>
    rw [isText] at built
    cases built
  | some output =>
    rcases processGetCwdText_some isText with ⟨hasText, rfl⟩
    rcases textLeads isAbsolute hasText with ⟨rootValid, -, names, separable, isNames, leads⟩
    split at built
    · cases built
    rcases vfsResolve_leads holds names (fun _ => ⟨_, rfl, rootValid, leads⟩) isOk with ⟨-, arrived⟩
    grind [startingNames, syscallBuildComponents_canonicalText, components_separable]

theorem Anchored.chdir (anchored : Anchored entries system)
    (holds : HoldsEntries backend entries) (resolved : Nat) (path : List UInt8) :
    Anchored entries (syscallFsChdir backend system resolved path).2 := by
  unfold syscallFsChdir
  cases system.current with
  | none => exact anchored
  | some process =>
    simp only
    split
    · exact anchored
    cases built : syscallBuildCanonicalCwd (system.processes process) path with
    | none => exact anchored
    | some canonical =>
      have kept := vfsResolveProcess_keeps holds system process (some path) (system.pathSlots resolved)
      have found : Anchored entries (system.withPath resolved (vfsResolveProcess backend
          system process (some path) (system.pathSlots resolved))) :=
        ⟨vfsResolveProcess_sound anchored.sound backend process (some path) resolved,
          fun other => (anchored.texts other).kept kept⟩
      simp only
      by_cases failed : (vfsResolveProcess backend system process (some path)
          (system.pathSlots resolved)).result ≠ .ok
      · rw [if_pos failed]
        exact found
      rw [if_neg failed]
      rcases chdir_leads holds (fun _ => anchored.texts process) built (not_not.mp failed) with
        ⟨rootValid, names, separable, isText, leads⟩
      have isPath : (system.withPath resolved (vfsResolveProcess backend system process
          (some path) (system.pathSlots resolved))).pathSlots resolved =
          (vfsResolveProcess backend system process (some path)
            (system.pathSlots resolved)).path := Function.update_self ..
      have changed := found.setCwdText holds process resolved canonical fun _ => by
        rw [isPath]
        change vfsPathValid (vfsResolveProcess _ _ _ _ _).vfs
            (rootPath (vfsResolveProcess _ _ _ _ _).vfs) = true ∧
          LeadsTo entries (vfsResolveProcess _ _ _ _ _).vfs canonical _
        have sameRoot := rootPath_kept kept rootValid
        refine ⟨?_, names, separable, isText, ?_⟩
        · rw [sameRoot]
          exact kept.pathValid rootValid
        · rw [sameRoot]
          exact leads
      rw [isPath] at changed
      split
      · exact found.release holds resolved
      split
      · exact changed.release holds resolved
      split
      · exact changed.release holds resolved
      · exact changed.release holds resolved

theorem Anchored.rollback (anchored : Anchored entries system)
    (holds : HoldsEntries backend entries) (child : Nat) (answers : SpawnAnswers)
    (error : SyscallError) : Anchored entries (m36SpawnRollback system child answers error).2 := by
  unfold m36SpawnRollback
  split
  · exact anchored
  · exact anchored.clear holds child

/-- The copy of the parent's directory is as good as the directory itself. -/
theorem processGetCwd_meets (holds : HoldsEntries backend entries) {parent : Nat}
    {pathOut : VfsPath} (meets : CwdMeets system.vfs (system.processes parent).cwd)
    (got : (processGetCwd system parent pathOut).1 = true) :
    CwdMeets (processGetCwd system parent pathOut).2.vfs (processGetCwd system parent pathOut).2.path := by
  have kept := processGetCwd_keeps holds system parent pathOut
  unfold processGetCwd at got kept ⊢
  simp only at got kept ⊢
  split at got
  · cases got
  rename_i usable
  rw [if_neg usable] at kept ⊢
  have isOk := of_decide_eq_true got
  have isCwd := vfsPathClone_ok_path isOk
  have isValid : vfsPathValid system.vfs (system.processes parent).cwd = true := by
    unfold vfsPathClone at isOk
    by_contra isInvalid
    rw [if_pos (Bool.eq_false_of_not_eq_true isInvalid)] at isOk
    cases isOk
  rw [isCwd]
  intro isDirectory isRoot
  rcases vfsPathValid_node isValid with ⟨index, isNode, nodeValid⟩
  rcases kept.nodes index nodeValid with ⟨count, stored⟩
  have before : vfsPathIsDirectory system.vfs (system.processes parent).cwd = true := by
    unfold vfsPathIsDirectory at isDirectory ⊢
    rw [kept.pathType isValid, Bool.and_eq_true] at isDirectory
    rw [isValid, isDirectory.2]
    rfl
  have isOwn : (system.vfs.objects.node (system.processes parent).cwd.node).parent =
      (system.processes parent).cwd.node := by
    rw [isNode] at isRoot ⊢
    change ((vfsPathClone _ _ _).vfs.objects.nodes index).parent = some index at isRoot
    rw [stored] at isRoot
    exact isRoot
  have same := meets before isOwn
  grind [rootPath_kept]

theorem Anchored.spawnChild (anchored : Anchored entries system)
    (holds : HoldsEntries backend entries) (child parentCwd : Nat) (answers : SpawnAnswers)
    (meets : ChildSetsCwd system child answers → CwdMeets system.vfs (system.pathSlots parentCwd)) :
    Anchored entries (m36SpawnChild system child parentCwd answers).2 := by
  have born := anchored.create holds child
  have sameVfs : (processCreate system child).vfs = system.vfs := by
    unfold processCreate
    simp only
    split
    · rfl
    · rfl
  unfold m36SpawnChild
  simp only
  split
  · exact anchored.release holds parentCwd
  rename_i created
  split
  · exact (born.release holds parentCwd).rollback holds child answers _
  rename_i named
  simp only [not_or, Bool.not_eq_false] at created named
  have inherited := born.setCwd holds child (.slot parentCwd) (by
    change CwdMeets (processCreate system child).vfs (system.pathSlots parentCwd)
    rw [sameVfs]
    exact meets ⟨created.1, by grind [processCreate], named⟩)
  have released := inherited.release holds parentCwd
  split
  · exact released.rollback holds child answers _
  cases answers.failure with
  | none => exact released
  | some error => exact released.rollback holds child answers error

theorem Anchored.spawn (anchored : Anchored entries system)
    (holds : HoldsEntries backend entries) (child parentCwd : Nat) (answers : SpawnAnswers)
    (meets : (DirectoryCall.spawn child parentCwd answers).Meets entries system) :
    Anchored entries (m36Spawn system child parentCwd answers).2 := by
  unfold m36Spawn
  cases isCurrent : system.current with
  | none => exact anchored
  | some parent =>
    have kept := processGetCwd_keeps holds system parent (system.pathSlots parentCwd)
    have copied : Anchored entries (system.withPath parentCwd
        (processGetCwd system parent (system.pathSlots parentCwd)).2) :=
      ⟨processGetCwd_sound anchored.sound parent parentCwd, fun other => (anchored.texts other).kept kept⟩
    simp only
    split
    · exact anchored
    split
    · exact copied
    rename_i got
    refine copied.spawnChild holds child parentCwd answers fun setsCwd => ?_
    have isGot := Bool.eq_true_of_not_eq_false got
    have stillMeets := processGetCwd_meets holds (meets parent isCurrent isGot setsCwd) isGot
    have isPath : (system.withPath parentCwd (processGetCwd system parent
        (system.pathSlots parentCwd)).2).pathSlots parentCwd =
        (processGetCwd system parent (system.pathSlots parentCwd)).2.path :=
      Function.update_self ..
    rw [isPath]
    exact stillMeets

theorem directoryStep_anchored (holds : HoldsEntries backend entries) (system : System Context)
    (call : DirectoryCall Context) (anchored : Anchored entries system)
    (meets : call.Meets entries system) : Anchored entries (directoryStep backend system call) := by
  cases call with
  | call call leavesTree => exact anchored.call holds leavesTree meets
  | startAtRoot process root => exact anchored.startAtRoot holds process root
  | chdir resolved path => exact anchored.chdir holds resolved path
  | spawn child parentCwd answers => exact anchored.spawn holds child parentCwd answers meets

/-- What a resolution of a text from the root gives. -/
def ResolvesTo (backend : Backend Context) (entries : Entries Context) (vfs : VfsState Context)
    (text : List UInt8) (path : VfsPath) : Prop :=
  let outcome := vfsResolve backend vfs none (some text) VfsPath.empty
  outcome.result = .ok ∧ outcome.path = path ∨ Stops backend entries vfs none text outcome.result

theorem resolvesTo_of_leads (holds : HoldsEntries backend entries) {live : Multiset VfsPath}
    {handles : Nat} (balanced : Balanced vfs live handles) {text : List UInt8} {path : VfsPath}
    (rootValid : vfsPathValid vfs (rootPath vfs) = true) (short : text.length ≤ vfsPathMax)
    (leads : LeadsTo entries vfs text path) : ResolvesTo backend entries vfs text path := by
  rcases leads with ⟨names, separable, isText, toPath⟩
  have isAbsolute : text.head? = some slash := by
    rw [isText]
    exact canonicalText_head names
  refine (vfsResolve_balanced_agrees holds balanced none text).follows (rootPath vfs) path
    ⟨?_, short, if_pos isAbsolute, rootValid⟩ ?_
  · rintro rfl
    cases isAbsolute
  · rw [isText, components_canonicalText separable]
    exact toPath.walks

/-- After every sequence of directory calls that begins before any process has
a working directory with a text, and whose steps all meet their condition, the
text of every process resolves to its working directory. -/
theorem cwdText_resolves (holds : HoldsEntries backend entries) {context : Context}
    {before : List (Call Context)} (unstarted : ∀ process,
      ((run (step backend) (boot context) before).processes process).cwdTextValid = false)
    {calls : List (DirectoryCall Context)}
    (meets : Respects (directoryStep backend) (fun system call => call.Meets entries system)
      (run (step backend) (boot context) before) calls) {process : Nat} {after : System Context}
    (isAfter : after = run (directoryStep backend) (run (step backend) (boot context) before) calls)
    (hasText : (after.processes process).cwdTextValid = true) :
    ResolvesTo backend entries after.vfs (after.processes process).cwdText (after.processes process).cwd := by
  have started : Anchored entries (run (step backend) (boot context) before) :=
    ⟨run_invariant (fun system call sound => step_sound backend system call sound) before
        (boot context) (boot_sound context),
      fun other => textLeads_blank (unstarted other)⟩
  have anchored : Anchored entries after := by
    rw [isAfter]
    exact run_invariant_of_respects (directoryStep_anchored holds) calls _ started meets
  rcases anchored.texts process hasText with ⟨rootValid, short, leads⟩
  rcases anchored.sound.balanced with ⟨live, handles, -, -, balanced⟩
  exact resolvesTo_of_leads holds balanced rootValid short leads

/-- The second one is mounted on `/data`, and the first process starts and
changes to this directory. -/
def dataCalls : List (DirectoryCall Unit) :=
  [.call (.resolve none (some (slash :: dataName)) 0) rfl,
    .call (.mountFilesystem (some 1) (.slot 0)) rfl, .call (.pathRelease 0) rfl,
    .call (.processCreate 1) rfl, .startAtRoot 1 0, .call (.processActivate (some 1)) rfl, .chdir 0 dataName]

/-- The process goes back to the root and spawns a child there. -/
def backAtRoot : List (DirectoryCall Unit) :=
  dataCalls ++ [.chdir 0 [dot, dot], .spawn 2 0 ⟨true, true, none, true⟩]

/-- The process spawns a child in `/data`. -/
def spawnInData : List (DirectoryCall Unit) := dataCalls ++ [.spawn 2 0 ⟨true, true, none, true⟩]

/-- The child that is spawned in `/data` is there, but its text is that of the root. -/
theorem spawnInData_text_lost :
    ((run (directoryStep dataBackend) dataStart spawnInData).processes 2).cwdTextValid = true ∧
      ¬ ResolvesTo dataBackend dataEntries (run (directoryStep dataBackend) dataStart spawnInData).vfs
        ((run (directoryStep dataBackend) dataStart spawnInData).processes 2).cwdText
        ((run (directoryStep dataBackend) dataStart spawnInData).processes 2).cwd := by
  have isOk : (vfsResolve dataBackend (run (directoryStep dataBackend) dataStart spawnInData).vfs
      none (some ((run (directoryStep dataBackend) dataStart spawnInData).processes 2).cwdText)
      VfsPath.empty).result = .ok := by decide +kernel
  have isOther : (vfsResolve dataBackend (run (directoryStep dataBackend) dataStart spawnInData).vfs
      none (some ((run (directoryStep dataBackend) dataStart spawnInData).processes 2).cwdText)
      VfsPath.empty).path ≠
        ((run (directoryStep dataBackend) dataStart spawnInData).processes 2).cwd := by
    decide +kernel
  refine ⟨by decide +kernel, ?_⟩
  nofun

theorem dataStart_unstarted (process : Nat) :
    (dataStart.processes process).cwdTextValid = false := rfl

theorem backAtRoot_meets :
    Respects (directoryStep dataBackend) (fun system call => call.Meets dataEntries system)
      dataStart backAtRoot := by
  refine ⟨trivial, fun _ _ _ hasText => absurd hasText Bool.false_ne_true, trivial, trivial, trivial,
    trivial, trivial, trivial, fun parent isCurrent _ _ _ _ => ?_, trivial⟩
  cases isCurrent
  decide +kernel

/-- The child that is spawned after the way back. -/
theorem cwdText_resolves_backAtRoot :
    ResolvesTo dataBackend dataEntries
      (run (directoryStep dataBackend) dataStart backAtRoot).vfs
      ((run (directoryStep dataBackend) dataStart backAtRoot).processes 2).cwdText
      ((run (directoryStep dataBackend) dataStart backAtRoot).processes 2).cwd :=
  @cwdText_resolves Unit dataBackend dataEntries dataBackend_holds () dataBefore
    dataStart_unstarted backAtRoot backAtRoot_meets 2 _ rfl (by decide +kernel)

end BoringOS.Vfs
