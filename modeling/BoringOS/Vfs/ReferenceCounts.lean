import BoringOS.Library.Run
import BoringOS.Vfs.SystemSteps

namespace BoringOS.Vfs

open Library

/-!
# Reference counts in every run

Whatever the backends answer, every node counts the paths, the handles and the
mounts that refer to it in every state of every run, and the counters of paths
and handles are right.
-/

variable {Context : Type} {system : System Context}

theorem boot_sound (context : Context) : SystemSound (boot context) where
  balanced := by
    refine ⟨0, 0, TotalOf.nothing fun place => ?_, TotalOf.nothing fun _ => rfl, ?_⟩
    · cases place with
      | slot index => exact held_empty
      | handle index => exact held_empty
      | cwd process => exact held_empty
    · have idle : ∀ index, index < vfsMountMax →
          ((boot context).vfs.mounts index).active = false := fun _ _ => rfl
      refine ⟨?_, rfl, rfl, fun path member => absurd member (Multiset.notMem_zero path),
        fun index inTable active => ?_, fun _ => ⟨idle, rfl⟩, fun on => ?_⟩
      · rw [tableReferences_idle idle, Multiset.filterMap_zero, add_zero]
        exact Tallied.none fun _ => rfl
      · cases active
      · cases on
  handles _ := ⟨fun isOpen => (by cases isOpen), fun inUse => absurd rfl inUse⟩
  processes _ := ⟨fun _ => rfl, fun _ => rfl⟩

section

variable (sound : SystemSound system)
include sound

/-- A call on a process whose slot is in use, or that leaves the process alone. -/
theorem SystemSound.cwdCall (process : Nat)
    {outcome : ProcessOutcome Context} {refused : Prop} [Decidable refused]
    {replaced : ProcessOutcome Context} (isOutcome : outcome = if refused then
      { result := false, process := system.processes process, vfs := system.vfs } else replaced)
    (keeps : ¬ refused → ∀ live handles,
      Balanced system.vfs (held (system.processes process).cwd + live) handles →
        Balanced replaced.vfs (held replaced.process.cwd + live) handles ∧
          ProcessSound replaced.process) : SystemSound (system.withProcess process outcome) := by
  apply sound.withProcess
  intro live handles balanced
  rw [isOutcome]
  split
  · exact ⟨balanced, sound.processes process⟩
  grind

theorem processClearCwd_sound (process : Nat) :
    SystemSound (system.withProcess process (processClearCwd system process)) := by
  have processSound := sound.processes process
  refine sound.cwdCall process rfl fun _ live handles balanced => ?_
  split
  · rcases vfsPathRelease_held balanced with ⟨isEmpty, released⟩
    simp only
    split
    · rw [isEmpty, held_empty, zero_add]
      exact ⟨released, fun _ => rfl, processSound.2⟩
    · rw [held_empty, zero_add]
      exact ⟨released, fun _ => rfl, fun _ => rfl⟩
  · rename_i isInvalid
    rw [processSound.1 (Bool.eq_false_of_not_eq_true isInvalid)] at balanced
    exact ⟨balanced, fun _ => rfl, fun _ => rfl⟩

theorem processClear_sound (process : Nat) :
    SystemSound (system.withProcess process (processClear system process)) := by
  have processSound := sound.processes process
  refine sound.withProcess process fun live handles balanced => ⟨?_, fun _ => rfl, fun _ => rfl⟩
  change Balanced (if _ then _ else _) (held VfsPath.empty + live) handles
  rw [held_empty, zero_add]
  split
  · exact (vfsPathRelease_held balanced).2
  rename_i isInvalid
  rw [processSound.1 (Bool.eq_false_of_not_eq_true isInvalid), held_empty, zero_add] at balanced
  exact balanced

theorem processGetCwd_sound (process out : Nat) :
    SystemSound (system.withPath out (processGetCwd system process (system.pathSlots out)).2) := by
  refine sound.withPath out fun live handles balanced => ?_
  grind [processGetCwd, vfsPathClone_balanced]

end

theorem vfsResolveProcess_balanced (backend : Backend Context) (process : Nat)
    (path : Option (List UInt8)) {pathOut : VfsPath} {live : Multiset VfsPath} {handles : Nat}
    (balanced : Balanced system.vfs (held pathOut + live) handles) :
    Balanced (vfsResolveProcess backend system process path pathOut).vfs
      (held (vfsResolveProcess backend system process path pathOut).path + live) handles := by
  unfold vfsResolveProcess
  simp only
  split
  · exact balanced
  grind [vfsResolve_balanced]

theorem vfsResolveProcess_sound (sound : SystemSound system) (backend : Backend Context)
    (process : Nat) (path : Option (List UInt8)) (out : Nat) :
    SystemSound (system.withPath out
      (vfsResolveProcess backend system process path (system.pathSlots out))) :=
  sound.withPath out fun _ _ balanced => vfsResolveProcess_balanced backend process path balanced

theorem step_sound (backend : Backend Context) (system : System Context) (call : Call Context)
    (sound : SystemSound system) : SystemSound (step backend system call) := by
  cases call with
  | init filesystem => exact sound.withVfs fun _ _ balanced => vfsInit_balanced balanced _
  | shutdown => exact sound.withVfs fun _ _ balanced => vfsShutdown_balanced balanced
  | getRoot out => exact sound.withPath out fun _ _ balanced => vfsGetRoot_balanced balanced
  | pathClone source out =>
    exact sound.withPath out fun _ _ balanced => vfsPathClone_balanced balanced _
  | pathRelease path =>
    exact sound.withPath path fun _ _ balanced => vfsPathRelease_balanced balanced
  | resolve start path out =>
    exact sound.withPath out fun _ _ balanced => vfsResolve_balanced backend _ _ balanced
  | resolveProcess process path out => exact vfsResolveProcess_sound sound backend process path out
  | mountFilesystem filesystem target =>
    exact sound.withVfs fun _ _ balanced => vfsMountFilesystem_balanced balanced _ _
  | createAt directory name out =>
    exact sound.withPath out fun _ _ balanced => vfsCreateCommon_balanced backend balanced _ _ _
  | mkdirAt directory name out =>
    exact sound.withPath out fun _ _ balanced => vfsCreateCommon_balanced backend balanced _ _ _
  | unlinkAt directory name =>
    exact sound.withVfs fun _ _ balanced => vfsRemoveCommon_balanced backend balanced _ _ _
  | rmdirAt directory name =>
    exact sound.withVfs fun _ _ balanced => vfsRemoveCommon_balanced backend balanced _ _ _
  | renameAt oldDirectory oldName newDirectory newName =>
    exact sound.withVfs fun _ _ balanced => vfsRenameAt_balanced backend balanced _ _ _ _
  | truncatePath path size =>
    exact sound.withVfs fun _ _ balanced => vfsTruncatePath_balanced backend balanced _ _
  | readdirPath directory index =>
    exact sound.withVfs fun _ _ balanced => vfsReaddirPath_balanced backend balanced _ _
  | handleOpen path access handle =>
    exact sound.withHandle handle fun _ _ balanced =>
      vfsHandleOpen_balanced (sound.handles handle) balanced _ _
  | handleRead handle length =>
    exact sound.withHandle handle fun _ _ balanced =>
      vfsHandleTransfer_balanced backend (sound.handles handle) balanced _ _ _ _
  | handleWrite handle buffer =>
    exact sound.withHandle handle fun _ _ balanced =>
      vfsHandleTransfer_balanced backend (sound.handles handle) balanced _ _ _ _
  | handleClose handle =>
    exact sound.withHandle handle fun _ _ balanced =>
      vfsHandleClose_balanced (sound.handles handle) balanced
  | processCreate process =>
    have processSound := sound.processes process
    refine sound.withProcess process fun live handles balanced => ?_
    unfold processCreate
    simp only
    split
    · exact ⟨balanced, processSound⟩
    rename_i isFree
    rw [processSound.1 (processSound.2 (Bool.eq_false_of_not_eq_true isFree))] at balanced
    exact ⟨balanced, fun _ => rfl, fun _ => rfl⟩
  | processMarkFinished process =>
    exact sound.cwdCall process rfl fun _ live handles balanced =>
      ⟨balanced, sound.processes process⟩
  | processClear process => exact processClear_sound sound process
  | processActivate process => exact ⟨sound.balanced, sound.handles, sound.processes⟩
  | processSetCwd process cwd =>
    refine sound.cwdCall process rfl fun accepted live handles balanced => ?_
    exact processReplaceCwd_balanced (sound.processes process)
      (Bool.eq_true_of_not_eq_false (not_or.mp accepted).1) balanced _ _
  | processSetCwdText process cwd text =>
    refine sound.cwdCall process rfl fun accepted live handles balanced => ?_
    simp only [not_or] at accepted
    exact processReplaceCwd_balanced (sound.processes process)
      (Bool.eq_true_of_not_eq_false accepted.2.2.1) balanced _ _
  | processClearCwd process => exact processClearCwd_sound sound process
  | processGetCwd process out => exact processGetCwd_sound sound process out
  | backendActs action => exact sound.withVfs fun _ _ balanced => balanced.answered _

/-- A path in use by a caller or by a process. -/
def LivePath (system : System Context) (place : PathPlace) : Prop :=
  (¬ ∃ handle, place = .handle handle) ∧ system.pathAt place ≠ VfsPath.empty

/-- The number of mounts of which a node is the root or the mount point. -/
def mountsOn (vfs : VfsState Context) (node : Nat) : Nat :=
  ((Finset.range vfsMountMax).filter fun index => (vfs.mounts index).active = true ∧
    (vfs.rootOf (some index) = some node ∨ (vfs.mounts index).mountpoint = some node)).card

/-- What the reference counts and the counters of paths and handles are to be. -/
structure ReferencesExact (system : System Context) : Prop where
  nodes : ∀ node, ∃ paths handles,
    Counted (fun place => LivePath system place ∧ (system.pathAt place).node = some node) paths ∧
      Counted (fun handle => (system.handles handle).isOpen = true ∧
        (system.handles handle).path.node = some node) handles ∧
      (system.vfs.objects.nodes node).referenceCount = paths + handles + mountsOn system.vfs node
  paths : ∃ paths, Counted (LivePath system) paths ∧
    system.vfs.pathReferenceCount = paths + system.vfs.openHandleCount
  handles : Counted (fun handle => (system.handles handle).isOpen = true) system.vfs.openHandleCount

theorem count_toList (item : Option Nat) (node : Nat) :
    (item.toList : Multiset Nat).count node = if item = some node then 1 else 0 := by
  cases item with
  | none => rfl
  | some other =>
    change Multiset.count node {other} = _
    rw [Multiset.count_singleton]
    grind

theorem mountReferences_count {vfs : VfsState Context} {index : Nat} (node : Nat)
    (sound : (vfs.mounts index).active = true → MountSound vfs index) :
    (mountReferences vfs index).count node =
      if (vfs.mounts index).active = true ∧
        (vfs.rootOf (some index) = some node ∨ (vfs.mounts index).mountpoint = some node)
      then 1 else 0 := by
  unfold mountReferences
  by_cases active : (vfs.mounts index).active = true
  · rw [if_pos active, Multiset.count_add, count_toList, count_toList]
    by_cases isMountpoint : (vfs.mounts index).mountpoint = some node
    · rw [if_neg ((sound active).apart node isMountpoint), if_pos isMountpoint,
        if_pos ⟨active, Or.inr isMountpoint⟩]
    simp [*]
  simp [*]

theorem tableReferences_count {vfs : VfsState Context} (node : Nat)
    (sound : ∀ index, index < vfsMountMax → (vfs.mounts index).active = true →
      MountSound vfs index) : (tableReferences vfs).count node = mountsOn vfs node := by
  unfold tableReferences mountsOn
  grind [Multiset.count_sum', Finset.card_filter, Finset.sum_congr, mountReferences_count]

theorem filterMap_count (live : Multiset VfsPath) (node : Nat) :
    (live.filterMap VfsPath.node).count node = live.countP fun path => path.node = some node := by
  induction live using Multiset.induction_on with
  | empty => rfl
  | cons path live ih =>
    cases isNode : path.node with
    | none =>
      simp [*]
    | some other =>
      rw [Multiset.filterMap_cons_some VfsPath.node path live isNode, Multiset.countP_cons,
        Multiset.count_cons, ih, isNode]
      grind

theorem held_card (path : VfsPath) : (held path).card ≤ 1 := by
  unfold held
  split
  · exact Nat.zero_le 1
  · exact Nat.le_refl 1

theorem mem_held {path item : VfsPath} : item ∈ held path ↔ path ≠ VfsPath.empty ∧ item = path := by
  by_cases isEmpty : path = VfsPath.empty
  · simp [*]
  · rw [held_of_ne isEmpty, Multiset.mem_singleton]
    simp [*]

/-- The places whose path has a property are counted by the paths in use. -/
theorem places_counted {live : Multiset VfsPath}
    (total : TotalOf (fun place => held (system.pathAt place)) live) (p : VfsPath → Prop) [DecidablePred p] :
    Counted (fun place => system.pathAt place ≠ VfsPath.empty ∧ p (system.pathAt place))
      (live.countP p) := by
  apply (total.counted p fun place => held_card (system.pathAt place)).congr
  intro place
  constructor
  · rintro ⟨inUse, hasIt⟩
    exact ⟨_, mem_held.mpr ⟨inUse, rfl⟩, hasIt⟩
  · rintro ⟨item, member, hasIt⟩
    rcases mem_held.mp member with ⟨inUse, rfl⟩
    exact ⟨inUse, hasIt⟩

/-- The places whose path has a property are paths in use outside handles, and
open handles. -/
theorem SystemSound.places (sound : SystemSound system) (p : VfsPath → Prop) {count : Nat}
    (counted : Counted (fun place => system.pathAt place ≠ VfsPath.empty ∧
      p (system.pathAt place)) count) :
    ∃ paths handles, Counted (fun place => LivePath system place ∧ p (system.pathAt place)) paths ∧
      Counted (fun handle => (system.handles handle).isOpen = true ∧
        p (system.handles handle).path) handles ∧ count = paths + handles := by
  rcases counted.split fun place => ∃ handle, place = .handle handle with
    ⟨handles, paths, inHandles, outside, sum⟩
  refine ⟨paths, handles, outside.congr fun place => ?_, ?_, by rw [← sum, Nat.add_comm]⟩
  · constructor
    · exact fun both => ⟨⟨both.1.2, both.2⟩, both.1.1⟩
    · exact fun both => ⟨⟨both.2, both.1.1⟩, both.1.2⟩
  · let index : PathPlace → Nat := fun place =>
      match place with
      | .handle handle => handle
      | _ => 0
    have renamed := inHandles.rename PathPlace.handle index (fun _ => rfl) (by
      rintro place ⟨-, handle, rfl⟩
      rfl)
    apply renamed.congr
    intro handle
    constructor
    · exact fun both => ⟨⟨(sound.handles handle).mp both.1, both.2⟩, handle, rfl⟩
    · exact fun both => ⟨(sound.handles handle).mpr both.1.1, both.1.2⟩

theorem SystemSound.exact (sound : SystemSound system) : ReferencesExact system := by
  rcases sound.balanced with ⟨live, handles, paths, opens, balanced⟩
  have openCounted : Counted (fun handle => (system.handles handle).isOpen = true)
      system.vfs.openHandleCount := by
    have counted := opens.counted (fun _ => True) fun handle => ?_
    · rw [Multiset.countP_True, ← balanced.opened] at counted
      apply counted.congr
      intro handle
      unfold opened
      cases (system.handles handle).isOpen with
      | false => simp
      | true => simp
    · unfold opened
      split
      · exact Nat.le_refl 1
      · exact Nat.zero_le 1
  refine ⟨fun node => ?_, ?_, openCounted⟩
  · rcases sound.places (fun path => path.node = some node)
      (places_counted paths fun path => path.node = some node) with
      ⟨outside, inside, pathsCounted, handlesCounted, sum⟩
    refine ⟨outside, inside, pathsCounted, handlesCounted, ?_⟩
    have tallied := balanced.tallied node
    rw [Multiset.count_add, filterMap_count, tableReferences_count node balanced.mounts, sum] at tallied
    exact tallied
  · rcases sound.places (fun _ => True) (places_counted paths fun _ => True) with
      ⟨outside, inside, pathsCounted, handlesCounted, sum⟩
    refine ⟨outside, pathsCounted.congr fun place => (and_iff_left trivial).symm, ?_⟩
    have sameHandles : inside = system.vfs.openHandleCount :=
      (handlesCounted.congr fun handle => (and_iff_left trivial).symm).unique openCounted
    rw [← sameHandles, ← sum, Multiset.countP_True, balanced.paths]

/-- After every sequence of calls, with any backends, every node's reference
count is the number of paths in use and open handles that hold it plus the
number of mounts of which it is the root or the mount point; the path counter
counts the paths in use and the path inside each open handle, and the handle
counter counts the open handles. -/
theorem vfs_references_exact (backend : Backend Context) (context : Context)
    (calls : List (Call Context)) : ReferencesExact (run (step backend) (boot context) calls) :=
  SystemSound.exact
    (run_invariant (fun system call sound => step_sound backend system call sound) calls
      (boot context) (boot_sound context))

/-- A file system with a root directory and one file, set up in unused memory. -/
def twoNodeObjects (objects : Objects) : Objects :=
  let filesystem := (vfsFilesystemPrepare objects 0 1 (some [.lookup, .read])).2
  let root := (vfsNodePrepare filesystem 0 0 1 (some .directory) none).2
  let rooted := (vfsFilesystemSetRoot root 0 0).2
  (vfsNodePrepare rooted 1 0 2 (some .regular) (some 0)).2

theorem twoNodeObjects_keeps {objects : Objects} (isInvalid : vfsFilesystemValid objects (some 0) = false)
    (root : (objects.nodes 0).referenceCount = 0) (file : (objects.nodes 1).referenceCount = 0) :
    KeepsReferenced objects (twoNodeObjects objects) := by
  have first := KeepsReferenced.vfsFilesystemPrepare 0 1 (some [.lookup, .read]) isInvalid
  have second := first.trans (KeepsReferenced.vfsNodePrepare 0 0 1 (some .directory) none
    ((first.counts 0).trans root))
  have third := second.trans (KeepsReferenced.vfsFilesystemSetRoot 0 0 ((second.counts 0).trans root))
  exact third.trans (KeepsReferenced.vfsNodePrepare 1 0 2 (some .regular) (some 0)
    ((third.counts 1).trans file))

/-- A backend that sets up its file system, if it can. -/
def setUpTwoNodes (context : Unit) (objects : Objects) : BackendReply Unit objects :=
  if isFree : vfsFilesystemValid objects (some 0) = false ∧
      (objects.nodes 0).referenceCount = 0 ∧ (objects.nodes 1).referenceCount = 0 then
    { result := .ok
      context := context
      objects := twoNodeObjects objects
      keeps := twoNodeObjects_keeps isFree.1 isFree.2.1 isFree.2.2 }
  else
    { result := .busy
      context := context
      objects := objects
      keeps := KeepsReferenced.refl objects }

/-- A backend that finds its only file under every name. -/
def twoNodeBackend : Backend Unit := fun context objects _ _ =>
  { result := .ok
    node := some 1
    context := context
    objects := objects
    keeps := KeepsReferenced.refl objects }

/-- A file is opened, and the path by which it was found is released. -/
def openedFile : System Unit :=
  run (step twoNodeBackend) (boot ())
    [.backendActs setUpTwoNodes, .init (some 0), .resolve none (some [47, 97]) 0,
      .handleOpen (.slot 0) vfsAccessRead 0, .pathRelease 0]

theorem openedFile_handles :
    openedFile.handles = Function.update (fun _ => VfsHandle.closed) 0
      { path := { mount := some 0, node := some 1 }, offset := 0, access := 1, isOpen := true } :=
  rfl

theorem openedFile_slots :
    openedFile.pathSlots = Function.update (Function.update (fun _ => VfsPath.empty) 0
      { mount := some 0, node := some 1 }) 0 VfsPath.empty :=
  rfl

/-- The only path left is the one inside the handle. -/
theorem openedFile_node (place : PathPlace) (inUse : openedFile.pathAt place ≠ VfsPath.empty) :
    (openedFile.pathAt place).node = some 1 := by
  cases place with
  | slot index =>
    apply absurd _ inUse
    change openedFile.pathSlots index = VfsPath.empty
    rw [openedFile_slots, Function.update_idem, Function.update_apply]
    split
    · rfl
    · rfl
  | handle index =>
    change (openedFile.handles index).path ≠ VfsPath.empty at inUse
    change (openedFile.handles index).path.node = some 1
    rw [openedFile_handles, Function.update_apply] at inUse ⊢
    by_cases isIt : index = 0
    · rw [if_pos isIt]
    · rw [if_neg isIt] at inUse
      exact absurd rfl inUse
  | cwd process => exact absurd rfl inUse

/-- No set of live paths fits both the reference counts and the path counter
without the path inside the handle being counted for the one and not for the
other. -/
theorem handle_paths_are_counted_apart :
    ¬ ∃ live : Finset PathPlace,
      (∀ place, place ∈ live → openedFile.pathAt place ≠ VfsPath.empty) ∧
        openedFile.vfs.pathReferenceCount = live.card ∧
        ∀ node handles, Counted (fun handle => (openedFile.handles handle).isOpen = true ∧
            (openedFile.handles handle).path.node = some node) handles →
          (openedFile.vfs.objects.nodes node).referenceCount =
            (live.filter fun place => (openedFile.pathAt place).node = some node).card +
              handles + mountsOn openedFile.vfs node := by
  rintro ⟨live, inUse, paths, nodes⟩
  have isCounted : openedFile.vfs.pathReferenceCount = 1 := by decide
  have oneHandle : Counted (fun handle => (openedFile.handles handle).isOpen = true ∧
      (openedFile.handles handle).path.node = some 1) 1 := by
    refine ⟨{0}, fun handle => ?_, rfl⟩
    simp only [openedFile_handles, Function.update_apply, Finset.mem_singleton]
    by_cases isIt : handle = 0
    · simp [*]
    · rw [if_neg isIt]
      exact ⟨fun same => absurd same isIt, fun impossible => by cases impossible.1⟩
  have all : (live.filter fun place => (openedFile.pathAt place).node = some 1) = live :=
    Finset.filter_true_of_mem fun place member => openedFile_node place (inUse place member)
  have counted := nodes 1 1 oneHandle
  have isOne : (openedFile.vfs.objects.nodes 1).referenceCount = 1 := by decide
  grind

end BoringOS.Vfs
