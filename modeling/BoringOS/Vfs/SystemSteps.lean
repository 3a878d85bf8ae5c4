import BoringOS.Vfs.MountSteps
import BoringOS.Vfs.System

namespace BoringOS.Vfs

open Library

/-!
# Every call keeps the balance

The paths in use are what all variables, handles and processes hold together.
A call works on one of these places, so the balance of the whole system
follows from the balance between the virtual file system and that place.
-/

variable {Context : Type} {vfs : VfsState Context} {live : Multiset VfsPath} {rest : Nat}

/-- Whether a handle is open, as a multiset with at most one element. -/
def opened (handle : VfsHandle) : Multiset Unit :=
  if handle.isOpen then {()} else 0

/-- A handle holds a path as long as it is open. -/
def HandleSound (handle : VfsHandle) : Prop := handle.isOpen = true ↔ handle.path ≠ VfsPath.empty

variable {handle : VfsHandle}

theorem opened_of_open (isOpen : handle.isOpen = true) : (opened handle).card = 1 := by
  unfold opened
  rw [if_pos isOpen]
  rfl

theorem opened_of_closed (isClosed : handle.isOpen = false) : (opened handle).card = 0 := by
  unfold opened
  rw [isClosed]
  rfl

theorem Balanced.withOpenHandles {handles : Nat} (balanced : Balanced vfs live handles)
    (count : Nat) (on : vfs.initialized = true) :
    Balanced { vfs with openHandleCount := count } live count :=
  ⟨balanced.tallied, balanced.paths, rfl, balanced.valid,
    fun index inTable active =>
      let sound := balanced.mounts index inTable active
      { sound with },
    fun off => absurd (on.symm.trans off) Bool.noConfusion, balanced.nextMount⟩

/-- The virtual file system is initialised while a path is in use. -/
theorem Balanced.on_of_path {handles : Nat} {path : VfsPath}
    (balanced : Balanced vfs (held path + live) handles) (inUse : path ≠ VfsPath.empty) :
    vfs.initialized = true := by
  by_contra off
  have nothing := balanced.idle_live (Bool.eq_false_of_not_eq_true off)
  rw [held_of_ne inUse, Multiset.singleton_add] at nothing
  exact Multiset.cons_ne_zero nothing

theorem Balanced.on_of_handle {handles : Nat} (balanced : Balanced vfs live (handles + 1)) :
    vfs.initialized = true := by
  by_contra off
  exact Nat.succ_ne_zero _ (balanced.idle (Bool.eq_false_of_not_eq_true off)).2

theorem vfsPathAcquire_ok (vfs : VfsState Context) (mount node : Option Nat) (pathOut : VfsPath)
    (isOk : (vfsPathAcquire vfs mount node pathOut).result = .ok) :
    (vfsPathAcquire vfs mount node pathOut).path ≠ VfsPath.empty := by
  grind [vfsPathAcquire_cases, ne_empty_of_valid]

theorem vfsPathClone_ok (vfs : VfsState Context) (source pathOut : VfsPath)
    (isOk : (vfsPathClone vfs source pathOut).result = .ok) :
    (vfsPathClone vfs source pathOut).path ≠ VfsPath.empty := by
  grind [vfsPathClone, vfsPathAcquire_ok]

theorem vfsHandleOpen_balanced (sound : HandleSound handle)
    (balanced : Balanced vfs (held handle.path + live) ((opened handle).card + rest))
    (path : VfsPath) (access : UInt32) :
    Balanced (vfsHandleOpen vfs path access handle).vfs
        (held (vfsHandleOpen vfs path access handle).handle.path + live)
        ((opened (vfsHandleOpen vfs path access handle).handle).card + rest) ∧
      HandleSound (vfsHandleOpen vfs path access handle).handle := by
  unfold vfsHandleOpen
  split
  · exact ⟨balanced, sound⟩
  split
  · exact ⟨balanced, sound⟩
  rename_i accepted
  simp only [not_or, Bool.not_eq_true] at accepted
  split
  · exact ⟨balanced, sound⟩
  have cloned := vfsPathClone_balanced balanced path
  simp only
  split
  · rename_i failed
    rw [vfsPathClone_failed vfs path handle.path failed] at cloned ⊢
    exact ⟨cloned, sound⟩
  rename_i isOk
  have inUse := vfsPathClone_ok vfs path handle.path (not_not.mp isOk)
  rw [opened_of_closed accepted.1, zero_add] at cloned
  refine ⟨?_, ⟨fun _ => inUse, fun _ => rfl⟩⟩
  rw [opened_of_open rfl, cloned.opened, Nat.add_comm 1 rest]
  exact cloned.withOpenHandles (rest + 1) (cloned.on_of_path inUse)

theorem vfsHandleTransfer_balanced (backend : Backend Context) {handle : VfsHandle}
    (sound : HandleSound handle)
    (balanced : Balanced vfs (held handle.path + live) ((opened handle).card + rest))
    (length : Nat) (access : UInt32) (operation : VfsOperation) (request : BackendRequest) :
    let outcome := vfsHandleTransfer backend vfs handle length access operation request
    Balanced outcome.vfs (held outcome.handle.path + live)
        ((opened outcome.handle).card + rest) ∧ HandleSound outcome.handle := by
  unfold vfsHandleTransfer
  simp only
  split
  · exact ⟨balanced, sound⟩
  split
  · exact ⟨balanced, sound⟩
  split
  · exact ⟨balanced, sound⟩
  split
  · exact ⟨balanced, sound⟩
  split
  · exact ⟨balanced, sound⟩
  split
  · exact ⟨balanced.answered _, sound⟩
  split
  · exact ⟨balanced.answered _, sound⟩
  · exact ⟨balanced.answered _, sound⟩

theorem vfsHandleClose_balanced (sound : HandleSound handle)
    (balanced : Balanced vfs (held handle.path + live) ((opened handle).card + rest)) :
    Balanced (vfsHandleClose vfs handle).vfs
        (held (vfsHandleClose vfs handle).handle.path + live)
        ((opened (vfsHandleClose vfs handle).handle).card + rest) ∧
      HandleSound (vfsHandleClose vfs handle).handle := by
  unfold vfsHandleClose
  split
  · exact ⟨balanced, sound⟩
  rename_i accepted
  simp only [not_or, Bool.not_eq_false] at accepted
  have isOpen : handle.isOpen = true := by
    have isValid := accepted.1
    unfold vfsHandleValid at isValid
    simp only [Bool.and_eq_true] at isValid
    exact isValid.1.1.1
  rw [held_of_ne (sound.mp isOpen), Multiset.singleton_add] at balanced
  rcases vfsPathRelease_live balanced with ⟨isOk, isEmpty, released⟩
  rw [if_neg (not_not.mpr isOk), isEmpty, held_empty, zero_add, opened_of_closed rfl, Nat.zero_add]
  rw [opened_of_open isOpen, Nat.add_comm 1 rest] at released
  refine ⟨?_, ⟨fun impossible => (by cases impossible), fun inUse => absurd rfl inUse⟩⟩
  rw [released.opened, Nat.add_sub_cancel]
  exact released.withOpenHandles rest released.on_of_handle

/-- A process without a valid working directory holds no path. -/
def ProcessSound (process : ProcessDirectory) : Prop :=
  (process.cwdValid = false → process.cwd = VfsPath.empty) ∧
    (process.slotUsed = false → process.cwdValid = false)

variable {process : ProcessDirectory} {handles : Nat}

theorem processStoreText_balanced (sound : ProcessSound process)
    (balanced : Balanced vfs (held process.cwd + live) handles) (text : Option (List UInt8)) :
    Balanced (processStoreText vfs process text).vfs
        (held (processStoreText vfs process text).process.cwd + live) handles ∧
      ProcessSound (processStoreText vfs process text).process := by
  cases text with
  | none => exact ⟨balanced, sound⟩
  | some text =>
    unfold processStoreText
    simp only
    split
    · rw [held_empty, zero_add]
      exact ⟨(vfsPathRelease_held balanced).2, fun _ => rfl, fun _ => rfl⟩
    · exact ⟨balanced, sound⟩

theorem processReplaceCwd_balanced (sound : ProcessSound process) (used : process.slotUsed = true)
    (balanced : Balanced vfs (held process.cwd + live) handles) (cwd : VfsPath) (text : Option (List UInt8)) :
    Balanced (processReplaceCwd vfs process cwd text).vfs
        (held (processReplaceCwd vfs process cwd text).process.cwd + live) handles ∧
      ProcessSound (processReplaceCwd vfs process cwd text).process := by
  unfold processReplaceCwd
  split
  · exact ⟨balanced, sound⟩
  have cloned := vfsPathClone_local balanced cwd
  simp only
  split
  · simp_all [vfsPathClone_failed, held_empty]
  have replacedSound : ProcessSound { process with
      cwd := (vfsPathClone vfs cwd VfsPath.empty).path
      cwdText := []
      cwdValid := true
      cwdTextValid := false } :=
    ⟨fun impossible => (by cases impossible), fun unused => (by rw [used] at unused; cases unused)⟩
  split
  · rw [add_left_comm] at cloned
    rcases vfsPathRelease_held cloned with ⟨isEmpty, released⟩
    split
    · rw [isEmpty, held_empty, zero_add]
      exact ⟨(vfsPathRelease_held released).2, fun _ => rfl, sound.2⟩
    · exact processStoreText_balanced replacedSound released text
  · rename_i isInvalid
    rw [sound.1 (Bool.eq_false_of_not_eq_true isInvalid), held_empty, zero_add] at cloned
    exact processStoreText_balanced replacedSound cloned text

structure SystemSound (system : System Context) : Prop where
  balanced : ∃ (live : Multiset VfsPath) (handles : Multiset Unit),
    TotalOf (fun place => held (system.pathAt place)) live ∧
      TotalOf (fun handle => opened (system.handles handle)) handles ∧
      Balanced system.vfs live handles.card
  handles : ∀ handle, HandleSound (system.handles handle)
  processes : ∀ process, ProcessSound (system.processes process)

namespace SystemSound

variable {system : System Context}

section

variable (sound : SystemSound system)
include sound

/-- A call that touches no path, no handle and no process. -/
theorem withVfs {next : VfsState Context}
    (keeps : ∀ live handles, Balanced system.vfs live handles → Balanced next live handles) :
    SystemSound (system.withVfs next) := by
  rcases sound.balanced with ⟨live, handles, paths, opens, balanced⟩
  exact ⟨⟨live, handles, paths, opens, keeps live handles.card balanced⟩, sound.handles, sound.processes⟩

/-- A call that works on one path variable. -/
theorem withPath (out : Nat) {outcome : PathOutcome Context}
    (keeps : ∀ live handles, Balanced system.vfs (held (system.pathSlots out) + live) handles →
      Balanced outcome.vfs (held outcome.path + live) handles) :
    SystemSound (system.withPath out outcome) := by
  rcases sound.balanced with ⟨live, handles, paths, opens, balanced⟩
  rcases paths.split (.slot out) with ⟨others, total, again⟩
  rw [total] at balanced
  have isPath : (system.withPath out outcome).pathAt (.slot out) = outcome.path :=
    Function.update_self ..
  refine ⟨⟨held outcome.path + others, handles, ?_, opens, keeps others handles.card balanced⟩,
    sound.handles, sound.processes⟩
  have after := again (fun place => held ((system.withPath out outcome).pathAt place)) ?_
  · rw [isPath] at after
    exact after
  · intro place different
    cases place with
    | handle index => rfl
    | cwd process => rfl
    | slot index =>
      have isOther : index ≠ out := fun same => different (by rw [same])
      change held (Function.update system.pathSlots out outcome.path index) = _
      rw [Function.update_of_ne isOther]
      rfl

/-- A call that works on one handle. -/
theorem withHandle (handle : Nat) {outcome : HandleOutcome Context}
    (keeps : ∀ live rest, Balanced system.vfs (held (system.handles handle).path + live)
          ((opened (system.handles handle)).card + rest) →
        Balanced outcome.vfs (held outcome.handle.path + live)
            ((opened outcome.handle).card + rest) ∧ HandleSound outcome.handle) :
    SystemSound (system.withHandle handle outcome) := by
  rcases sound.balanced with ⟨live, handles, paths, opens, balanced⟩
  rcases paths.split (.handle handle) with ⟨others, total, again⟩
  rcases opens.split handle with ⟨otherHandles, openTotal, openAgain⟩
  rw [total, openTotal, Multiset.card_add] at balanced
  rcases keeps others otherHandles.card balanced with ⟨after, handleSound⟩
  rw [← Multiset.card_add] at after
  have isHandle : (system.withHandle handle outcome).handles handle = outcome.handle :=
    Function.update_self ..
  have otherHandle : ∀ other, other ≠ handle →
      (system.withHandle handle outcome).handles other = system.handles other :=
    fun other different => Function.update_of_ne different ..
  refine ⟨⟨_, _, ?_, ?_, after⟩, fun other => ?_, sound.processes⟩
  · have paths := again (fun place => held ((system.withHandle handle outcome).pathAt place)) ?_
    · grind [System.pathAt]
    · intro place different
      cases place with
      | slot index => rfl
      | cwd process => rfl
      | handle index =>
        simp_all [System.pathAt]
  · grind
  · by_cases same : other = handle
    · rw [same, isHandle]
      exact handleSound
    · rw [otherHandle other same]
      exact sound.handles other

/-- A call that works on one process. -/
theorem withProcess (process : Nat) {outcome : ProcessOutcome Context} (keeps : ∀ live handles,
      Balanced system.vfs (held (system.processes process).cwd + live) handles →
        Balanced outcome.vfs (held outcome.process.cwd + live) handles ∧
          ProcessSound outcome.process) : SystemSound (system.withProcess process outcome) := by
  rcases sound.balanced with ⟨live, handles, paths, opens, balanced⟩
  rcases paths.split (.cwd process) with ⟨others, total, again⟩
  rw [total] at balanced
  rcases keeps others handles.card balanced with ⟨after, processSound⟩
  have isProcess : (system.withProcess process outcome).processes process = outcome.process :=
    Function.update_self ..
  have otherProcess : ∀ other, other ≠ process →
      (system.withProcess process outcome).processes other = system.processes other :=
    fun other different => Function.update_of_ne different ..
  refine ⟨⟨_, handles, ?_, opens, after⟩, sound.handles, fun other => ?_⟩
  · have paths := again (fun place => held ((system.withProcess process outcome).pathAt place)) ?_
    · grind [System.pathAt]
    · intro place different
      cases place with
      | slot index => rfl
      | handle index => rfl
      | cwd index =>
        simp_all [System.pathAt]
  · by_cases same : other = process
    · grind
    · rw [otherProcess other same]
      exact sound.processes other

end

end SystemSound

end BoringOS.Vfs
