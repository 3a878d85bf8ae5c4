import BoringOS.Library.Run
import BoringOS.Spawn.WaitSteps

namespace BoringOS.Spawn

open Library

/-!
# Runs of spawns, exits and waits

Any process that may run next makes the next system call.  Every system call
but an exit begins with the sweep over the detached children.
-/

inductive SpawnCall
  /-- The kernel starts a process of its own, such as the first one. -/
  | start (created : Bool)
  | spawn (parent : Nat) (detached : Bool) (frees : Nat → Frees) (answers : SpawnAnswers)
  | waitpid (parent pid : Nat) (frees : Nat → Frees) (answers : WaitAnswers)
  /-- A wait goes on after its task was woken. -/
  | resume (parent : Nat) (answers : WaitAnswers)
  | exit (name : Nat) (status : Int)
  /-- Something that a blocked task may wait for has happened. -/
  | wake (pid : Nat)
  /-- Any other system call -/
  | other (frees : Nat → Frees)

/-- The process runs in user mode. -/
def canCall (system : System) (name : Nat) : Bool :=
  system.isAlive name && decide ((system.processes name).task = some .ready) &&
    decide ((system.processes name).waiting = none)

/-- `process_create` and `task_create_for_process` by the kernel -/
def startProcess (system : System) (created : Bool) : System :=
  match processCreate system created with
  | none => system
  | some (child, system) =>
    system.setProcess child { system.processes child with task := some .ready }

def SpawnCall.step (system : System) : SpawnCall → System
  | .start created => startProcess system created
  | .spawn parent detached frees answers =>
    if canCall system parent = true then
      (m36Spawn (m36ReapDetached system frees) parent detached answers).2
    else system
  | .waitpid parent pid frees answers =>
    if canCall system parent = true then
      (m36Waitpid (m36ReapDetached system frees) parent pid answers).2
    else system
  | .resume parent answers =>
    match (system.processes parent).task, (system.processes parent).waiting with
    | some .ready, some target => (m36WaitResume system parent target answers).2
    | _, _ => system
  | .exit name status => if canCall system name = true then m36Exit system name status else system
  | .wake pid => taskWakePid system pid
  | .other frees => m36ReapDetached system frees

/-- Before the first process -/
def System.initial : System where
  processes := fun _ => ⟨0, .finished, false, none, none⟩
  nextPid := 1
  liveProcessCount := 0
  records := []
  spawnRecordCount := 0
  books := ⟨[], [], [], [], []⟩

section

variable {system : System}

theorem startProcess_sound (sound : SpawnSound system) (created : Bool) :
    SpawnSound (startProcess system created) := by
  rw [startProcess]
  split
  · exact sound
  rename_i child next result
  rcases processCreate_eq_some result with ⟨rfl, rfl⟩
  apply sound.withProcess.setTask
  · simp [withProcess_process]
  · exact fun impossible => by cases impossible
  simp [withProcess_process]

/-- A process that makes a system call is as it was after the sweep. -/
theorem canCall_swept (sound : SpawnSound system) {name : Nat} (calls : canCall system name = true)
    (frees : Nat → Frees) : ((m36ReapDetached system frees).processes name).task = some .ready := by
  rw [canCall, Bool.and_eq_true, Bool.and_eq_true, decide_eq_true_eq, isAlive_eq_true] at calls
  rw [(m36ReapDetached_swept sound frees).alive name calls.1.1.2]
  exact calls.1.2

theorem step_sound (system : System) (call : SpawnCall) (sound : SpawnSound system) :
    SpawnSound (call.step system) := by
  cases call with
  | start created => exact startProcess_sound sound created
  | spawn parent detached frees answers =>
    rw [SpawnCall.step]
    split
    · exact m36Spawn_sound (m36ReapDetached_swept sound frees).sound parent detached answers
    · exact sound
  | waitpid parent pid frees answers =>
    rw [SpawnCall.step]
    split
    · rename_i calls
      exact m36Waitpid_sound (m36ReapDetached_swept sound frees).sound
        (canCall_swept sound calls frees) pid answers
    · exact sound
  | resume parent answers =>
    grind [SpawnCall.step, m36WaitResume_sound]
  | exit name status =>
    rw [SpawnCall.step]
    split
    · simp_all [canCall, Bool.and_eq_true, m36Exit_sound]
    · exact sound
  | wake pid => exact taskWakePid_sound sound pid
  | other frees => exact (m36ReapDetached_swept sound frees).sound

theorem initial_sound : SpawnSound System.initial where
  counted := rfl
  capped := Nat.zero_le _
  positive := Nat.one_pos
  named _ := rfl
  created name registered := by cases registered
  distinct := List.nodup_nil
  active record isRecord := by cases isRecord
  running record isRecord := by cases isRecord
  stuck name isStuck := by cases isStuck
  spawned child isChild := by cases isChild
  spawnedOnce := List.nodup_nil
  recorded record isRecord := by cases isRecord
  kept child isChild := by cases isChild
  reapedOnce := List.nodup_nil
  reaped reap isReap := by cases isReap
  exitsOnce := List.nodup_nil
  exits record isRecord := by cases isRecord
  exitsSpawned entry isEntry := by cases isEntry
  waits name child isWaiting := by cases isWaiting
  orphans record isRecord := by cases isRecord

theorem run_sound (calls : List SpawnCall) : SpawnSound (run SpawnCall.step System.initial calls) :=
  run_invariant step_sound calls _ initial_sound

/-- The parent that waits for a child gets its pid and its status, and the record goes. -/
structure ReapedByWaiting (system : System) (record : SpawnRecord) (answers : WaitAnswers) : Prop where
  result : (m36Waitpid system record.parentPid record.child answers).1 =
    .returned (.ok record.child)
  reaped : (m36Waitpid system record.parentPid record.child answers).2.books.reaped =
    system.books.reaped ++ [⟨record.child, record.exitStatus, some record.parentPid⟩]
  released : (m36Waitpid system record.parentPid record.child answers).2.spawnRecordCount + 1 =
    system.spawnRecordCount

structure ChildrenExact (system : System) : Prop where
  /-- The slots in use are the records, and these are the children not yet reaped. -/
  counted : system.spawnRecordCount = system.records.length ∧
    system.spawnRecordCount ≤ kernelProcessPolicyLimit
  recorded : ∀ child, (∃ record ∈ system.records, record.toChild = child) ↔
    child ∈ system.books.spawned ∧ child.pid ∉ system.books.reaped.map Reap.pid
  distinct : (system.records.map SpawnRecord.child).Nodup
  /-- A child exits once, and until it is reaped its record has its status. -/
  exitsOnce : (system.books.exits.map Prod.fst).Nodup
  exits : ∀ record ∈ system.records, ∀ status,
    (record.child, status) ∈ system.books.exits ↔ record.exited = true ∧ record.exitStatus = status
  keptStatus : ∀ entry ∈ system.books.exits, entry.1 ∉ system.books.reaped.map Reap.pid →
    ∃ record ∈ system.records, record.child = entry.1 ∧ record.exited = true ∧
      record.exitStatus = entry.2
  finished : ∀ record ∈ system.records,
    record.exited = true ↔ (system.processes record.child).state = .finished
  exitsSpawned : ∀ entry ∈ system.books.exits, entry.1 ∈ system.books.spawned.map Child.pid
  /-- A child is reaped at most once, with its own status, by its parent if it is
  not detached and by the sweep if it is. -/
  reapedOnce : (system.books.reaped.map Reap.pid).Nodup
  reaped : ∀ reap ∈ system.books.reaped, ReapRight system.books reap
  /-- Its parent reaps it whenever it waits for it, -/
  waited : ∀ record ∈ system.records, record.exited = true → record.detached = false →
    record.child ∉ system.books.stuck → ∀ answers : WaitAnswers, answers.writable = true →
      answers.copied = true → answers.frees = .all → ReapedByWaiting system record answers
  /-- and the next system call of any process reaps a detached child. -/
  swept : ∀ record ∈ (m36ReapDetached system fun _ => .all).records, record.detached = true →
    record.exited = true → record.child ∈ system.books.stuck
  /-- A parent that is gone has left the child behind when it exited itself. -/
  orphans : ∀ record ∈ system.records, record.exited = true → record.detached = false →
    system.isAlive record.parentPid = true ∨ record.child ∈ system.books.abandoned

theorem SpawnSound.exits_iff (sound : SpawnSound system) {record : SpawnRecord}
    (isRecord : record ∈ system.records) (status : Int) :
    (record.child, status) ∈ system.books.exits ↔ record.exited = true ∧ record.exitStatus = status := by
  have exits := sound.exits record isRecord
  split at exits
  · rename_i exited
    constructor
    · intro isEntry
      have same := List.inj_on_of_nodup_map sound.exitsOnce exits isEntry rfl
      exact ⟨exited, congrArg Prod.snd same⟩
    · rintro ⟨-, rfl⟩
      exact exits
  · rename_i running
    constructor
    · exact fun isEntry => absurd (List.mem_map_of_mem isEntry) exits
    · exact fun both => absurd both.1 running

theorem SpawnSound.recordPid (sound : SpawnSound system) {record : SpawnRecord}
    (isRecord : record ∈ system.records) (registered : (system.processes record.child).registered = true) :
    m36RecordPid system record.child record.parentPid = some record := by
  have isPid := sound.named record.child
  rw [if_pos registered] at isPid
  cases found : m36RecordPid system record.child record.parentPid with
  | none =>
    rw [m36RecordPid, List.find?_eq_none] at found
    have absent := found record isRecord
    rw [sound.active record isRecord, isPid, beq_self_eq_true, beq_self_eq_true] at absent
    exact absurd rfl absent
  | some other =>
    rcases m36RecordPid_eq_some found with ⟨isOther, otherPid, -⟩
    have named := sound.named other.child
    rw [otherPid] at named
    split at named
    · rw [sound.record_unique isOther isRecord named.symm]
    · have positive := (sound.created record.child registered).1
      omega

theorem SpawnSound.waited (sound : SpawnSound system) {record : SpawnRecord}
    (isRecord : record ∈ system.records) (exited : record.exited = true)
    (attached : record.detached = false) (free : record.child ∉ system.books.stuck)
    {answers : WaitAnswers} (writable : answers.writable = true) (copied : answers.copied = true)
    (frees : answers.frees = .all) : ReapedByWaiting system record answers := by
  have here := sound.running record isRecord free
  have finished := here.state
  rw [if_pos exited] at finished
  have isPid := sound.named record.child
  rw [if_pos here.registered] at isPid
  have nonzero : record.child ≠ 0 := Nat.ne_of_gt (sound.created record.child here.registered).1
  have room : 0 < system.records.length := List.length_pos_of_mem isRecord
  rcases m36ReapRecord_freed sound isRecord exited free (some record.parentPid) with
    ⟨next, gone, reaps⟩
  have admitted : ¬ (answers.writable = false ∨ record.detached = true) := by
    rw [writable, attached]
    decide
  have isActive : ¬ record.active = false := by
    rw [sound.active record isRecord, Bool.not_eq_false]
  have finish : m36WaitFinish system record.parentPid record answers =
      (.returned (.ok record.child), (m36RecordRelease next record (some record.parentPid) true).2) := by
    rw [m36WaitFinish, if_neg (by rw [finished]; decide), if_neg (by rw [copied]; decide), frees,
      reaps, isPid, m36RecordRelease, if_neg isActive]
  have waits : m36Waitpid system record.parentPid record.child answers =
      (.returned (.ok record.child), (m36RecordRelease next record (some record.parentPid) true).2) := by
    rw [m36Waitpid, if_neg nonzero, sound.recordPid isRecord here.registered]
    dsimp only
    rw [if_neg admitted, m36WaitLoop, sound.recordOf isRecord]
    dsimp only
    rw [if_pos finished, finish]
  rw [m36RecordRelease, if_neg isActive] at waits
  constructor
  · rw [waits]
  · rw [waits, ← gone.books]
  · rw [waits]
    dsimp only
    rw [gone.spawnRecordCount]
    have count := sound.counted
    omega

theorem SpawnSound.exact (sound : SpawnSound system) : ChildrenExact system where
  counted := ⟨sound.counted, sound.capped⟩
  recorded child := by
    constructor
    · rintro ⟨record, isRecord, rfl⟩
      exact sound.recorded record isRecord
    · rintro ⟨isChild, unreaped⟩
      exact sound.kept child isChild unreaped
  distinct := sound.distinct
  exitsOnce := sound.exitsOnce
  exits _ isRecord := sound.exits_iff isRecord
  keptStatus entry isEntry unreaped := by
    rcases List.mem_map.mp (sound.exitsSpawned entry isEntry) with ⟨child, isChild, isPid⟩
    rcases sound.kept child isChild (isPid ▸ unreaped) with ⟨record, isRecord, rfl⟩
    have isChild' : record.child = entry.1 := isPid
    refine ⟨record, isRecord, isChild', (sound.exits_iff isRecord entry.2).mp ?_⟩
    rwa [isChild']
  finished record isRecord := by
    refine ⟨fun exited => ?_, sound.exited_of_finished isRecord⟩
    by_cases isStuck : record.child ∈ system.books.stuck
    · exact (sound.stuck record.child isStuck).1
    · rw [(sound.running record isRecord isStuck).state, if_pos exited]
  exitsSpawned := sound.exitsSpawned
  reapedOnce := sound.reapedOnce
  reaped := sound.reaped
  waited record isRecord exited attached free answers writable copied frees :=
    sound.waited isRecord exited attached free writable copied frees
  swept record isRecord := m36ReapDetached_freed sound isRecord
  orphans record isRecord _ attached := sound.orphans record isRecord attached

/-- In every run each child that exits is reaped at most once, by the one who may,
and the record of a child that is not detached outlives its parent only if the
parent has not waited for it. -/
theorem spawn_children_exact (calls : List SpawnCall) :
    ChildrenExact (run SpawnCall.step System.initial calls) :=
  (run_sound calls).exact

/-- Nothing fails during a spawn. -/
def SpawnAnswers.good : SpawnAnswers := ⟨none, true, none, true, true, true⟩

/-- A parent that exits before it has waited for its child leaves a record that
nobody can reap. -/
theorem orphan_keeps_its_record :
    ¬ ∀ calls : List SpawnCall, ∀ record ∈ (run SpawnCall.step System.initial calls).records,
      record.exited = true → record.detached = false →
        (run SpawnCall.step System.initial calls).isAlive record.parentPid = true := by
  intro claim
  have alive := claim [.start true, .spawn 1 false (fun _ => .all) .good,
    .spawn 2 false (fun _ => .all) .good, .exit 3 7, .exit 2 0,
    .waitpid 1 2 (fun _ => .all) ⟨true, true, true, .all⟩]
    ⟨3, 2, 7, true, false, true, false, false⟩ (by decide) rfl rfl
  exact absurd alive (by decide)

end

end BoringOS.Spawn
