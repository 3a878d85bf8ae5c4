import BoringOS.Spawn.Records

namespace BoringOS.Spawn

/-!
# The invariant of the spawn records

Every child that was spawned and not yet reaped has one record, which agrees
with its process, and nobody else has one.
-/

/-- The process of a child, as its record says -/
structure ChildMatches (system : System) (record : SpawnRecord) : Prop where
  registered : (system.processes record.child).registered = true
  state : (system.processes record.child).state = if record.exited then .finished else .alive
  task : (system.processes record.child).task = some .finished ↔ record.exited = true

/-- Whom the books name as the one who reaped a child is the one who may. -/
def ReapedBy (child : Child) : Option Nat → Prop
  | none => child.detached = true
  | some parent => child.detached = false ∧ child.parentPid = parent

/-- The books know the child, its own exit status, and who reaped it. -/
def ReapRight (books : SpawnBooks) (reap : Reap) : Prop :=
  ∃ child ∈ books.spawned, child.pid = reap.pid ∧ ReapedBy child reap.parent ∧
    (reap.pid, reap.status) ∈ books.exits

/-- The child that a record is about -/
def SpawnRecord.toChild (record : SpawnRecord) : Child :=
  ⟨record.child, record.parentPid, record.detached⟩

structure SpawnSound (system : System) : Prop where
  counted : system.spawnRecordCount = system.records.length
  capped : system.spawnRecordCount ≤ kernelProcessPolicyLimit
  positive : 0 < system.nextPid
  named : ∀ name, (system.processes name).pid =
    if (system.processes name).registered then name else 0
  created : ∀ name, (system.processes name).registered = true → 0 < name ∧ name < system.nextPid
  distinct : (system.records.map SpawnRecord.child).Nodup
  active : ∀ record ∈ system.records, record.active = true
  running : ∀ record ∈ system.records, record.child ∉ system.books.stuck →
    ChildMatches system record
  stuck : ∀ name ∈ system.books.stuck, (system.processes name).state = .finished ∧
    name < system.nextPid ∧ ∀ record ∈ system.records, record.child = name → record.exited = true
  spawned : ∀ child ∈ system.books.spawned, child.pid < system.nextPid
  spawnedOnce : (system.books.spawned.map Child.pid).Nodup
  recorded : ∀ record ∈ system.records, record.toChild ∈ system.books.spawned ∧
    record.child ∉ system.books.reaped.map Reap.pid
  kept : ∀ child ∈ system.books.spawned, child.pid ∉ system.books.reaped.map Reap.pid →
    ∃ record ∈ system.records, record.toChild = child
  reapedOnce : (system.books.reaped.map Reap.pid).Nodup
  reaped : ∀ reap ∈ system.books.reaped, ReapRight system.books reap
  exitsOnce : (system.books.exits.map Prod.fst).Nodup
  exits : ∀ record ∈ system.records,
    if record.exited then (record.child, record.exitStatus) ∈ system.books.exits
    else record.child ∉ system.books.exits.map Prod.fst
  exitsSpawned : ∀ entry ∈ system.books.exits, entry.1 ∈ system.books.spawned.map Child.pid
  waits : ∀ name child, (system.processes name).waiting = some (.child child) →
    child < system.nextPid ∧ ∀ record ∈ system.records, record.child = child →
      record.parentPid = name ∧ record.detached = false
  orphans : ∀ record ∈ system.records, record.detached = false →
    system.isAlive record.parentPid = true ∨ record.child ∈ system.books.abandoned

section

variable {system next : System}

theorem processes_setProcess (system : System) (name : Nat) (process : Process) (other : Nat) :
    (system.setProcess name process).processes other =
      if other = name then process else system.processes other := by
  simp only [System.setProcess, Function.update_apply]

theorem isAlive_eq_true {name : Nat} : system.isAlive name = true ↔
    (system.processes name).registered = true ∧ (system.processes name).state = .alive := by
  rw [System.isAlive, Bool.and_eq_true, decide_eq_true_eq]

theorem SpawnSound.record_unique (sound : SpawnSound system) {first second : SpawnRecord}
    (isFirst : first ∈ system.records) (isSecond : second ∈ system.records)
    (same : first.child = second.child) : first = second :=
  List.inj_on_of_nodup_map sound.distinct isFirst isSecond same

variable {record : SpawnRecord}

theorem recordOf_eq_some {child : Nat} (found : system.recordOf child = some record) :
    record ∈ system.records ∧ record.child = child := by
  rw [System.recordOf] at found
  grind

theorem SpawnSound.recordOf (sound : SpawnSound system)
    (isRecord : record ∈ system.records) : system.recordOf record.child = some record := by
  cases found : system.recordOf record.child with
  | none =>
    rw [System.recordOf, List.find?_eq_none] at found
    grind
  | some other =>
    rcases recordOf_eq_some found with ⟨isOther, same⟩
    rw [sound.record_unique isOther isRecord same]

theorem SpawnSound.exited_of_finished (sound : SpawnSound system) (isRecord : record ∈ system.records)
    (finished : (system.processes record.child).state = .finished) : record.exited = true := by
  by_cases isStuck : record.child ∈ system.books.stuck
  · exact (sound.stuck record.child isStuck).2.2 record isRecord rfl
  · have state := (sound.running record isRecord isStuck).state
    simp_all

/-- Nobody has reaped a child that is recorded, and its pid was given. -/
theorem SpawnSound.child_lt (sound : SpawnSound system)
    (isRecord : record ∈ system.records) : record.child < system.nextPid :=
  sound.spawned record.toChild (sound.recorded record isRecord).1

theorem exists_processes (records : next.records = system.records)
    (count : next.spawnRecordCount = system.spawnRecordCount) (books : next.books = system.books) :
    ∃ processes nextPid live, next =
      { system with processes := processes, nextPid := nextPid, liveProcessCount := live } :=
  ⟨next.processes, next.nextPid, next.liveProcessCount, by rw [← records, ← count, ← books]⟩

/-- The processes change where nobody looks: who was alive is alive, and the
children are as their records say. -/
structure ProcessesKept (system next : System) : Prop where
  records : next.records = system.records
  spawnRecordCount : next.spawnRecordCount = system.spawnRecordCount
  books : next.books = system.books
  nextPid : system.nextPid ≤ next.nextPid
  named : ∀ name, (next.processes name).pid = if (next.processes name).registered then name else 0
  created : ∀ name, (next.processes name).registered = true → 0 < name ∧ name < next.nextPid
  states : ∀ name < system.nextPid,
    (next.processes name).registered = (system.processes name).registered ∧
      (next.processes name).state = (system.processes name).state ∧
      ((next.processes name).task = some .finished ↔ (system.processes name).task = some .finished)
  waits : ∀ name child, (next.processes name).waiting = some (.child child) →
    child < next.nextPid ∧ ∀ record ∈ system.records, record.child = child →
      record.parentPid = name ∧ record.detached = false

section

variable (sound : SpawnSound system)
include sound

theorem SpawnSound.processesKept (kept : ProcessesKept system next) : SpawnSound next := by
  obtain ⟨processes, nextPid, live, rfl⟩ := exists_processes kept.records kept.spawnRecordCount kept.books
  exact { sound with
    positive := Nat.lt_of_lt_of_le sound.positive kept.nextPid
    named := kept.named
    created := kept.created
    running := fun record isRecord free => by
      have before := sound.running record isRecord free
      rcases kept.states record.child (sound.child_lt isRecord) with ⟨registered, state, task⟩
      exact ⟨registered.trans before.registered, state.trans before.state, task.trans before.task⟩
    stuck := fun name isStuck => by
      rcases sound.stuck name isStuck with ⟨finished, below, exited⟩
      exact ⟨(kept.states name below).2.1.trans finished, Nat.lt_of_lt_of_le below kept.nextPid, exited⟩
    spawned := fun child isChild => Nat.lt_of_lt_of_le (sound.spawned child isChild) kept.nextPid
    waits := kept.waits
    orphans := fun record isRecord attached => by
      rcases sound.orphans record isRecord attached with alive | abandoned
      · left
        rw [isAlive_eq_true] at alive ⊢
        rcases kept.states record.parentPid (sound.created _ alive.1).2 with ⟨registered, state, -⟩
        exact ⟨registered.trans alive.1, state.trans alive.2⟩
      · exact Or.inr abandoned }

theorem SpawnSound.setTask {name : Nat} {task : Option TaskState}
    {waiting : Option WaitTarget} (running : (system.processes name).task ≠ some .finished)
    (notFinished : task ≠ some .finished)
    (waits : ∀ child, waiting = some (.child child) → child < system.nextPid ∧
      ∀ record ∈ system.records, record.child = child →
        record.parentPid = name ∧ record.detached = false) :
    SpawnSound (system.setProcess name
      { system.processes name with
        task := task
        waiting := waiting }) := by
  apply sound.processesKept
  constructor
  · rfl
  · rfl
  · rfl
  · exact Nat.le_refl _
  · intro other
    rw [processes_setProcess]
    split
    · rename_i same
      rw [same]
      exact sound.named name
    · exact sound.named other
  · intro other registered
    rw [processes_setProcess] at registered
    split at registered
    · rename_i same
      rw [same]
      exact sound.created name registered
    · exact sound.created other registered
  · intro other below
    rw [processes_setProcess]
    split
    · simp [*]
    · exact ⟨rfl, rfl, Iff.rfl⟩
  · intro other child isWaiting
    rw [processes_setProcess] at isWaiting
    split at isWaiting
    · rename_i same
      rw [same]
      exact waits child isWaiting
    · exact sound.waits other child isWaiting

/-- The records change in a flag that nobody reports. -/
theorem SpawnSound.mapRecords {change : SpawnRecord → SpawnRecord}
    (flag : ∀ record, ∃ waiting, change record = { record with parentWaiting := waiting }) :
    SpawnSound { system with records := system.records.map change } := by
  have before : ∀ {holds : SpawnRecord → Prop},
      (∀ record ∈ system.records, ∀ waiting, holds { record with parentWaiting := waiting }) →
      ∀ record ∈ system.records.map change, holds record := by
    intro holds each record isRecord
    rcases List.mem_map.mp isRecord with ⟨old, isOld, rfl⟩
    rcases flag old with ⟨waiting, same⟩
    rw [same]
    exact each old isOld waiting
  have sameChild : ∀ record, (change record).toChild = record.toChild := by
    intro record
    rcases flag record with ⟨waiting, same⟩
    rw [same]
    rfl
  exact { sound with
    counted := sound.counted.trans (List.length_map _).symm
    distinct := by
      rw [List.map_map]
      have same : SpawnRecord.child ∘ change = SpawnRecord.child :=
        funext fun record => congrArg Child.pid (sameChild record)
      rw [same]
      exact sound.distinct
    active := before fun record isRecord _ => sound.active record isRecord
    running := before fun record isRecord _ free => by
      have here := sound.running record isRecord free
      exact ⟨here.registered, here.state, here.task⟩
    stuck := fun name isStuck => by
      rcases sound.stuck name isStuck with ⟨finished, below, exited⟩
      exact ⟨finished, below, before fun record isRecord _ => exited record isRecord⟩
    recorded := before fun record isRecord _ => sound.recorded record isRecord
    kept := fun old isOld unreaped => by
      rcases sound.kept old isOld unreaped with ⟨record, isRecord, same⟩
      exact ⟨change record, List.mem_map_of_mem isRecord, (sameChild record).trans same⟩
    exits := before fun record isRecord _ => sound.exits record isRecord
    waits := fun name waited isWaiting => by
      rcases sound.waits name waited isWaiting with ⟨below, mine⟩
      exact ⟨below, before fun record isRecord _ => mine record isRecord⟩
    orphans := before fun record isRecord _ => sound.orphans record isRecord }

theorem SpawnSound.updateParentWaiting (child : Nat) (waiting : Bool) :
    SpawnSound (system.updateRecord child fun record =>
      { record with parentWaiting := waiting }) := by
  apply sound.mapRecords
  intro record
  split
  · exact ⟨waiting, rfl⟩
  · exact ⟨record.parentWaiting, rfl⟩

theorem SpawnSound.setParentWaiting (parentPid : Nat) (waiting : Bool) :
    SpawnSound (m36SetParentWaiting system parentPid waiting) := by
  apply sound.mapRecords
  intro record
  split
  · exact ⟨waiting, rfl⟩
  · exact ⟨record.parentWaiting, rfl⟩

end

end

end BoringOS.Spawn
