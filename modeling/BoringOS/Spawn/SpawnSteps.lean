import BoringOS.Spawn.Reaping

namespace BoringOS.Spawn

/-!
# Every call keeps the invariant
-/

section

variable {system next : System}

/-- What the sweep has done about the children that it has come to -/
structure Swept (system next : System) (names : List Nat) : Prop where
  sound : SpawnSound next
  records : ∀ record ∈ next.records, record ∈ system.records
  stuck : ∀ name ∈ system.books.stuck, name ∈ next.books.stuck
  swept : ∀ record ∈ next.records, record.child ∈ names → record.detached = true →
    record.exited = true → record.child ∈ next.books.stuck
  alive : ∀ name, (system.processes name).state = .alive →
    next.processes name = system.processes name

theorem m36ReapIfDetached_swept (sound : SpawnSound system) (frees : Nat → Frees) (child : Nat) :
    Swept system (m36ReapIfDetached frees system child) [child] := by
  rw [m36ReapIfDetached]
  split
  · refine ⟨sound, fun _ isRecord => isRecord, fun _ isStuck => isStuck, ?_, fun _ _ => rfl⟩
    intro record isRecord isChild
    rw [List.mem_singleton] at isChild
    have found := sound.recordOf isRecord
    grind
  · rename_i record found
    rcases recordOf_eq_some found with ⟨isRecord, isChild⟩
    split
    · rename_i sweeps
      rcases sweeps with ⟨-, detached, -, finished⟩
      have notChild : ∀ name, (system.processes name).state = .alive → name ≠ record.child := by
        rintro name isUp rfl
        rw [finished] at isUp
        cases isUp
      have after := m36ReapRecord_sound sound isRecord finished none detached (frees child)
      rcases m36ReapRecord_cases sound isRecord finished none (frees child) with
        ⟨next, gone, isStuck | isReaped⟩
      · rw [isStuck] at after ⊢
        refine ⟨after, ?_, ?_, ?_, fun name isUp => gone.others name (notChild name isUp)⟩
        · change ∀ other ∈ next.records, _
          rw [gone.records]
          exact fun _ isOther => isOther
        · change ∀ name ∈ _, name ∈ record.child :: next.books.stuck
          rw [gone.books]
          simp_all
        · intro other isOther isName _ _
          rw [List.mem_singleton] at isName
          rw [isName, ← isChild]
          exact List.mem_cons_self
      · rw [isReaped] at after ⊢
        have isActive : ¬ record.active = false := by
          rw [sound.active record isRecord, Bool.not_eq_false]
        rw [m36RecordRelease, if_neg isActive] at after ⊢
        have records : ∀ other ∈ next.records.eraseP (fun each => each.child == record.child),
            other ∈ system.records ∧ other ≠ record := by
          rw [gone.records]
          exact fun other isOther => (mem_eraseChild sound isRecord).mp isOther
        refine ⟨after, fun other isOther => (records other isOther).1, ?_, ?_,
          fun name isUp => gone.others name (notChild name isUp)⟩
        · rw [gone.books]
          exact fun _ isStuck => isStuck
        · intro other isOther isName
          rw [List.mem_singleton, ← isChild] at isName
          rcases records other isOther with ⟨isBefore, different⟩
          exact absurd (sound.record_unique isBefore isRecord isName) different
    · rename_i stays
      refine ⟨sound, fun _ isOther => isOther, fun _ isStuck => isStuck, ?_, fun _ _ => rfl⟩
      intro other isOther isName detached exited
      rw [List.mem_singleton, ← isChild] at isName
      have same := sound.record_unique isOther isRecord isName
      subst same
      by_contra free
      have state := (sound.running other isOther free).state
      rw [if_pos exited] at state
      exact stays ⟨sound.active other isOther, detached, exited, state⟩

theorem sweep_swept (frees : Nat → Frees) (names : List Nat) :
    ∀ {system : System}, SpawnSound system →
      Swept system (names.foldl (m36ReapIfDetached frees) system) names := by
  induction names with
  | nil =>
    intro system sound
    exact ⟨sound, fun _ isRecord => isRecord, fun _ isStuck => isStuck,
      fun _ _ impossible => absurd impossible List.not_mem_nil, fun _ _ => rfl⟩
  | cons name rest ih =>
    intro system sound
    have here := m36ReapIfDetached_swept sound frees name
    have after := ih here.sound
    refine ⟨after.sound, fun record isRecord => here.records record (after.records record isRecord),
      fun other isStuck => after.stuck other (here.stuck other isStuck), ?_, ?_⟩
    · intro record isRecord isName detached exited
      rcases List.mem_cons.mp isName with isHere | isRest
      · apply after.stuck
        exact here.swept record (after.records record isRecord) (List.mem_singleton.mpr isHere)
          detached exited
      · exact after.swept record isRecord isRest detached exited
    · intro other isUp
      have same := here.alive other isUp
      rw [← same]
      apply after.alive
      rw [same]
      exact isUp

theorem m36ReapDetached_swept (sound : SpawnSound system) (frees : Nat → Frees) :
    Swept system (m36ReapDetached system frees) (system.records.map SpawnRecord.child) :=
  sweep_swept frees _ sound

/-- Nobody gets stuck when all memory is given back. -/
theorem sweep_freed (names : List Nat) :
    ∀ {system : System}, SpawnSound system → ∀ name,
      name ∈ (names.foldl (m36ReapIfDetached fun _ => .all) system).books.stuck →
        name ∈ system.books.stuck := by
  induction names with
  | nil => exact fun _ _ isStuck => isStuck
  | cons child rest ih =>
    intro system sound name isStuck
    have here := ih (m36ReapIfDetached_swept sound (fun _ => .all) child).sound name isStuck
    rw [m36ReapIfDetached] at here
    split at here
    · exact here
    rename_i record found
    rcases recordOf_eq_some found with ⟨isRecord, -⟩
    split at here
    · rename_i sweeps
      rcases sweeps with ⟨-, -, exited, finished⟩
      by_cases free : record.child ∈ system.books.stuck
      · rcases m36ReapRecord_cases sound isRecord finished none .all with
          ⟨next, gone, result | result⟩
        · rw [result] at here
          change name ∈ record.child :: next.books.stuck at here
          rw [gone.books] at here
          grind
        · have isActive : ¬ record.active = false := by
            rw [sound.active record isRecord, Bool.not_eq_false]
          rw [result, m36RecordRelease, if_neg isActive] at here
          rw [gone.books] at here
          exact here
      · rcases m36ReapRecord_freed sound isRecord exited free none with ⟨next, gone, result⟩
        have isActive : ¬ record.active = false := by
          rw [sound.active record isRecord, Bool.not_eq_false]
        rw [result, m36RecordRelease, if_neg isActive] at here
        rw [gone.books] at here
        exact here
    · exact here

/-- After a sweep that gives all memory back no detached child that has exited is
recorded, unless it was stuck before. -/
theorem m36ReapDetached_freed (sound : SpawnSound system) {record : SpawnRecord}
    (isRecord : record ∈ (m36ReapDetached system fun _ => .all).records)
    (detached : record.detached = true) (exited : record.exited = true) :
    record.child ∈ system.books.stuck := by
  have swept := m36ReapDetached_swept sound fun _ => .all
  apply sweep_freed (system.records.map SpawnRecord.child) sound
  apply swept.swept record isRecord _ detached exited
  exact List.mem_map_of_mem (swept.records record isRecord)

/-- Another process may be created, or created and cleared again. -/
theorem SpawnSound.newProcess (sound : SpawnSound system) {process : Process} {nextPid live : Nat}
    (registered : process.registered = true → process.pid = system.nextPid ∧
      nextPid = system.nextPid + 1) (cleared : process.registered = false → process.pid = 0)
    (grows : system.nextPid ≤ nextPid) (waiting : process.waiting = none) :
    SpawnSound { system.setProcess system.nextPid process with
      nextPid := nextPid
      liveProcessCount := live } := by
  have others : ∀ {name}, name ≠ system.nextPid →
      (system.setProcess system.nextPid process).processes name = system.processes name :=
    fun away => Function.update_of_ne away ..
  have here : (system.setProcess system.nextPid process).processes system.nextPid = process :=
    Function.update_self ..
  refine sound.processesKept ⟨rfl, rfl, rfl, grows, fun name => ?_, fun name isRegistered => ?_,
    fun name below => ?_, fun name child isWaiting => ?_⟩
  · rcases eq_or_ne name system.nextPid with rfl | away
    · rw [here]
      split
      · exact (registered ‹_›).1
      · exact cleared (Bool.eq_false_iff.mpr ‹_›)
    · rw [others away]
      exact sound.named name
  · dsimp only at isRegistered ⊢
    rcases eq_or_ne name system.nextPid with rfl | away
    · rw [here] at isRegistered
      rw [(registered isRegistered).2]
      exact ⟨sound.positive, Nat.lt_succ_self _⟩
    · rw [others away] at isRegistered
      have before := sound.created name isRegistered
      omega
  · rw [others (Nat.ne_of_lt below)]
    exact ⟨rfl, rfl, Iff.rfl⟩
  · rcases eq_or_ne name system.nextPid with rfl | away
    · rw [here, waiting] at isWaiting
      cases isWaiting
    · rw [others away] at isWaiting
      exact ⟨Nat.lt_of_lt_of_le (sound.waits name child isWaiting).1 grows, (sound.waits name child isWaiting).2⟩

/-- A process gets a record, with a parent that is up. -/
theorem SpawnSound.addRecord (sound : SpawnSound system) {child parent : Nat} (detached : Bool)
    (room : system.spawnRecordCount < kernelProcessPolicyLimit)
    (here : system.processes child = ⟨child, .alive, true, some .ready, none⟩)
    (below : child < system.nextPid) (unknown : ∀ entry ∈ system.books.spawned, entry.pid ≠ child)
    (unwaited : ∀ name, (system.processes name).waiting ≠ some (.child child))
    (alive : system.isAlive parent = true) :
    SpawnSound { system with
      records := system.records ++ [⟨child, parent, 0, true, true, false, detached, false⟩]
      spawnRecordCount := system.spawnRecordCount + 1
      books := { system.books with
        spawned := system.books.spawned ++ [⟨child, parent, detached⟩] } } := by
  have old : ∀ record ∈ system.records, record.child ≠ child := fun record isRecord =>
    unknown record.toChild (sound.recorded record isRecord).1
  have split : ∀ {holds : SpawnRecord → Prop}, (∀ record ∈ system.records, holds record) →
      holds ⟨child, parent, 0, true, true, false, detached, false⟩ →
      ∀ record ∈ system.records ++ [⟨child, parent, 0, true, true, false, detached, false⟩],
        holds record := by
    intro holds before new record isRecord
    rcases List.mem_append.mp isRecord with isBefore | isNew
    · exact before record isBefore
    · rw [List.mem_singleton.mp isNew]
      exact new
  have once : ∀ {names : List Nat}, names.Nodup → child ∉ names → (names ++ [child]).Nodup :=
    fun nodup outside => List.nodup_append.mpr ⟨nodup, List.nodup_singleton _,
      fun name isName other isOther => by
        rw [List.mem_singleton.mp isOther]
        exact fun same => outside (same ▸ isName)⟩
  have notSpawned : child ∉ system.books.spawned.map Child.pid := by
    intro isSpawned
    rcases List.mem_map.mp isSpawned with ⟨entry, isEntry, same⟩
    exact unknown entry isEntry same
  exact { sound with
    counted := by
      rw [List.length_append, List.length_singleton]
      exact congrArg (· + 1) sound.counted
    capped := room
    distinct := by
      rw [List.map_append]
      refine once sound.distinct fun isChild => ?_
      rcases List.mem_map.mp isChild with ⟨record, isRecord, same⟩
      exact old record isRecord same
    active := split sound.active rfl
    running := split
      (fun record isRecord free => by
        have before := sound.running record isRecord free
        exact ⟨before.registered, before.state, before.task⟩)
      fun _ => ⟨congrArg Process.registered here, congrArg Process.state here, by simp [here]⟩
    stuck := fun name isStuck => by
      rcases sound.stuck name isStuck with ⟨finished, known, exited⟩
      refine ⟨finished, known, split exited ?_⟩
      rintro rfl
      rw [here] at finished
      cases finished
    spawned := fun entry isEntry => by
      rcases List.mem_append.mp isEntry with before | isNew
      · exact sound.spawned entry before
      · rw [List.mem_singleton.mp isNew]
        exact below
    spawnedOnce := by
      rw [List.map_append]
      exact once sound.spawnedOnce notSpawned
    recorded := split
      (fun record isRecord => (sound.recorded record isRecord).imp_left (List.mem_append_left _)) (by
        refine ⟨List.mem_append_right _ (List.mem_singleton_self _), fun isReaped => ?_⟩
        rcases List.mem_map.mp isReaped with ⟨reap, isReap, same⟩
        rcases sound.reaped reap isReap with ⟨entry, isEntry, samePid, -, -⟩
        exact unknown entry isEntry (samePid.trans same))
    kept := fun entry isEntry unreaped => by
      rcases List.mem_append.mp isEntry with before | isNew
      · rcases sound.kept entry before unreaped with ⟨record, isRecord, same⟩
        exact ⟨record, List.mem_append_left _ isRecord, same⟩
      · rw [List.mem_singleton.mp isNew]
        exact ⟨_, List.mem_append_right _ (List.mem_singleton_self _), rfl⟩
    reaped := fun reap isReap => by
      rcases sound.reaped reap isReap with ⟨entry, isEntry, same, right, exit⟩
      exact ⟨entry, List.mem_append_left _ isEntry, same, right, exit⟩
    exits := split sound.exits (by
      intro isExit
      rcases List.mem_map.mp isExit with ⟨entry, isEntry, same⟩
      have isSpawned := sound.exitsSpawned entry isEntry
      rw [same] at isSpawned
      exact notSpawned isSpawned)
    exitsSpawned := fun entry isEntry => by
      rw [List.map_append]
      exact List.mem_append_left _ (sound.exitsSpawned entry isEntry)
    waits := fun name waited isWaiting => by
      rcases sound.waits name waited isWaiting with ⟨known, mine⟩
      refine ⟨known, split mine ?_⟩
      rintro rfl
      exact absurd isWaiting (unwaited name)
    orphans := split sound.orphans fun _ => Or.inl alive }

/-- The state after `process_create` -/
def withProcess (system : System) : System :=
  { system.setProcess system.nextPid ⟨system.nextPid, .alive, true, none, none⟩ with
    nextPid := system.nextPid + 1
    liveProcessCount := system.liveProcessCount + 1 }

theorem processCreate_eq_some {created : Bool} {child : Nat}
    (result : processCreate system created = some (child, next)) :
    child = system.nextPid ∧ next = withProcess system := by
  rw [processCreate] at result
  split at result
  · cases result
  · cases result
    exact ⟨rfl, rfl⟩

theorem withProcess_process (system : System) :
    (withProcess system).processes system.nextPid = ⟨system.nextPid, .alive, true, none, none⟩ :=
  Function.update_self ..

/-- The object of the new process is replaced at once. -/
theorem withProcess_setProcess (system : System) (process : Process) :
    (withProcess system).setProcess system.nextPid process =
      { system.setProcess system.nextPid process with
        nextPid := system.nextPid + 1
        liveProcessCount := system.liveProcessCount + 1 } := by
  rw [withProcess, System.setProcess, System.setProcess, System.setProcess]
  dsimp only
  rw [Function.update_idem]

section

variable (sound : SpawnSound system)
include sound

theorem SpawnSound.withProcess : SpawnSound (withProcess system) :=
  sound.newProcess (fun _ => ⟨rfl, rfl⟩) (fun impossible => nomatch impossible) (Nat.le_succ _) rfl

theorem m36SpawnRollback_sound (discarded : Bool) (error : SyscallError) :
    SpawnSound (m36SpawnRollback (withProcess system) system.nextPid discarded error).2 := by
  rw [m36SpawnRollback]
  rcases result : processDiscardUnstarted (withProcess system) system.nextPid discarded with
    ⟨done, final⟩
  have after : SpawnSound final := by
    rw [processDiscardUnstarted, withProcess_process] at result
    split at result
    · cases result
      exact sound.withProcess
    rw [withProcess_setProcess] at result
    cases result
    exact sound.newProcess (fun impossible => nomatch impossible) (fun _ => rfl) (Nat.le_refl _) rfl
  grind

/-- A new child has a process of its own, a record and a task. -/
theorem m36SpawnRecord_sound {parent : Nat}
    (alive : system.isAlive parent = true) (detached : Bool) (answers : SpawnAnswers) :
    SpawnSound (m36SpawnRecord (withProcess system) parent system.nextPid detached answers).2 := by
  rw [m36SpawnRecord]
  split
  · exact m36SpawnRollback_sound sound answers.discarded .enospc
  rename_i admitted
  rw [not_or, Bool.not_eq_false, m36RecordCapacityAvailable, decide_eq_true_eq] at admitted
  rw [withProcess_process]
  dsimp only
  rw [withProcess_setProcess]
  have parentBelow := (sound.created parent (isAlive_eq_true.mp alive).1).2
  have ready : SpawnSound { system.setProcess system.nextPid ⟨system.nextPid, .alive, true, some .ready, none⟩ with
      nextPid := system.nextPid + 1
      liveProcessCount := system.liveProcessCount + 1 } :=
    sound.newProcess (fun _ => ⟨rfl, rfl⟩) (fun impossible => nomatch impossible) (Nat.le_succ _) rfl
  have unwaited : ∀ name, ((system.setProcess system.nextPid
      ⟨system.nextPid, .alive, true, some .ready, none⟩).processes name).waiting ≠
        some (.child system.nextPid) := by
    intro name isWaiting
    rw [processes_setProcess] at isWaiting
    split at isWaiting
    · cases isWaiting
    · exact Nat.lt_irrefl _ (sound.waits name _ isWaiting).1
  refine ready.addRecord detached admitted.1 (Function.update_self ..) (Nat.lt_succ_self _)
    (fun entry isEntry => Nat.ne_of_lt (sound.spawned entry isEntry)) unwaited ?_
  rw [isAlive_eq_true] at alive ⊢
  rw [processes_setProcess, if_neg (Nat.ne_of_lt parentBelow)]
  exact alive

theorem m36Spawn_sound (parent : Nat) (detached : Bool)
    (answers : SpawnAnswers) : SpawnSound (m36Spawn system parent detached answers).2 := by
  rw [m36Spawn]
  split
  · exact sound
  split
  · exact sound
  split
  · exact sound
  split
  · exact sound
  split
  · exact sound
  rename_i child created result
  rcases processCreate_eq_some result with ⟨rfl, rfl⟩
  grind [m36SpawnRollback_sound, m36SpawnRecord_sound]

end

end

end BoringOS.Spawn
