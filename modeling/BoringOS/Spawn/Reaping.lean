import BoringOS.Spawn.SpawnInvariant

namespace BoringOS.Spawn

/-!
# Reaping a child

A child is reaped once it has finished.  When all of its memory can be given
back its record goes with it, and the books enter who reaped it.  Otherwise the
record stays and the books say that the child is stuck.
-/

/-- Of the process of a finished child something may be gone, and nothing else
has changed. -/
structure ProcessGone (system next : System) (child : Nat) : Prop where
  records : next.records = system.records
  spawnRecordCount : next.spawnRecordCount = system.spawnRecordCount
  books : next.books = system.books
  nextPid : next.nextPid = system.nextPid
  others : ∀ other, other ≠ child → next.processes other = system.processes other
  state : (next.processes child).state = .finished
  pid : (next.processes child).pid = if (next.processes child).registered then child else 0
  registered : (next.processes child).registered = true → (system.processes child).registered = true
  waiting : (next.processes child).waiting = (system.processes child).waiting

section

variable {system middle next : System}

namespace ProcessGone

variable {child : Nat}

theorem refl (sound : SpawnSound system) (finished : (system.processes child).state = .finished) :
    ProcessGone system system child :=
  ⟨rfl, rfl, rfl, rfl, fun _ _ => rfl, finished, sound.named child, id, rfl⟩

theorem trans (first : ProcessGone system middle child) (second : ProcessGone middle next child) :
    ProcessGone system next child where
  records := second.records.trans first.records
  spawnRecordCount := second.spawnRecordCount.trans first.spawnRecordCount
  books := second.books.trans first.books
  nextPid := second.nextPid.trans first.nextPid
  others other away := (second.others other away).trans (first.others other away)
  state := second.state
  pid := second.pid
  registered isRegistered := first.registered (second.registered isRegistered)
  waiting := second.waiting.trans first.waiting

/-- The object of the child is replaced. -/
theorem of_setProcess {process : Process} (state : process.state = .finished)
    (pid : process.pid = if process.registered then child else 0)
    (registered : process.registered = true → (system.processes child).registered = true)
    (waiting : process.waiting = (system.processes child).waiting) :
    ProcessGone system (system.setProcess child process) child where
  records := rfl
  spawnRecordCount := rfl
  books := rfl
  nextPid := rfl
  others other away := by
    rw [processes_setProcess, if_neg away]
  state := by
    rw [processes_setProcess, if_pos rfl]
    exact state
  pid := by
    rw [processes_setProcess, if_pos rfl]
    exact pid
  registered := by
    rw [processes_setProcess, if_pos rfl]
    exact registered
  waiting := by
    rw [processes_setProcess, if_pos rfl]
    exact waiting

section

variable (gone : ProcessGone system next child)
include gone

theorem isAlive (finished : (system.processes child).state = .finished) (name : Nat) :
    next.isAlive name = system.isAlive name := by
  by_cases same : name = child
  · rw [same, System.isAlive, System.isAlive, gone.state, finished]
    simp
  · rw [System.isAlive, System.isAlive, gone.others name same]

theorem named (sound : SpawnSound system) (name : Nat) :
    (next.processes name).pid = if (next.processes name).registered then name else 0 := by
  by_cases same : name = child
  · rw [same]
    exact gone.pid
  · rw [gone.others name same]
    exact sound.named name

theorem created (sound : SpawnSound system) (name : Nat)
    (registered : (next.processes name).registered = true) : 0 < name ∧ name < next.nextPid := by
  rw [gone.nextPid]
  by_cases same : name = child
  · rw [same] at registered ⊢
    exact sound.created child (gone.registered registered)
  · rw [gone.others name same] at registered
    exact sound.created name registered

theorem stillFinished {name : Nat} (finished : (system.processes name).state = .finished) :
    (next.processes name).state = .finished := by
  by_cases same : name = child
  · rw [same]
    exact gone.state
  · rw [gone.others name same]
    exact finished

theorem sameWaiting (name : Nat) :
    (next.processes name).waiting = (system.processes name).waiting := by
  by_cases same : name = child
  · rw [same]
    exact gone.waiting
  · rw [gone.others name same]

theorem agrees {record : SpawnRecord} (away : record.child ≠ child) (before : ChildMatches system record) :
    ChildMatches next record := by
  have same := gone.others record.child away
  exact ⟨by rw [same]; exact before.registered, by rw [same]; exact before.state,
    by rw [same]; exact before.task⟩

end

end ProcessGone

variable {record : SpawnRecord}

theorem SpawnSound.markStuck (sound : SpawnSound system) (isRecord : record ∈ system.records)
    (finished : (system.processes record.child).state = .finished)
    (gone : ProcessGone system next record.child) : SpawnSound (markStuck next record.child) := by
  obtain ⟨processes, nextPid, live, rfl⟩ := exists_processes gone.records gone.spawnRecordCount gone.books
  obtain rfl : nextPid = system.nextPid := gone.nextPid
  exact { sound with
    named := gone.named sound
    created := gone.created sound
    running := fun other isOther free => by
      obtain ⟨away, notStuck⟩ := not_or.mp (List.mem_cons.not.mp free)
      have before := gone.agrees away (sound.running other isOther notStuck)
      exact ⟨before.registered, before.state, before.task⟩
    stuck := fun name isStuck => by
      rcases List.mem_cons.mp isStuck with rfl | before
      · refine ⟨gone.state, sound.child_lt isRecord, fun other isOther same => ?_⟩
        rw [sound.record_unique isOther isRecord same]
        exact sound.exited_of_finished isRecord finished
      · rcases sound.stuck name before with ⟨wasFinished, below, exited⟩
        exact ⟨gone.stillFinished wasFinished, below, exited⟩
    waits := fun name child isWaiting => sound.waits name child ((gone.sameWaiting name).symm.trans isWaiting)
    orphans := fun other isOther attached =>
      (sound.orphans other isOther attached).imp_left (gone.isAlive finished _).trans }

theorem mem_eraseChild (sound : SpawnSound system) {record other : SpawnRecord}
    (isRecord : record ∈ system.records) :
    other ∈ system.records.eraseP (fun each => each.child == record.child) ↔
      other ∈ system.records ∧ other ≠ record := by
  rcases List.exists_of_eraseP (p := fun each => each.child == record.child) isRecord
    (beq_self_eq_true record.child) with
    ⟨found, before, after, -, isFound, split, erased⟩
  have isIn : found ∈ system.records := by
    rw [split]
    exact List.mem_append_right _ List.mem_cons_self
  have same : found = record := sound.record_unique isIn isRecord (beq_iff_eq.mp isFound)
  subst same
  have nodup : system.records.Nodup := sound.distinct.of_map _
  grind

/-- The books after a child was reaped -/
def enterReap (books : SpawnBooks) (record : SpawnRecord) (parent : Option Nat) : SpawnBooks :=
  { books with
    reaped := books.reaped ++ [⟨record.child, record.exitStatus, parent⟩] }

theorem mem_reapedPids (books : SpawnBooks) (record : SpawnRecord) (parent : Option Nat)
    (pid : Nat) : pid ∈ (enterReap books record parent).reaped.map Reap.pid ↔
      pid ∈ books.reaped.map Reap.pid ∨ pid = record.child := by
  rw [enterReap, List.map_append, List.mem_append, List.map_singleton, List.mem_singleton]

/-- The record of a child that has finished goes, and the books enter who reaped it. -/
theorem SpawnSound.release (sound : SpawnSound system) (isRecord : record ∈ system.records)
    (finished : (system.processes record.child).state = .finished) {parent : Option Nat}
    (mayReap : ReapedBy record.toChild parent) (gone : ProcessGone system next record.child)
    (freed : Bool) : SpawnSound (m36RecordRelease next record parent freed).2 := by
  have exited := sound.exited_of_finished isRecord finished
  have isActive : ¬ record.active = false := by
    rw [sound.active record isRecord, Bool.not_eq_false]
  have unreaped := (sound.recorded record isRecord).2
  have exitEntry := sound.exits record isRecord
  rw [if_pos exited] at exitEntry
  have isOld : ∀ {other}, other ∈ system.records.eraseP (fun each => each.child == record.child) →
      other ∈ system.records ∧ other.child ≠ record.child := by
    intro other isOther
    rcases (mem_eraseChild sound isRecord).mp isOther with ⟨isBefore, different⟩
    exact ⟨isBefore, fun same => different (sound.record_unique isBefore isRecord same)⟩
  obtain ⟨processes, nextPid, live, rfl⟩ := exists_processes gone.records gone.spawnRecordCount gone.books
  obtain rfl : nextPid = system.nextPid := gone.nextPid
  rw [m36RecordRelease, if_neg isActive]
  exact { sound with
    counted := by
      have length : (system.records.eraseP fun each => each.child == record.child).length + 1 =
          system.records.length := List.length_eraseP_add_one isRecord (beq_self_eq_true record.child)
      have count := sound.counted
      dsimp only
      omega
    capped := Nat.le_trans (Nat.sub_le _ _) sound.capped
    named := gone.named sound
    created := gone.created sound
    distinct := sound.distinct.sublist (List.eraseP_sublist.map _)
    active := fun other isOther => sound.active other (isOld isOther).1
    running := fun other isOther free => by
      have before := gone.agrees (isOld isOther).2 (sound.running other (isOld isOther).1 free)
      exact ⟨before.registered, before.state, before.task⟩
    stuck := fun name isStuck => by
      rcases sound.stuck name isStuck with ⟨wasFinished, below, allExited⟩
      exact ⟨gone.stillFinished wasFinished, below, fun other isOther => allExited other (isOld isOther).1⟩
    recorded := fun other isOther => by
      rcases sound.recorded other (isOld isOther).1 with ⟨known, notReaped⟩
      refine ⟨known, fun isReaped => ?_⟩
      exact ((mem_reapedPids system.books record parent _).mp isReaped).elim notReaped (isOld isOther).2
    kept := fun child isChild free => by
      have unreaped := not_or.mp ((mem_reapedPids system.books record parent _).not.mp free)
      rcases sound.kept child isChild unreaped.1 with ⟨other, isOther, isIt⟩
      refine ⟨other, (mem_eraseChild sound isRecord).mpr ⟨isOther, ?_⟩, isIt⟩
      rintro rfl
      exact unreaped.2 (congrArg Child.pid isIt).symm
    reapedOnce := by
      rw [List.map_append, List.map_singleton, List.nodup_append]
      refine ⟨sound.reapedOnce, List.nodup_singleton _, ?_⟩
      simp_all
    reaped := fun reap isReap => by
      rcases List.mem_append.mp isReap with before | isNew
      · exact sound.reaped reap before
      · rw [List.mem_singleton.mp isNew]
        exact ⟨record.toChild, (sound.recorded record isRecord).1, rfl, mayReap, exitEntry⟩
    exits := fun other isOther => sound.exits other (isOld isOther).1
    waits := fun name child isWaiting => by
      rcases sound.waits name child ((gone.sameWaiting name).symm.trans isWaiting) with ⟨below, mine⟩
      exact ⟨below, fun other isOther => mine other (isOld isOther).1⟩
    orphans := fun other isOther attached =>
      (sound.orphans other (isOld isOther).1 attached).imp_left (gone.isAlive finished _).trans }

theorem taskReap_gone (sound : SpawnSound system) {child : Nat} (frees : Frees)
    (finished : (system.processes child).state = .finished) :
    ProcessGone system (taskReapFinishedProcess system child frees).2 child := by
  rw [taskReapFinishedProcess]
  split
  · exact .refl sound finished
  · exact .of_setProcess finished (sound.named child) id rfl

theorem processDestroy_gone {child : Nat} (frees : Frees) (before : ProcessGone system middle child) :
    ProcessGone system (processDestroy middle child frees).2 child := by
  rw [processDestroy]
  split
  · exact before
  have cleared : ProcessGone middle (middle.setProcess child
      (processClear (middle.processes child))) child :=
    .of_setProcess rfl rfl (fun impossible => absurd impossible Bool.false_ne_true) rfl
  have gone := before.trans cleared
  exact { gone with }

theorem m36ReapRecord_cases (sound : SpawnSound system) (isRecord : record ∈ system.records)
    (finished : (system.processes record.child).state = .finished) (parent : Option Nat) (frees : Frees) :
    ∃ next, ProcessGone system next record.child ∧
      (m36ReapRecord system record parent frees = (false, markStuck next record.child) ∨
        m36ReapRecord system record parent frees =
          m36RecordRelease next record parent frees.record) := by
  have isActive : ¬ (record.active = false ∨ (system.processes record.child).state ≠ .finished) := by
    rw [sound.active record isRecord, finished]
    simp only [Bool.true_eq_false, ne_eq, not_true_eq_false, or_self, not_false_eq_true]
  have reaped := taskReap_gone sound frees finished
  rw [m36ReapRecord, if_neg isActive]
  grind [processDestroy_gone]

/-- All memory is given back. -/
def Frees.all : Frees := ⟨true, true, true, true, true⟩

/-- A child that is not stuck is reaped when its memory is given back. -/
theorem m36ReapRecord_freed (sound : SpawnSound system)
    (isRecord : record ∈ system.records) (exited : record.exited = true)
    (free : record.child ∉ system.books.stuck) (parent : Option Nat) :
    ∃ next, ProcessGone system next record.child ∧
      m36ReapRecord system record parent .all = m36RecordRelease next record parent true := by
  have here := sound.running record isRecord free
  have finished := here.state
  rw [if_pos exited] at finished
  have isActive : ¬ (record.active = false ∨ (system.processes record.child).state ≠ .finished) := by
    rw [sound.active record isRecord, finished]
    simp only [Bool.true_eq_false, ne_eq, not_true_eq_false, or_self, not_false_eq_true]
  have taskGone : ¬ ((system.processes record.child).state ≠ .finished ∨
      (system.processes record.child).task ≠ some .finished ∨ Frees.all.stack = false) := by
    rw [finished, here.task.mpr exited]
    decide
  let cleared : Process := { system.processes record.child with task := none }
  have tasks : taskReapFinishedProcess system record.child .all =
      (true, system.setProcess record.child cleared) := by
    rw [taskReapFinishedProcess, if_neg taskGone]
    rfl
  have isCleared : (system.setProcess record.child cleared).processes record.child = cleared := by
    rw [processes_setProcess, if_pos rfl]
  have processGone : ¬ (((system.setProcess record.child cleared).processes record.child).registered =
      false ∨ ((system.setProcess record.child cleared).processes record.child).state ≠ .finished ∨
        Frees.all.space = false) := by
    rw [isCleared]
    rw [here.registered, finished]
    decide
  rcases destroy : processDestroy (system.setProcess record.child cleared) record.child .all with
    ⟨done, final⟩
  have isDone : done = true := by
    rw [processDestroy, if_neg processGone] at destroy
    exact (congrArg Prod.fst destroy).symm
  have gone := taskReap_gone sound .all finished
  rw [tasks] at gone
  have goneLast := processDestroy_gone .all gone
  rw [destroy] at goneLast
  refine ⟨final, goneLast, ?_⟩
  rw [m36ReapRecord, if_neg isActive, tasks]
  dsimp only
  rw [destroy, isDone]
  rfl

theorem m36ReapRecord_sound (sound : SpawnSound system) (isRecord : record ∈ system.records)
    (finished : (system.processes record.child).state = .finished) (parent : Option Nat)
    (mayReap : ReapedBy record.toChild parent) (frees : Frees) :
    SpawnSound (m36ReapRecord system record parent frees).2 := by
  rcases m36ReapRecord_cases sound isRecord finished parent frees with
    ⟨next, gone, isStuck | isReaped⟩
  · rw [isStuck]
    exact sound.markStuck isRecord finished gone
  · rw [isReaped]
    exact sound.release isRecord finished mayReap gone frees.record

end

end BoringOS.Spawn
