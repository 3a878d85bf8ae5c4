import BoringOS.Spawn.SpawnSteps

namespace BoringOS.Spawn

/-!
# Exits and waits keep the invariant
-/

section

variable {system next : System}

theorem taskWakePid_sound (sound : SpawnSound system) (pid : Nat) :
    SpawnSound (taskWakePid system pid) := by
  rw [taskWakePid]
  split
  · apply sound.setTask
    · simp [*]
    · exact fun impossible => by cases impossible
    · exact fun child isWaiting => sound.waits pid child isWaiting
  · exact sound

/-- Only the task of a process changes when it is woken. -/
theorem taskWakePid_processes (system : System) (pid name : Nat) :
    ((taskWakePid system pid).processes name).registered = (system.processes name).registered ∧
      ((taskWakePid system pid).processes name).state = (system.processes name).state := by
  grind [taskWakePid, processes_setProcess]

theorem taskWakePid_records (system : System) (pid : Nat) :
    (taskWakePid system pid).records = system.records := by
  rw [taskWakePid]
  split
  · rfl
  · rfl

/-- The record of a child that exits -/
def exitRecord (name : Nat) (status : Int) (record : SpawnRecord) : SpawnRecord :=
  if record.child = name then
    { record with
      exitStatus := status
      imageLoaded := false
      exited := true }
  else record

/-- The state after a process has exited, when its parent has been woken -/
def exitState (system : System) (name : Nat) (status : Int) : System :=
  { system.setProcess name
      { system.processes name with
        state := .finished
        task := some .finished } with
    records := system.records.map (exitRecord name status)
    books := { system.books with
      exits := system.books.exits ++ [(name, status)]
      abandoned := system.books.abandoned ++
        leftBehind { system with records := system.records.map (exitRecord name status) } name } }

theorem exitRecord_child (name : Nat) (status : Int) (record : SpawnRecord) :
    (exitRecord name status record).toChild = record.toChild := by
  rw [exitRecord]
  split
  · rfl
  · rfl

theorem exitRecord_active (name : Nat) (status : Int) (record : SpawnRecord) :
    (exitRecord name status record).active = record.active := by
  rw [exitRecord]
  split
  · rfl
  · rfl

variable {record : SpawnRecord}

theorem exitState_sound (sound : SpawnSound system)
    (isRecord : record ∈ system.records) (alive : system.isAlive record.child = true)
    (status : Int) : SpawnSound (exitState system record.child status) := by
  rw [isAlive_eq_true] at alive
  have running : record.child ∉ system.books.stuck := by
    intro isStuck
    have finished := (sound.stuck record.child isStuck).1
    rw [alive.2] at finished
    cases finished
  have notExited : record.exited = false := by
    have state := (sound.running record isRecord running).state
    rw [alive.2] at state
    split at state
    · cases state
    · simp [*]
  have notInExits := sound.exits record isRecord
  have sameChild : ∀ other, (exitRecord record.child status other).child = other.child :=
    fun other => congrArg Child.pid (exitRecord_child record.child status other)
  have sameParent : ∀ other, (exitRecord record.child status other).parentPid = other.parentPid :=
    fun other => congrArg Child.parentPid (exitRecord_child record.child status other)
  have sameDetached : ∀ other, (exitRecord record.child status other).detached = other.detached :=
    fun other => congrArg Child.detached (exitRecord_child record.child status other)
  have others : ∀ other, other.child ≠ record.child →
      exitRecord record.child status other = other := fun other away => if_neg away
  have isExited : (exitRecord record.child status record).exited = true ∧
      (exitRecord record.child status record).exitStatus = status := by
    rw [exitRecord, if_pos rfl]
    exact ⟨rfl, rfl⟩
  have before : ∀ {holds : SpawnRecord → Prop},
      (∀ other ∈ system.records, holds (exitRecord record.child status other)) →
      ∀ other ∈ system.records.map (exitRecord record.child status), holds other := by
    intro holds each other isOther
    rcases List.mem_map.mp isOther with ⟨old, isOld, rfl⟩
    exact each old isOld
  have processes : ∀ name, (exitState system record.child status).processes name =
      if name = record.child then
        { system.processes record.child with
          state := .finished
          task := some .finished }
      else system.processes name := processes_setProcess system record.child _
  have same : ∀ name, ((exitState system record.child status).processes name).pid =
        (system.processes name).pid ∧
      ((exitState system record.child status).processes name).registered =
        (system.processes name).registered ∧
      ((exitState system record.child status).processes name).waiting = (system.processes name).waiting := by
    intro name
    rw [processes]
    split
    · simp [*]
    · exact ⟨rfl, rfl, rfl⟩
  refine { sound with
    counted := ?_
    named := fun name => ?_
    created := fun name registered => ?_
    distinct := ?_
    active := before fun other isOther => ?_
    running := before fun other isOther free => ?_
    stuck := fun name isStuck => ?_
    recorded := before fun other isOther => ?_
    kept := fun child isChild unreaped => ?_
    reaped := fun reap isReap => ?_
    exitsOnce := ?_
    exits := before fun other isOther => ?_
    exitsSpawned := fun entry isEntry => ?_
    waits := fun name child isWaiting => ?_
    orphans := fun other isOther attached => ?_ }
  · change system.spawnRecordCount = (system.records.map _).length
    rw [List.length_map]
    exact sound.counted
  · rw [(same name).1, (same name).2.1]
    exact sound.named name
  · rw [(same name).2.1] at registered
    exact sound.created name registered
  · change ((system.records.map (exitRecord record.child status)).map SpawnRecord.child).Nodup
    rw [List.map_map]
    have composed : SpawnRecord.child ∘ exitRecord record.child status = SpawnRecord.child :=
      funext sameChild
    rw [composed]
    exact sound.distinct
  · rw [exitRecord_active]
    exact sound.active other isOther
  · rw [sameChild] at free
    by_cases isIt : other.child = record.child
    · have isSame := sound.record_unique isOther isRecord isIt
      constructor
      · grind
      · simp [*]
      simp [*]
    · rw [others other isIt]
      have old := sound.running other isOther free
      have kept := (processes other.child).trans (if_neg isIt)
      exact ⟨by rw [kept]; exact old.registered, by rw [kept]; exact old.state,
        by rw [kept]; exact old.task⟩
  · rcases sound.stuck name isStuck with ⟨finished, below, exited⟩
    refine ⟨?_, below, before fun other isOther isName => ?_⟩
    · grind
    grind
  · rw [exitRecord_child, sameChild]
    exact sound.recorded other isOther
  · rcases sound.kept child isChild unreaped with ⟨other, isOther, isIt⟩
    exact ⟨_, List.mem_map_of_mem isOther, (exitRecord_child _ _ other).trans isIt⟩
  · rcases sound.reaped reap isReap with ⟨child, isChild, isPid, right, exit⟩
    exact ⟨child, isChild, isPid, right, List.mem_append_left _ exit⟩
  · change ((system.books.exits ++ [(record.child, status)]).map Prod.fst).Nodup
    rw [List.map_append, List.map_singleton, List.nodup_append]
    refine ⟨sound.exitsOnce, List.nodup_singleton _, ?_⟩
    grind
  · change if _ then _ ∈ system.books.exits ++ [(record.child, status)]
      else _ ∉ (system.books.exits ++ [(record.child, status)]).map Prod.fst
    by_cases isIt : other.child = record.child
    · rw [sound.record_unique isOther isRecord isIt, sameChild, isExited.1, isExited.2, if_pos rfl]
      simp
    have old := sound.exits other isOther
    simp_all
  · rcases List.mem_append.mp isEntry with old | isNew
    · exact sound.exitsSpawned entry old
    · rw [List.mem_singleton.mp isNew]
      exact List.mem_map_of_mem (sound.recorded record isRecord).1
  · rw [(same name).2.2] at isWaiting
    rcases sound.waits name child isWaiting with ⟨below, mine⟩
    refine ⟨below, before fun other isOther isChild => ?_⟩
    simp_all
  · change other ∈ system.records.map (exitRecord record.child status) at isOther
    change _ ∨ other.child ∈ system.books.abandoned ++ leftBehind _ record.child
    by_cases isParent : other.parentPid = record.child
    · rw [leftBehind]
      grind
    · rcases List.mem_map.mp isOther with ⟨old, isOld, rfl⟩
      rw [sameDetached] at attached
      rcases sound.orphans old isOld attached with isUp | abandoned
      · rw [isAlive_eq_true] at isUp ⊢
        grind
      grind

theorem taskWakePid_updateRecord (system : System) (child pid : Nat) (change : SpawnRecord → SpawnRecord) :
    taskWakePid (system.updateRecord child change) pid =
      (taskWakePid system pid).updateRecord child change := by
  rw [taskWakePid, taskWakePid]
  have sameAlive : (system.updateRecord child change).isAlive pid = system.isAlive pid := rfl
  have sameProcesses : (system.updateRecord child change).processes = system.processes := rfl
  rw [sameAlive, sameProcesses]
  split
  · rfl
  · rfl

theorem m36Exit_sound (sound : SpawnSound system) {name : Nat} (alive : system.isAlive name = true)
    (status : Int) : SpawnSound (m36Exit system name status) := by
  rw [m36Exit]
  split
  · exact sound
  rename_i record found
  have isRecord := List.mem_of_find?_eq_some found
  have isChild := List.find?_some found
  rw [Bool.and_eq_true, beq_iff_eq] at isChild
  rcases isChild with ⟨-, rfl⟩
  dsimp only
  split
  · have woken := taskWakePid_sound sound record.parentPid
    have stillAlive : (taskWakePid system record.parentPid).isAlive record.child = true := by
      rw [isAlive_eq_true] at alive ⊢
      rw [(taskWakePid_processes system record.parentPid record.child).1,
        (taskWakePid_processes system record.parentPid record.child).2]
      exact alive
    rw [← taskWakePid_records system record.parentPid] at isRecord
    rw [taskWakePid_updateRecord]
    exact exitState_sound woken isRecord stillAlive status
  · exact exitState_sound sound isRecord alive status

variable {parent : Nat}

theorem m36WaitFinish_sound (sound : SpawnSound system)
    (isRecord : record ∈ system.records) (isParent : record.parentPid = parent)
    (attached : record.detached = false) (answers : WaitAnswers) :
    SpawnSound (m36WaitFinish system parent record answers).2 := by
  rw [m36WaitFinish]
  split
  · exact sound
  rename_i finished
  rw [not_not] at finished
  split
  · exact sound
  have reaped := m36ReapRecord_sound sound isRecord finished (some parent)
    ⟨attached, isParent⟩ answers.frees
  grind

theorem m36RecordAnyFinished_found (found : m36RecordAnyFinished system parent = some record) :
    record ∈ system.records ∧ m36RecordWaitable record parent = true ∧
      (system.processes record.child).state = .finished := by
  revert found
  refine List.foldlRecOn (motive := fun best => best = some record → record ∈ system.records ∧
    m36RecordWaitable record parent = true ∧ (system.processes record.child).state = .finished)
    system.records _ (by rintro ⟨⟩) fun best known head inside isRecord => ?_
  split at isRecord
  · exact known isRecord
  rename_i admitted
  rw [not_or, Bool.not_eq_false, not_not] at admitted
  split at isRecord
  · cases isRecord
    exact ⟨inside, admitted⟩
  grind

theorem m36RecordAnyFinished_eq_some (found : m36RecordAnyFinished system parent = some record) :
    record ∈ system.records ∧ record.parentPid = parent ∧ record.detached = false := by
  rcases m36RecordAnyFinished_found found with ⟨isRecord, waitable, -⟩
  simp_all [m36RecordWaitable, Bool.and_eq_true, beq_iff_eq]

theorem m36RecordPid_eq_some {pid parent : Nat} (found : m36RecordPid system pid parent = some record) :
    record ∈ system.records ∧ (system.processes record.child).pid = pid ∧
      record.parentPid = parent := by
  have holds := List.find?_some found
  rw [Bool.and_eq_true, Bool.and_eq_true, beq_iff_eq, beq_iff_eq] at holds
  exact ⟨List.mem_of_find?_eq_some found, holds.1.2, holds.2⟩

/-- What a process may wait for: any child, or one of its own -/
def MayWait (system : System) (parent : Nat) : WaitTarget → Prop
  | .any => True
  | .child child => child < system.nextPid ∧ ∀ record ∈ system.records, record.child = child →
      record.parentPid = parent ∧ record.detached = false

section

variable (sound : SpawnSound system)
include sound

/-- The flags for a waiting parent have changed, or nothing at all. -/
theorem blockWaiting_sound {target : WaitTarget}
    (ready : (system.processes parent).task = some .ready) (mayWait : MayWait system parent target) :
    SpawnSound (blockWaiting system parent target) := by
  apply sound.setTask
  · simp [*]
  · exact fun impossible => by cases impossible
  · intro child isTarget
    rw [Option.some.injEq] at isTarget
    rw [isTarget] at mayWait
    exact mayWait

theorem m36WaitLoop_sound (ready : (system.processes parent).task = some .ready) (answers : WaitAnswers)
    {target : WaitTarget} (mayWait : MayWait system parent target) :
    SpawnSound (m36WaitLoop system parent answers target).2 := by
  cases target with
  | child name =>
    rw [m36WaitLoop]
    split
    · exact sound
    rename_i record found
    rcases recordOf_eq_some found with ⟨isRecord, isName⟩
    rcases mayWait with ⟨below, mine⟩
    rcases mine record isRecord isName with ⟨isParent, attached⟩
    split
    · exact m36WaitFinish_sound sound isRecord isParent attached answers
    split
    · exact sound.updateParentWaiting name false
    refine blockWaiting_sound (sound.updateParentWaiting name true) ready ⟨below, ?_⟩
    intro other isOther isChild
    rcases List.mem_map.mp isOther with ⟨old, isOld, rfl⟩
    grind
  | any =>
    rw [m36WaitLoop]
    split
    · grind [m36RecordAnyFinished_eq_some, m36WaitFinish_sound]
    split
    · exact sound.setParentWaiting parent false
    · exact blockWaiting_sound (sound.setParentWaiting parent true) ready trivial

theorem m36Waitpid_sound
    (ready : (system.processes parent).task = some .ready) (pid : Nat) (answers : WaitAnswers) :
    SpawnSound (m36Waitpid system parent pid answers).2 := by
  rw [m36Waitpid]
  split
  · split
    · exact sound
    · split
      · exact sound
      · exact m36WaitLoop_sound sound ready answers trivial
  · split
    · exact sound
    · rename_i record found
      rcases m36RecordPid_eq_some found with ⟨isRecord, -, isParent⟩
      split
      · exact sound
      rename_i admitted
      rw [not_or, Bool.not_eq_true] at admitted
      apply m36WaitLoop_sound sound ready answers
      refine ⟨sound.child_lt isRecord, ?_⟩
      intro other isOther same
      rw [sound.record_unique isOther isRecord same]
      exact ⟨isParent, admitted.2⟩

theorem m36WaitResume_sound (ready : (system.processes parent).task = some .ready) {target : WaitTarget}
    (isWaiting : (system.processes parent).waiting = some target) (answers : WaitAnswers) :
    SpawnSound (m36WaitResume system parent target answers).2 := by
  have awake : SpawnSound (system.setProcess parent
      { system.processes parent with waiting := none }) := by
    apply sound.setTask
    · simp [*]
    · simp [*]
    · simp
  have stillReady : ((system.setProcess parent
      { system.processes parent with waiting := none }).processes parent).task = some .ready := by
    rw [processes_setProcess, if_pos rfl]
    exact ready
  cases target with
  | child name =>
    apply m36WaitLoop_sound (awake.updateParentWaiting name false) stillReady answers
    rcases sound.waits parent name isWaiting with ⟨below, mine⟩
    refine ⟨below, ?_⟩
    intro other isOther isChild
    rcases List.mem_map.mp isOther with ⟨old, isOld, rfl⟩
    split at isChild
    · rename_i same
      rw [if_pos same]
      exact mine old isOld same
    omega
  | any =>
    rw [m36WaitResume]
    split
    · exact awake.setParentWaiting parent false
    · exact m36WaitLoop_sound (awake.setParentWaiting parent false) stillReady answers trivial

end

end

end BoringOS.Spawn
