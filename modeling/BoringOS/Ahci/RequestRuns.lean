import BoringOS.Ahci.RequestSteps

namespace BoringOS.Ahci

open Library

/-!
# Requests that report success

A read that returns with success has brought the blocks that were asked for, after a
write with success its data is on the stable storage, and a flush with success leaves
nothing in the cache only.  This holds as long as no write starts while a read that
was given up is still outstanding.
-/

variable (s : BlockSystem)

/-- What a request with success is said to have done -/
def ReportsHonestly : Prop :=
  match s.phase with
  | .returned request .ok =>
    match request.kind with
    | .read => ∀ index < request.blockCount,
        s.callerBlock request index = s.content (request.firstBlock + index)
    | .write => ∀ index < request.blockCount, s.adapter.disk.cached (request.firstBlock + index) = none ∧
          s.adapter.disk.stable (request.firstBlock + index) = s.callerBlock request index
    | .flush => s.adapter.disk.Clean
  | _ => True

theorem requestInvariant_start {start : BlockSystem} (isStart : AhciStart start) :
    RequestInvariant start where
  sound := portSound_start isStart
  blocks := isStart.blocks
  uncached := isStart.uncached
  phase := by
    rw [isStart.idle]
    trivial

theorem RequestInvariant.reportsHonestly {s : BlockSystem} (invariant : RequestInvariant s) :
    ReportsHonestly s := by
  have holds := invariant.phase
  rw [ReportsHonestly]
  split
  · rename_i request place
    rw [place] at holds
    have served := holds.1
    rw [Served] at served
    split
    · simp_all
    · rename_i isWrite
      rw [isWrite] at served
      intro index inside
      have isClean := served.2 (request.firstBlock + index)
      have written := served.1 index inside
      simp_all [BlockSystem.content, WriteCache.content, Option.getD_none]
    simp_all
  · trivial

theorem ahci_run_honest {start : BlockSystem} (isStart : AhciStart start) (steps : List AhciStep)
    (admits : Respects BlockSystem.step BlockSystem.admitsWrite start steps) :
    ReportsHonestly (run BlockSystem.step start steps) := by
  have kept : ∀ s step, RequestInvariant s → s.admitsWrite step →
      RequestInvariant (s.step step) := fun s step invariant admits =>
    (step_change s step).invariant invariant admits
  exact (run_invariant_of_respects kept steps start (requestInvariant_start isStart) admits).reportsHonestly

/-- The bounce buffer is filled to its end. -/
theorem run_filling (count : Nat) :
    ∀ (s : BlockSystem) (transfer : Transfer) (copied : Nat), s.phase = .filling transfer copied →
      copied + count = transfer.fill.length →
      run BlockSystem.step s (List.replicate (count + 1) .drive) =
        { s with
          memory.bounce := s.memory.bounce.overwrite copied (transfer.fill.drop copied)
          phase := .issuing transfer (.awaitingReady 0) } := by
  induction count with
  | zero =>
    intro s transfer copied place isLength
    have atEnd : transfer.fill[copied]? = none := List.getElem?_eq_none (by omega)
    rw [List.drop_eq_nil_of_le (by omega), ByteVolume.overwrite_nil]
    simp only [List.replicate_succ, List.replicate_zero, run_cons, run_nil, BlockSystem.step,
      BlockSystem.drive, place, atEnd, BlockSystem.goTo]
  | succ count ih =>
    intro s transfer copied place isLength
    have inside : copied < transfer.fill.length := by omega
    have turn : s.step .drive =
        { s with
          memory.bounce := s.memory.bounce.overwrite copied [transfer.fill[copied]]
          phase := .filling transfer (copied + 1) } := by
      simp only [BlockSystem.step, BlockSystem.drive, place, List.getElem?_eq_getElem inside]
    rw [List.replicate_succ, run_cons, turn, ih _ transfer (copied + 1) rfl (by omega)]
    have both := ByteVolume.overwrite_overwrite s.memory.bounce copied [transfer.fill[copied]]
      (transfer.fill.drop (copied + 1))
    simp_all

/-- As long as the command has not ended, the driver polls. -/
theorem run_polls (count : Nat) :
    ∀ (s : BlockSystem) (transfer : Transfer) (spins : Nat),
      s.phase = .issuing transfer (.polling spins) → s.adapter.taskFileError = false →
      s.adapter.issued = true → spins + count ≤ ahciBlockPollLimit →
      run BlockSystem.step s (List.replicate (2 * count) .drive) =
        { s with phase := .issuing transfer (.polling (spins + count)) } := by
  induction count with
  | zero =>
    intro s transfer spins place _ _ _
    rw [Nat.mul_zero, Nat.add_zero, ← place]
    rfl
  | succ count ih =>
    intro s transfer spins place noError isIssued below
    have early : ¬ ahciBlockPollLimit ≤ spins := by omega
    have turns : (s.step .drive).step .drive =
        { s with phase := .issuing transfer (.polling (spins + 1)) } := by
      simp only [BlockSystem.step, BlockSystem.drive, place, BlockSystem.issueCommand, noError,
        isIssued, if_neg early, BlockSystem.goTo, Bool.false_eq_true, if_false, Bool.true_eq_false]
    rw [Nat.mul_succ, List.replicate_succ, List.replicate_succ, run_cons, run_cons, turns,
      ih { s with phase := .issuing transfer (.polling (spins + 1)) } transfer (spins + 1) rfl
        noError isIssued (by omega)]
    simp only [Nat.add_assoc, Nat.add_comm 1]

/-- The steps that fill the bounce buffer.  They are thousands, and not to be unfolded. -/
@[irreducible] def loading (transfer : Transfer) : List AhciStep :=
  List.replicate (transfer.fill.length + 1) .drive

/-- The state after them -/
def BlockSystem.loaded (transfer : Transfer) : BlockSystem :=
  { s with
    memory.bounce := s.memory.bounce.overwrite 0 transfer.fill
    phase := .issuing transfer (.awaitingReady 0) }

theorem run_loading {s : BlockSystem} {transfer : Transfer} (place : s.phase = .filling transfer 0) :
    run BlockSystem.step s (loading transfer) = s.loaded transfer := by
  rw [loading]
  exact run_filling transfer.fill.length s transfer 0 place (Nat.zero_add _)

theorem mem_loading {transfer : Transfer} {step : AhciStep} (isStep : step ∈ loading transfer) :
    step = .drive := by
  rw [loading] at isStep
  exact List.eq_of_mem_replicate isStep

/-- The steps that issue a command -/
def issuingSteps : List AhciStep := List.replicate 6 .drive ++ [.fetch]

/-- The steps of the adapter that serve a command with one block -/
def servingSteps : List AhciStep := [.move 0, .finish]

/-- A disk without a cache, with ones in its first block and twos in the others -/
def freshDriver : BlockSystem where
  driver := ⟨true, false, ⟨16, 512, true, false, false⟩, 8⟩
  memory := ⟨⟨0, 0, none⟩, ⟨[], none, 0⟩, fun _ => 0⟩
  adapter :=
    { issued := false
      active := false
      taskFileError := false
      busy := false
      error := false
      current := none
      halted := false
      disk := ⟨fun _ => none, fun place => List.replicate 512 (if place = 0 then 1 else 2)⟩ }
  phase := .idle

theorem freshDriver_start : AhciStart freshDriver where
  idle := rfl
  notIssued := rfl
  nothingCurrent := rfl
  notHalted := rfl
  blockSize := by decide
  blocks := fun _ => List.length_replicate
  uncached := fun _ _ => rfl

/-- The first block is read. -/
def firstRead : Request := ⟨.read, 0, 1, fun _ => 0⟩

def firstReadTransfer : Transfer :=
  ⟨firstRead, registerFis ataCmdReadDmaExt 0 ataDeviceLba 0 1, 512, false⟩

/-- Threes are written to the second block. -/
def secondWrite : Request := ⟨.write, 1, 1, fun _ => 3⟩

def secondWriteTransfer : Transfer :=
  ⟨secondWrite, registerFis ataCmdWriteDmaExt 1 ataDeviceLba 0 1, 512, true⟩

theorem respects_of_noWrite (steps : List AhciStep) :
    ∀ start, (∀ step ∈ steps, ∀ request given, step = .request request given →
        request.kind ≠ .write) →
      Respects BlockSystem.step BlockSystem.admitsWrite start steps := by
  induction steps with
  | nil => exact fun _ _ => trivial
  | cons step rest ih =>
    intro start noWrite
    refine ⟨?_, ih _ fun other isOther => noWrite other (List.mem_cons_of_mem step isOther)⟩
    cases step with
    | request request given =>
      exact fun _ isWrite =>
        absurd isWrite (noWrite _ List.mem_cons_self request given rfl)
    | _ => trivial

/-- The first block is read, and its data comes in time. -/
def promptRead : List AhciStep :=
  .request firstRead true ::
    (loading firstReadTransfer ++ (issuingSteps ++ servingSteps ++ List.replicate 5 .drive))

theorem ahci_run_honest_promptRead :
    ReportsHonestly (run BlockSystem.step freshDriver promptRead) := by
  refine ahci_run_honest freshDriver_start promptRead (respects_of_noWrite _ _ ?_)
  rintro step isStep request given rfl
  rcases List.mem_cons.mp isStep with isFirst | isLater
  · rw [(AhciStep.request.inj isFirst).1]
    nofun
  rcases List.mem_append.mp isLater with isLoading | isServing
  · cases mem_loading isLoading
  · simp only [issuingSteps, servingSteps, List.mem_append, List.mem_replicate, List.mem_cons,
      List.not_mem_nil, reduceCtorEq, and_false, or_self] at isServing

/-- The driver waits for the command of a request, as long as it does, and gives it up.
Another request fills the bounce buffer, and then there are further steps. -/
def lateRun (first second : Transfer) (rest : List AhciStep) (spins : Nat) : List AhciStep :=
  [.request first.request true] ++ (loading first ++ (issuingSteps ++
    (List.replicate (2 * spins) .drive ++
      ((List.replicate 3 .drive ++ [.request second.request true]) ++ (loading second ++ rest)))))

/-- The state of this run after the first command was issued -/
def afterIssue (first : Transfer) : BlockSystem :=
  run BlockSystem.step ((freshDriver.step (.request first.request true)).loaded first) issuingSteps

/-- The state after the first command was given up and the second request has begun -/
def afterTimeout (first second : Transfer) : BlockSystem :=
  run BlockSystem.step
    { afterIssue first with phase := .issuing first (.polling ahciBlockPollLimit) }
    (List.replicate 3 .drive ++ [.request second.request true])

theorem run_late {first second : Transfer} {rest : List AhciStep} {spins : Nat}
    (begins : (freshDriver.step (.request first.request true)).phase = .filling first 0)
    (polls : (afterIssue first).phase = .issuing first (.polling 0))
    (noError : (afterIssue first).adapter.taskFileError = false)
    (isIssued : (afterIssue first).adapter.issued = true)
    (fills : (afterTimeout first second).phase = .filling second 0) (isLimit : spins = ahciBlockPollLimit) :
    run BlockSystem.step freshDriver (lateRun first second rest spins) =
      run BlockSystem.step ((afterTimeout first second).loaded second) rest := by
  have fits : 0 + spins ≤ ahciBlockPollLimit := by omega
  rw [lateRun, run_append, run_append, run_cons, run_nil, run_loading begins, run_append]
  change run BlockSystem.step (afterIssue first) _ = _
  rw [run_append, run_polls spins (afterIssue first) first 0 polls noError isIssued fits,
    Nat.zero_add, isLimit, run_append]
  change run BlockSystem.step (afterTimeout first second) _ = _
  rw [run_append, run_loading fills]

/-- Whether a write is reported whose first block is not on the disk -/
def reportsUnwritten : Bool :=
  match s.phase with
  | .returned request .ok =>
    request.kind == .write && decide (0 < request.blockCount) &&
      s.adapter.disk.stable (request.firstBlock + 0) != s.callerBlock request 0
  | _ => false

theorem ReportsHonestly.written {s : BlockSystem} (honest : ReportsHonestly s) :
    reportsUnwritten s = false := by
  rw [reportsUnwritten]
  rw [ReportsHonestly] at honest
  split
  · rename_i request place
    rw [place] at honest
    cases isKind : request.kind with
    | write =>
      grind
    | _ => rfl
  · rfl

/-- The read ends after the data of the write has been put into the bounce buffer, and
the write is issued and served. -/
def readThenServed : List AhciStep :=
  servingSteps ++ issuingSteps ++ servingSteps ++ List.replicate 5 .drive

/-- The write is reported, but the data of the read is in its block. -/
theorem late_read_overwrites :
    ¬∀ (start : BlockSystem) (steps : List AhciStep), AhciStart start →
      ReportsHonestly (run BlockSystem.step start steps) := by
  intro honest
  rcases (⟨_, rfl⟩ : ∃ spins, spins = ahciBlockPollLimit) with ⟨spins, isLimit⟩
  have reported := (honest freshDriver
    (lateRun firstReadTransfer secondWriteTransfer readThenServed spins) freshDriver_start).written
  have unwritten : reportsUnwritten (run BlockSystem.step
      ((afterTimeout firstReadTransfer secondWriteTransfer).loaded secondWriteTransfer)
      readThenServed) = true := by
    decide +kernel
  rw [run_late rfl rfl rfl rfl rfl isLimit, unwritten] at reported
  cases reported

/-!
## After a task-file error

An adapter that keeps the issue bit of a failed command processes nothing more until
the driver restarts the port.  No request does that, and each one is refused where it
reads the issue bit.
-/

/-- A request for data returns with success only when the issue bit is clear. -/
def ReturnsQuiet : Prop :=
  ∀ request, s.phase = .returned request .ok → request.kind = .flush ∨ s.adapter.issued = false

/-- An error has stopped the adapter. -/
structure Stuck (s : BlockSystem) : Prop where
  halted : s.adapter.halted = true
  sound : PortSound s
  returns : ReturnsQuiet s

section

variable {s next : BlockSystem} {step : AhciStep}

theorem Change.returnsQuiet (change : Change s step next) (sound : PortSound s)
    (returns : ReturnsQuiet s) : ReturnsQuiet next := by
  cases ofAdapter : step.isOfAdapter with
  | true =>
    intro request place
    rw [(change.of_adapter ofAdapter).1] at place
    rcases returns request place with isFlush | clear
    · exact Or.inl isFlush
    · exact Or.inr (change.of_clear sound ofAdapter clear).2.2.2
  | false =>
    have quiet : ∀ transfer, s.phase = .answered transfer true → s.adapter.issued = false :=
      fun transfer place => sound.quiet (by rw [place]; rfl)
    cases change with
    | nothing => exact returns
    | uncached request given isFlush =>
      intro other place
      cases place
      exact Or.inl isFlush
    | readDone transfer place => exact fun _ _ => Or.inr (quiet transfer place)
    | writeDone transfer place => exact fun _ _ => Or.inr (quiet transfer place)
    | flushDone transfer place => exact fun _ _ => Or.inr (quiet transfer place)
    | went transfer stage phase place goes =>
      intro request isReturned
      rw [show phase = .returned request .ok from isReturned] at goes
      cases goes
    | refused | started | startedFlush | filled | loaded | prepared | cleared | issued
    | failed | written | idled =>
      intro request place
      cases place
    | _ => cases ofAdapter

theorem Change.stuck (change : Change s step next) (stuck : Stuck s) : Stuck next where
  halted := by
    cases change with
    | finished command disk isCurrent =>
      cases stuck.halted.symm.trans (stuck.sound.current command isCurrent).2.1
    | erred stops command isCurrent =>
      cases stuck.halted.symm.trans (stuck.sound.current command isCurrent).2.1
    | _ => exact stuck.halted
  sound := change.sound stuck.sound
  returns := change.returnsQuiet stuck.sound stuck.returns

/-- The adapter works on nothing, and the driver neither issues a command nor has served
a request for data. -/
theorem Stuck.serves_nothing (stuck : Stuck s) :
    s.adapter.current = none ∧ (∀ transfer, s.phase ≠ .issuing transfer .issuing) ∧
      ∀ request, s.phase = .returned request .ok → request.kind = .flush := by
  have isIssued := stuck.sound.halted stuck.halted
  refine ⟨?_, fun transfer place => ?_, fun request place => ?_⟩
  · cases isCurrent : s.adapter.current with
    | none => rfl
    | some command => cases stuck.halted.symm.trans (stuck.sound.current command isCurrent).2.1
  · cases isIssued.symm.trans (stuck.sound.quiet (by rw [place]; rfl))
  · refine (stuck.returns request place).resolve_right fun clear => ?_
    cases isIssued.symm.trans clear

/-- What holds before any error -/
theorem run_returnsQuiet (isStart : AhciStart s) (steps : List AhciStep) :
    PortSound (run BlockSystem.step s steps) ∧ ReturnsQuiet (run BlockSystem.step s steps) := by
  have started : PortSound s ∧ ReturnsQuiet s := by
    refine ⟨portSound_start isStart, ?_⟩
    rw [ReturnsQuiet, isStart.idle]
    nofun
  exact @run_invariant _ _ BlockSystem.step (fun s => PortSound s ∧ ReturnsQuiet s)
    (fun s step holds => ⟨(step_change s step).sound holds.1,
      (step_change s step).returnsQuiet holds.1 holds.2⟩) steps s started

theorem stuck_of_error (sound : PortSound s) (returns : ReturnsQuiet s) {command : Command}
    (isCurrent : s.adapter.current = some command) : Stuck (s.step (.fail true)) := by
  have change := step_change s (.fail true)
  refine ⟨?_, change.sound sound, change.returnsQuiet sound returns⟩
  rw [BlockSystem.step, HostAdapter.fail, isCurrent]

theorem run_stuck (isStart : AhciStart s) (before after : List AhciStep) {command : Command}
    (isCurrent : (run BlockSystem.step s before).adapter.current = some command) :
    Stuck (run BlockSystem.step s (before ++ .fail true :: after)) := by
  rcases run_returnsQuiet isStart before with ⟨sound, returns⟩
  rw [run_append, run_cons]
  exact @run_invariant _ _ BlockSystem.step Stuck
    (fun s step stuck => (step_change s step).stuck stuck) after _ (stuck_of_error sound returns isCurrent)

end

/-- A request for data is served. -/
def Serves : Prop := ∃ request, s.phase = .returned request .ok ∧ request.kind ≠ .flush

/-- After a command has ended with an error and stopped the adapter, no command is
issued and no request for data is served any more. -/
theorem ahci_error_final {start : BlockSystem} (isStart : AhciStart start)
    (before after : List AhciStep) {command : Command}
    (isCurrent : (run BlockSystem.step start before).adapter.current = some command) :
    let s := run BlockSystem.step start (before ++ .fail true :: after)
    ¬ Serves s ∧ s.adapter.current = none ∧ ∀ transfer, s.phase ≠ .issuing transfer .issuing := by
  have stuck := run_stuck isStart before after isCurrent
  rcases stuck.serves_nothing with ⟨nothing, notIssuing, onlyFlush⟩
  refine ⟨?_, nothing, notIssuing⟩
  rintro ⟨request, place, hasData⟩
  exact hasData (onlyFlush request place)

/-- The first block is read up to the fetch of the command. -/
def badRead : List AhciStep := .request firstRead true :: (loading firstReadTransfer ++ issuingSteps)

theorem run_badRead :
    (run BlockSystem.step freshDriver badRead).adapter.current = some ⟨.read, 0, 1, []⟩ := by
  have begins : (freshDriver.step (.request firstRead true)).phase = .filling firstReadTransfer 0 := rfl
  rw [badRead, run_cons, run_append, run_loading begins]
  rfl

/-- The driver gives up the read of the bad block, and a good one is read, up to its return. -/
def goodRead : List AhciStep :=
  List.replicate 3 .drive ++ [.request firstRead true] ++
    (loading firstReadTransfer ++ List.replicate 3 .drive)

/-- The good read is not served, and `PxCI` is the reason. -/
theorem ahci_error_final_badRead :
    ¬ Serves (run BlockSystem.step freshDriver (badRead ++ .fail true :: goodRead)) ∧
      (run BlockSystem.step freshDriver (badRead ++ .fail true :: goodRead)).phase =
        .returned firstRead .ioError := by
  refine ⟨(ahci_error_final freshDriver_start badRead goodRead run_badRead).1, ?_⟩
  have begins : (freshDriver.step (.request firstRead true)).phase = .filling firstReadTransfer 0 := rfl
  have bad : run BlockSystem.step freshDriver badRead = afterIssue firstReadTransfer := by
    rw [badRead, run_cons, run_append, run_loading begins]
    rfl
  rw [run_append, bad, run_cons, goodRead, run_append, run_append, run_loading]
  · rfl
  · rfl

/-- The disk recovers from an error if it can ever serve a request for data again. -/
theorem ahci_never_recovers :
    ¬∀ (start : BlockSystem) (before : List AhciStep) (command : Command), AhciStart start →
      (run BlockSystem.step start before).adapter.current = some command →
      ∃ after, Serves (run BlockSystem.step start (before ++ .fail true :: after)) := by
  intro recovers
  rcases recovers freshDriver badRead _ freshDriver_start run_badRead with
    ⟨after, request, place, hasData⟩
  have stuck := run_stuck freshDriver_start badRead after run_badRead
  exact hasData (stuck.serves_nothing.2.2 request place)

end BoringOS.Ahci
