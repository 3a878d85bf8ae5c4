import BoringOS.Ahci.RequestRuns

namespace BoringOS.Ahci

open Library

/-!
# What reaches the sectors

The adapter may fetch the data of a write as long as the write is outstanding.  A
sector therefore gets the data of a write to that sector, provided that nothing is put
into the bounce buffer in that time.
-/

/-- The earlier commands do not move data from the bounce buffer any more. -/
def NoWrite (s : BlockSystem) : Prop :=
  ∀ command, s.outstanding = some command → command.kind ≠ .write

/-- A request for which the bounce buffer is filled starts when no write is outstanding,
and if it is a write itself, no read either. -/
def BlockSystem.admitsFill (s : BlockSystem) : AhciStep → Prop
  | .request request given =>
    s.accepts request given → NoWrite s ∧ (request.kind = .write → NoRead s)
  | _ => True

/-- The block is what was there at first, or what one of the writes to its place carried. -/
def Carried (writes : Request → Prop) (blockSize : Nat) (initial : List UInt8) (place : Nat)
    (block : List UInt8) : Prop :=
  block = initial ∨ ∃ request index, writes request ∧ request.kind = .write ∧
    index < request.blockCount ∧ place = request.firstBlock + index ∧
    block = request.buffer.read (index * blockSize) blockSize

/-- What holds in every state, when the writes are among these -/
structure SectorInvariant (writes : Request → Prop) (initial : Nat → List UInt8)
    (s : BlockSystem) : Prop where
  base : RequestInvariant s
  filling : ∀ transfer copied, s.phase = .filling transfer copied → NoWrite s
  known : ∀ transfer, s.phase.transfer = some transfer → writes transfer.request
  outstanding : ∀ command, s.outstanding = some command → command.kind = .write →
    ∃ request, writes request ∧ request.kind = .write ∧ command.lba = request.firstBlock ∧
      command.count = request.blockCount ∧ Loaded s request
  carried : ∀ place, Carried writes s.blockSize (initial place) place (s.content place)

section

variable {writes : Request → Prop} {initial : Nat → List UInt8} {s next : BlockSystem}
  {step : AhciStep}

theorem Change.known (change : Change s step next)
    (known : ∀ transfer, s.phase.transfer = some transfer → writes transfer.request)
    (requested : ∀ request given, step = .request request given → writes request) :
    ∀ transfer, next.phase.transfer = some transfer → writes transfer.request := by
  cases change with
  | refused => nofun
  | uncached => nofun
  | started transfer given =>
    rintro other isOther
    rw [← Option.some.inj isOther]
    exact requested _ given rfl
  | startedFlush request given =>
    rintro other isOther
    rw [← Option.some.inj isOther]
    exact requested _ given rfl
  | filled transfer copied byte place => exact fun other => known other ∘ (by rw [place]; exact id)
  | loaded transfer copied place => exact fun other => known other ∘ (by rw [place]; exact id)
  | went transfer stage phase place goes =>
    intro other isOther
    rw [goes.issuing] at isOther
    exact known other (by rw [place]; exact isOther)
  | prepared transfer place => exact fun other => known other ∘ (by rw [place]; exact id)
  | cleared transfer place => exact fun other => known other ∘ (by rw [place]; exact id)
  | issued transfer place => exact fun other => known other ∘ (by rw [place]; exact id)
  | failed => nofun
  | readDone => nofun
  | written transfer place =>
    rintro other isOther
    rw [← Option.some.inj isOther]
    exact known transfer (by rw [place]; rfl)
  | writeDone => nofun
  | flushDone => nofun
  | idled => nofun
  | _ => exact known

/-- The bounce buffer is being filled only when no write is outstanding. -/
theorem Change.filling (change : Change s step next) (sound : PortSound s)
    (filling : ∀ transfer copied, s.phase = .filling transfer copied → NoWrite s)
    (admits : s.admitsFill step) :
    ∀ transfer copied, next.phase = .filling transfer copied → NoWrite next := by
  intro transfer copied place command isOutstanding
  have kept : NoWrite s → command.kind ≠ .write := by
    intro noWrite
    rcases change.outstanding sound isOutstanding with same | ⟨other, -, isNext⟩
    · exact noWrite command same
    · rw [isNext] at place
      cases place
  cases change with
  | started other given accepted => exact kept (admits accepted).1
  | filled other count byte isFilling => exact kept (filling other count isFilling)
  | went other stage phase isIssuing goes =>
    rw [show phase = .filling transfer copied from place] at goes
    cases goes
  | nothing => exact kept (filling transfer copied place)
  | fetched => exact kept (filling transfer copied place)
  | movedRead => exact kept (filling transfer copied place)
  | movedWrite => exact kept (filling transfer copied place)
  | movedFlush => exact kept (filling transfer copied place)
  | finished => exact kept (filling transfer copied place)
  | erred => exact kept (filling transfer copied place)
  | setBusy => exact kept (filling transfer copied place)
  | wroteBack => exact kept (filling transfer copied place)
  | _ => cases place

theorem Change.sectors (change : Change s step next) (invariant : SectorInvariant writes initial s)
    (admits : s.admitsFill step)
    (requested : ∀ request given, step = .request request given → writes request) :
    SectorInvariant writes initial next := by
  have sound := invariant.base.sound
  refine ⟨change.invariant invariant.base ?_, change.filling sound invariant.filling admits,
    change.known invariant.known requested, ?_, ?_⟩
  · cases step with
    | request request given =>
      exact fun accepted isWrite => (admits accepted).2 isWrite
    | _ => trivial
  · intro command isOutstanding isWrite
    rcases change.outstanding sound isOutstanding with same | ⟨transfer, place, isNext⟩
    · rcases invariant.outstanding command same isWrite with
        ⟨request, isRequest, ofWrite, isLba, isCount, loaded⟩
      refine ⟨request, isRequest, ofWrite, isLba, isCount, loaded.kept ?_ change.identify⟩
      refine change.bounce sound ?_ fun other isOther => ?_
      · intro isDrive transfer copied place
        exact invariant.filling transfer copied place command same isWrite
      simp_all
    · have holds := invariant.base.phase
      have formed := sound.formed transfer (by rw [place]; rfl)
      have isKnown := invariant.known transfer (by rw [place]; rfl)
      rw [place] at holds
      rcases holds with ⟨ready, fetched⟩
      rw [isNext, BlockSystem.outstanding] at isOutstanding
      split_ifs at isOutstanding
      have isTarget := Option.some.inj (fetched.symm.trans isOutstanding)
      rw [← isTarget] at isWrite ⊢
      rcases target_write isWrite with ⟨-, isLba, isCount⟩
      refine ⟨transfer.request, isKnown, ?_, isLba, isCount, ?_⟩
      · rcases formed.kind with same | ⟨isFlush, -⟩
        · exact same.symm.trans isWrite
        · cases isFlush.symm.trans isWrite
      · rw [isNext]
        exact ready.loaded isWrite
  · intro place
    rw [BlockSystem.blockSize, change.identify]
    rcases change.content sound with same | ⟨command, index, isOutstanding, isWrite, inside, isContent⟩
    · rw [BlockSystem.content, same]
      exact invariant.carried place
    rw [BlockSystem.content, isContent, Function.update_apply]
    split_ifs with isPlace
    · rcases invariant.outstanding command isOutstanding isWrite with
        ⟨request, isRequest, ofWrite, isLba, isCount, loaded⟩
      rw [isCount] at inside
      rw [isLba] at isPlace
      exact Or.inr ⟨request, index, isRequest, ofWrite, inside, isPlace, loaded index inside⟩
    · exact invariant.carried place

theorem run_sectors (steps : List AhciStep) :
    ∀ s, SectorInvariant writes initial s →
      Respects BlockSystem.step BlockSystem.admitsFill s steps →
      (∀ request given, .request request given ∈ steps → writes request) →
      SectorInvariant writes initial (run BlockSystem.step s steps) := by
  induction steps with
  | nil => exact fun _ invariant _ _ => invariant
  | cons step rest ih =>
    intro s invariant admits requested
    refine ih _ ((step_change s step).sectors invariant admits.1 ?_) admits.2 ?_
    · simp_all
    simp_all

theorem sectorInvariant_start {start : BlockSystem} (isStart : AhciStart start) :
    SectorInvariant writes start.content start where
  base := requestInvariant_start isStart
  filling := by
    rw [isStart.idle]
    nofun
  known := by
    rw [isStart.idle]
    nofun
  outstanding := by
    intro command isOutstanding
    cases isOutstanding.symm.trans (outstanding_of_clear isStart.notIssued)
  carried := fun _ => Or.inl rfl

end

/-- The requests of a run -/
def Requested (steps : List AhciStep) (request : Request) : Prop :=
  ∃ given, .request request given ∈ steps

theorem run_blockSize (start : BlockSystem) (steps : List AhciStep) :
    (run BlockSystem.step start steps).blockSize = start.blockSize :=
  @run_invariant _ _ BlockSystem.step (fun s => s.blockSize = start.blockSize)
    (fun s step same => (congrArg _ (step_change s step).identify).trans same) steps start rfl

theorem ahci_sectors_exact {start : BlockSystem} (isStart : AhciStart start) (steps : List AhciStep)
    (admits : Respects BlockSystem.step BlockSystem.admitsFill start steps) (place : Nat) :
    Carried (Requested steps) start.blockSize (start.content place) place
      ((run BlockSystem.step start steps).content place) := by
  have invariant : SectorInvariant (Requested steps) start.content (run BlockSystem.step start steps) :=
    run_sectors steps start (sectorInvariant_start isStart) admits fun request given isStep => ⟨given, isStep⟩
  rw [← run_blockSize start steps]
  exact invariant.carried place

theorem respects_of_noRequest (steps : List AhciStep) :
    ∀ start, (∀ step ∈ steps, ∀ request given, step ≠ .request request given) →
      Respects BlockSystem.step BlockSystem.admitsFill start steps := by
  induction steps with
  | nil => exact fun _ _ => trivial
  | cons step rest ih =>
    intro start noRequest
    refine ⟨?_, ih _ fun other isOther => noRequest other (List.mem_cons_of_mem step isOther)⟩
    cases step with
    | request request given =>
      grind
    | _ => trivial

/-- Threes are written to the second block, and served in time. -/
def promptWrite : List AhciStep :=
  .request secondWrite true ::
    (loading secondWriteTransfer ++ (issuingSteps ++ servingSteps ++ List.replicate 5 .drive))

theorem ahci_sectors_exact_promptWrite :
    Carried (Requested promptWrite) 512 (List.replicate 512 2) 1
      ((run BlockSystem.step freshDriver promptWrite).content 1) := by
  refine ahci_sectors_exact freshDriver_start promptWrite ⟨fun _ => ⟨?_, fun _ => ?_⟩, ?_⟩ 1
  · nofun
  · nofun
  · refine respects_of_noRequest _ _ fun step isStep request given isRequest => ?_
    rw [isRequest] at isStep
    rcases List.mem_append.mp isStep with isLoading | isServing
    · cases mem_loading isLoading
    · simp only [issuingSteps, servingSteps, List.mem_append, List.mem_replicate, List.mem_cons,
        List.not_mem_nil, reduceCtorEq, and_false, or_self] at isServing

/-- The data of the write is moved after the page has been cleared for the read. -/
def lateWrite (spins : Nat) : List AhciStep :=
  lateRun secondWriteTransfer firstReadTransfer [.move 0] spins

theorem carried_lateWrite {spins : Nat} {block : List UInt8}
    (carried : Carried (Requested (lateWrite spins)) 512 (List.replicate 512 2) 1 block) :
    block.head? = some 2 ∨ block.head? = some 3 := by
  rcases carried with rfl | ⟨request, index, ⟨given, isStep⟩, isWrite, -, -, rfl⟩
  · exact Or.inl rfl
  have isSecond : request = secondWrite := by
    simp only [lateWrite, lateRun, issuingSteps, List.mem_append, List.mem_replicate,
      List.mem_cons, List.not_mem_nil, AhciStep.request.injEq, reduceCtorEq, and_false, or_false,
      false_or] at isStep
    rcases isStep with isFirst | isLoading | isOther | isLoading
    · exact isFirst.1
    · cases mem_loading isLoading
    · rw [isOther.1] at isWrite
      cases isWrite
    · cases mem_loading isLoading
  rw [isSecond]
  exact Or.inr rfl

/-- The block of the write gets zeros. -/
theorem late_write_clears :
    ¬∀ (start : BlockSystem) (steps : List AhciStep), AhciStart start → ∀ place,
      Carried (Requested steps) start.blockSize (start.content place) place
        ((run BlockSystem.step start steps).content place) := by
  intro exact'
  rcases (⟨_, rfl⟩ : ∃ spins, spins = ahciBlockPollLimit) with ⟨spins, isLimit⟩
  have carried := carried_lateWrite (exact' freshDriver (lateWrite spins) freshDriver_start 1)
  have cleared : ((run BlockSystem.step
      ((afterTimeout secondWriteTransfer firstReadTransfer).loaded firstReadTransfer)
      [.move 0]).content 1).head? = some 0 := by
    decide +kernel
  rw [lateWrite, run_late rfl rfl rfl rfl rfl isLimit, cleared] at carried
  simp_all

end BoringOS.Ahci
