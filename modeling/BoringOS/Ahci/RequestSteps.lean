import BoringOS.Ahci.PortInvariant

namespace BoringOS.Ahci

open Library

/-!
# One step of the driver or the adapter

A step of the adapter is about the outstanding command.  Before the command of the
request is issued that is an earlier one, which moves no data to the bounce buffer,
and afterwards it is the command itself.
-/

section

variable {s next : BlockSystem} {step : AhciStep} {transfer : Transfer} {request : Request}

/-! ## The command of a transfer -/

theorem target_moved (transfer : Transfer) : transfer.target.moved = [] := by
  rw [Transfer.target]
  split_ifs <;> rfl

theorem target_write (isWrite : transfer.target.kind = .write) :
    transfer.write = true ∧ transfer.target.lba = transfer.request.firstBlock ∧
      transfer.target.count = transfer.request.blockCount := by
  rw [Transfer.target] at isWrite ⊢
  grind

theorem target_read (isRead : transfer.target.kind = .read) :
    transfer.write = false ∧ transfer.target.lba = transfer.request.firstBlock ∧
      transfer.target.count = transfer.request.blockCount := by
  rw [Transfer.target] at isRead ⊢
  grind

theorem target_ne_write (notWrite : transfer.write = false) : transfer.target.kind ≠ .write := by
  grind [target_write]

/-! ## Blocks in the bounce buffer -/

theorem volume_of_read {first second : ByteVolume} {length : Nat}
    (same : first.read 0 length = second.read 0 length) {position : Nat} (inside : position < length) :
    first position = second position := by
  have found := congrArg (fun bytes : List UInt8 => bytes[position]?) same
  rw [ByteVolume.getElem?_read inside, ByteVolume.getElem?_read inside, Nat.zero_add] at found
  exact Option.some.inj found

theorem block_inside {index count size offset : Nat} (inside : index < count)
    (within : offset < size) : index * size + offset < count * size := by
  have whole : (index + 1) * size ≤ count * size := Nat.mul_le_mul_right size inside
  rw [Nat.succ_mul] at whole
  omega

variable {index : Nat}

theorem blocks_of_read {first second : ByteVolume} {size count : Nat}
    (same : first.read 0 (count * size) = second.read 0 (count * size))
    (inside : index < count) : first.read (index * size) size = second.read (index * size) size :=
  ByteVolume.read_congr fun _ within => volume_of_read same (block_inside inside within)

theorem blocks_apart {index other size : Nat} (apart : index ≠ other) :
    other * size + size ≤ index * size ∨ index * size + size ≤ other * size := by
  rw [← Nat.succ_mul, ← Nat.succ_mul]
  rcases Nat.lt_or_gt_of_ne apart with before | behind
  · exact Or.inr (Nat.mul_le_mul_right size before)
  · exact Or.inl (Nat.mul_le_mul_right size behind)

/-! ## What does not change -/

theorem NoRead.kept (noRead : NoRead s) (change : Change s step next) (sound : PortSound s)
    (notIssuing : ∀ transfer, s.phase ≠ .issuing transfer .issuing) : NoRead next :=
  fun command isOutstanding =>
    noRead command (change.stillOutstanding sound notIssuing isOutstanding)

theorem Loaded.kept (loaded : Loaded s request) (same : next.memory.bounce = s.memory.bounce)
    (driver : next.driver.identify = s.driver.identify) : Loaded next request := by
  intro index inside
  rw [BlockSystem.bounceBlock, BlockSystem.callerBlock, BlockSystem.blockSize, same, driver]
  exact loaded index inside

theorem Written.kept (written : Written s request) (same : next.adapter.disk.content = s.adapter.disk.content)
    (driver : next.driver.identify = s.driver.identify) : Written next request := by
  intro index inside
  rw [BlockSystem.content, BlockSystem.callerBlock, BlockSystem.blockSize, same, driver]
  exact written index inside

section

variable (change : Change s step next)
include change

theorem Change.bounce_of_adapter (sound : PortSound s)
    (ofAdapter : step.isOfAdapter = true) (noRead : NoRead s) :
    next.memory.bounce = s.memory.bounce := by
  refine change.bounce sound ?_ noRead
  rintro rfl
  cases ofAdapter

/-- Without a cache, nothing is ever only cached. -/
theorem Change.keepsUncached (uncached : s.driver.identify.writeCacheEnabled = false → s.adapter.disk.Clean) :
    next.driver.identify.writeCacheEnabled = false → next.adapter.disk.Clean := by
  intro isUncached
  rw [change.identify] at isUncached
  have clean := uncached isUncached
  cases change with
  | movedWrite index command disk isCurrent inside isWrite isContent keepsClean =>
    exact keepsClean isUncached clean
  | finished command disk isCurrent allMoved isContent isClean => exact isClean (Or.inl clean)
  | wroteBack place => exact WriteCache.writeBack_clean clean place
  | _ => exact clean

theorem Change.of_adapter (ofAdapter : step.isOfAdapter = true) :
    next.phase = s.phase ∧ next.driver = s.driver ∧
      fetchCommand next.memory s.blockSize = fetchCommand s.memory s.blockSize := by
  cases change with
  | nothing => exact ⟨rfl, rfl, rfl⟩
  | fetched => exact ⟨rfl, rfl, rfl⟩
  | movedRead => exact ⟨rfl, rfl, rfl⟩
  | movedWrite => exact ⟨rfl, rfl, rfl⟩
  | movedFlush => exact ⟨rfl, rfl, rfl⟩
  | finished => exact ⟨rfl, rfl, rfl⟩
  | erred => exact ⟨rfl, rfl, rfl⟩
  | setBusy => exact ⟨rfl, rfl, rfl⟩
  | wroteBack => exact ⟨rfl, rfl, rfl⟩
  | _ => cases ofAdapter

theorem Change.of_clear (sound : PortSound s)
    (ofAdapter : step.isOfAdapter = true) (clear : s.adapter.issued = false) :
    next.memory = s.memory ∧ next.adapter.disk.content = s.adapter.disk.content ∧
      (s.adapter.disk.Clean → next.adapter.disk.Clean) ∧ next.adapter.issued = false := by
  have idle : ∀ {command}, s.adapter.current = some command → False := by
    intro command isCurrent
    cases (sound.notCurrent clear).symm.trans isCurrent
  cases change with
  | nothing => exact ⟨rfl, rfl, id, clear⟩
  | fetched isIssued => cases clear.symm.trans isIssued
  | movedRead index command isCurrent => exact (idle isCurrent).elim
  | movedWrite index command disk isCurrent => exact (idle isCurrent).elim
  | movedFlush index command isCurrent => exact (idle isCurrent).elim
  | finished command disk isCurrent => exact (idle isCurrent).elim
  | erred stops command isCurrent => exact (idle isCurrent).elim
  | setBusy => exact ⟨rfl, rfl, id, clear⟩
  | wroteBack place =>
    simp_all [WriteCache.content_writeBack, WriteCache.writeBack_clean]
  | _ => cases ofAdapter

end

/-! ## Before and after the command -/

/-- What is known depends on the bounce buffer, the content and the size of a block. -/
theorem BlockMoved.kept (moved : BlockMoved s transfer index) (bounce : next.memory.bounce = s.memory.bounce)
    (content : next.adapter.disk.content = s.adapter.disk.content)
    (driver : next.driver = s.driver) : BlockMoved next transfer index := by
  simp only [BlockMoved, BlockSystem.bounceBlock, BlockSystem.content, BlockSystem.callerBlock,
    BlockSystem.blockSize, bounce, content, driver] at moved ⊢
  exact moved

theorem Done.kept (done : Done s transfer) (bounce : next.memory.bounce = s.memory.bounce)
    (content : next.adapter.disk.content = s.adapter.disk.content)
    (clean : s.adapter.disk.Clean → next.adapter.disk.Clean) (driver : next.driver = s.driver) :
    Done next transfer where
  moved := fun index inside => (done.moved index inside).kept bounce content driver
  clean := fun isFlush => clean (done.clean isFlush)

theorem Served.kept (served : Served s request) (content : next.adapter.disk.content = s.adapter.disk.content)
    (clean : s.adapter.disk.Clean → next.adapter.disk.Clean) (driver : next.driver = s.driver) :
    Served next request := by
  rw [Served] at served ⊢
  split
  · simp_all [BlockSystem.content, BlockSystem.callerBlock, BlockSystem.blockSize]
  · rename_i isWrite
    rw [isWrite] at served
    exact ⟨served.1.kept content (congrArg _ driver), clean served.2⟩
  simp_all

theorem Ready.of_adapter (ready : Ready s transfer) (change : Change s step next)
    (sound : PortSound s) (ofAdapter : step.isOfAdapter = true)
    (notIssuing : ∀ transfer, s.phase ≠ .issuing transfer .issuing) : Ready next transfer := by
  have driver := congrArg AhciRuntime.identify (change.of_adapter ofAdapter).2.1
  refine ⟨fun isWrite => (ready.noRead isWrite).kept change sound notIssuing, fun isWrite => ?_,
    fun isFlush ofWrite => ?_, fun isFlush ofWrite => ?_⟩
  · exact (ready.loaded isWrite).kept (change.bounce_of_adapter sound ofAdapter (ready.noRead isWrite)) driver
  · have clear := ready.alone isFlush ofWrite
    exact (ready.kept isFlush ofWrite).kept (change.of_clear sound ofAdapter clear).2.1 driver
  · exact (change.of_clear sound ofAdapter (ready.alone isFlush ofWrite)).2.2.2

/-! ## During the command -/

variable {command : Command}

section

variable (awaits : Awaits s transfer)
include awaits

/-- What the adapter works on is the command that was issued. -/
theorem Awaits.isTarget (sound : PortSound s) (isCurrent : s.adapter.current = some command) :
    command.kind = transfer.target.kind ∧ command.lba = transfer.target.lba ∧
      command.count = transfer.target.count := by
  have found := (sound.current command isCurrent).2.2
  rw [show fetchCommand s.memory s.driver.identify.logicalBlockSize = some transfer.target from
    awaits.fetched] at found
  simp_all

/-- A block of a read comes to the bounce buffer, beside those that are there. -/
theorem Awaits.movedRead (sound : PortSound s) (blocks : ∀ place, (s.content place).length = s.blockSize)
    (isCurrent : s.adapter.current = some command) (isRead : command.kind = .read) :
    Awaits
      { s with
        adapter.current := some { command with moved := index :: command.moved }
        memory.bounce :=
          s.memory.bounce.overwrite (index * s.driver.identify.logicalBlockSize)
            (s.adapter.disk.content (command.lba + index)) } transfer := by
  rcases awaits.isTarget sound isCurrent with ⟨isKind, isLba, -⟩
  have isTarget : transfer.target.kind = .read := isKind.symm.trans isRead
  have length : (s.adapter.disk.content (command.lba + index)).length =
      s.driver.identify.logicalBlockSize := blocks _
  refine ⟨awaits.fetched, ?_, ?_, ?_, ?_⟩
  · grind
  · rintro other isOther other' isMoved
    rw [← Option.some.inj isOther] at isMoved
    simp only [BlockMoved, isTarget, BlockSystem.bounceBlock, BlockSystem.blockSize, BlockSystem.content]
    by_cases same : other' = index
    · grind [ByteVolume.read_overwrite_same]
    have before := (List.mem_cons.mp isMoved).resolve_left same
    have known := awaits.moved command isCurrent other' before
    simp only [BlockMoved, isTarget, BlockSystem.bounceBlock, BlockSystem.blockSize,
      BlockSystem.content] at known
    grind [ByteVolume.read_overwrite_apart, blocks_apart]
  · intro clear
    cases clear.symm.trans (sound.current command isCurrent).1
  · intro isFlush
    cases isTarget.symm.trans isFlush

/-- A block of a write goes to the disk, beside those that are there. -/
theorem Awaits.movedWrite (sound : PortSound s) {disk : WriteCache (List UInt8)}
    (isCurrent : s.adapter.current = some command) (inside : index < command.count)
    (isWrite : command.kind = .write)
    (isContent : disk.content = Function.update s.adapter.disk.content (command.lba + index)
      (s.memory.bounce.read (index * s.driver.identify.logicalBlockSize)
        s.driver.identify.logicalBlockSize)) :
    Awaits
      { s with
        adapter.current := some { command with moved := index :: command.moved }
        adapter.disk := disk } transfer := by
  rcases awaits.isTarget sound isCurrent with ⟨isKind, isLba, isCount⟩
  have isTarget : transfer.target.kind = .write := isKind.symm.trans isWrite
  have loaded := awaits.loaded isTarget
  refine ⟨awaits.fetched, fun _ => loaded, ?_, ?_, ?_⟩
  · rintro other isOther other' isMoved
    rw [← Option.some.inj isOther] at isMoved
    simp only [BlockMoved, isTarget, BlockSystem.content, BlockSystem.callerBlock,
      BlockSystem.blockSize, isContent]
    rw [← isLba]
    by_cases same : other' = index
    · rw [same, Function.update_self]
      rw [isCount, (target_write isTarget).2.2] at inside
      exact loaded index inside
    · have before := (List.mem_cons.mp isMoved).resolve_left same
      have known := awaits.moved command isCurrent other' before
      simp_all [BlockMoved, BlockSystem.content, BlockSystem.callerBlock, BlockSystem.blockSize]
  · intro clear
    cases clear.symm.trans (sound.current command isCurrent).1
  · intro isFlush
    cases isTarget.symm.trans isFlush

theorem Awaits.movedFlush (sound : PortSound s) (isCurrent : s.adapter.current = some command)
    (isFlush : command.kind = .flush) :
    Awaits
      { s with adapter.current := some { command with moved := index :: command.moved } }
      transfer := by
  have isTarget : transfer.target.kind = .flush :=
    (awaits.isTarget sound isCurrent).1.symm.trans isFlush
  refine ⟨awaits.fetched, awaits.loaded, ?_, ?_, awaits.kept⟩
  · simp_all [BlockMoved]
  · intro clear
    cases clear.symm.trans (sound.current command isCurrent).1

theorem Awaits.finished (sound : PortSound s)
    {disk : WriteCache (List UInt8)} (isCurrent : s.adapter.current = some command)
    (allMoved : ∀ index < command.count, index ∈ command.moved)
    (isContent : disk.content = s.adapter.disk.content)
    (isClean : s.adapter.disk.Clean ∨ command.kind = .flush → disk.Clean) :
    Awaits
      { s with
        adapter.issued := false
        adapter.busy := false
        adapter.error := false
        adapter.current := none
        adapter.disk := disk } transfer := by
  rcases awaits.isTarget sound isCurrent with ⟨isKind, -, isCount⟩
  refine ⟨awaits.fetched, awaits.loaded, nofun, fun _ => Or.inr ⟨?_, ?_⟩, ?_⟩
  · intro index inside
    rw [← isCount] at inside
    exact (awaits.moved command isCurrent index (allMoved index inside)).kept rfl isContent rfl
  · simp_all
  · exact fun isFlush ofWrite => (awaits.kept isFlush ofWrite).kept isContent rfl

theorem Awaits.of_adapter (change : Change s step next)
    (sound : PortSound s) (blocks : ∀ place, (s.content place).length = s.blockSize)
    (ofAdapter : step.isOfAdapter = true) : Awaits next transfer := by
  cases change with
  | nothing => exact awaits
  | fetched isIssued =>
    refine ⟨awaits.fetched, awaits.loaded, ?_, ?_, awaits.kept⟩
    · intro command found index isMoved
      rw [← Option.some.inj (awaits.fetched.symm.trans found), target_moved] at isMoved
      cases isMoved
    simp [*]
  | movedRead index command isCurrent inside isRead =>
    exact awaits.movedRead sound blocks isCurrent isRead
  | movedWrite index command disk isCurrent inside isWrite isContent =>
    exact awaits.movedWrite sound isCurrent inside isWrite isContent
  | movedFlush index command isCurrent isFlush => exact awaits.movedFlush sound isCurrent isFlush
  | finished command disk isCurrent allMoved isContent isClean =>
    exact awaits.finished sound isCurrent allMoved isContent isClean
  | erred stops command isCurrent =>
    exact ⟨awaits.fetched, awaits.loaded, nofun, fun _ => Or.inl rfl, awaits.kept⟩
  | setBusy =>
    refine { awaits with done := fun clear => ?_ }
    exact (awaits.done clear).imp id fun done => done.kept rfl rfl id rfl
  | wroteBack place =>
    have content := WriteCache.content_writeBack s.adapter.disk place
    refine ⟨awaits.fetched, awaits.loaded, ?_, ?_, ?_⟩
    · exact fun command isCurrent index isMoved =>
        (awaits.moved command isCurrent index isMoved).kept rfl content rfl
    · intro clear
      exact (awaits.done clear).imp id fun done =>
        done.kept rfl content (fun clean => WriteCache.writeBack_clean clean place) rfl
    · exact fun isFlush ofWrite => (awaits.kept isFlush ofWrite).kept content rfl
  | _ => cases ofAdapter

end

/-! ## The invariant -/

theorem KeepsWritten.kept (kept : KeepsWritten s transfer)
    (content : next.adapter.disk.content = s.adapter.disk.content)
    (driver : next.driver.identify = s.driver.identify) : KeepsWritten next transfer :=
  fun isFlush ofWrite => (kept isFlush ofWrite).kept content driver

theorem StageInvariant.of_adapter {stage : Stage} (place : s.phase = .issuing transfer stage)
    (holds : StageInvariant s transfer stage) (change : Change s step next)
    (invariant : RequestInvariant s) (ofAdapter : step.isOfAdapter = true) :
    StageInvariant next transfer stage := by
  have sound := invariant.sound
  rcases change.of_adapter ofAdapter with ⟨-, driver, memory⟩
  have ready : Ready s transfer → stage ≠ .issuing → Ready next transfer := by
    intro ready notIssuing
    refine ready.of_adapter change sound ofAdapter fun other isOther => ?_
    rw [place] at isOther
    cases isOther
    exact notIssuing rfl
  have fetched : fetchCommand s.memory s.blockSize = some transfer.target →
      fetchCommand next.memory next.blockSize = some transfer.target := by
    intro found
    rw [BlockSystem.blockSize, driver]
    exact memory.trans found
  have awaits : Awaits s transfer → Awaits next transfer :=
    fun awaits => awaits.of_adapter change sound invariant.blocks ofAdapter
  cases stage with
  | awaitingReady => exact ready holds nofun
  | readingIssued => exact ready holds nofun
  | readingActive => exact ready holds nofun
  | preparing => exact ready holds nofun
  | clearing => exact ⟨ready holds.1 nofun, fetched holds.2⟩
  | issuing =>
    -- The issue bit is clear here, so the adapter does nothing.
    have clear := sound.quiet (by rw [place]; rfl)
    rcases change.of_clear sound ofAdapter clear with ⟨same, content, -, stillClear⟩
    refine ⟨⟨fun _ => ?_, fun isWrite => ?_, ?_, fun _ _ => stillClear⟩, fetched holds.2⟩
    · intro command isOutstanding
      cases isOutstanding.symm.trans (outstanding_of_clear stillClear)
    · exact (holds.1.loaded isWrite).kept (congrArg _ same) (congrArg _ driver)
    · exact holds.1.kept.kept content (congrArg _ driver)
  | polling => exact awaits holds
  | pollingIssued => exact awaits holds
  | readingTaskFile => exact awaits holds
  | readingStatus => exact awaits holds

theorem PhaseInvariant.of_adapter (change : Change s step next) (invariant : RequestInvariant s)
    (ofAdapter : step.isOfAdapter = true) : PhaseInvariant next next.phase := by
  have sound := invariant.sound
  have holds := invariant.phase
  rcases change.of_adapter ofAdapter with ⟨samePhase, driver, -⟩
  rw [samePhase]
  cases place : s.phase with
  | idle => trivial
  | filling transfer copied =>
    rw [place] at holds
    rcases holds with ⟨isKind, hasData, inside, loads⟩
    refine ⟨isKind, hasData, inside, fun isWrite => ?_⟩
    rcases loads isWrite with ⟨noRead, isPart⟩
    rw [change.bounce_of_adapter sound ofAdapter noRead]
    refine ⟨noRead.kept change sound fun other isOther => ?_, isPart⟩
    cases place.symm.trans isOther
  | issuing transfer stage =>
    rw [place] at holds
    exact StageInvariant.of_adapter place holds change invariant ofAdapter
  | answered transfer succeeded =>
    cases succeeded with
    | false => trivial
    | true =>
      rw [place] at holds
      have clear := sound.quiet (by rw [place]; rfl)
      rcases change.of_clear sound ofAdapter clear with ⟨same, content, clean, -⟩
      exact ⟨holds.1.kept (congrArg _ same) content clean driver,
        holds.2.kept content (congrArg _ driver)⟩
  | returned request result =>
    cases result with
    | ioError => trivial
    | ok =>
      rw [place] at holds
      rcases holds with ⟨served, clear | ⟨isUncached, isFlush⟩⟩
      · rcases change.of_clear sound ofAdapter clear with ⟨same, content, clean, stillClear⟩
        exact ⟨served.kept content clean driver, Or.inl stillClear⟩
      have stillUncached : next.driver.identify.writeCacheEnabled = false := by
        rw [driver]
        exact isUncached
      refine ⟨?_, Or.inr ⟨stillUncached, isFlush⟩⟩
      rw [Served, isFlush]
      exact change.keepsUncached invariant.uncached stillUncached

/-! ## Steps of the driver -/

theorem filled_more {bounce : ByteVolume} {data : List UInt8} {copied : Nat} {byte : UInt8}
    (isPart : bounce.read 0 copied = data.take copied) (isByte : data[copied]? = some byte) :
    (bounce.overwrite copied [byte]).read 0 (copied + 1) = data.take (copied + 1) := by
  rw [ByteVolume.read_add, ByteVolume.read_overwrite_apart (Or.inl (Nat.le_of_eq (Nat.zero_add _))),
    isPart, Nat.zero_add, List.take_add_one, isByte]
  exact congrArg _ (ByteVolume.read_overwrite_same bounce copied [byte])

/-- The whole data is in the bounce buffer. -/
theorem loaded_of_filled (formed : Formed s.driver.identify transfer)
    (isWrite : transfer.target.kind = .write) (isPart : s.memory.bounce.read 0 transfer.byteCount =
      transfer.fill.take transfer.byteCount) : Loaded s transfer.request := by
  rcases target_write isWrite with ⟨wants, -, isCount⟩
  have length : (transfer.request.buffer.read 0 transfer.byteCount).length ≤ transfer.byteCount :=
    Nat.le_of_eq (ByteVolume.length_read _ _ _)
  rw [Transfer.fill, if_pos wants, List.take_of_length_le length, formed.byteCount, isCount] at isPart
  exact fun index inside => blocks_of_read isPart inside

theorem Done.written (done : Done s transfer) (isWrite : transfer.target.kind = .write) :
    Written s transfer.request := by
  intro index inside
  rcases target_write isWrite with ⟨-, isLba, isCount⟩
  rw [← isCount] at inside
  have moved := done.moved index inside
  rw [BlockMoved, isWrite, isLba] at moved
  exact moved

theorem Done.read (done : Done s transfer) (formed : Formed s.driver.identify transfer)
    (isRead : transfer.target.kind = .read) (inside : index < transfer.request.blockCount) :
    (transfer.request.buffer.overwrite 0 (s.memory.bounce.read 0 transfer.byteCount)).read
        (index * s.blockSize) s.blockSize =
      s.content (transfer.request.firstBlock + index) := by
  rcases target_read isRead with ⟨-, isLba, isCount⟩
  have put := ByteVolume.read_overwrite_same transfer.request.buffer 0
    (s.memory.bounce.read 0 transfer.byteCount)
  rw [ByteVolume.length_read, formed.byteCount, isCount] at put
  rw [formed.byteCount, isCount]
  refine (blocks_of_read put inside).trans ?_
  rw [← isCount] at inside
  have moved := done.moved index inside
  rw [BlockMoved, isRead, isLba] at moved
  exact moved

theorem ready_flush (written : request.kind = .write → Written s request ∧ s.adapter.issued = false) :
    Ready (s.issueFlush request) ⟨request, ahciBuildFlushFis s.driver.identify, 0, false⟩ where
  noRead := fun isWrite => nomatch isWrite
  loaded := fun isWrite => nomatch isWrite
  kept := fun _ ofWrite => (written ofWrite).1
  alone := fun _ ofWrite => (written ofWrite).2

theorem Ready.prepared (ready : Ready s transfer) (clear : s.adapter.issued = false) :
    Ready { s.goTo transfer .clearing with memory := s.prepareCommand transfer } transfer where
  noRead := fun _ command isOutstanding => by
    cases isOutstanding.symm.trans (outstanding_of_clear clear)
  loaded := ready.loaded
  kept := ready.kept
  alone := ready.alone

theorem Ready.issued (ready : Ready s transfer) (sound : PortSound s) (clear : s.adapter.issued = false)
    (fetched : fetchCommand s.memory s.blockSize = some transfer.target) :
    Awaits { s.goTo transfer (.polling 0) with adapter.issued := true } transfer where
  fetched := fetched
  loaded := ready.loaded
  moved := fun command isCurrent => by
    cases (sound.notCurrent clear).symm.trans isCurrent
  done := nofun
  kept := ready.kept

theorem Ready.goes (ready : Ready s transfer) (phase : Phase) :
    Ready { s with phase := phase } transfer :=
  { ready with }

theorem Awaits.goes (awaits : Awaits s transfer) (phase : Phase) :
    Awaits { s with phase := phase } transfer :=
  ⟨awaits.fetched, awaits.loaded, awaits.moved,
    fun clear => (awaits.done clear).imp id fun done => done.kept rfl rfl id rfl, awaits.kept⟩

/-- `issue_command` goes on, with what is known at the next place. -/
theorem Goes.holds {stage : Stage} {phase : Phase} (goes : Goes s.adapter transfer stage phase)
    (place : s.phase = .issuing transfer stage) (invariant : RequestInvariant s) :
    PhaseInvariant { s with phase := phase } phase := by
  have holds := invariant.phase
  have quiet := invariant.sound.quiet
  rw [place] at holds quiet
  cases goes with
  | gaveUp => trivial
  | notReady => exact Ready.goes holds _
  | ready => exact Ready.goes holds _
  | notIssued => exact Ready.goes holds _
  | notActive => exact Ready.goes holds _
  | noError => exact Awaits.goes holds _
  | stillIssued => exact Awaits.goes holds _
  | done => exact Awaits.goes holds _
  | taskFile => exact Awaits.goes holds _
  | succeeded noError =>
    have awaits : Awaits s transfer := holds
    refine ⟨?_, awaits.kept⟩
    rcases awaits.done (quiet rfl) with hasError | done
    · cases noError.symm.trans hasError
    · exact done.kept rfl rfl id rfl

theorem PhaseInvariant.of_driver (change : Change s step next) (invariant : RequestInvariant s)
    (admits : s.admitsWrite step) (ofDriver : step.isOfAdapter = false) :
    PhaseInvariant next next.phase := by
  have sound := invariant.sound
  have holds := invariant.phase
  cases change with
  | nothing => exact holds
  | refused => trivial
  | uncached request given isFlush isUncached =>
    refine ⟨?_, Or.inr ⟨isUncached, isFlush⟩⟩
    rw [Served, isFlush]
    exact invariant.uncached isUncached
  | started transfer given accepted formed isKind hasData =>
    refine ⟨isKind, hasData, Nat.zero_le _, fun isWrite => ⟨?_, rfl⟩⟩
    exact admits accepted (isKind.symm.trans isWrite)
  | startedFlush request given isFlush =>
    exact ready_flush fun ofWrite => nomatch ofWrite.symm.trans isFlush
  | filled transfer copied byte place isByte =>
    rw [place] at holds
    rcases holds with ⟨isKind, hasData, inside, loads⟩
    refine ⟨isKind, hasData, ?_, fun isWrite => ⟨(loads isWrite).1, ?_⟩⟩
    · grind
    · exact filled_more (loads isWrite).2 isByte
  | loaded transfer copied place atEnd =>
    rw [place] at holds
    rcases holds with ⟨isKind, hasData, inside, loads⟩
    have formed := sound.formed transfer (by rw [place]; rfl)
    have isEnd : copied = transfer.fill.length :=
      Nat.le_antisymm inside (List.getElem?_eq_none_iff.mp atEnd)
    refine ⟨fun isWrite => (loads isWrite).1, fun isWrite => ?_, ?_, ?_⟩
    · have length : transfer.fill.length = transfer.byteCount := by
        rw [Transfer.fill, if_pos (target_write isWrite).1, ByteVolume.length_read]
      have isPart := (loads isWrite).2
      rw [isEnd, length] at isPart
      exact loaded_of_filled formed isWrite isPart
    · exact fun isFlush => absurd (isKind.symm.trans isFlush) hasData
    simp [*]
  | went transfer stage phase place goes => exact goes.holds place invariant
  | prepared transfer place =>
    rw [place] at holds
    have clear := sound.quiet (by rw [place]; rfl)
    have formed := sound.formed transfer (by rw [place]; rfl)
    exact ⟨Ready.prepared holds clear, fetchCommand_prepared formed⟩
  | cleared transfer place =>
    rw [place] at holds
    exact ⟨⟨holds.1.noRead, holds.1.loaded, holds.1.kept, holds.1.alone⟩, holds.2⟩
  | issued transfer place =>
    rw [place] at holds
    have clear := sound.quiet (by rw [place]; rfl)
    exact Ready.issued holds.1 sound clear holds.2
  | failed => trivial
  | readDone transfer place isRead =>
    rw [place] at holds
    have clear := sound.quiet (by rw [place]; rfl)
    have formed := sound.formed transfer (by rw [place]; rfl)
    have isTarget : transfer.target.kind = .read := by
      rcases formed.kind with same | ⟨-, isWrite⟩
      · exact same.trans isRead
      · cases isRead.symm.trans isWrite
    refine ⟨?_, Or.inl clear⟩
    simp only [isRead]
    exact fun index inside => holds.1.read formed isTarget inside
  | written transfer place isWrite isData =>
    rw [place] at holds
    have clear := sound.quiet (by rw [place]; rfl)
    have isTarget : transfer.target.kind = .write := by
      rw [Transfer.target, if_pos isData]
    exact ready_flush fun _ => ⟨holds.1.written isTarget, clear⟩
  | writeDone transfer place isWrite isStored =>
    rw [place] at holds
    have clear := sound.quiet (by rw [place]; rfl)
    have formed := sound.formed transfer (by rw [place]; rfl)
    refine ⟨?_, Or.inl clear⟩
    rw [Served]
    simp only [isWrite]
    rcases formed.kind with same | ⟨isTarget, -⟩
    · have isTarget := same.trans isWrite
      refine ⟨holds.1.written isTarget, invariant.uncached ?_⟩
      grind [target_ne_write]
    · exact ⟨holds.2 isTarget isWrite, holds.1.clean isTarget⟩
  | flushDone transfer place isFlush =>
    rw [place] at holds
    have clear := sound.quiet (by rw [place]; rfl)
    have formed := sound.formed transfer (by rw [place]; rfl)
    have isTarget : transfer.target.kind = .flush := by
      rcases formed.kind with same | ⟨same, -⟩
      · exact same.trans isFlush
      · exact same
    refine ⟨?_, Or.inl clear⟩
    rw [Served]
    simp only [isFlush]
    exact holds.1.clean isTarget
  | idled => trivial
  | _ => cases ofDriver

theorem Change.invariant (change : Change s step next) (invariant : RequestInvariant s)
    (admits : s.admitsWrite step) : RequestInvariant next where
  sound := change.sound invariant.sound
  blocks := by
    intro place
    rw [BlockSystem.blockSize, change.identify]
    rcases change.content invariant.sound with same | ⟨command, index, -, -, -, isContent⟩
    · rw [BlockSystem.content, same]
      exact invariant.blocks place
    rw [BlockSystem.content, isContent, Function.update_apply]
    split_ifs
    · exact ByteVolume.length_read _ _ _
    · exact invariant.blocks place
  uncached := change.keepsUncached invariant.uncached
  phase := by
    grind [PhaseInvariant.of_adapter, PhaseInvariant.of_driver]

end

end BoringOS.Ahci
