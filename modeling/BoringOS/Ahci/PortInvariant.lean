import BoringOS.Ahci.PortSteps

namespace BoringOS.Ahci

open Library

/-!
# The command that is outstanding

What the adapter works on is the command in the memory, because the driver prepares
the next one only after it has seen the issue bit clear.
-/

section

variable {s next : BlockSystem} {step : AhciStep}

theorem Goes.issuing {adapter : HostAdapter} {transfer : Transfer} {stage : Stage} {phase : Phase}
    (goes : Goes adapter transfer stage phase) : phase.transfer = some transfer := by
  cases goes <;> rfl

/-- The issue bit stays clear, or has just been seen clear. -/
theorem Goes.quiet {adapter : HostAdapter} {transfer : Transfer} {stage : Stage} {phase : Phase}
    (goes : Goes adapter transfer stage phase) (isQuiet : phase.isQuiet = true) :
    stage.isQuiet = true ∨ adapter.issued = false := by
  cases goes with
  | gaveUp => cases isQuiet
  | notReady => cases isQuiet
  | ready => cases isQuiet
  | notIssued clear => exact Or.inr clear
  | notActive => exact Or.inl rfl
  | noError => cases isQuiet
  | stillIssued => cases isQuiet
  | done spins clear => exact Or.inr clear
  | taskFile => exact Or.inl rfl
  | succeeded => exact Or.inl rfl

theorem PortSound.notCurrent (sound : PortSound s) (clear : s.adapter.issued = false) :
    s.adapter.current = none := by
  cases isCurrent : s.adapter.current with
  | none => rfl
  | some command =>
    have isIssued := (sound.current command isCurrent).1
    rw [clear] at isIssued
    cases isIssued

variable {command : Command}

theorem fetchCommand_moved {memory : DmaMemory} {blockSize : Nat}
    (found : fetchCommand memory blockSize = some command) :
    fetchCommand memory blockSize = some { command with moved := [] } := by
  rw [found]
  rw [fetchCommand] at found
  grind

/-- The driver is at another place, and the port and the memory are as before. -/
theorem PortSound.withPhase (sound : PortSound s) {phase : Phase}
    (quiet : phase.isQuiet = true → s.adapter.issued = false)
    (formed : ∀ transfer, phase.transfer = some transfer → Formed s.driver.identify transfer) (busy : Bool) :
    PortSound
      { s with
        driver.busy := busy
        phase := phase } :=
  { sound with
    quiet := quiet
    formed := formed }

theorem PortSound.issueFlush (sound : PortSound s) {request : Request}
    (notRead : request.kind ≠ .read) : PortSound (s.issueFlush request) := by
  refine sound.withPhase (by nofun) ?_ true
  rintro transfer isTransfer
  rw [← Option.some.inj isTransfer]
  exact formed_flush s.driver.identify notRead

/-- The command goes on, with one more block moved. -/
theorem PortSound.moved (sound : PortSound s)
    (isCurrent : s.adapter.current = some command) (moved : List Nat) (bounce : ByteVolume)
    (disk : WriteCache (List UInt8)) :
    PortSound
      { s with
        adapter.current := some { command with moved := moved }
        adapter.disk := disk
        memory.bounce := bounce } :=
  { sound with
    current := by
      rintro other isOther
      cases isOther
      exact sound.current command isCurrent }

theorem Change.sound (change : Change s step next) (sound : PortSound s) : PortSound next := by
  cases change with
  | nothing => exact sound
  | refused request => exact sound.withPhase (by nofun) (by nofun) s.driver.busy
  | uncached request => exact sound.withPhase (by nofun) (by nofun) s.driver.busy
  | started transfer given accepted formed =>
    refine sound.withPhase (by nofun) ?_ true
    rintro other isOther
    rw [← Option.some.inj isOther]
    exact formed
  | startedFlush request given isFlush =>
    exact sound.issueFlush (by rw [isFlush]; nofun)
  | filled transfer copied byte place =>
    refine ⟨sound.blockSize, sound.current, sound.halted, nofun, ?_⟩
    exact fun other isOther => sound.formed other (by rw [place]; exact isOther)
  | loaded transfer copied place =>
    refine sound.withPhase (by nofun) ?_ s.driver.busy
    exact fun other isOther => sound.formed other (by rw [place]; exact isOther)
  | went transfer stage phase place goes =>
    refine sound.withPhase ?_ ?_ s.driver.busy
    · intro isQuiet
      rcases goes.quiet isQuiet with was | clear
      · exact sound.quiet (by rw [place]; exact was)
      · exact clear
    · intro other isOther
      rw [goes.issuing] at isOther
      exact sound.formed other (by rw [place]; exact isOther)
  | prepared transfer place =>
    have clear := sound.quiet (by rw [place]; rfl)
    refine ⟨sound.blockSize, ?_, sound.halted, fun _ => clear, ?_⟩
    · rintro command isCurrent
      cases (sound.notCurrent clear).symm.trans isCurrent
    · exact fun other isOther => sound.formed other (by rw [place]; exact isOther)
  | cleared transfer place =>
    refine ⟨sound.blockSize, sound.current, sound.halted, fun _ => ?_, ?_⟩
    · exact sound.quiet (by rw [place]; rfl)
    · exact fun other isOther => sound.formed other (by rw [place]; exact isOther)
  | issued transfer place =>
    have clear := sound.quiet (by rw [place]; rfl)
    refine ⟨sound.blockSize, ?_, fun _ => rfl, nofun, ?_⟩
    · rintro command isCurrent
      cases (sound.notCurrent clear).symm.trans isCurrent
    · exact fun other isOther => sound.formed other (by rw [place]; exact isOther)
  | failed => exact sound.withPhase (by nofun) (by nofun) false
  | readDone => exact sound.withPhase (by nofun) (by nofun) false
  | written transfer place isWrite => exact sound.issueFlush (by rw [isWrite]; nofun)
  | writeDone => exact sound.withPhase (by nofun) (by nofun) false
  | flushDone => exact sound.withPhase (by nofun) (by nofun) false
  | idled => exact sound.withPhase (by nofun) (by nofun) s.driver.busy
  | fetched isIssued notHalted =>
    refine ⟨sound.blockSize, ?_, sound.halted, sound.quiet, sound.formed⟩
    simp_all [fetchCommand_moved]
  | movedRead index command isCurrent => exact sound.moved isCurrent _ _ s.adapter.disk
  | movedWrite index command disk isCurrent => exact sound.moved isCurrent _ s.memory.bounce disk
  | movedFlush index command isCurrent =>
    exact sound.moved isCurrent _ s.memory.bounce s.adapter.disk
  | finished command disk isCurrent =>
    refine ⟨sound.blockSize, nofun, ?_, fun _ => rfl, sound.formed⟩
    intro halted
    rw [show s.adapter.halted = false from (sound.current command isCurrent).2.1] at halted
    cases halted
  | erred stops command isCurrent =>
    refine ⟨sound.blockSize, nofun, fun halted => halted, ?_, sound.formed⟩
    intro isQuiet
    have clear := sound.quiet isQuiet
    rw [(sound.current command isCurrent).1] at clear
    cases clear
  | setBusy => exact { sound with }
  | wroteBack => exact { sound with }

theorem outstanding_of_current (sound : PortSound s) (isCurrent : s.adapter.current = some command) :
    s.outstanding = some { command with moved := [] } := by
  rcases sound.current command isCurrent with ⟨isIssued, notHalted, found⟩
  rw [BlockSystem.outstanding, if_pos ⟨isIssued, notHalted⟩, found]

theorem outstanding_of_clear (clear : s.adapter.issued = false) : s.outstanding = none :=
  if_neg fun both => by rw [clear] at both; cases both.1

section

variable (change : Change s step next)
include change

/-- No step makes a command outstanding but the one that sets the issue bit. -/
theorem Change.outstanding (sound : PortSound s) (isOutstanding : next.outstanding = some command) :
    s.outstanding = some command ∨ ∃ transfer, s.phase = .issuing transfer .issuing ∧
      next = { s.goTo transfer (.polling 0) with adapter.issued := true } := by
  cases change with
  | prepared transfer place =>
    have clear := sound.quiet (by rw [place]; rfl)
    cases isOutstanding.symm.trans (outstanding_of_clear clear)
  | issued transfer place => exact Or.inr ⟨transfer, place, rfl⟩
  | finished =>
    cases isOutstanding.symm.trans (outstanding_of_clear rfl)
  | erred stops =>
    simp_all [BlockSystem.outstanding]
  | _ => exact Or.inl isOutstanding

theorem Change.stillOutstanding (sound : PortSound s)
    (notIssuing : ∀ transfer, s.phase ≠ .issuing transfer .issuing)
    (isOutstanding : next.outstanding = some command) : s.outstanding = some command := by
  rcases change.outstanding sound isOutstanding with same | ⟨transfer, place, -⟩
  · exact same
  · exact absurd place (notIssuing transfer)

theorem Change.bounce (sound : PortSound s)
    (notFilling : step = .drive → ∀ transfer copied, s.phase ≠ .filling transfer copied)
    (noRead : ∀ command, s.outstanding = some command → command.kind ≠ .read) :
    next.memory.bounce = s.memory.bounce := by
  cases change with
  | filled transfer copied byte place => grind
  | movedRead index command isCurrent inside isRead =>
    simp_all [outstanding_of_current]
  | _ => rfl

theorem Change.content (sound : PortSound s) :
    next.adapter.disk.content = s.adapter.disk.content ∨
      ∃ command index, s.outstanding = some command ∧ command.kind = .write ∧
        index < command.count ∧
        next.adapter.disk.content = Function.update s.adapter.disk.content (command.lba + index)
          (s.memory.bounce.read (index * s.driver.identify.logicalBlockSize)
            s.driver.identify.logicalBlockSize) := by
  cases change with
  | movedWrite index command disk isCurrent inside isWrite isContent =>
    exact Or.inr ⟨_, index, outstanding_of_current sound isCurrent, isWrite, inside, isContent⟩
  | finished command disk isCurrent allMoved isContent => exact Or.inl isContent
  | wroteBack place => exact Or.inl (WriteCache.content_writeBack _ _)
  | _ => exact Or.inl rfl

theorem Change.identify : next.driver.identify = s.driver.identify := by
  cases change <;> rfl

end

end

theorem portSound_start {s : BlockSystem} (isStart : AhciStart s) : PortSound s where
  blockSize := Nat.lt_of_lt_of_le (by decide) isStart.blockSize
  current := by
    intro command isCurrent
    rw [isStart.nothingCurrent] at isCurrent
    cases isCurrent
  halted := by
    intro halted
    rw [isStart.notHalted] at halted
    cases halted
  quiet := by
    rw [isStart.idle]
    nofun
  formed := by
    rw [isStart.idle]
    nofun

/-!
## What the driver knows about its request

A write finds its data in the bounce buffer when its command is issued, provided that
no earlier read is outstanding when it starts.  From the issue of a command to its end,
the adapter moves blocks between the bounce buffer and the disk for this command only,
so a success that the driver sees is the success of its own command.
-/

namespace BlockSystem

variable (s : BlockSystem)

def blockSize : Nat := s.driver.identify.logicalBlockSize

/-- The place and length of a block in the bounce buffer -/
def bounceBlock (index : Nat) : List UInt8 := s.memory.bounce.read (index * s.blockSize) s.blockSize

/-- A block in the memory of the caller -/
def callerBlock (request : Request) (index : Nat) : List UInt8 :=
  request.buffer.read (index * s.blockSize) s.blockSize

def content (place : Nat) : List UInt8 := s.adapter.disk.content place

end BlockSystem

variable (s : BlockSystem)

/-- The earlier commands do not move data to the bounce buffer any more. -/
def NoRead : Prop := ∀ command, s.outstanding = some command → command.kind ≠ .read

/-- The bounce buffer holds the data of a write. -/
def Loaded (request : Request) : Prop :=
  ∀ index < request.blockCount, s.bounceBlock index = s.callerBlock request index

/-- The disk holds the data of a write. -/
def Written (request : Request) : Prop :=
  ∀ index < request.blockCount, s.content (request.firstBlock + index) = s.callerBlock request index

/-- The data of a block has been moved. -/
def BlockMoved (transfer : Transfer) (index : Nat) : Prop :=
  match transfer.target.kind with
  | .read => s.bounceBlock index = s.content (transfer.target.lba + index)
  | .write => s.content (transfer.target.lba + index) = s.callerBlock transfer.request index
  | .flush => True

/-- The command is done. -/
structure Done (s : BlockSystem) (transfer : Transfer) : Prop where
  moved : ∀ index < transfer.target.count, BlockMoved s transfer index
  clean : transfer.target.kind = .flush → s.adapter.disk.Clean

/-- The flush of a write comes after its data. -/
def KeepsWritten (transfer : Transfer) : Prop :=
  transfer.target.kind = .flush → transfer.request.kind = .write → Written s transfer.request

/-- The command has not been issued yet. -/
structure Ready (s : BlockSystem) (transfer : Transfer) : Prop where
  noRead : transfer.target.kind = .write → NoRead s
  loaded : transfer.target.kind = .write → Loaded s transfer.request
  kept : KeepsWritten s transfer
  alone : transfer.target.kind = .flush → transfer.request.kind = .write → s.adapter.issued = false

/-- The command has been issued. -/
structure Awaits (s : BlockSystem) (transfer : Transfer) : Prop where
  fetched : fetchCommand s.memory s.blockSize = some transfer.target
  loaded : transfer.target.kind = .write → Loaded s transfer.request
  moved : ∀ command, s.adapter.current = some command → ∀ index ∈ command.moved,
    BlockMoved s transfer index
  done : s.adapter.issued = false → s.adapter.taskFileError = true ∨ Done s transfer
  kept : KeepsWritten s transfer

/-- What a request that returns with success has done -/
def Served (request : Request) : Prop :=
  match request.kind with
  | .read => ∀ index < request.blockCount,
      s.callerBlock request index = s.content (request.firstBlock + index)
  | .write => Written s request ∧ s.adapter.disk.Clean
  | .flush => s.adapter.disk.Clean

/-- What holds at the places of `issue_command` -/
def StageInvariant (transfer : Transfer) : Stage → Prop
  | .clearing => Ready s transfer ∧ fetchCommand s.memory s.blockSize = some transfer.target
  | .issuing => Ready s transfer ∧ fetchCommand s.memory s.blockSize = some transfer.target
  | .polling _ => Awaits s transfer
  | .pollingIssued _ => Awaits s transfer
  | .readingTaskFile => Awaits s transfer
  | .readingStatus _ => Awaits s transfer
  | _ => Ready s transfer

/-- What holds at the places of the driver -/
def PhaseInvariant : Phase → Prop
  | .idle => True
  | .filling transfer copied =>
    transfer.target.kind = transfer.request.kind ∧ transfer.request.kind ≠ .flush ∧
      copied ≤ transfer.fill.length ∧
      (transfer.target.kind = .write →
        NoRead s ∧ s.memory.bounce.read 0 copied = transfer.fill.take copied)
  | .issuing transfer stage => StageInvariant s transfer stage
  | .answered transfer true => Done s transfer ∧ KeepsWritten s transfer
  | .answered _ false => True
  | .returned request .ok =>
    Served s request ∧
      (s.adapter.issued = false ∨ s.driver.identify.writeCacheEnabled = false ∧
        request.kind = .flush)
  | .returned _ .ioError => True

structure RequestInvariant (s : BlockSystem) : Prop where
  sound : PortSound s
  blocks : ∀ place, (s.content place).length = s.blockSize
  uncached : s.driver.identify.writeCacheEnabled = false → s.adapter.disk.Clean
  phase : PhaseInvariant s s.phase

/-- A write that is accepted starts when no read is outstanding. -/
def BlockSystem.admitsWrite : AhciStep → Prop
  | .request request given => s.accepts request given → request.kind = .write → NoRead s
  | _ => True

end BoringOS.Ahci
