import BoringOS.VirtioBlk.RequestSteps

namespace BoringOS.VirtioBlk

open Library

/-!
# Runs of the driver and the device

As long as the device leaves the chains of earlier calls alone, a call of
`virtio_submit_chunk` succeeds only if the device has completed its request,
and a request that is reported done has been served.
-/

theorem submitStore_frame (s : BlockSystem) (transfer : Transfer) {stores : Nat} (more : stores < 9) :
    (submitStore s transfer stores).phase = .preparing transfer (stores + 1) ∧
      (submitStore s transfer stores).device = s.device ∧
      (submitStore s transfer stores).calls = s.calls ∧
      ((∀ slot, s.memory.availEntries slot = virtqDescHeader) →
        ∀ slot, (submitStore s transfer stores).memory.availEntries slot = virtqDescHeader) := by
  by_cases last : stores = 8
  · simp_all [submitStore, ite_self]
  have before : stores < 8 := by omega
  interval_cases stores
  all_goals exact ⟨rfl, rfl, rfl, fun entries => entries⟩

theorem submitStore_publish (s : BlockSystem) (transfer : Transfer) {stores : Nat} (done : 9 ≤ stores) :
    submitStore s transfer stores =
      { s with
        driver.availIndex := nextIndex s.driver.availIndex
        memory.availIdx := nextIndex s.driver.availIndex
        phase := .waiting transfer 0 } := by
  rcases Nat.exists_eq_add_of_le' done with ⟨-, rfl⟩
  rfl

variable {s : BlockSystem}

variable {transfer : Transfer}

section

variable (invariant : RequestInvariant s)
include invariant

theorem looping_invariant (place : s.phase = .looping transfer) : RequestInvariant s.drive := by
  rcases invariant with ⟨fetched, completed, entries, phase⟩
  rw [place] at phase
  rcases phase with ⟨within, served⟩
  simp only [BlockSystem.drive, place]
  split
  · rename_i more
    have laterFetched : ∀ chain ∈ s.device.inFlight, chain.call ≤ s.calls + 1 :=
      fun chain member => Nat.le_succ_of_le (fetched chain member)
    have laterCompleted : ∀ call ∈ s.device.completed, call ≤ s.calls + 1 :=
      fun call member => Nat.le_succ_of_le (completed call member)
    split
    · exact ⟨laterFetched, laterCompleted, entries, trivial⟩
    refine ⟨laterFetched, laterCompleted, entries, ?_, ?_, ?_, served, more⟩
    · constructor
      all_goals nofun
    · grind
    grind
  · have whole : transfer.completed = transfer.blockCount := by omega
    rw [whole] at served
    exact ⟨fetched, completed, entries, served⟩

theorem preparing_invariant {stores : Nat} (place : s.phase = .preparing transfer stores) :
    RequestInvariant s.drive := by
  rcases invariant with ⟨fetched, completed, entries, phase⟩
  rw [place] at phase
  rcases phase with ⟨prepared, fresh, undone, served, within⟩
  simp only [BlockSystem.drive, place]
  by_cases more : stores < 9
  · rcases submitStore_frame s transfer more with ⟨next, device, calls, keepsEntries⟩
    constructor
    case fetchedBefore =>
      rw [device, calls]
      exact fetched
    case completedBefore =>
      rw [device, calls]
      exact completed
    case entries => exact keepsEntries entries
    simp_all [PhaseInvariant, submitStore_prepared]
  · have done : 9 ≤ stores := Nat.le_of_not_lt more
    have described := prepared.described done
    rw [submitStore_publish s transfer done]
    refine ⟨fetched, completed, entries, ?_⟩
    constructor
    case described =>
      exact { described with }
    case fetched => simp_all
    case moved => simp_all
    case done => exact fun isDone => absurd isDone undone
    case status => exact fun good => absurd good (prepared.status (by omega))
    case progress => exact served
    case within => exact within

theorem waiting_invariant {spins : Nat} (place : s.phase = .waiting transfer spins) :
    RequestInvariant s.drive := by
  rcases invariant with ⟨fetched, completed, entries, phase⟩
  rw [place] at phase
  rcases phase with ⟨described, about, moved, done, status, progress, within⟩
  simp only [BlockSystem.drive, place, virtioWaitForCompletion]
  have goesOn : ∀ driver, RequestInvariant
      { s with
        driver := driver
        phase := .recognized transfer } := fun driver =>
    ⟨fetched, completed, entries, described, about, moved, done, status, progress, within⟩
  split
  · exact ⟨fetched, completed, entries, trivial⟩
  split
  · exact ⟨fetched, completed, entries, described, about, moved, done, status, progress, within⟩
  split
  · exact ⟨fetched, completed, entries, trivial⟩
  split
  · exact ⟨fetched, completed, entries, trivial⟩
  · exact goesOn _

theorem recognized_invariant (place : s.phase = .recognized transfer) : RequestInvariant s.drive := by
  rcases invariant with ⟨fetched, completed, entries, phase⟩
  rw [place] at phase
  simp only [BlockSystem.drive, place]
  split
  · exact ⟨fetched, completed, entries, trivial⟩
  rename_i good
  have isDone := phase.status (Decidable.not_not.mp good)
  have isMoved := phase.done isDone
  split
  · rename_i writes
    refine ⟨fetched, completed, entries, isDone, ?_, phase.progress, phase.within⟩
    exact isMoved.trans (phase.described.bounce writes)
  · rename_i reads
    refine ⟨fetched, completed, entries, ?_, isDone, Bool.eq_false_of_not_eq_true reads⟩
    exact { phase with }

theorem succeeded_invariant (place : s.phase = .succeeded transfer) : RequestInvariant s.drive := by
  rcases invariant with ⟨fetched, completed, entries, phase⟩
  rw [place] at phase
  rcases phase with ⟨awaits, isDone, -⟩
  have isMoved := awaits.done isDone
  simp only [BlockSystem.drive, place]
  refine ⟨fetched, completed, entries, isDone, ?_, ?_, awaits.within⟩
  · have copied := ByteVolume.read_overwrite_same transfer.buffer transfer.byteOffset
      (s.memory.bounce.read 0 transfer.byteCount)
    rw [ByteVolume.length_read] at copied
    exact isMoved.trans copied.symm
  · have before : (transfer.buffer.overwrite transfer.byteOffset
        (s.memory.bounce.read 0 transfer.byteCount)).read 0
          (transfer.completed * virtioBlkSectorSize) =
        transfer.buffer.read 0 (transfer.completed * virtioBlkSectorSize) := by
      refine ByteVolume.read_overwrite_apart (Or.inl ?_)
      rw [Nat.zero_add]
      exact Nat.le_refl _
    exact awaits.progress.trans before.symm

theorem submitted_invariant {succeeds : Bool} (place : s.phase = .submitted transfer succeeds) :
    RequestInvariant s.drive := by
  rcases invariant with ⟨fetched, completed, entries, phase⟩
  rw [place] at phase
  simp only [BlockSystem.drive, place]
  cases succeeds with
  | false => exact ⟨fetched, completed, entries, trivial⟩
  | true =>
    rcases phase with ⟨-, chunk, served, within⟩
    refine ⟨fetched, completed, entries, ?_, served.next chunk⟩
    have small : transfer.chunk ≤ transfer.blockCount - transfer.completed := Nat.min_le_left _ _
    grind

theorem drive_invariant : RequestInvariant s.drive := by
  cases place : s.phase with
  | idle =>
    rw [BlockSystem.drive, place]
    exact invariant
  | looping transfer => exact looping_invariant invariant place
  | preparing transfer stores => exact preparing_invariant invariant place
  | waiting transfer spins => exact waiting_invariant invariant place
  | recognized transfer => exact recognized_invariant invariant place
  | succeeded transfer => exact succeeded_invariant invariant place
  | submitted transfer succeeds => exact submitted_invariant invariant place
  | returned transfer result =>
    rw [BlockSystem.drive, place]
    exact ⟨invariant.fetchedBefore, invariant.completedBefore, invariant.entries, trivial⟩

theorem request_invariant (write : Bool)
    (firstBlock blockCount : Nat) (bufferGiven : Bool) (buffer : ByteVolume) :
    RequestInvariant (s.step (.request write firstBlock blockCount bufferGiven buffer)) := by
  rcases invariant with ⟨fetched, completed, entries, phase⟩
  rw [BlockSystem.step]
  split
  · rw [virtioTransfer]
    split
    · exact ⟨fetched, completed, entries, trivial⟩
    split
    · exact ⟨fetched, completed, entries, trivial⟩
    · exact ⟨fetched, completed, entries, Nat.zero_le _, served_none _ _⟩
  · exact ⟨fetched, completed, entries, phase⟩

theorem step_invariant (step : VirtioStep)
    (acts : s.actsForCall step = true) : RequestInvariant (s.step step) := by
  cases step with
  | request write firstBlock blockCount bufferGiven buffer =>
    simp_all [request_invariant]
  | drive => exact drive_invariant invariant
  | fetch => exact fetch_invariant invariant acts
  | move index => exact move_invariant invariant acts
  | complete index status => exact complete_invariant invariant acts

end

theorem start_invariant {start : BlockSystem} (isStart : VirtioStart start) :
    RequestInvariant start := by
  constructor
  case fetchedBefore =>
    rw [isStart.nothingInFlight]
    exact fun _ member => nomatch member
  case completedBefore =>
    rw [isStart.noneCompleted]
    exact fun _ member => nomatch member
  case entries => exact isStart.entries
  case phase =>
    rw [isStart.idle]
    trivial

/-- What the caller can rely on: when `virtio_submit_chunk` returns true, the
device has completed the request of this very call, and the sectors of the
chunk are the same on the disk and in the buffer; when the request is reported
done, all its sectors are. -/
def ReportsHonestly (s : BlockSystem) : Prop :=
  match s.phase with
  | .submitted transfer true =>
    s.calls ∈ s.device.completed ∧ ChunkServed s.device.disk transfer
  | .returned transfer .ok => Served s.device.disk transfer transfer.blockCount
  | _ => True

theorem RequestInvariant.reportsHonestly (invariant : RequestInvariant s) : ReportsHonestly s := by
  have phase := invariant.phase
  rw [ReportsHonestly]
  split
  · rename_i place
    rw [place] at phase
    exact ⟨phase.1, phase.2.1⟩
  · rename_i place
    rw [place] at phase
    exact phase
  · trivial

theorem virtio_run_honest {start : BlockSystem} (isStart : VirtioStart start) (steps : List VirtioStep)
    (acts : Respects BlockSystem.step (fun s step => s.actsForCall step = true) start steps) :
    ReportsHonestly (run BlockSystem.step start steps) := by
  have kept : ∀ s step, RequestInvariant s → s.actsForCall step = true →
      RequestInvariant (s.step step) := fun s step invariant acts =>
    step_invariant invariant step acts
  exact (run_invariant_of_respects kept steps start (start_invariant isStart) acts).reportsHonestly

/-- The first sector holds ones, and the others hold twos. -/
def twoSectors : ByteVolume := fun position => if position < virtioBlkSectorSize then 1 else 2

def freshDriver : BlockSystem where
  driver := ⟨true, false, 16, 0, 0, false⟩
  memory :=
    { descriptors := fun _ => ⟨.request, 0, 0, 0⟩
      availEntries := fun _ => 0
      availIdx := 0
      usedIds := fun _ => 0
      usedIdx := 0
      requestHeader := ⟨0, 0, 0⟩
      requestStatus := 0
      bounce := fun _ => 0 }
  device := ⟨0, [], twoSectors, []⟩
  phase := .idle
  calls := 0

theorem freshDriver_start : VirtioStart freshDriver :=
  ⟨rfl, rfl, fun _ => rfl, ⟨rfl, rfl, rfl, rfl, rfl⟩, rfl, rfl⟩

def emptyBuffer : ByteVolume := fun _ => 0

/-- A read of one sector up to the wait of the driver -/
def readSector (sector : Nat) : List VirtioStep :=
  .request false sector 1 true emptyBuffer :: List.replicate 11 .drive

/-- The steps of the device that serve the chain at the head of the ring -/
def serveFirst : List VirtioStep := [.move 0, .complete 0 virtioBlkSOk]

theorem virtio_run_honest_oneRead :
    ReportsHonestly (run BlockSystem.step freshDriver
      (readSector 0 ++ .fetch :: serveFirst ++ List.replicate 3 .drive)) := by
  apply virtio_run_honest freshDriver_start
  decide +kernel

/-- As long as no completion is there, the driver spins. -/
theorem run_spins (count : Nat) :
    ∀ (s : BlockSystem) (transfer : Transfer) (spins : Nat), s.phase = .waiting transfer spins →
      s.memory.usedIdx = s.driver.usedIndex → spins + count ≤ virtioBlkPollSpinLimit →
      run BlockSystem.step s (List.replicate count .drive) =
        { s with phase := .waiting transfer (spins + count) } := by
  induction count with
  | zero =>
    intro s transfer spins place _ _
    rw [Nat.add_zero, ← place]
    rfl
  | succ count ih =>
    intro s transfer spins place nothing below
    have early : ¬virtioBlkPollSpinLimit ≤ spins := by omega
    have turn : s.step .drive = { s with phase := .waiting transfer (spins + 1) } := by
      simp only [BlockSystem.step, BlockSystem.drive, place, virtioWaitForCompletion,
        if_neg early, if_pos nothing]
    grind [run_cons]

/-- Whether a call succeeds whose request the device has not completed -/
def reportsEarly (s : BlockSystem) : Bool :=
  match s.phase with
  | .submitted _ true => !decide (s.calls ∈ s.device.completed)
  | _ => false

theorem ReportsHonestly.not_early (honest : ReportsHonestly s) : reportsEarly s = false := by
  rw [reportsEarly]
  rw [ReportsHonestly] at honest
  grind

/-- What follows when the driver gives up: it reads another sector, and the
device completes the first read. -/
def afterTimeout : List VirtioStep :=
  List.replicate 3 .drive ++ readSector 1 ++ serveFirst ++ List.replicate 3 .drive

/-- The driver waits for a read that the device has fetched, as long as it
does, and then gives it up. -/
def lateCompletion (spins : Nat) : List VirtioStep :=
  (readSector 0 ++ [.fetch]) ++ (List.replicate spins .drive ++ afterTimeout)

theorem run_lateCompletion {spins : Nat} (isLimit : spins = virtioBlkPollSpinLimit) :
    run BlockSystem.step freshDriver (lateCompletion spins) =
      run BlockSystem.step
        { run BlockSystem.step freshDriver (readSector 0 ++ [.fetch]) with
          phase := .waiting ⟨false, 0, 1, emptyBuffer, 0⟩ virtioBlkPollSpinLimit }
        afterTimeout := by
  have waits : (run BlockSystem.step freshDriver (readSector 0 ++ [.fetch])).phase =
      .waiting ⟨false, 0, 1, emptyBuffer, 0⟩ 0 := rfl
  have fits : 0 + spins ≤ virtioBlkPollSpinLimit := by omega
  rw [lateCompletion, run_append, run_append, run_spins spins _ _ 0 waits rfl fits, Nat.zero_add, isLimit]

/-- The second read succeeds with the data of the first one. -/
theorem late_completion_crosses :
    ¬∀ (start : BlockSystem) (steps : List VirtioStep), VirtioStart start →
      ReportsHonestly (run BlockSystem.step start steps) := by
  intro honest
  rcases (⟨_, rfl⟩ : ∃ spins, spins = virtioBlkPollSpinLimit) with ⟨spins, isLimit⟩
  have reported := ReportsHonestly.not_early (honest freshDriver (lateCompletion spins) freshDriver_start)
  have early : reportsEarly (run BlockSystem.step
      { run BlockSystem.step freshDriver (readSector 0 ++ [.fetch]) with
        phase := .waiting ⟨false, 0, 1, emptyBuffer, 0⟩ virtioBlkPollSpinLimit }
      afterTimeout) = true := by
    decide +kernel
  grind [run_lateCompletion]

end BoringOS.VirtioBlk
