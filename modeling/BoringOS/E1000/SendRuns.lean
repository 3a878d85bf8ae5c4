import Mathlib.Data.Nat.Count
import BoringOS.Library.Run

namespace BoringOS.E1000

open Library

/-!
# The transmit ring of the network card

A transcription of `setup_rings` and `e1000_send` of `kernel/drivers/e1000.c`,
as far as they transmit.  The driver takes one step at a time, since the card
works on the descriptors that it has been given between any two of them: it
fetches the bytes of a frame one by one and reports the descriptor when it has
sent the frame.

`queued` and `transmitted` record the frames that descriptors were queued for
and the frames that the card has put on the wire, in this order.
-/

def e1000RingSize : Nat := 8
def e1000FrameMax : Nat := 1518
def e1000TxSpins : Nat := 10000000
def e1000TxCmdEop : Nat := 1
def e1000TxCmdIfcs : Nat := 2
def e1000TxCmdRs : Nat := 8

/-- `struct e1000_tx_desc`; `done` is the bit `E1000_DESC_DD` of its status -/
structure TxDesc where
  address : Nat
  length : Nat
  checksumOffset : Nat
  command : Nat
  done : Bool
  checksumStart : Nat
  special : Nat
deriving DecidableEq, Repr

/-- Where the driver is in `e1000_send` -/
inductive SendPhase where
  | idle
  | waiting (frame : List UInt8) (spin : Nat)
  | copying (frame : List UInt8) (index : Nat)
  | described (frame : List UInt8)
  | polling (index spin : Nat)
deriving DecidableEq, Repr

/-- The driver, the memory that it shares with the card, and the card -/
structure Transmitter where
  /-- `runtime.dma_physical[E1000_DMA_TX_BUFFER]` -/
  txBuffer : Nat
  memory : Nat → UInt8
  ring : Nat → TxDesc
  txNext : Nat
  phase : SendPhase
  /-- What the calls of `e1000_send` have answered -/
  answers : List Bool
  /-- `E1000_REG_TDH` -/
  head : Nat
  /-- `E1000_REG_TDT` -/
  tail : Nat
  /-- The bytes of the frame at the head that the card has fetched -/
  fetched : List UInt8
  queued : List (List UInt8)
  transmitted : List (List UInt8)

/-- `setup_rings`, for the transmit ring -/
def setupRings (txBuffer : Nat) (memory : Nat → UInt8) : Transmitter where
  txBuffer := txBuffer
  memory := memory
  ring _ := ⟨txBuffer, 0, 0, 0, true, 0, 0⟩
  txNext := 0
  phase := .idle
  answers := []
  head := 0
  tail := 0
  fetched := []
  queued := []
  transmitted := []

variable (s : Transmitter)

/-- The guard of `e1000_send`, on a frame that is not `NULL` -/
def Transmitter.call (frame : List UInt8) : Transmitter :=
  if s.phase ≠ .idle then s
  else if frame.length < 14 ∨ e1000FrameMax < frame.length then
    { s with answers := s.answers ++ [false] }
  else { s with phase := .waiting frame 0 }

/-- The stores into the descriptor of a frame -/
def describeFrame (txBuffer : Nat) (frame : List UInt8) : TxDesc where
  address := txBuffer
  length := frame.length % 2 ^ 16
  checksumOffset := 0
  command := e1000TxCmdEop ||| e1000TxCmdIfcs ||| e1000TxCmdRs
  done := false
  checksumStart := 0
  special := 0

/-- The next step of the call of `e1000_send` that is running -/
def Transmitter.drive : Transmitter :=
  match s.phase with
  | .idle => s
  | .waiting frame spin =>
    -- The status is tested once more after the loop, and the card never clears it.
    if (s.ring s.txNext).done = true then { s with phase := .copying frame 0 }
    else if spin < e1000TxSpins then { s with phase := .waiting frame (spin + 1) }
    else
      { s with
        phase := .idle
        answers := s.answers ++ [false] }
  | .copying frame index =>
    match frame[index]? with
    | some byte =>
      { s with
        memory := Function.update s.memory (s.txBuffer + index) byte
        phase := .copying frame (index + 1) }
    | none =>
      { s with
        ring := Function.update s.ring s.txNext (describeFrame s.txBuffer frame)
        phase := .described frame }
  | .described frame =>
    { s with
      txNext := (s.txNext + 1) % e1000RingSize
      tail := (s.txNext + 1) % e1000RingSize
      phase := .polling s.txNext 0
      queued := s.queued ++ [frame] }
  | .polling index spin =>
    if e1000TxSpins ≤ spin then
      { s with
        phase := .idle
        answers := s.answers ++ [false] }
    else if (s.ring index).done = true then
      { s with
        phase := .idle
        answers := s.answers ++ [true] }
    else { s with phase := .polling index (spin + 1) }

/-- The next step of the card, which stops where the head meets the tail -/
def Transmitter.card : Transmitter :=
  if s.head = s.tail then s
  else if s.fetched.length < (s.ring s.head).length then
    { s with
      fetched := s.fetched ++ [s.memory ((s.ring s.head).address + s.fetched.length)] }
  else
    { s with
      ring := Function.update s.ring s.head { s.ring s.head with done := true }
      head := (s.head + 1) % e1000RingSize
      fetched := []
      transmitted := s.transmitted ++ [s.fetched] }

/-- What can happen next -/
inductive TransmitEvent where
  | call (frame : List UInt8)
  | drive
  | card
deriving DecidableEq, Repr

def transmitStep : TransmitEvent → Transmitter
  | .call frame => s.call frame
  | .drive => s.drive
  | .card => s.card

/-!
## Runs of the driver and the card

All descriptors point at one buffer.  As long as every call starts to fill the
buffer only when the card has finished all descriptors, each frame on the wire
is the frame that its descriptor was queued for.  A call that has given up
leaves its descriptor with the card, and the next call overwrites its frame.
-/

/-- Every frame that the card has put on the wire is the one that was queued
for its descriptor; the card takes the descriptors in order. -/
def FramesIntact (s : Transmitter) : Prop :=
  ∀ (n : Nat) (bytes : List UInt8), s.transmitted[n]? = some bytes → s.queued[n]? = some bytes

/-- All descriptors of the ring have been reported. -/
def AllDone (s : Transmitter) : Prop := ∀ slot, slot < e1000RingSize → (s.ring slot).done = true

instance (s : Transmitter) : Decidable (AllDone s) := by
  unfold AllDone
  infer_instance

/-- A call that gets its slot starts to fill the buffer only when the card has
finished all descriptors. -/
def FillsAlone (s : Transmitter) : TransmitEvent → Prop
  | .drive =>
    match s.phase with
    | .waiting _ _ => (s.ring s.txNext).done = true → AllDone s
    | _ => True
  | _ => True

instance (s : Transmitter) (event : TransmitEvent) : Decidable (FillsAlone s event) := by
  unfold FillsAlone
  split
  · split
    · infer_instance
    · infer_instance
  · infer_instance

/-- The first bytes of a frame are in the buffer. -/
def BufferHolds (s : Transmitter) (frame : List UInt8) (count : Nat) : Prop :=
  ∀ i byte, i < count → frame[i]? = some byte → s.memory (s.txBuffer + i) = byte

/-- What the driver has prepared while the card has nothing to do -/
def Prepared (s : Transmitter) : Prop :=
  match s.phase with
  | .idle => AllDone s
  | .waiting frame _ => AllDone s ∧ frame.length ≤ e1000FrameMax
  | .copying frame index => AllDone s ∧ frame.length ≤ e1000FrameMax ∧ BufferHolds s frame index
  | .described frame =>
    frame.length ≤ e1000FrameMax ∧ BufferHolds s frame frame.length ∧
      s.ring s.txNext = describeFrame s.txBuffer frame ∧
      ∀ slot, slot < e1000RingSize → slot ≠ s.txNext → (s.ring slot).done = true
  | .polling _ _ => AllDone s

/-- The card has nothing to do. -/
structure Settled (s : Transmitter) : Prop where
  empty : s.head = s.tail
  fetched : s.fetched = []
  all : s.transmitted = s.queued
  prepared : Prepared s

/-- What the driver may do while the card works on a descriptor -/
def Patient (s : Transmitter) : Prop :=
  match s.phase with
  | .idle => True
  | .waiting frame _ => frame.length ≤ e1000FrameMax
  | .polling _ _ => True
  | _ => False

/-- The card works on the descriptor that was queued last. -/
structure Sending (s : Transmitter) (frame : List UInt8) : Prop where
  last : s.tail = (s.head + 1) % e1000RingSize
  queued : s.queued = s.transmitted ++ [frame]
  descriptor : s.ring s.head = describeFrame s.txBuffer frame
  short : frame.length ≤ e1000FrameMax
  others : ∀ slot, slot < e1000RingSize → slot ≠ s.head → (s.ring slot).done = true
  holds : BufferHolds s frame frame.length
  fetched : s.fetched = frame.take s.fetched.length
  patient : Patient s

/-- The invariant of runs that fill the buffer alone -/
structure SendInvariant (s : Transmitter) : Prop where
  next : s.tail = s.txNext
  head : s.head < e1000RingSize
  work : Settled s ∨ ∃ frame, Sending s frame

theorem setupRings_invariant (txBuffer : Nat) (memory : Nat → UInt8) :
    SendInvariant (setupRings txBuffer memory) where
  next := rfl
  head := Nat.zero_lt_succ 7
  work := Or.inl ⟨rfl, rfl, rfl, fun _ _ => rfl⟩

variable {s : Transmitter} {frame : List UInt8}

theorem SendInvariant.framesIntact (invariant : SendInvariant s) : FramesIntact s := by
  intro n bytes sent
  rcases invariant.work with settled | ⟨frame, sending⟩
  · rw [← settled.all]
    exact sent
  · rw [sending.queued, List.getElem?_append_left (List.getElem?_eq_some_iff.mp sent).1]
    exact sent

theorem next_ne_head (head : Nat) : head ≠ (head + 1) % e1000RingSize := by
  unfold e1000RingSize
  omega

theorem describeFrame_length {txBuffer : Nat} (short : frame.length ≤ e1000FrameMax) :
    (describeFrame txBuffer frame).length = frame.length := by
  unfold e1000FrameMax at short
  exact Nat.mod_eq_of_lt (by omega)

/-- The driver moves on in its call while the card works. -/
theorem Sending.withPhase {phase : SendPhase} {answers : List Bool} (sending : Sending s frame)
    (patient : Patient { s with phase := phase }) :
    Sending
      { s with
        phase := phase
        answers := answers } frame :=
  { sending with patient := patient }

/-- The driver moves on in its call while the card has nothing to do. -/
theorem Settled.withPhase {phase : SendPhase} {answers : List Bool} (settled : Settled s)
    (prepared : Prepared { s with phase := phase }) :
    Settled
      { s with
        phase := phase
        answers := answers } :=
  ⟨settled.empty, settled.fetched, settled.all, prepared⟩

/-- A call that starts waits for its slot. -/
theorem call_invariant (invariant : SendInvariant s) (frame : List UInt8) :
    SendInvariant (s.call frame) := by
  unfold Transmitter.call
  by_cases running : s.phase ≠ .idle
  · rw [if_pos running]
    exact invariant
  have idle : s.phase = .idle := not_not.mp running
  rw [if_neg running]
  by_cases refused : frame.length < 14 ∨ e1000FrameMax < frame.length
  · rw [if_pos refused]
    refine ⟨invariant.next, invariant.head, ?_⟩
    rcases invariant.work with settled | ⟨pending, sending⟩
    · exact Or.inl (settled.withPhase settled.prepared)
    · exact Or.inr ⟨pending, sending.withPhase sending.patient⟩
  · rw [if_neg refused]
    have short : frame.length ≤ e1000FrameMax := by omega
    refine ⟨invariant.next, invariant.head, ?_⟩
    rcases invariant.work with settled | ⟨pending, sending⟩
    · have done := settled.prepared
      simp only [Prepared, idle] at done
      exact Or.inl (settled.withPhase ⟨done, short⟩)
    · exact Or.inr ⟨pending, sending.withPhase short⟩

/-- A call that waits for its slot does not fill the buffer that the card reads. -/
theorem waiting_invariant (invariant : SendInvariant s) {spin : Nat} (place : s.phase = .waiting frame spin)
    (alone : (s.ring s.txNext).done = true → AllDone s) : SendInvariant s.drive := by
  simp only [Transmitter.drive, place]
  rcases invariant.work with settled | ⟨pending, sending⟩
  · have prepared := settled.prepared
    simp only [Prepared, place] at prepared
    rcases prepared with ⟨done, short⟩
    split
    · refine ⟨invariant.next, invariant.head, Or.inl (settled.withPhase ⟨done, short, ?_⟩)⟩
      nofun
    split
    · exact ⟨invariant.next, invariant.head, Or.inl (settled.withPhase ⟨done, short⟩)⟩
    · exact ⟨invariant.next, invariant.head, Or.inl (settled.withPhase done)⟩
  · have short := sending.patient
    simp only [Patient, place] at short
    split
    · rename_i own
      -- The descriptor at the head has not been reported.
      have reported := alone own s.head invariant.head
      rw [sending.descriptor] at reported
      exact absurd reported Bool.false_ne_true
    · split
      · exact ⟨invariant.next, invariant.head, Or.inr ⟨pending, sending.withPhase short⟩⟩
      · exact ⟨invariant.next, invariant.head, Or.inr ⟨pending, sending.withPhase trivial⟩⟩

/-- The card has nothing to do while the driver fills the buffer. -/
theorem SendInvariant.settled (invariant : SendInvariant s) (filling : ¬ Patient s) : Settled s := by
  rcases invariant.work with settled | ⟨pending, sending⟩
  · exact settled
  · exact absurd sending.patient filling

theorem bufferHolds_store {index : Nat} {byte : UInt8} {phase : SendPhase}
    (isByte : frame[index]? = some byte) (holds : BufferHolds s frame index) :
    BufferHolds
      { s with
        memory := Function.update s.memory (s.txBuffer + index) byte
        phase := phase } frame (index + 1) := by
  intro i other before isOther
  change Function.update s.memory (s.txBuffer + index) byte (s.txBuffer + i) = other
  rcases Nat.eq_or_lt_of_le (Nat.le_of_lt_succ before) with rfl | earlier
  · simp_all
  · rw [Function.update_of_ne (by omega)]
    exact holds i other earlier isOther

section

variable (invariant : SendInvariant s)
include invariant

theorem copying_invariant {index : Nat} (place : s.phase = .copying frame index) : SendInvariant s.drive := by
  have settled := invariant.settled (by simp only [Patient, place, not_false_eq_true])
  have prepared := settled.prepared
  simp only [Prepared, place] at prepared
  rcases prepared with ⟨done, short, holds⟩
  simp only [Transmitter.drive, place]
  cases isByte : frame[index]? with
  | some byte =>
    refine ⟨invariant.next, invariant.head, Or.inl ⟨settled.empty, settled.fetched, settled.all, ?_⟩⟩
    exact ⟨done, short, bufferHolds_store isByte holds⟩
  | none =>
    have whole : frame.length ≤ index := List.getElem?_eq_none_iff.mp isByte
    refine ⟨invariant.next, invariant.head, Or.inl ⟨settled.empty, settled.fetched, settled.all, ?_⟩⟩
    refine ⟨short, fun i byte before => holds i byte (Nat.lt_of_lt_of_le before whole),
      Function.update_self .., fun slot isSlot different => ?_⟩
    change (Function.update s.ring s.txNext _ slot).done = true
    rw [Function.update_of_ne different]
    exact done slot isSlot

/-- The descriptor goes to the card. -/
theorem described_invariant (place : s.phase = .described frame) : SendInvariant s.drive := by
  have settled := invariant.settled (by simp only [Patient, place, not_false_eq_true])
  have prepared := settled.prepared
  simp only [Prepared, place] at prepared
  rcases prepared with ⟨short, holds, descriptor, others⟩
  have isNext : s.txNext = s.head := invariant.next.symm.trans settled.empty.symm
  simp only [Transmitter.drive, place]
  rw [isNext] at descriptor others
  rw [isNext]
  refine ⟨rfl, invariant.head, Or.inr ⟨frame, rfl, ?_, descriptor, short, others, holds, ?_, trivial⟩⟩
  · rw [settled.all]
  · rw [settled.fetched]
    rfl

theorem polling_invariant {index spin : Nat}
    (place : s.phase = .polling index spin) : SendInvariant s.drive := by
  have kept : ∀ (phase : SendPhase) (answers : List Bool), phase = .idle ∨ phase = .polling index (spin + 1) →
      SendInvariant
        { s with
          phase := phase
          answers := answers } := by
    intro phase answers isPhase
    rcases invariant.work with settled | ⟨pending, sending⟩
    · have done := settled.prepared
      simp only [Prepared, place] at done
      refine ⟨invariant.next, invariant.head, Or.inl (settled.withPhase ?_)⟩
      rcases isPhase with rfl | rfl
      · exact done
      · exact done
    · refine ⟨invariant.next, invariant.head, Or.inr ⟨pending, sending.withPhase ?_⟩⟩
      rcases isPhase with rfl | rfl
      · trivial
      · trivial
  simp only [Transmitter.drive, place]
  grind

theorem drive_invariant (alone : FillsAlone s .drive) : SendInvariant s.drive := by
  cases place : s.phase with
  | idle =>
    simp_all [Transmitter.drive]
  | waiting frame spin =>
    grind [FillsAlone, waiting_invariant]
  | copying frame index => exact copying_invariant invariant place
  | described frame => exact described_invariant invariant place
  | polling index spin => exact polling_invariant invariant place

end

/-- The card fetches a byte of the frame that it sends. -/
theorem fetch_sending (sending : Sending s frame) (more : s.fetched.length < frame.length) :
    Sending
      { s with fetched := s.fetched ++ [s.memory ((s.ring s.head).address + s.fetched.length)] }
      frame := by
  have isByte := List.getElem?_eq_getElem more
  have stored := sending.holds s.fetched.length _ more isByte
  have address : (s.ring s.head).address = s.txBuffer := by
    rw [sending.descriptor]
    rfl
  refine { sending with fetched := ?_ }
  rw [List.length_append, List.length_singleton, List.take_add_one, isByte, ← sending.fetched,
    address, stored]
  rfl

/-- The card reports the descriptor of the frame that it has sent. -/
theorem report_settled (sending : Sending s frame) (whole : frame.length ≤ s.fetched.length) :
    Settled
      { s with
        ring := Function.update s.ring s.head { s.ring s.head with done := true }
        head := (s.head + 1) % e1000RingSize
        fetched := []
        transmitted := s.transmitted ++ [s.fetched] } := by
  have isFrame : s.fetched = frame := by
    rw [sending.fetched]
    exact List.take_of_length_le whole
  have done : ∀ slot, slot < e1000RingSize →
      (Function.update s.ring s.head { s.ring s.head with done := true } slot).done = true := by
    intro slot isSlot
    by_cases same : slot = s.head
    · rw [same, Function.update_self]
    · rw [Function.update_of_ne same]
      exact sending.others slot isSlot same
  refine ⟨sending.last.symm, rfl, ?_, ?_⟩
  · rw [sending.queued, isFrame]
  · have patient := sending.patient
    unfold Patient at patient
    cases place : s.phase with
    | idle => exact done
    | waiting next spin =>
      simp only [place] at patient
      exact ⟨done, patient⟩
    | copying next index =>
      simp only [place] at patient
    | described next =>
      simp only [place] at patient
    | polling index spin => exact done

theorem card_invariant (invariant : SendInvariant s) : SendInvariant s.card := by
  unfold Transmitter.card
  rcases invariant.work with settled | ⟨frame, sending⟩
  · rw [if_pos settled.empty]
    exact invariant
  rw [if_neg (by
    rw [sending.last]
    exact next_ne_head s.head)]
  have isLength : (s.ring s.head).length = frame.length := by
    rw [sending.descriptor]
    exact describeFrame_length sending.short
  rw [isLength]
  by_cases more : s.fetched.length < frame.length
  · rw [if_pos more]
    exact ⟨invariant.next, invariant.head, Or.inr ⟨frame, fetch_sending sending more⟩⟩
  rw [if_neg more]
  refine ⟨invariant.next, Nat.mod_lt _ (Nat.zero_lt_succ 7), Or.inl ?_⟩
  exact report_settled sending (Nat.le_of_not_lt more)

theorem transmitStep_invariant (s : Transmitter) (event : TransmitEvent)
    (invariant : SendInvariant s) (alone : FillsAlone s event) :
    SendInvariant (transmitStep s event) := by
  cases event with
  | call frame => exact call_invariant invariant frame
  | drive => exact drive_invariant invariant alone
  | card => exact card_invariant invariant

/-- If every call fills the buffer alone, every frame on the wire is the one
that was queued for its descriptor. -/
theorem frames_intact (txBuffer : Nat) (memory : Nat → UInt8) (events : List TransmitEvent)
    (alone : Respects transmitStep FillsAlone (setupRings txBuffer memory) events) :
    FramesIntact (run transmitStep (setupRings txBuffer memory) events) :=
  (run_invariant_of_respects transmitStep_invariant events _
    (setupRings_invariant txBuffer memory) alone).framesIntact

/-- A frame of fourteen equal bytes -/
def sameBytes (byte : UInt8) : List UInt8 := List.replicate 14 byte

theorem frames_intact_two :
    FramesIntact (run transmitStep (setupRings 4096 fun _ => 0)
      (.call (sameBytes 1) :: List.replicate 17 .drive ++ List.replicate 15 .card ++
        .drive :: .call (sameBytes 2) :: List.replicate 17 .drive ++ List.replicate 15 .card)) :=
  frames_intact 4096 (fun _ => 0) _ (by decide +kernel)

/-- The call polls its descriptor as long as the card does not report it. -/
theorem run_polling {index : Nat} (busy : (s.ring index).done = false) :
    ∀ (count spin : Nat), spin + count ≤ e1000TxSpins →
      run transmitStep { s with phase := .polling index spin } (List.replicate count .drive) =
        { s with phase := .polling index (spin + count) } := by
  intro count
  induction count generalizing s with
  | zero => exact fun spin _ => rfl
  | succ count ih =>
    intro spin within
    have polled : transmitStep { s with phase := .polling index spin } .drive =
        { s with phase := .polling index (spin + 1) } := by
      change Transmitter.drive { s with phase := .polling index spin } = _
      simp only [Transmitter.drive]
      rw [if_neg (by omega), if_neg (by rw [busy]; exact Bool.false_ne_true)]
    simp_all [List.replicate_succ, run_cons, Nat.add_right_comm, Nat.add_assoc]

/-- The first call queues its frame and polls the descriptor. -/
def firstCall : List TransmitEvent := .call (sameBytes 1) :: List.replicate 17 .drive

/-- The second call fills the buffer before the card has fetched the first frame. -/
def secondCall : List TransmitEvent :=
  .call (sameBytes 2) :: List.replicate 15 .drive ++ List.replicate 15 .card

def afterFirst : Transmitter := run transmitStep (setupRings 4096 fun _ => 0) firstCall

/-- The first call has given up. -/
def givenUp : Transmitter :=
  { afterFirst with
    phase := .idle
    answers := afterFirst.answers ++ [false] }

theorem drive_givenUp (s : Transmitter) (index : Nat) :
    transmitStep { s with phase := .polling index (0 + e1000TxSpins) } .drive =
      { s with
        phase := .idle
        answers := s.answers ++ [false] } := by
  rfl

theorem run_givenUp :
    run transmitStep (setupRings 4096 fun _ => 0)
      (firstCall ++ List.replicate e1000TxSpins .drive ++ [.drive]) = givenUp := by
  have busy : (afterFirst.ring 0).done = false := by decide +kernel
  have place : afterFirst.phase = .polling 0 0 := by decide +kernel
  have polling : afterFirst = { afterFirst with phase := .polling 0 0 } := by
    rw [← place]
  have polled := run_polling busy e1000TxSpins 0 (Nat.le_of_eq (Nat.zero_add _))
  rw [← polling] at polled
  have atFirst : run transmitStep (setupRings 4096 fun _ => 0) firstCall = afterFirst := rfl
  rw [run_append, run_append, atFirst, polled, run_cons, run_nil, drive_givenUp]
  rfl

/-- The card sends the bytes of the second frame for the descriptor of the first. -/
theorem frames_overwritten :
    ¬ ∀ (txBuffer : Nat) (memory : Nat → UInt8) (events : List TransmitEvent),
      FramesIntact (run transmitStep (setupRings txBuffer memory) events) := by
  intro intact
  have intact := intact 4096 (fun _ => 0)
    (firstCall ++ List.replicate e1000TxSpins .drive ++ [.drive] ++ secondCall)
  rw [run_append, run_givenUp] at intact
  have sent : (run transmitStep givenUp secondCall).transmitted[0]? = some (sameBytes 2) := by
    decide +kernel
  have queued : (run transmitStep givenUp secondCall).queued[0]? = some (sameBytes 1) := by
    decide +kernel
  have same := (intact 0 (sameBytes 2) sent).symm.trans queued
  exact absurd same (by decide)

end BoringOS.E1000
