import BoringOS.Xhci.ControlRing

namespace BoringOS.Xhci

open Library

/-!
# Every run of control requests

The builders take a request only if it fits below the link, and they go back
to the start of the ring only if it ends there exactly.  As long as every
request fits, the producer stands at the number of slots used so far, counted
modulo the size of the ring.  A request that would reach over the end is
refused, and so are all that follow it at this place.
-/

/-- The request is built and placed as the ring requires. -/
structure RequestPlaced (frames : Ep0Frames) (ep0 : Ep0) (request : ControlRequest) : Prop where
  /-- Its entries lie one behind the other, below the link. -/
  below : ep0.producerIndex + request.slots ≤ xhciEp0RingUsable
  built : ∃ td, xhciBuildControlTd frames ep0 request = some td ∧
    (ep0Submit frames ep0 request).1 = true ∧
    td.setupPhysical = frames.ringPhysical + ep0.producerIndex * xhciTrbSize ∧
    (request.dataLength.isSome = true →
      td.dataPhysical = frames.ringPhysical + (ep0.producerIndex + 1) * xhciTrbSize) ∧
    td.statusPhysical =
      frames.ringPhysical + (ep0.producerIndex + (request.slots - 1)) * xhciTrbSize ∧
    (request.trbs td).length = request.slots ∧
    ∀ offset trb, (request.trbs td)[offset]? = some trb →
      (ep0Submit frames ep0 request).2.ring (ep0.producerIndex + offset) = trb
  /-- The cycle bit flips if and only if the producer returns to the start. -/
  flips : (ep0Submit frames ep0 request).2.producerCycle ≠ ep0.producerCycle ↔
    (ep0Submit frames ep0 request).2.producerIndex = 0

theorem storeTrbs_before (trbs : List XhciTrb) :
    ∀ (ring : Nat → XhciTrb) (start index : Nat), index < start →
      storeTrbs ring start trbs index = ring index := by
  induction trbs with
  | nil => exact fun _ _ _ _ => rfl
  | cons trb rest ih =>
    intro ring start index before
    rw [storeTrbs, ih _ _ _ (Nat.lt_succ_of_lt before)]
    exact if_neg (Nat.ne_of_lt before)

theorem storeTrbs_at (trbs : List XhciTrb) :
    ∀ (ring : Nat → XhciTrb) (start offset : Nat) (trb : XhciTrb), trbs[offset]? = some trb →
      storeTrbs ring start trbs (start + offset) = trb := by
  induction trbs with
  | nil =>
    nofun
  | cons head rest ih =>
    intro ring start offset trb isTrb
    cases offset with
    | zero =>
      simp_all [storeTrbs, storeTrb, storeTrbs_before]
    | succ offset =>
      have moved : start + (offset + 1) = start + 1 + offset := by omega
      rw [storeTrbs, moved]
      exact ih _ _ _ _ isTrb

variable {frames : Ep0Frames} {ep0 : Ep0} {request : ControlRequest}

theorem slots_bounds (request : ControlRequest) :
    0 < request.slots ∧ request.slots < xhciEp0RingUsable := by
  rw [ControlRequest.slots, xhciEp0RingUsable]
  split <;> omega

theorem trbs_length (request : ControlRequest) (td : XhciControlTd) :
    (request.trbs td).length = request.slots := by
  rw [ControlRequest.trbs, ControlRequest.slots]
  split <;> rfl

/-- The ring of a device passes the checks of the builders. -/
theorem Ep0Frames.ring_checks (frames : Ep0Frames) :
    frames.ringPhysical ≠ 0 ∧ frames.ringPhysical &&& 0x3f = 0 := by
  refine ⟨frames.ringPresent, ?_⟩
  rw [show 0x3f = 2 ^ 6 - 1 from rfl, Nat.and_two_pow_sub_one_eq_mod]
  exact frames.ringAligned

theorem Ep0Frames.buffer_checks (frames : Ep0Frames) : frames.bufferPhysical ≠ 0 ∧
    frames.bufferPhysical &&& (xhciDescriptorBufferBytes - 1) = 0 := by
  refine ⟨frames.bufferPresent, ?_⟩
  rw [show xhciDescriptorBufferBytes - 1 = 2 ^ 12 - 1 from rfl, Nat.and_two_pow_sub_one_eq_mod]
  exact frames.bufferAligned

theorem setup_directionIn {length : Nat} (asks : request.dataLength = some length) :
    request.setup.headD 0 &&& 0x80 ≠ 0 := by
  cases request with
  | getDescriptor => exact (by decide : (0x80 : UInt8) &&& 0x80 ≠ 0)
  | hidGetReportDescriptor => exact (by decide : (0x81 : UInt8) &&& 0x80 ≠ 0)
  | hubGetDescriptor => exact (by decide : (0xa0 : UInt8) &&& 0x80 ≠ 0)
  | hubGetPortStatus => exact (by decide : (0xa3 : UInt8) &&& 0x80 ≠ 0)
  | setConfiguration => cases asks
  | hidSetProtocol => cases asks
  | hubSetPortFeature => cases asks
  | hubClearPortFeature => cases asks

/-- The place of the next request -/
def nextIndex (index slots : Nat) : Nat :=
  if index = xhciEp0RingUsable - slots then 0 else index + slots

theorem xhciBuildControlTd_cases (wellFormed : request.WellFormed) :
    (xhciEp0RingUsable < ep0.producerIndex + request.slots ∧
      xhciBuildControlTd frames ep0 request = none) ∨
    ep0.producerIndex + request.slots ≤ xhciEp0RingUsable ∧
      ∃ td, xhciBuildControlTd frames ep0 request = some td ∧
        td.setupPhysical = frames.ringPhysical + ep0.producerIndex * xhciTrbSize ∧
        (request.dataLength.isSome = true →
          td.dataPhysical = frames.ringPhysical + (ep0.producerIndex + 1) * xhciTrbSize) ∧
        td.statusPhysical = frames.ringPhysical + (ep0.producerIndex + (request.slots - 1)) * xhciTrbSize ∧
        td.nextProducerIndex = nextIndex ep0.producerIndex request.slots ∧
        td.nextProducerCycle =
          if ep0.producerIndex = xhciEp0RingUsable - request.slots then !ep0.producerCycle
          else ep0.producerCycle := by
  have ringChecks := frames.ring_checks
  have bufferChecks := frames.buffer_checks
  rw [xhciBuildControlTd, if_neg (by rw [wellFormed.1]; decide)]
  cases asks : request.dataLength with
  | some length =>
    rcases wellFormed.2 length asks with ⟨positive, fits⟩
    have direction := setup_directionIn asks
    have slots : request.slots = 3 := by rw [ControlRequest.slots, asks]; rfl
    rw [slots]
    simp only [buildControlInTd, ringChecks, bufferChecks, positive, direction, false_or, or_false,
      ne_eq, not_true_eq_false, Nat.not_lt.mpr fits]
    split
    · grind
    rename_i near
    refine Or.inr ⟨?_, _, rfl, rfl, fun _ => ?_, ?_, rfl, rfl⟩
    · simp only [xhciEp0RingUsable] at near ⊢
      omega
    · rw [Nat.add_mul, Nat.one_mul, Nat.add_assoc]
    · simp only [xhciTrbSize]
      omega
  | none =>
    have slots : request.slots = 2 := by rw [ControlRequest.slots, asks]; rfl
    rw [slots]
    simp only [buildNoDataControlTd, ringChecks, false_or, ne_eq, not_true_eq_false]
    split
    · grind
    rename_i near
    refine Or.inr ⟨?_, _, rfl, rfl, nofun, ?_, rfl, rfl⟩
    · simp only [xhciEp0RingUsable] at near ⊢
      omega
    · simp only [xhciTrbSize]
      omega

theorem requestPlaced_iff (wellFormed : request.WellFormed) :
    (RequestPlaced frames ep0 request ↔ ep0.producerIndex + request.slots ≤ xhciEp0RingUsable) ∧
    (ep0.producerIndex + request.slots ≤ xhciEp0RingUsable → (ep0Submit frames ep0 request).2.producerIndex =
        (ep0.producerIndex + request.slots) % xhciEp0RingUsable) := by
  have bounds := slots_bounds request
  rcases @xhciBuildControlTd_cases frames ep0 request wellFormed with
    ⟨far, -⟩ | ⟨near, td, built, setupAt, dataAt, statusAt, index, cycle⟩
  · refine ⟨⟨fun placed => placed.below, fun near => ?_⟩, fun near => ?_⟩
    · exact absurd near (Nat.not_le.mpr far)
    · exact absurd near (Nat.not_le.mpr far)
  have submitted : (ep0Submit frames ep0 request).1 = true ∧
      (ep0Submit frames ep0 request).2.producerIndex = td.nextProducerIndex ∧
      (ep0Submit frames ep0 request).2.producerCycle = td.nextProducerCycle := by
    rw [ep0Submit, built]
    exact ⟨rfl, rfl, rfl⟩
  refine ⟨⟨fun placed => placed.below, fun _ => ⟨near, ⟨td, built, submitted.1, setupAt, dataAt,
    statusAt, trbs_length request td, fun offset trb isTrb => ?_⟩, ?_⟩⟩, fun _ => ?_⟩
  · have inside : offset < request.slots := by
      rw [← trbs_length request td]
      exact (List.getElem?_eq_some_iff.mp isTrb).1
    have stored := storeTrbs_at _ ep0.ring ep0.producerIndex _ _ isTrb
    rw [ep0Submit, built]
    grind [storeTrb]
  · grind [nextIndex]
  · rw [submitted.2.1, index, nextIndex]
    grind [Nat.le_of_lt, Nat.mod_self, Nat.mod_eq_of_lt]

/-- The slots that some requests take altogether -/
def slotsUsed (requests : List ControlRequest) : Nat := (requests.map ControlRequest.slots).sum

/-- No request reaches over the end of the ring: the one that arrives there
ends at the last slot. -/
def NeverStraddles (used : Nat) (requests : List ControlRequest) : Prop :=
  ∀ before request after, requests = before ++ request :: after →
    (used + slotsUsed before) % xhciEp0RingUsable + request.slots ≤ xhciEp0RingUsable

/-- Every request of the run is placed. -/
def AllPlaced (frames : Ep0Frames) (ep0 : Ep0) (requests : List ControlRequest) : Prop :=
  ∀ before request after, requests = before ++ request :: after →
    RequestPlaced frames (afterRequests frames ep0 before) request

theorem allPlaced_cons {requests : List ControlRequest} :
    AllPlaced frames ep0 (request :: requests) ↔
      RequestPlaced frames ep0 request ∧ AllPlaced frames (ep0Submit frames ep0 request).2 requests := by
  rw [AllPlaced, forall_split_cons]
  rfl

theorem neverStraddles_cons {used : Nat} {requests : List ControlRequest} :
    NeverStraddles used (request :: requests) ↔
      used % xhciEp0RingUsable + request.slots ≤ xhciEp0RingUsable ∧
        NeverStraddles (used + request.slots) requests := by
  have shifted : ∀ before, used + slotsUsed (request :: before) =
      used + request.slots + slotsUsed before := by
    intro before
    rw [slotsUsed, List.map_cons, List.sum_cons, Nat.add_assoc, slotsUsed]
  rw [NeverStraddles, forall_split_cons]
  simp only [shifted]
  rfl

/-- The producer stands at the number of slots used, as long as all requests
fit. -/
theorem allPlaced_iff_neverStraddles (requests : List ControlRequest)
    (wellFormed : ∀ request ∈ requests, request.WellFormed) :
    ∀ ep0 used, ep0.producerIndex = used % xhciEp0RingUsable →
      (AllPlaced frames ep0 requests ↔ NeverStraddles used requests) := by
  induction requests with
  | nil =>
    intro ep0 used _
    constructor
    · exact fun _ before _ _ impossible => absurd impossible (by simp)
    · exact fun _ before _ _ impossible => absurd impossible (by simp)
  | cons request rest ih =>
    intro ep0 used index
    rcases @requestPlaced_iff frames ep0 request (wellFormed request List.mem_cons_self) with
      ⟨placed, moves⟩
    rw [allPlaced_cons, neverStraddles_cons, placed, ← index]
    apply and_congr_right
    grind [Nat.mod_add_mod]

/-- The producer of a device that has just been given its address -/
structure Fresh (ep0 : Ep0) : Prop where
  index : ep0.producerIndex = 0
  cycle : ep0.producerCycle = true

/-- Every request of a run can be built, with its entries in order below the
link and the cycle bit flipping at the return to the start, exactly if no
request reaches over the end of the ring. -/
theorem controlRequests_placed_iff (frames : Ep0Frames) (ep0 : Ep0) (fresh : Fresh ep0)
    (requests : List ControlRequest) (wellFormed : ∀ request ∈ requests, request.WellFormed) :
    AllPlaced frames ep0 requests ↔ NeverStraddles 0 requests :=
  allPlaced_iff_neverStraddles requests wellFormed ep0 0 fresh.index

/-- The ring and the buffer of some device -/
def twoFrames : Ep0Frames where
  ringPhysical := 0x1000
  bufferPhysical := 0x2000
  ringPresent := by decide
  ringAligned := by decide
  bufferPresent := by decide
  bufferAligned := by decide

def freshEp0 : Ep0 := ⟨0, true, fun _ => ⟨0, 0, 0⟩⟩

theorem controlRequests_placed_iff_configuration :
    AllPlaced twoFrames freshEp0 [.getDescriptor 1 0 18, .setConfiguration 1, .hubGetPortStatus 1] ↔
      NeverStraddles 0 [.getDescriptor 1 0 18, .setConfiguration 1, .hubGetPortStatus 1] :=
  controlRequests_placed_iff twoFrames freshEp0 ⟨rfl, rfl⟩ _ fun request member => by
    simp only [List.mem_cons, List.not_mem_nil, or_false] at member
    rcases member with rfl | rfl | rfl
    · exact ⟨rfl, fun length isLength => by cases isLength; decide⟩
    · exact ⟨rfl, nofun⟩
    · exact ⟨rfl, fun length isLength => by cases isLength; decide⟩

/-- A hub that is configured and then asked for the status of a port
eighty-three times takes no request any more. -/
theorem polled_hub_refuses :
    (∀ request ∈ ControlRequest.setConfiguration 1 ::
        List.replicate 83 (ControlRequest.hubGetPortStatus 1), request.WellFormed) ∧
      (afterRequests twoFrames freshEp0 (ControlRequest.setConfiguration 1 ::
        List.replicate 83 (ControlRequest.hubGetPortStatus 1))).producerIndex = 251 ∧
      (∀ request : ControlRequest, xhciBuildControlTd twoFrames
        (afterRequests twoFrames freshEp0 (ControlRequest.setConfiguration 1 ::
          List.replicate 83 (ControlRequest.hubGetPortStatus 1))) request = none) ∧
      ¬ AllPlaced twoFrames freshEp0 (ControlRequest.setConfiguration 1 ::
        List.replicate 84 (ControlRequest.hubGetPortStatus 1)) := by
  have index : (afterRequests twoFrames freshEp0 (ControlRequest.setConfiguration 1 ::
      List.replicate 83 (ControlRequest.hubGetPortStatus 1))).producerIndex = 251 := by
    decide +kernel
  refine ⟨fun request member => ?_, index, fun request => ?_, fun placed => ?_⟩
  · rcases List.mem_cons.mp member with rfl | repeated
    · exact ⟨rfl, nofun⟩
    · rw [(List.mem_replicate.mp repeated).2]
      exact ⟨rfl, fun length isLength => by cases isLength; decide⟩
  · rw [xhciBuildControlTd, index]
    split
    · rfl
    split
    · rw [buildControlInTd, if_pos]
      simp [xhciEp0RingUsable]
    rfl
  · have last := (placed (ControlRequest.setConfiguration 1 ::
      List.replicate 83 (ControlRequest.hubGetPortStatus 1)) (.hubGetPortStatus 1) [] rfl).below
    rw [index] at last
    exact absurd last (by decide)

end BoringOS.Xhci
