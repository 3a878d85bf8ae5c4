import BoringOS.UsbHid.ReportEvents

namespace BoringOS.UsbHid

open Xhci

/-!
# Servicing a report

When the event of an endpoint is at the head of the event ring, the service
takes an acceptable report, moves on and arms the endpoint again.  A report
that is not acceptable is left where it is, together with everything behind
it.
-/

namespace EventEndpoint

variable {devices : List HidDevice} {event : XhciTrb}

/-! ## Taking the report -/

theorem takeReport_done (at' : EventEndpoint devices event) {environment : HidEnvironment}
    (acceptable : AcceptableReport at'.endpoint.descriptor.reportFormat
      at'.endpoint.descriptor.mouseLayout at'.report)
    (room : ReportRoom at'.device at'.endpoint at'.report at'.short)
    (mapped : environment.mapsFrame at'.endpoint.runtime.reportBufferPhysical = true) :
    ∃ runtime, takeReport environment at'.device event 0 at'.endpoint =
        .done (completeEndpoint at'.endpoint at'.actual at'.short runtime) ∧
      SameTransfers at'.endpoint.runtime runtime := by
  rcases m52DecodeReport_some acceptable room with ⟨runtime, decoded, same⟩
  refine ⟨runtime, ?_, same⟩
  have some' : at'.actual ≠ 0 := by
    intro none
    have length := at'.length_report
    rw [none] at length
    exact acceptable.1 (List.eq_nil_of_length_eq_zero length)
  have bytes := room.bytes
  rw [at'.length_report] at bytes
  have fits : ¬(at'.actual = 0 ∨ environment.mapsFrame at'.endpoint.runtime.reportBufferPhysical = false ∨
      at'.endpoint.runtime.completedTransfers = uint32Max ∨
      uint32Max - at'.endpoint.runtime.reportBytes < at'.actual ∨ at'.device.transferEvents = uint32Max ∨
      (at'.short = true ∧ at'.endpoint.runtime.shortPackets = uint32Max) ∨ 0 = uint32Max) := by
    simp only [not_or, not_and, mapped, Bool.true_eq_false, not_false_eq_true, true_and]
    exact ⟨some', room.completed, Nat.not_lt.mpr bytes, room.events, room.shortPackets, by decide⟩
  have busy : ¬at'.endpoint.runtime.transferOutstanding = false := by
    rw [at'.outstanding]
    decide
  have decoded' : m52DecodeReport at'.endpoint.descriptor at'.endpoint.runtime
      (at'.endpoint.page.take at'.actual) = some runtime := decoded
  rw [takeReport]
  simp only [if_neg busy, at'.validated, if_neg fits, decoded']

theorem takeReport_rejected (at' : EventEndpoint devices event) (environment : HidEnvironment)
    (unacceptable : ¬AcceptableReport at'.endpoint.descriptor.reportFormat
      at'.endpoint.descriptor.mouseLayout at'.report) :
    takeReport environment at'.device event 0 at'.endpoint = .rejected := by
  have busy : ¬at'.endpoint.runtime.transferOutstanding = false := by
    rw [at'.outstanding]
    decide
  rw [takeReport]
  simp only [if_neg busy, at'.validated]
  split
  · rfl
  rename_i fits
  have some' : at'.report ≠ [] := by
    intro none
    have length := at'.length_report
    rw [none] at length
    exact fits (Or.inl length.symm)
  have undecoded : m52DecodeReport at'.endpoint.descriptor at'.endpoint.runtime
      (at'.endpoint.page.take at'.actual) = none := m52DecodeReport_none some' unacceptable
  rw [undecoded]

end EventEndpoint

/-! ## Arming the endpoint again -/

/-- The controller runs, its event ring is within reach, and the endpoint is
one that has been configured. -/
structure ReadyToServe (environment : HidEnvironment) (state : XhciState) (event : XhciTrb)
    (at' : EventEndpoint state.addressed event) : Prop where
  running : state.controllerRunning = true
  registers : environment.mapsRegisters = true
  eventRing : environment.mapsFrame state.eventRingPhysical = true
  interrupter : (state.runtimeOffset + m52RuntimeInterrupter0) % 2 ^ 32 ≤ xhciMmioWindowSize - 0x20
  isHead : event = state.eventRing (xhciEventDequeuePosition state).1
  cycle : (event.control &&& xhciTrbCycle != 0) = (xhciEventDequeuePosition state).2
  distinct : (addresses state.addressed).Nodup
  configured : at'.device.deviceConfigured = true ∧ at'.device.hidEndpointReady = true
  controller : at'.device.controllerIndex = state.controllerIndex
  doorbell : (at'.device.slotId * 4 + state.doorbellOffset) % 2 ^ 32 ≤ xhciMmioWindowSize - 4
  ringMapped : environment.mapsFrame at'.endpoint.ringPhysical = true
  buffer : at'.endpoint.runtime.reportBufferPhysical ≠ 0
  bufferAligned : at'.endpoint.runtime.reportBufferPhysical &&& 0xfff = 0
  bufferMapped : environment.mapsFrame at'.endpoint.runtime.reportBufferPhysical = true
  producer : at'.endpoint.runtime.producerIndex < xhciInterruptRingUsable

/-- An endpoint whose report has been taken is armed again. -/
theorem m52SubmitEndpoint_rearms {environment : HidEnvironment} {state later : XhciState}
    {event : XhciTrb} {at' : EventEndpoint state.addressed event}
    (ready : ReadyToServe environment state event at') {device : HidDevice}
    {runtime : HidEndpointRuntime} (same : SameTransfers at'.endpoint.runtime runtime)
    (submitted : at'.endpoint.runtime.submittedTransfers ≠ uint32Max)
    (controllerIndex : later.controllerIndex = state.controllerIndex)
    (doorbellOffset : later.doorbellOffset = state.doorbellOffset)
    (slot : device.slotId = at'.device.slotId)
    (deviceController : device.controllerIndex = at'.device.controllerIndex)
    (deviceConfigured : device.deviceConfigured = true ∧ device.hidEndpointReady = true)
    (few : device.endpoints.length ≤ xhciMaxHidEndpoints) :
    ∃ armed, m52SubmitEndpoint environment later device
        (completeEndpoint at'.endpoint at'.actual at'.short runtime) = (true, armed) ∧
      Rearmed at'.endpoint armed ∧ armed.descriptor = at'.endpoint.descriptor := by
  have valid := validEvent at'.validated
  rcases same with ⟨buffer, producerIndex, producerCycle, submittedTransfers⟩
  have submittable : Submittable environment later device
      (completeEndpoint at'.endpoint at'.actual at'.short runtime) := by
    constructor
    case controller =>
      exact deviceController.trans (ready.controller.trans controllerIndex.symm)
    case few => exact few
    case configured => exact deviceConfigured
    case free => rfl
    case notControl => exact valid.notControl
    case known => exact valid.known
    case packet => exact valid.packet
    case packetFits => exact valid.packetFits
    case ring => exact valid.ring
    case aligned => exact valid.aligned
    case ringMapped => exact ready.ringMapped
    case buffer => exact fun none => ready.buffer (buffer.symm.trans none)
    case bufferAligned =>
      change runtime.reportBufferPhysical &&& 0xfff = 0
      rw [buffer]
      exact ready.bufferAligned
    case bufferMapped =>
      change environment.mapsFrame runtime.reportBufferPhysical = true
      rw [buffer]
      exact ready.bufferMapped
    case producer =>
      change runtime.producerIndex < xhciInterruptRingUsable
      rw [producerIndex]
      exact ready.producer
    case submitted => exact fun full => submitted (submittedTransfers.symm.trans full)
    case slot => exact fun none => valid.slotPresent (slot.symm.trans none)
    case slotFits =>
      have byte : eventSlot event < 2 ^ 8 := Nat.mod_lt _ (by decide)
      rw [slot, ← valid.slot]
      change eventSlot event * 4 ≤ 65532
      omega
    case doorbell =>
      rw [slot, doorbellOffset]
      exact ready.doorbell
  rcases m52SubmitEndpoint_succeeds submittable with ⟨armed, isArmed, rearmed, descriptor⟩
  refine ⟨armed, isArmed, ⟨rearmed.outstanding, ?_, ?_, rearmed.rung⟩, descriptor⟩
  · have expected := rearmed.expected
    change _ = at'.endpoint.ringPhysical + runtime.producerIndex * xhciTrbSize at expected
    rw [expected, producerIndex]
  · have trb := rearmed.trb
    change armed.ring runtime.producerIndex = ⟨runtime.reportBufferPhysical,
      at'.endpoint.descriptor.maxPacket, _ ||| cycleBit runtime.producerCycle⟩ at trb
    simp_all

/-- The pass after a report has been taken arms the endpoint, and changes
nothing else. -/
theorem rearmDevices_replaced {environment : HidEnvironment} {state later : XhciState}
    {event : XhciTrb} {at' : EventEndpoint state.addressed event}
    (ready : ReadyToServe environment state event at')
    (settled : ∀ device ∈ state.addressed, Settled environment device)
    {runtime : HidEndpointRuntime} (same : SameTransfers at'.endpoint.runtime runtime)
    (submitted : at'.endpoint.runtime.submittedTransfers ≠ uint32Max)
    (controllerIndex : later.controllerIndex = state.controllerIndex)
    (doorbellOffset : later.doorbellOffset = state.doorbellOffset) (transferEvents : Nat) :
    ∃ armed, rearmDevices environment later
        (at'.replaced (completeEndpoint at'.endpoint at'.actual at'.short runtime)
          transferEvents) = (true, at'.replaced armed transferEvents) ∧
      Rearmed at'.endpoint armed := by
  have inBefore : ∀ device ∈ at'.devicesBefore, Settled environment device := by
    intro device member
    refine settled device ?_
    rw [at'.isDevice]
    exact List.mem_append_left _ member
  have inAfter : ∀ device ∈ at'.devicesAfter, Settled environment device := by
    intro device member
    refine settled device ?_
    rw [at'.isDevice]
    exact List.mem_append_right _ (List.mem_cons_of_mem _ member)
  have member : at'.device ∈ at'.devicesBefore ++ at'.device :: at'.devicesAfter :=
    List.mem_append_right _ List.mem_cons_self
  have here := settled at'.device ((congrArg (at'.device ∈ ·) at'.isDevice).mpr member)
  rcases here with notHid | ⟨supported, configured, hidReady, few, outstanding⟩
  · rw [m60ClassifyHidDevice] at notHid
    split at notHid
    · cases notHid
    · rw [if_pos ready.configured] at notHid
      grind
  · rw [at'.isEndpoint] at outstanding
    have endpointsBefore : ∀ endpoint ∈ at'.endpointsBefore, endpoint.runtime.transferOutstanding = true :=
      fun endpoint member => outstanding endpoint (List.mem_append_left _ member)
    have endpointsAfter : ∀ endpoint ∈ at'.endpointsAfter,
        endpoint.runtime.transferOutstanding = true := fun endpoint member =>
      outstanding endpoint (List.mem_append_right _ (List.mem_cons_of_mem _ member))
    have length : (at'.endpointsBefore ++
        completeEndpoint at'.endpoint at'.actual at'.short runtime :: at'.endpointsAfter).length =
          at'.device.endpoints.length := by
      rw [at'.isEndpoint, List.length_append, List.length_append, List.length_cons, List.length_cons]
    have descriptors : (at'.endpointsBefore ++ completeEndpoint at'.endpoint at'.actual at'.short runtime ::
          at'.endpointsAfter).map (·.descriptor) = at'.device.endpoints.map (·.descriptor) := by
      rw [at'.isEndpoint, List.map_append, List.map_append, List.map_cons, List.map_cons]
      rfl
    have usable : ¬(at'.device.deviceConfigured = false ∨ at'.device.hidEndpointReady = false ∨
        xhciMaxHidEndpoints < (at'.endpointsBefore ++
          completeEndpoint at'.endpoint at'.actual at'.short runtime :: at'.endpointsAfter).length) := by
      rw [length, configured, hidReady]
      simp only [Bool.true_eq_false, false_or, Nat.not_lt]
      exact few
    rcases @m52SubmitEndpoint_rearms environment state later event at' ready
      { at'.device with
        endpoints := at'.endpointsBefore ++
          completeEndpoint at'.endpoint at'.actual at'.short runtime :: at'.endpointsAfter
        transferEvents := transferEvents }
      runtime same submitted controllerIndex doorbellOffset rfl rfl ⟨configured, hidReady⟩
      (Nat.le_trans (Nat.le_of_eq length) few) with ⟨armed, isArmed, rearmed, -⟩
    refine ⟨armed, ?_, rearmed⟩
    have restSettled := @rearmDevices_append environment later _ [] inAfter
    rw [List.append_nil, rearmDevices, List.append_nil] at restSettled
    have free : ¬(completeEndpoint at'.endpoint at'.actual at'.short
        runtime).runtime.transferOutstanding = true := Bool.false_ne_true
    rw [EventEndpoint.replaced, rearmDevices_append _ inBefore, rearmDevices,
      m60ClassifyHidDevice_congr ⟨configured, hidReady⟩ descriptors, supported]
    simp only [if_neg usable]
    rw [rearmEndpoints_append _ endpointsBefore, rearmEndpoints, if_neg free, isArmed]
    simp only [rearmEndpoints_settled endpointsAfter, restSettled]
    rfl

/-! ## The service -/

/-- The event of the endpoint has been consumed: the dequeue position has
advanced past it, the controller has been told, and the endpoint is armed
again. -/
structure Consumed (before after : XhciState) {event : XhciTrb}
    (at' : EventEndpoint before.addressed event) : Prop where
  advanced : after.eventDequeueCount = before.eventDequeueCount + 1
  told : after.dequeuePointer = (before.eventRingPhysical +
    (before.eventDequeueCount + 1) % xhciEventRingTrbs * xhciTrbSize) ||| 8
  rearmed : ∃ endpoint, after.addressed =
    at'.replaced endpoint (at'.device.transferEvents + 1) ∧ Rearmed at'.endpoint endpoint

variable {environment : HidEnvironment}

variable {event : XhciTrb}

/-- The controller has handed over the event at the head. -/
theorem arrived {state : XhciState} {at' : EventEndpoint state.addressed event}
    (ready : ReadyToServe environment state event at') :
    ¬((event.control &&& xhciTrbCycle != 0) != (xhciEventDequeuePosition state).2) = true := by
  rw [ready.cycle, bne_self_eq_false]
  exact Bool.false_ne_true

theorem served {state armed : XhciState} (isArmed : m60RearmHidEndpoints environment state = (true, armed))
    (at' : EventEndpoint armed.addressed event) (ready : ReadyToServe environment armed event at') :
    ¬(1 = 0 ∨ m54ServiceEventWaitLimit = 0 ∨ state.controllerRunning = false ∨
      state.addressed.length = 0 ∨ environment.mapsRegisters = false ∨
      environment.mapsFrame state.eventRingPhysical = false) := by
  rcases ready with ⟨running, registers, eventRing⟩
  simp only [m60RearmHidEndpoints, Prod.mk.injEq] at isArmed
  rcases isArmed with ⟨-, rfl⟩
  have inhabited : state.addressed.length ≠ 0 := by
    intro none
    rw [List.eq_nil_of_length_eq_zero none] at at'
    have nowhere := congrArg List.length at'.isDevice
    exact absurd nowhere (by simp [rearmDevices])
  simp only [not_or, registers, Bool.true_eq_false, not_false_eq_true, true_and]
  refine ⟨by decide, by decide, ?_, inhabited, ?_⟩
  · simp_all
  simp [*]

theorem pollLoop_consumes {state : XhciState}
    {at' : EventEndpoint state.addressed event} (ready : ReadyToServe environment state event at')
    (settled : ∀ device ∈ state.addressed, Settled environment device)
    (acceptable : AcceptableReport at'.endpoint.descriptor.reportFormat
      at'.endpoint.descriptor.mouseLayout at'.report)
    (room : ReportRoom at'.device at'.endpoint at'.report at'.short)
    (submitted : at'.endpoint.runtime.submittedTransfers ≠ uint32Max)
    (dequeued : state.eventDequeueCount ≠ uint64Max) (attempts : Nat) :
    ∃ after, pollLoop environment 1 true (attempts + 2) state 0 = (true, after) ∧
      Consumed state after at' := by
  have valid := validEvent at'.validated
  rcases at'.takeReport_done acceptable room ready.bufferMapped with ⟨runtime, taken, same⟩
  have completed := at'.done ready.distinct taken
  have notPort : ¬trbType event = xhciTrbTypePortStatusEvent := by
    rw [valid.type]
    decide
  have isTransfer : ¬trbType event ≠ xhciTrbTypeTransferEvent := not_not_intro valid.type
  have inWindow : ¬(xhciMmioWindowSize - 0x20 < (state.runtimeOffset + m52RuntimeInterrupter0) % 2 ^ 32 ∨
        state.eventDequeueCount = uint64Max) :=
    not_or.mpr ⟨Nat.not_lt.mpr ready.interrupter, dequeued⟩
  let later : XhciState :=
    { state with
      addressed := at'.replaced (completeEndpoint at'.endpoint at'.actual at'.short runtime)
        (at'.device.transferEvents + 1)
      eventDequeueCount := state.eventDequeueCount + 1
      dequeuePointer := (state.eventRingPhysical +
        (state.eventDequeueCount + 1) % xhciEventRingTrbs * xhciTrbSize) ||| 8 }
  rcases @rearmDevices_replaced environment state later event at' ready settled runtime same
    submitted rfl rfl (at'.device.transferEvents + 1) with ⟨armed, isArmed, rearmed⟩
  refine ⟨{ later with addressed := at'.replaced armed (at'.device.transferEvents + 1) }, ?_,
    rfl, rfl, armed, rfl, rearmed⟩
  have advanced : advanceDequeue
      { state with
        addressed := at'.replaced (completeEndpoint at'.endpoint at'.actual at'.short runtime)
          (at'.device.transferEvents + 1) } = some later := by
    rw [advanceDequeue, if_neg inWindow]
    rfl
  have rearmedAll : (m60RearmHidEndpoints environment later).2 =
      { later with addressed := at'.replaced armed (at'.device.transferEvents + 1) } := by
    exact congrArg (fun rearmed : Bool × List HidDevice =>
      { later with addressed := rearmed.2 }) isArmed
  rw [pollLoop, if_neg (by decide)]
  simp only [← ready.isHead, if_neg (arrived ready), if_neg notPort, if_neg isTransfer, completed, advanced]
  rw [if_pos (Or.inr trivial), rearmedAll, pollLoop, if_pos (by decide)]

theorem pollLoop_rejects {state : XhciState}
    {at' : EventEndpoint state.addressed event} (ready : ReadyToServe environment state event at')
    (unacceptable : ¬AcceptableReport at'.endpoint.descriptor.reportFormat
      at'.endpoint.descriptor.mouseLayout at'.report) (attempts : Nat) :
    pollLoop environment 1 true (attempts + 1) state 0 = (false, state) := by
  have valid := validEvent at'.validated
  have rejected := at'.rejected ready.distinct (at'.takeReport_rejected environment unacceptable)
  have notPort : ¬trbType event = xhciTrbTypePortStatusEvent := by
    rw [valid.type]
    decide
  have isTransfer : ¬trbType event ≠ xhciTrbTypeTransferEvent := not_not_intro valid.type
  rw [pollLoop, if_neg (by decide)]
  simp only [← ready.isHead, if_neg (arrived ready), if_neg notPort, if_neg isTransfer, rejected]

/-! ## The report of an endpoint -/

/-- As long as the counters have room, the service consumes a report if and only if it is
acceptable.  It leaves any other report where it is, with the whole state as it was once the
endpoints were armed. -/
theorem service_report {environment : HidEnvironment} {state armed : XhciState}
    {event : XhciTrb} (isArmed : m60RearmHidEndpoints environment state = (true, armed))
    (at' : EventEndpoint armed.addressed event) (ready : ReadyToServe environment armed event at') :
    (ReportRoom at'.device at'.endpoint at'.report at'.short →
      at'.endpoint.runtime.submittedTransfers ≠ uint32Max → armed.eventDequeueCount ≠ uint64Max →
      ((∃ after, xhciServiceHidReports environment state = (true, after) ∧ Consumed armed after at') ↔
        AcceptableReport at'.endpoint.descriptor.reportFormat
          at'.endpoint.descriptor.mouseLayout at'.report)) ∧
    (¬AcceptableReport at'.endpoint.descriptor.reportFormat at'.endpoint.descriptor.mouseLayout at'.report →
      xhciServiceHidReports environment state = (false, armed)) := by
  rw [xhciServiceHidReports, m60PollHidReportsLimit, if_neg (served isArmed at' ready), isArmed]
  have rejects := fun unacceptable => pollLoop_rejects ready unacceptable 4095
  constructor
  · intro room submitted dequeued
    constructor
    · rintro ⟨after, consumes, -⟩
      by_contra unacceptable
      cases (rejects unacceptable).symm.trans consumes
    intro acceptable
    have settled : ∀ device ∈ armed.addressed, Settled environment device := by
      simp only [m60RearmHidEndpoints, Prod.mk.injEq] at isArmed
      rw [← isArmed.2]
      exact rearmDevices_settled state.addressed _ (Prod.ext isArmed.1 rfl)
    exact pollLoop_consumes ready settled acceptable room submitted dequeued 4094
  · exact rejects

/-! ## A keyboard on its own -/

def keyboardEnvironment : HidEnvironment where
  mapsRegisters := true
  mapsFrame _ := true
  frameFor _ _ := none
  classifyDescriptors _ := .invalid

/-- The first transfer of endpoint 3 in slot 1 has completed with eight bytes. -/
def keyboardEvent : XhciTrb :=
  ⟨0x1000, xhciCompletionSuccess <<< 24,
    1 <<< 24 ||| 3 <<< 16 ||| xhciTrbTypeTransferEvent <<< xhciTrbTypeShift ||| xhciTrbCycle⟩

theorem keyboardEvent_valid :
    xhciValidateInterruptTransferEvent keyboardEvent 0x1000 1 3 0x1000 8 = some (8, false) := by
  decide +kernel

variable (report : List UInt8)

def keyboardEndpoint : HidEndpoint where
  descriptor := ⟨3, 8, .bootKeyboard, ⟨0, 0, 0, 0, 0, 0, 0, 0, 0, 0, false, false⟩⟩
  runtime := ⟨0x2000, 0x1000, ⟨0, List.replicate usbHidBootKeys 0, length_noKeys⟩,
    1, 0, 0, 0, 0, 0, 0, 0, 1, 0, 0, 0, 0, 0, true, true, false, false⟩
  ringPhysical := 0x1000
  ring _ := ⟨0, 0, 0⟩
  page := (report ++ zeroPage).take xhciHidReportBufferBytes
  wholePage := by
    rw [List.length_take, List.length_append, length_zeroPage]
    exact Nat.min_eq_left (Nat.le_add_left _ _)
  doorbells := []

def keyboardDevice : HidDevice := ⟨0, 1, true, true, true, true, 0, [keyboardEndpoint report]⟩

def keyboardController : XhciState where
  controllerIndex := 0
  controllerRunning := true
  doorbellOffset := 0x1000
  runtimeOffset := 0x2000
  maxPorts := 1
  eventRingPhysical := 0x3000
  eventDequeueCount := 0
  portEventsConsumed := 0
  addressed := [keyboardDevice report]
  eventRing _ := keyboardEvent
  dequeuePointer := 0

def keyboardAt : EventEndpoint (keyboardController report).addressed keyboardEvent where
  devicesBefore := []
  device := keyboardDevice report
  devicesAfter := []
  endpointsBefore := []
  endpoint := keyboardEndpoint report
  endpointsAfter := []
  actual := 8
  short := false
  isDevice := rfl
  isEndpoint := rfl
  outstanding := rfl
  validated := keyboardEvent_valid

theorem keyboardEvent_handedOver :
    (keyboardEvent.control &&& xhciTrbCycle != 0) = ((0 / xhciEventRingTrbs) % 2 == 0) := by
  decide +kernel

theorem keyboardEvent_inWindow :
    (0x2000 + m52RuntimeInterrupter0) % 2 ^ 32 ≤ xhciMmioWindowSize - 0x20 ∧
      (1 * 4 + 0x1000) % 2 ^ 32 ≤ xhciMmioWindowSize - 4 := by
  decide

theorem keyboardBuffer_usable :
    0x2000 ≠ 0 ∧ 0x2000 &&& 0xfff = 0 ∧ 1 < xhciInterruptRingUsable := by
  decide

theorem keyboardReady :
    ReadyToServe keyboardEnvironment (keyboardController report) keyboardEvent
      (keyboardAt report) where
  running := rfl
  registers := rfl
  eventRing := rfl
  interrupter := keyboardEvent_inWindow.1
  isHead := rfl
  cycle := keyboardEvent_handedOver
  distinct := List.nodup_singleton _
  configured := ⟨rfl, rfl⟩
  controller := rfl
  doorbell := keyboardEvent_inWindow.2
  ringMapped := rfl
  buffer := keyboardBuffer_usable.1
  bufferAligned := keyboardBuffer_usable.2.1
  bufferMapped := rfl
  producer := keyboardBuffer_usable.2.2

theorem keyboardReady_armed :
    m60RearmHidEndpoints keyboardEnvironment (keyboardController report) =
      (true, keyboardController report) := rfl

/-- The counters start at zero and have room for any report. -/
theorem keyboardRoom :
    ReportRoom (keyboardAt report).device (keyboardAt report).endpoint (keyboardAt report).report false := by
  have length : (keyboardAt report).report.length = 8 := (keyboardAt report).length_report
  constructor
  case pressed =>
    intro _
    have fewer := List.length_filter_le (fun usage => usage != 0 &&
      !(keyboardEndpoint report).runtime.keyboardState.keys.contains usage)
      ((keyboardAt report).report.drop 2)
    rw [List.length_drop, length] at fewer
    exact Nat.le_trans fewer (show 8 - 2 ≤ uint32Max - 0 by decide)
  case released =>
    intro _
    exact Nat.le_trans (List.length_filter_le _ _) (show usbHidBootKeys ≤ uint32Max - 0 by decide)
  case pointer => exact fun notKeyboard => absurd rfl notKeyboard
  case bytes =>
    rw [length]
    exact show 8 ≤ uint32Max - 0 by decide
  case shortPackets => exact nofun
  all_goals exact Nat.zero_ne_add_one _

/-- A key is pressed. -/
theorem service_report_keyPress :
    ∃ after, xhciServiceHidReports keyboardEnvironment
        (keyboardController [0, 0, 4, 0, 0, 0, 0, 0]) = (true, after) ∧
      Consumed (keyboardController [0, 0, 4, 0, 0, 0, 0, 0]) after (keyboardAt [0, 0, 4, 0, 0, 0, 0, 0]) := by
  have served := service_report (keyboardReady_armed [0, 0, 4, 0, 0, 0, 0, 0])
    (keyboardAt [0, 0, 4, 0, 0, 0, 0, 0]) (keyboardReady _)
  have isReport : (keyboardAt [0, 0, 4, 0, 0, 0, 0, 0]).report = [0, 0, 4, 0, 0, 0, 0, 0] := by
    decide +kernel
  refine (served.1 (keyboardRoom _) ?_ ?_).mpr ?_
  · decide +kernel
  · decide +kernel
  · rw [isReport]
    refine ⟨List.cons_ne_nil _ _, rfl, ?_⟩
    rw [← reportValid_iff]
    decide

/-- A keyboard on which too many keys are held reports roll-over, and that
event is never consumed. -/
theorem rollOver_blocks :
    ¬∀ (environment : HidEnvironment) (state armed : XhciState) (event : XhciTrb)
      (at' : EventEndpoint armed.addressed event),
      m60RearmHidEndpoints environment state = (true, armed) →
      ReadyToServe environment armed event at' →
      ReportRoom at'.device at'.endpoint at'.report at'.short →
      at'.endpoint.runtime.submittedTransfers ≠ uint32Max →
      armed.eventDequeueCount ≠ uint64Max →
      ∃ after, xhciServiceHidReports environment state = (true, after) ∧ Consumed armed after at' := by
  intro claim
  rcases claim keyboardEnvironment _ _ _ (keyboardAt [0, 0, 1, 1, 1, 1, 1, 1])
    (keyboardReady_armed _) (keyboardReady _) (keyboardRoom _) (by decide +kernel) (by decide +kernel)
    with ⟨after, succeeded, -⟩
  have failed : (xhciServiceHidReports keyboardEnvironment
      (keyboardController [0, 0, 1, 1, 1, 1, 1, 1])).1 = false := by
    decide +kernel
  simp_all

end BoringOS.UsbHid
