import BoringOS.UsbHid.Reports
import BoringOS.Xhci.ControlRing

namespace BoringOS.UsbHid

open Xhci

/-!
# Report transfers on a shared event ring

A transcription of the report service of `kernel/core/usb_hid.c` and of the
functions of `kernel/core/usb_hid_impl.inc` below it.  One event ring belongs
to all devices of a controller.  What an accepted report publishes to the
input queue is left out, as nothing here depends on it.
-/

def uint32Max : Nat := 2 ^ 32 - 1
def uint64Max : Nat := 2 ^ 64 - 1
def xhciMmioWindowSize : Nat := 65536
def xhciEventRingTrbs : Nat := 256
def xhciInterruptRingUsable : Nat := 252
def xhciMaxHidEndpoints : Nat := 4
def xhciHidReportBufferBytes : Nat := 4096
def xhciTrbTypeNormal : Nat := 1
def xhciTrbTypeTransferEvent : Nat := 32
def xhciTrbTypePortStatusEvent : Nat := 34
def xhciCompletionSuccess : Nat := 1
def xhciCompletionShortPacket : Nat := 13
def m52RuntimeInterrupter0 : Nat := 0x20
def m54ServiceEventWaitLimit : Nat := 4096

def trbType (trb : XhciTrb) : Nat := (trb.control >>> xhciTrbTypeShift) &&& 0x3f

variable (event : XhciTrb)

def eventEndpoint : Nat := (event.control >>> 16) &&& 0x1f

def eventSlot : Nat := (event.control >>> 24) % 2 ^ 8

def eventCompletion : Nat := (event.status >>> 24) % 2 ^ 8

def eventResidual : Nat := event.status &&& 0x00ffffff

/-- `interrupt_pointer_owned` -/
def interruptPointerOwned (pointer ringPhysical : Nat) : Prop :=
  pointer &&& 0xf = 0 ∧ ringPhysical ≤ pointer ∧
    pointer < ringPhysical + xhciInterruptRingUsable * xhciTrbSize

instance (pointer ringPhysical : Nat) : Decidable (interruptPointerOwned pointer ringPhysical) :=
  inferInstanceAs (Decidable (_ ∧ _))

/-- `xhci_validate_interrupt_transfer_event`, with the length of the report
and whether it is short -/
def xhciValidateInterruptTransferEvent (ringPhysical expectedSlotId
    expectedEndpointId expectedTrbPhysical requestedLength : Nat) : Option (Nat × Bool) :=
  if ringPhysical = 0 ∨ ringPhysical &&& 0x3f ≠ 0 ∨ expectedSlotId = 0 ∨
      expectedEndpointId ≤ 1 ∨ 31 < expectedEndpointId ∨ requestedLength = 0 ∨
      xhciHidReportBufferBytes < requestedLength ∨
      ¬interruptPointerOwned expectedTrbPhysical ringPhysical then none
  else if trbType event ≠ xhciTrbTypeTransferEvent ∨ eventEndpoint event ≠ expectedEndpointId ∨
      eventSlot event ≠ expectedSlotId ∨ event.parameter ≠ expectedTrbPhysical ∨
      ¬interruptPointerOwned event.parameter ringPhysical ∨ requestedLength < eventResidual event then none
  else if eventCompletion event = xhciCompletionSuccess ∧ eventResidual event = 0 then
    some (requestedLength, false)
  else if eventCompletion event = xhciCompletionShortPacket then
    some (requestedLength - eventResidual event, true)
  else none

/-- `struct xhci_hid_endpoint_descriptor`, as far as the service uses it -/
structure HidEndpointDescriptor where
  endpointId : Nat
  maxPacket : Nat
  reportFormat : XhciHidReportFormat
  mouseLayout : UsbHidMouseLayout
deriving DecidableEq, Repr

/-- `struct xhci_hid_endpoint_runtime` -/
structure HidEndpointRuntime where
  reportBufferPhysical : Nat
  expectedTrbPhysical : Nat
  keyboardState : UsbHidKeyboardState
  submittedTransfers : Nat
  completedTransfers : Nat
  shortPackets : Nat
  reportBytes : Nat
  decodedReports : Nat
  keyPresses : Nat
  keyReleases : Nat
  pointerReports : Nat
  producerIndex : Nat
  lastReportLength : Nat
  lastPointerX : Nat
  lastPointerY : Nat
  lastKeyUsage : UInt8
  lastPointerButtons : UInt8
  producerCycle : Bool
  transferOutstanding : Bool
  lastKeyDown : Bool
  pointerValid : Bool
deriving DecidableEq, Repr

/-- An endpoint with its transfer ring, with the page that its reports come to,
and with the doorbells that have been rung for it -/
structure HidEndpoint where
  descriptor : HidEndpointDescriptor
  runtime : HidEndpointRuntime
  ringPhysical : Nat
  ring : Nat → XhciTrb
  page : List UInt8
  wholePage : page.length = xhciHidReportBufferBytes
  doorbells : List (Nat × Nat)

/-- `struct xhci_addressed_device`, as far as the service uses it -/
structure HidDevice where
  controllerIndex : Nat
  slotId : Nat
  addressed : Bool
  descriptorsReady : Bool
  deviceConfigured : Bool
  hidEndpointReady : Bool
  transferEvents : Nat
  endpoints : List HidEndpoint

/-- `struct xhci_state`, as far as the service uses it, with the event ring and
the dequeue pointer that the controller has been told -/
structure XhciState where
  controllerIndex : Nat
  controllerRunning : Bool
  doorbellOffset : Nat
  runtimeOffset : Nat
  maxPorts : Nat
  eventRingPhysical : Nat
  eventDequeueCount : Nat
  portEventsConsumed : Nat
  addressed : List HidDevice
  eventRing : Nat → XhciTrb
  dequeuePointer : Nat

/-- `enum m60_hid_classification` -/
inductive HidClassification where
  | supported
  | notHid
  | invalid
deriving DecidableEq, Repr

/-- What the service asks the rest of the kernel: whether the registers and a
frame can be mapped, which frame an endpoint of a slot gets for its reports,
and what the descriptors of a device that is not configured say -/
structure HidEnvironment where
  mapsRegisters : Bool
  mapsFrame : Nat → Bool
  frameFor : Nat → Nat → Option Nat
  classifyDescriptors : HidDevice → HidClassification

/-- `xhci_build_interrupt_in_trb`: the TRB, its place, and the next producer -/
def xhciBuildInterruptInTrb (ringPhysical producerIndex : Nat) (producerCycle : Bool)
    (bufferPhysical length : Nat) : Option (XhciTrb × Nat × Nat × Bool) :=
  if ringPhysical = 0 ∨ ringPhysical &&& 0x3f ≠ 0 ∨ xhciInterruptRingUsable ≤ producerIndex ∨
      bufferPhysical = 0 ∨ bufferPhysical &&& 0xfff ≠ 0 ∨ length = 0 ∨
      xhciHidReportBufferBytes < length then none
  else
    let trb : XhciTrb := ⟨bufferPhysical, length,
      xhciTrbTypeNormal <<< xhciTrbTypeShift ||| xhciTrbIsp ||| xhciTrbIoc |||
        cycleBit producerCycle⟩
    let place := ringPhysical + producerIndex * xhciTrbSize
    if producerIndex = xhciInterruptRingUsable - 1 then some (trb, place, 0, !producerCycle)
    else some (trb, place, producerIndex + 1, producerCycle)

def zeroPage : List UInt8 := List.replicate xhciHidReportBufferBytes 0

theorem length_zeroPage : zeroPage.length = xhciHidReportBufferBytes := List.length_replicate

variable (environment : HidEnvironment)

/-- `m52_allocate_report_buffer` -/
def m52AllocateReportBuffer (slotId : Nat) (endpoint : HidEndpoint) : Option HidEndpoint :=
  if endpoint.runtime.reportBufferPhysical ≠ 0 then some endpoint
  else
    match environment.frameFor slotId endpoint.descriptor.endpointId with
    | none => none
    | some frame =>
      if environment.mapsFrame frame = false then none
      else
        some
          { endpoint with
            page := zeroPage
            wholePage := length_zeroPage
            runtime := { endpoint.runtime with
              reportBufferPhysical := frame
              producerIndex := 0
              producerCycle := true } }

/-- The transfer ring behind a TRB, with the link behind its end -/
def storeTrb (endpoint : HidEndpoint) (trb : XhciTrb) : Nat → XhciTrb := fun index =>
  let runtime := endpoint.runtime
  if index = runtime.producerIndex then trb
  else if index = xhciInterruptRingUsable ∧ runtime.producerIndex = xhciInterruptRingUsable - 1 then
    ⟨endpoint.ringPhysical, 0, xhciTrbTypeLink <<< xhciTrbTypeShift ||| xhciTrbToggleCycle |||
        cycleBit runtime.producerCycle⟩
  else endpoint.ring index

variable (state : XhciState)

/-- `m52_submit_endpoint`.  It may fail with the endpoint changed. -/
def m52SubmitEndpoint (device : HidDevice) (endpoint : HidEndpoint) : Bool × HidEndpoint :=
  if device.controllerIndex ≠ state.controllerIndex ∨
      xhciMaxHidEndpoints < device.endpoints.length ∨ device.deviceConfigured = false ∨
      device.hidEndpointReady = false ∨ endpoint.runtime.transferOutstanding = true ∨
      endpoint.descriptor.endpointId ≤ 1 ∨ endpoint.descriptor.maxPacket = 0 ∨
      xhciHidReportBufferBytes < endpoint.descriptor.maxPacket ∨ endpoint.ringPhysical = 0 then
    (false, endpoint)
  else
    match m52AllocateReportBuffer environment device.slotId endpoint with
    | none => (false, endpoint)
    | some endpoint =>
      if environment.mapsFrame endpoint.ringPhysical = false ∨
          environment.mapsFrame endpoint.runtime.reportBufferPhysical = false then
        (false, endpoint)
      else
        match xhciBuildInterruptInTrb endpoint.ringPhysical endpoint.runtime.producerIndex
          endpoint.runtime.producerCycle endpoint.runtime.reportBufferPhysical
          endpoint.descriptor.maxPacket with
        | none => (false, endpoint)
        | some (trb, place, nextIndex, nextCycle) =>
          let stored : HidEndpoint :=
            { endpoint with
              page := zeroPage
              wholePage := length_zeroPage
              ring := storeTrb endpoint trb }
          if endpoint.runtime.submittedTransfers = uint32Max then (false, stored)
          else
            let armed : HidEndpoint :=
              { stored with
                runtime := { endpoint.runtime with
                  expectedTrbPhysical := place
                  producerIndex := nextIndex
                  producerCycle := nextCycle
                  transferOutstanding := true
                  submittedTransfers := endpoint.runtime.submittedTransfers + 1 } }
            let doorbell := device.slotId * 4
            if device.slotId = 0 ∨ xhciMmioWindowSize - 4 < doorbell ∨
                31 < endpoint.descriptor.endpointId ∨
                xhciMmioWindowSize - 4 < (doorbell + state.doorbellOffset) % 2 ^ 32 then
              (false,
                { armed with
                  runtime := { armed.runtime with transferOutstanding := false } })
            else
              (true,
                { armed with
                  doorbells := armed.doorbells ++
                    [((doorbell + state.doorbellOffset) % 2 ^ 32,
                      endpoint.descriptor.endpointId)] })

/-- A pointer report that has been decoded -/
def acceptPointer (runtime : HidEndpointRuntime) (x y : Nat) (buttons : UInt8) :
    Option HidEndpointRuntime :=
  if runtime.pointerReports = uint32Max then none
  else
    some
      { runtime with
        lastPointerX := x
        lastPointerY := y
        lastPointerButtons := buttons
        pointerValid := true
        pointerReports := runtime.pointerReports + 1
        decodedReports := runtime.decodedReports + 1 }

/-- `(uint16_t)` of a signed displacement -/
def asUint16 (value : Int) : Nat := (value % 2 ^ 16).toNat

/-- `m52_decode_report` -/
def m52DecodeReport (descriptor : HidEndpointDescriptor) (runtime : HidEndpointRuntime)
    (report : List UInt8) : Option HidEndpointRuntime :=
  if runtime.decodedReports = uint32Max then none
  else
    match descriptor.reportFormat with
    | .bootKeyboard =>
      match usbHidKeyboardDecode runtime.keyboardState report (usbHidBootKeys * 2) with
      | none => none
      | some (next, transitions) =>
        let presses := transitions.countP (·.down)
        let releases := transitions.countP (!·.down)
        if uint32Max - runtime.keyPresses < presses ∨ uint32Max - runtime.keyReleases < releases then none
        else
          some
            { runtime with
              keyboardState := next
              keyPresses := runtime.keyPresses + presses
              keyReleases := runtime.keyReleases + releases
              lastKeyUsage := (transitions.getLast?.map (·.usage)).getD runtime.lastKeyUsage
              lastKeyDown := (transitions.getLast?.map (·.down)).getD runtime.lastKeyDown
              decodedReports := runtime.decodedReports + 1 }
    | .bootMouse =>
      match usbHidMouseDecode report with
      | none => none
      | some decoded =>
        acceptPointer runtime (asUint16 decoded.dx) (asUint16 decoded.dy) decoded.buttons
    | .genericMouse =>
      if ForeignReport descriptor.mouseLayout report then some runtime
      else
        match usbHidMouseLayoutDecode descriptor.mouseLayout report with
        | none => none
        | some decoded =>
          acceptPointer runtime (asUint16 decoded.dx) (asUint16 decoded.dy) decoded.buttons
    | .qemuAbsoluteTablet =>
      match usbHidAbsoluteTabletDecode report with
      | none => none
      | some decoded => acceptPointer runtime decoded.x decoded.y decoded.buttons
    | .unsupported => none

/-- What an event comes to -/
inductive Completion (α : Type) where
  | foreign
  | rejected
  | done (result : α)
deriving DecidableEq, Repr

def Completion.map {α β : Type} (f : α → β) : Completion α → Completion β
  | foreign => foreign
  | rejected => rejected
  | done result => done (f result)

/-- The report is taken, and the endpoint is free again. -/
def completeEndpoint (endpoint : HidEndpoint) (actual : Nat) (short : Bool)
    (runtime : HidEndpointRuntime) : HidEndpoint :=
  { endpoint with
    runtime := { runtime with
      transferOutstanding := false
      expectedTrbPhysical := 0
      lastReportLength := actual
      completedTransfers := runtime.completedTransfers + 1
      reportBytes := runtime.reportBytes + actual
      shortPackets := if short then runtime.shortPackets + 1 else runtime.shortPackets } }

/-- The body of the loops of `m52_complete_event`, for one endpoint -/
def takeReport (device : HidDevice) (event : XhciTrb)
    (completed : Nat) (endpoint : HidEndpoint) : Completion HidEndpoint :=
  let runtime := endpoint.runtime
  if runtime.transferOutstanding = false then .foreign
  else
    match xhciValidateInterruptTransferEvent event endpoint.ringPhysical device.slotId
      endpoint.descriptor.endpointId runtime.expectedTrbPhysical endpoint.descriptor.maxPacket with
    | none => .foreign
    | some (actual, short) =>
      if actual = 0 ∨ environment.mapsFrame runtime.reportBufferPhysical = false ∨
          runtime.completedTransfers = uint32Max ∨ uint32Max - runtime.reportBytes < actual ∨
          device.transferEvents = uint32Max ∨
          (short = true ∧ runtime.shortPackets = uint32Max) ∨ completed = uint32Max then
        .rejected
      else
        match m52DecodeReport endpoint.descriptor runtime (endpoint.page.take actual) with
        | none => .rejected
        | some runtime => .done (completeEndpoint endpoint actual short runtime)

def completeInDevice (environment : HidEnvironment) (device : HidDevice) (event : XhciTrb)
    (completed : Nat) : List HidEndpoint → Completion (List HidEndpoint)
  | [] => .foreign
  | endpoint :: rest =>
    match takeReport environment device event completed endpoint with
    | .foreign => (completeInDevice environment device event completed rest).map (endpoint :: ·)
    | .rejected => .rejected
    | .done endpoint => .done (endpoint :: rest)

/-- `m52_complete_event`, on the devices of the controller -/
def m52CompleteEvent (environment : HidEnvironment) (event : XhciTrb) (completed : Nat) :
    List HidDevice → Completion (List HidDevice)
  | [] => .foreign
  | device :: rest =>
    match completeInDevice environment device event completed device.endpoints with
    | .foreign => (m52CompleteEvent environment event completed rest).map (device :: ·)
    | .rejected => .rejected
    | .done endpoints =>
      .done
        ({ device with
          endpoints := endpoints
          transferEvents := device.transferEvents + 1 } :: rest)

/-- `m60_classify_hid_device` -/
def m60ClassifyHidDevice (device : HidDevice) : HidClassification :=
  if device.addressed = false ∨ device.descriptorsReady = false then .invalid
  else if device.deviceConfigured = true ∧ device.hidEndpointReady = true then
    if device.endpoints.length = 0 ∨ xhciMaxHidEndpoints < device.endpoints.length then .invalid
    else if device.endpoints.any (·.descriptor.reportFormat == .unsupported) then .invalid
    else .supported
  else environment.classifyDescriptors device

/-- The inner loop of `m60_rearm_hid_endpoints` -/
def rearmEndpoints (environment : HidEnvironment) (state : XhciState) (device : HidDevice) :
    List HidEndpoint → Bool × List HidEndpoint
  | [] => (true, [])
  | endpoint :: rest =>
    if endpoint.runtime.transferOutstanding = true then
      let rearmed := rearmEndpoints environment state device rest
      (rearmed.1, endpoint :: rearmed.2)
    else
      match m52SubmitEndpoint environment state device endpoint with
      | (false, endpoint) => (false, endpoint :: rest)
      | (true, endpoint) =>
        let rearmed := rearmEndpoints environment state device rest
        (rearmed.1, endpoint :: rearmed.2)

/-- The outer loop of `m60_rearm_hid_endpoints` -/
def rearmDevices (environment : HidEnvironment) (state : XhciState) :
    List HidDevice → Bool × List HidDevice
  | [] => (true, [])
  | device :: rest =>
    match m60ClassifyHidDevice environment device with
    | .invalid => (false, device :: rest)
    | .notHid =>
      let rearmed := rearmDevices environment state rest
      (rearmed.1, device :: rearmed.2)
    | .supported =>
      if device.deviceConfigured = false ∨ device.hidEndpointReady = false ∨
          xhciMaxHidEndpoints < device.endpoints.length then (false, device :: rest)
      else
        match rearmEndpoints environment state device device.endpoints with
        | (false, endpoints) => (false, { device with endpoints := endpoints } :: rest)
        | (true, endpoints) =>
          let rearmed := rearmDevices environment state rest
          (rearmed.1, { device with endpoints := endpoints } :: rearmed.2)

/-- `m60_rearm_hid_endpoints` -/
def m60RearmHidEndpoints : Bool × XhciState :=
  let rearmed := rearmDevices environment state state.addressed
  (rearmed.1, { state with addressed := rearmed.2 })

/-- `xhci_event_dequeue_position` -/
def xhciEventDequeuePosition : Nat × Bool :=
  (state.eventDequeueCount % xhciEventRingTrbs, (state.eventDequeueCount / xhciEventRingTrbs) % 2 == 0)

/-- `xhci_event_dequeue_advance` from the present position, and the store that
tells the controller -/
def advanceDequeue : Option XhciState :=
  if xhciMmioWindowSize - 0x20 < (state.runtimeOffset + m52RuntimeInterrupter0) % 2 ^ 32 ∨
      state.eventDequeueCount = uint64Max then none
  else
    let advanced := { state with eventDequeueCount := state.eventDequeueCount + 1 }
    some
      { advanced with
        dequeuePointer :=
          (state.eventRingPhysical + (xhciEventDequeuePosition advanced).1 * xhciTrbSize) ||| 8 }

/-- `xhci_consume_port_status_event` -/
def xhciConsumePortStatusEvent (event : XhciTrb) : Option XhciState :=
  let portId := (event.parameter >>> 24) % 2 ^ 8
  if trbType event ≠ xhciTrbTypePortStatusEvent ∨ portId = 0 ∨ state.maxPorts < portId ∨
      eventCompletion event ≠ xhciCompletionSuccess ∨ state.portEventsConsumed = uint32Max then
    none
  else some { state with portEventsConsumed := state.portEventsConsumed + 1 }

/-- The loop of `m60_poll_hid_reports_limit` -/
def pollLoop (environment : HidEnvironment) (goal : Nat) (rearmAfterCompletion : Bool) :
    Nat → XhciState → Nat → Bool × XhciState
  | 0, state, completed => (decide (goal ≤ completed), state)
  | attempts + 1, state, completed =>
    if goal ≤ completed then (true, state)
    else
      let (index, cycle) := xhciEventDequeuePosition state
      let event := state.eventRing index
      if (event.control &&& xhciTrbCycle != 0) != cycle then
        pollLoop environment goal rearmAfterCompletion attempts state completed
      else if trbType event = xhciTrbTypePortStatusEvent then
        match xhciConsumePortStatusEvent state event with
        | none => (false, state)
        | some state =>
          match advanceDequeue state with
          | none => (false, state)
          | some state =>
            pollLoop environment goal rearmAfterCompletion attempts state completed
      else if trbType event ≠ xhciTrbTypeTransferEvent then (false, state)
      else
        match m52CompleteEvent environment event completed state.addressed with
        | .foreign => (false, state)
        | .rejected => (false, state)
        | .done devices =>
          let state := { state with addressed := devices }
          match advanceDequeue state with
          | none => (false, state)
          | some state =>
            let state :=
              if completed + 1 < goal ∨ rearmAfterCompletion = true then
                (m60RearmHidEndpoints environment state).2
              else state
            pollLoop environment goal rearmAfterCompletion attempts state (completed + 1)

/-- `m60_poll_hid_reports_limit` -/
def m60PollHidReportsLimit
    (completionGoal waitLimit : Nat) (rearmAfterCompletion : Bool) : Bool × XhciState :=
  if completionGoal = 0 ∨ waitLimit = 0 ∨ state.controllerRunning = false ∨
      state.addressed.length = 0 ∨ environment.mapsRegisters = false ∨
      environment.mapsFrame state.eventRingPhysical = false then (false, state)
  else
    match m60RearmHidEndpoints environment state with
    | (false, state) => (false, state)
    | (true, state) =>
      pollLoop environment completionGoal rearmAfterCompletion waitLimit state 0

/-- `xhci_service_hid_reports` -/
def xhciServiceHidReports : Bool × XhciState :=
  m60PollHidReportsLimit environment state 1 m54ServiceEventWaitLimit true

end BoringOS.UsbHid
