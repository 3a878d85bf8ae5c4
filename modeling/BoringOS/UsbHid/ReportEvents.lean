import BoringOS.UsbHid.Arming

namespace BoringOS.UsbHid

open Xhci

/-!
# Events of report transfers

An event belongs to at most one endpoint.  The endpoint takes its report if
the decoder accepts it and the counters have room for it, and a report that
the decoder rejects changes nothing.
-/

/-- The counters of the endpoint and of its device have room for the report. -/
structure ReportRoom (device : HidDevice) (endpoint : HidEndpoint) (report : List UInt8)
    (short : Bool) : Prop where
  decoded : endpoint.runtime.decodedReports ≠ uint32Max
  pressed : endpoint.descriptor.reportFormat = .bootKeyboard →
    (missingKeys (report.drop 2) endpoint.runtime.keyboardState.keys).length ≤
      uint32Max - endpoint.runtime.keyPresses
  released : endpoint.descriptor.reportFormat = .bootKeyboard →
    (missingKeys endpoint.runtime.keyboardState.keys (report.drop 2)).length ≤
      uint32Max - endpoint.runtime.keyReleases
  pointer : endpoint.descriptor.reportFormat ≠ .bootKeyboard →
    endpoint.runtime.pointerReports ≠ uint32Max
  completed : endpoint.runtime.completedTransfers ≠ uint32Max
  bytes : report.length ≤ uint32Max - endpoint.runtime.reportBytes
  events : device.transferEvents ≠ uint32Max
  shortPackets : short = true → endpoint.runtime.shortPackets ≠ uint32Max

/-- What decoding a report leaves alone -/
structure SameTransfers (before after : HidEndpointRuntime) : Prop where
  buffer : after.reportBufferPhysical = before.reportBufferPhysical
  producerIndex : after.producerIndex = before.producerIndex
  producerCycle : after.producerCycle = before.producerCycle
  submitted : after.submittedTransfers = before.submittedTransfers

theorem acceptPointer_some {runtime : HidEndpointRuntime} (x y : Nat) (buttons : UInt8)
    (room : runtime.pointerReports ≠ uint32Max) :
    ∃ decoded, acceptPointer runtime x y buttons = some decoded ∧
      SameTransfers runtime decoded := by
  rw [acceptPointer, if_neg room]
  exact ⟨_, rfl, rfl, rfl, rfl, rfl⟩

theorem countP_transitions (released pressed : List UInt8) :
    ((released.map (UsbHidKeyTransition.mk · false) ++
        pressed.map (UsbHidKeyTransition.mk · true)).countP (·.down) = pressed.length) ∧
      ((released.map (UsbHidKeyTransition.mk · false) ++
        pressed.map (UsbHidKeyTransition.mk · true)).countP (!·.down) = released.length) := by
  have allDown : pressed.countP (fun _ => true) = pressed.length :=
    List.countP_eq_length.mpr (fun _ _ => rfl)
  have allUp : released.countP (fun _ => true) = released.length :=
    List.countP_eq_length.mpr (fun _ _ => rfl)
  have noneDown : released.countP (fun _ => false) = 0 :=
    List.countP_eq_zero.mpr (fun _ _ => Bool.false_ne_true)
  have noneUp : pressed.countP (fun _ => false) = 0 :=
    List.countP_eq_zero.mpr (fun _ _ => Bool.false_ne_true)
  constructor
  · rw [List.countP_append, List.countP_map, List.countP_map]
    change released.countP (fun _ => false) + pressed.countP (fun _ => true) = _
    rw [noneDown, allDown, Nat.zero_add]
  · rw [List.countP_append, List.countP_map, List.countP_map]
    change released.countP (fun _ => true) + pressed.countP (fun _ => false) = _
    rw [allUp, noneUp, Nat.add_zero]

theorem usbHidKeyboardDecode_eq {state next : UsbHidKeyboardState} {report : List UInt8}
    {capacity : Nat} {transitions : List UsbHidKeyTransition}
    (decoded : usbHidKeyboardDecode state report capacity = some (next, transitions)) :
    transitions = (missingKeys state.keys (report.drop 2)).map (⟨·, false⟩) ++
      (missingKeys (report.drop 2) state.keys).map (⟨·, true⟩) := by
  rw [usbHidKeyboardDecode] at decoded
  simp_all

theorem m52DecodeReport_some {device : HidDevice} {endpoint : HidEndpoint} {report : List UInt8}
    {short : Bool} (acceptable : AcceptableReport endpoint.descriptor.reportFormat
      endpoint.descriptor.mouseLayout report) (room : ReportRoom device endpoint report short) :
    ∃ runtime, m52DecodeReport endpoint.descriptor endpoint.runtime report = some runtime ∧
      SameTransfers endpoint.runtime runtime := by
  rcases acceptable with ⟨-, content⟩
  rw [m52DecodeReport, if_neg room.decoded]
  cases format : endpoint.descriptor.reportFormat with
  | unsupported =>
    rw [format] at content
    exact False.elim content
  | bootKeyboard =>
    rw [format] at content
    have isSome := (usbHidKeyboardDecode_isSome endpoint.runtime.keyboardState report).mpr content
    rcases Option.isSome_iff_exists.mp isSome with ⟨⟨next, transitions⟩, decoded⟩
    have counts := countP_transitions (missingKeys endpoint.runtime.keyboardState.keys (report.drop 2))
      (missingKeys (report.drop 2) endpoint.runtime.keyboardState.keys)
    rw [← usbHidKeyboardDecode_eq decoded] at counts
    have fits : ¬(uint32Max - endpoint.runtime.keyPresses < transitions.countP (·.down) ∨
        uint32Max - endpoint.runtime.keyReleases < transitions.countP (!·.down)) := by
      rw [counts.1, counts.2]
      exact not_or.mpr ⟨Nat.not_lt.mpr (room.pressed format), Nat.not_lt.mpr (room.released format)⟩
    simp only [decoded, if_neg fits]
    exact ⟨_, rfl, rfl, rfl, rfl, rfl⟩
  | bootMouse =>
    rw [format] at content
    have pointer := room.pointer (by rw [format]; decide)
    have inBounds : ¬(report.length < usbHidBootMouseReportMin ∨ 4 < report.length) :=
      not_or.mpr ⟨Nat.not_lt.mpr content.1, Nat.not_lt.mpr content.2⟩
    simp only [usbHidMouseDecode, if_neg inBounds]
    exact acceptPointer_some _ _ _ pointer
  | genericMouse =>
    rw [format] at content
    have pointer := room.pointer (by rw [format]; decide)
    by_cases isForeign : ForeignReport endpoint.descriptor.mouseLayout report
    · simp only [if_pos isForeign]
      exact ⟨_, rfl, rfl, rfl, rfl, rfl⟩
    have fits := content.resolve_left isForeign
    have isSome := (usbHidMouseLayoutDecode_isSome _ _).mpr fits
    rcases Option.isSome_iff_exists.mp isSome with ⟨decoded, isDecoded⟩
    simp_all [acceptPointer_some]
  | qemuAbsoluteTablet =>
    rw [format] at content
    have pointer := room.pointer (by rw [format]; decide)
    have exact' : ¬report.length ≠ usbHidAbsoluteTabletReportSize := not_not_intro content
    simp_all [usbHidAbsoluteTabletDecode, acceptPointer_some]

/-- A report that is not acceptable is not decoded, however much room there
is. -/
theorem m52DecodeReport_none {descriptor : HidEndpointDescriptor} {runtime : HidEndpointRuntime}
    {report : List UInt8} (some' : report ≠ [])
    (unacceptable : ¬AcceptableReport descriptor.reportFormat descriptor.mouseLayout report) :
    m52DecodeReport descriptor runtime report = none := by
  have unacceptable := fun content => unacceptable ⟨some', content⟩
  rw [m52DecodeReport]
  split
  · rfl
  split
  · rename_i format
    rw [format] at unacceptable
    have notSome := (usbHidKeyboardDecode_isSome runtime.keyboardState report).not.mpr unacceptable
    grind
  · rename_i format
    rw [format] at unacceptable
    have outside : report.length < usbHidBootMouseReportMin ∨ 4 < report.length := by
      by_contra inside
      rw [not_or, Nat.not_lt, Nat.not_lt] at inside
      exact unacceptable inside
    rw [usbHidMouseDecode, if_pos outside]
  · rename_i format
    rw [format] at unacceptable
    rcases not_or.mp unacceptable with ⟨notForeign, misfit⟩
    grind [usbHidMouseLayoutDecode_isSome]
  · rename_i format
    rw [format] at unacceptable
    have different : report.length ≠ usbHidAbsoluteTabletReportSize := unacceptable
    rw [usbHidAbsoluteTabletDecode, if_pos different]
  · rfl

/-- What the validation of an event has found out -/
structure ValidEvent (event : XhciTrb) (slotId : Nat) (endpoint : HidEndpoint) (actual : Nat) :
    Prop where
  type : trbType event = xhciTrbTypeTransferEvent
  slot : eventSlot event = slotId
  endpointId : eventEndpoint event = endpoint.descriptor.endpointId
  slotPresent : slotId ≠ 0
  notControl : 1 < endpoint.descriptor.endpointId
  known : endpoint.descriptor.endpointId ≤ 31
  packet : endpoint.descriptor.maxPacket ≠ 0
  packetFits : endpoint.descriptor.maxPacket ≤ xhciHidReportBufferBytes
  ring : endpoint.ringPhysical ≠ 0
  aligned : endpoint.ringPhysical &&& 0x3f = 0
  length : actual ≤ endpoint.descriptor.maxPacket

variable {event : XhciTrb}

theorem validEvent {slotId : Nat} {endpoint : HidEndpoint} {actual : Nat} {short : Bool}
    (validated : xhciValidateInterruptTransferEvent event endpoint.ringPhysical slotId
      endpoint.descriptor.endpointId endpoint.runtime.expectedTrbPhysical
      endpoint.descriptor.maxPacket = some (actual, short)) :
    ValidEvent event slotId endpoint actual := by
  rw [xhciValidateInterruptTransferEvent] at validated
  split at validated
  · cases validated
  rename_i expected
  split at validated
  · cases validated
  rename_i arrived
  simp only [not_or, ne_eq, not_not] at expected arrived
  rcases expected with ⟨ring, aligned, slotPresent, notControl, known, packet, packetFits, -⟩
  rcases arrived with ⟨type, endpointId, slot, -⟩
  have length : actual ≤ endpoint.descriptor.maxPacket := by
    split at validated
    · grind
    · grind
  exact ⟨type, slot, endpointId, slotPresent, Nat.lt_of_not_le notControl,
    Nat.le_of_not_lt known, packet, Nat.le_of_not_lt packetFits, ring, aligned, length⟩

/-- Where an endpoint is on the bus -/
def endpointAddress (device : HidDevice) (endpoint : HidEndpoint) : Nat × Nat :=
  (device.slotId, endpoint.descriptor.endpointId)

/-- The addresses of all endpoints of a controller -/
def addresses (devices : List HidDevice) : List (Nat × Nat) :=
  devices.flatMap fun device => device.endpoints.map (endpointAddress device)

variable {environment : HidEnvironment}

theorem takeReport_foreign {device : HidDevice} {completed : Nat} {endpoint : HidEndpoint}
    (elsewhere : endpointAddress device endpoint ≠ (eventSlot event, eventEndpoint event)) :
    takeReport environment device event completed endpoint = .foreign := by
  rw [takeReport]
  split
  · rfl
  split
  · rfl
  rename_i validated
  have valid := validEvent validated
  exact absurd (Prod.ext valid.slot.symm valid.endpointId.symm) elsewhere

theorem completeInDevice_append {environment : HidEnvironment} {device : HidDevice}
    {event : XhciTrb} {completed : Nat} {before : List HidEndpoint} (rest : List HidEndpoint)
    (elsewhere : ∀ endpoint ∈ before,
      endpointAddress device endpoint ≠ (eventSlot event, eventEndpoint event)) :
    completeInDevice environment device event completed (before ++ rest) =
      (completeInDevice environment device event completed rest).map (before ++ ·) := by
  induction before with
  | nil =>
    rw [List.nil_append]
    cases completeInDevice environment device event completed rest with
    | foreign => rfl
    | rejected => rfl
    | done result => rfl
  | cons endpoint before ih =>
    rw [List.forall_mem_cons] at elsewhere
    rw [List.cons_append, completeInDevice, takeReport_foreign elsewhere.1, ih elsewhere.2]
    cases completeInDevice environment device event completed rest with
    | foreign => rfl
    | rejected => rfl
    | done result => rfl

theorem completeInDevice_foreign {device : HidDevice} {completed : Nat} {endpoints : List HidEndpoint}
    (elsewhere : ∀ endpoint ∈ endpoints,
      endpointAddress device endpoint ≠ (eventSlot event, eventEndpoint event)) :
    completeInDevice environment device event completed endpoints = .foreign := by
  have whole := @completeInDevice_append environment device event completed endpoints [] elsewhere
  rw [List.append_nil] at whole
  rw [whole]
  rfl

theorem m52CompleteEvent_append {completed : Nat} {before : List HidDevice} (rest : List HidDevice)
    (elsewhere : ∀ device ∈ before, ∀ endpoint ∈ device.endpoints,
      endpointAddress device endpoint ≠ (eventSlot event, eventEndpoint event)) :
    m52CompleteEvent environment event completed (before ++ rest) =
      (m52CompleteEvent environment event completed rest).map (before ++ ·) := by
  induction before with
  | nil =>
    rw [List.nil_append]
    cases m52CompleteEvent environment event completed rest with
    | foreign => rfl
    | rejected => rfl
    | done result => rfl
  | cons device before ih =>
    rw [List.forall_mem_cons] at elsewhere
    rw [List.cons_append, m52CompleteEvent, completeInDevice_foreign elsewhere.1, ih elsewhere.2]
    cases m52CompleteEvent environment event completed rest with
    | foreign => rfl
    | rejected => rfl
    | done result => rfl

/-- The endpoint that an event belongs to, and where it is -/
structure EventEndpoint (devices : List HidDevice) (event : XhciTrb) where
  devicesBefore : List HidDevice
  device : HidDevice
  devicesAfter : List HidDevice
  endpointsBefore : List HidEndpoint
  endpoint : HidEndpoint
  endpointsAfter : List HidEndpoint
  actual : Nat
  short : Bool
  isDevice : devices = devicesBefore ++ device :: devicesAfter
  isEndpoint : device.endpoints = endpointsBefore ++ endpoint :: endpointsAfter
  outstanding : endpoint.runtime.transferOutstanding = true
  validated : xhciValidateInterruptTransferEvent event endpoint.ringPhysical device.slotId
    endpoint.descriptor.endpointId endpoint.runtime.expectedTrbPhysical
    endpoint.descriptor.maxPacket = some (actual, short)

namespace EventEndpoint

variable {devices : List HidDevice} {event : XhciTrb}

variable (at' : EventEndpoint devices event)

/-- The bytes of the report -/
def report : List UInt8 := at'.endpoint.page.take at'.actual

/-- The devices with the endpoint and its device replaced -/
def replaced (endpoint : HidEndpoint) (transferEvents : Nat) : List HidDevice :=
  at'.devicesBefore ++
    { at'.device with
      endpoints := at'.endpointsBefore ++ endpoint :: at'.endpointsAfter
      transferEvents := transferEvents } :: at'.devicesAfter

theorem length_report : at'.report.length = at'.actual := by
  have valid := validEvent at'.validated
  rw [report, List.length_take, at'.endpoint.wholePage]
  exact Nat.min_eq_left (Nat.le_trans valid.length valid.packetFits)

theorem before_elsewhere (distinct : (addresses devices).Nodup) :
    (∀ device ∈ at'.devicesBefore, ∀ endpoint ∈ device.endpoints,
      endpointAddress device endpoint ≠ (eventSlot event, eventEndpoint event)) ∧
    ∀ endpoint ∈ at'.endpointsBefore,
      endpointAddress at'.device endpoint ≠ (eventSlot event, eventEndpoint event) := by
  have valid := validEvent at'.validated
  have here : (eventSlot event, eventEndpoint event) =
      endpointAddress at'.device at'.endpoint := Prod.ext valid.slot valid.endpointId
  rw [at'.isDevice, addresses, List.flatMap_append, List.flatMap_cons, at'.isEndpoint,
    List.map_append, List.map_cons, List.nodup_append] at distinct
  rcases distinct with ⟨-, inDevice, apart⟩
  have there : endpointAddress at'.device at'.endpoint ∈
      at'.endpointsBefore.map (endpointAddress at'.device) ++
        endpointAddress at'.device at'.endpoint :: at'.endpointsAfter.map (endpointAddress at'.device) ++
        at'.devicesAfter.flatMap fun device => device.endpoints.map (endpointAddress device) :=
    List.mem_append_left _ (List.mem_append_right _ List.mem_cons_self)
  rw [here]
  grind

theorem completed_split (environment : HidEnvironment)
    (completed : Nat) (distinct : (addresses devices).Nodup) :
    m52CompleteEvent environment event completed
        (at'.devicesBefore ++ at'.device :: at'.devicesAfter) =
      (m52CompleteEvent environment event completed (at'.device :: at'.devicesAfter)).map
        (at'.devicesBefore ++ ·) ∧
    completeInDevice environment at'.device event completed at'.device.endpoints =
      (completeInDevice environment at'.device event completed
        (at'.endpoint :: at'.endpointsAfter)).map (at'.endpointsBefore ++ ·) := by
  rcases at'.before_elsewhere distinct with ⟨devicesElsewhere, endpointsElsewhere⟩
  refine ⟨m52CompleteEvent_append _ devicesElsewhere, ?_⟩
  rw [at'.isEndpoint, completeInDevice_append _ endpointsElsewhere]

theorem rejected {environment : HidEnvironment}
    {completed : Nat} (distinct : (addresses devices).Nodup)
    (taken : takeReport environment at'.device event completed at'.endpoint = .rejected) :
    m52CompleteEvent environment event completed devices = .rejected := by
  rcases at'.completed_split environment completed distinct with ⟨devicesSplit, endpointsSplit⟩
  rw [m52CompleteEvent, endpointsSplit, completeInDevice, taken] at devicesSplit
  rw [← at'.isDevice] at devicesSplit
  exact devicesSplit

theorem done {environment : HidEnvironment}
    {completed : Nat} {endpoint : HidEndpoint} (distinct : (addresses devices).Nodup)
    (taken : takeReport environment at'.device event completed at'.endpoint = .done endpoint) :
    m52CompleteEvent environment event completed devices =
      .done (at'.replaced endpoint (at'.device.transferEvents + 1)) := by
  rcases at'.completed_split environment completed distinct with ⟨devicesSplit, endpointsSplit⟩
  rw [m52CompleteEvent, endpointsSplit, completeInDevice, taken] at devicesSplit
  rw [← at'.isDevice] at devicesSplit
  exact devicesSplit

end EventEndpoint

end BoringOS.UsbHid
