import BoringOS.UsbHid.Transfers

namespace BoringOS.UsbHid

open Xhci

/-!
# Arming the endpoints

After a pass that has armed all endpoints, another pass changes nothing, and
once a single endpoint has been taken off, another pass arms this one only.
-/

/-- Every HID device is configured, and all its endpoints are armed. -/
def Settled (environment : HidEnvironment) (device : HidDevice) : Prop :=
  m60ClassifyHidDevice environment device = .notHid ∨
    (m60ClassifyHidDevice environment device = .supported ∧ device.deviceConfigured = true ∧
      device.hidEndpointReady = true ∧ device.endpoints.length ≤ xhciMaxHidEndpoints ∧
      ∀ endpoint ∈ device.endpoints, endpoint.runtime.transferOutstanding = true)

variable {environment : HidEnvironment}

theorem m52AllocateReportBuffer_descriptor {slotId : Nat} {endpoint allocated : HidEndpoint}
    (isAllocated : m52AllocateReportBuffer environment slotId endpoint = some allocated) :
    allocated.descriptor = endpoint.descriptor := by
  grind [m52AllocateReportBuffer]

variable {state : XhciState} {device : HidDevice}

theorem m52SubmitEndpoint_armed {endpoint armed : HidEndpoint}
    (submitted : m52SubmitEndpoint environment state device endpoint = (true, armed)) :
    armed.runtime.transferOutstanding = true ∧ armed.descriptor = endpoint.descriptor := by
  rw [m52SubmitEndpoint] at submitted
  split at submitted
  · cases submitted
  split at submitted
  · cases submitted
  rename_i allocated isAllocated
  have descriptor := m52AllocateReportBuffer_descriptor isAllocated
  split at submitted
  · cases submitted
  split at submitted
  · cases submitted
  · grind

/-- What `m52_submit_endpoint` asks for -/
structure Submittable (environment : HidEnvironment) (state : XhciState) (device : HidDevice)
    (endpoint : HidEndpoint) : Prop where
  controller : device.controllerIndex = state.controllerIndex
  few : device.endpoints.length ≤ xhciMaxHidEndpoints
  configured : device.deviceConfigured = true ∧ device.hidEndpointReady = true
  free : endpoint.runtime.transferOutstanding = false
  notControl : 1 < endpoint.descriptor.endpointId
  known : endpoint.descriptor.endpointId ≤ 31
  packet : endpoint.descriptor.maxPacket ≠ 0
  packetFits : endpoint.descriptor.maxPacket ≤ xhciHidReportBufferBytes
  ring : endpoint.ringPhysical ≠ 0
  aligned : endpoint.ringPhysical &&& 0x3f = 0
  ringMapped : environment.mapsFrame endpoint.ringPhysical = true
  buffer : endpoint.runtime.reportBufferPhysical ≠ 0
  bufferAligned : endpoint.runtime.reportBufferPhysical &&& 0xfff = 0
  bufferMapped : environment.mapsFrame endpoint.runtime.reportBufferPhysical = true
  producer : endpoint.runtime.producerIndex < xhciInterruptRingUsable
  submitted : endpoint.runtime.submittedTransfers ≠ uint32Max
  slot : device.slotId ≠ 0
  slotFits : device.slotId * 4 ≤ xhciMmioWindowSize - 4
  doorbell : (device.slotId * 4 + state.doorbellOffset) % 2 ^ 32 ≤ xhciMmioWindowSize - 4

/-- The endpoint waits for its next report. -/
structure Rearmed (before after : HidEndpoint) : Prop where
  outstanding : after.runtime.transferOutstanding = true
  expected : after.runtime.expectedTrbPhysical =
    before.ringPhysical + before.runtime.producerIndex * xhciTrbSize
  trb : after.ring before.runtime.producerIndex =
    ⟨before.runtime.reportBufferPhysical, before.descriptor.maxPacket,
      xhciTrbTypeNormal <<< xhciTrbTypeShift ||| xhciTrbIsp ||| xhciTrbIoc |||
        cycleBit before.runtime.producerCycle⟩
  rung : ∃ doorbell, after.doorbells =
    before.doorbells ++ [(doorbell, before.descriptor.endpointId)]

theorem m52SubmitEndpoint_succeeds {endpoint : HidEndpoint}
    (submittable : Submittable environment state device endpoint) :
    ∃ armed, m52SubmitEndpoint environment state device endpoint = (true, armed) ∧
      Rearmed endpoint armed ∧ armed.descriptor = endpoint.descriptor := by
  rcases submittable with ⟨controller, few, configured, free, notControl, known, packet,
    packetFits, ring, aligned, ringMapped, buffer, bufferAligned, bufferMapped, producer,
    submitted, slot, slotFits, doorbell⟩
  have usable : ¬(device.controllerIndex ≠ state.controllerIndex ∨
      xhciMaxHidEndpoints < device.endpoints.length ∨ device.deviceConfigured = false ∨
      device.hidEndpointReady = false ∨ endpoint.runtime.transferOutstanding = true ∨
      endpoint.descriptor.endpointId ≤ 1 ∨ endpoint.descriptor.maxPacket = 0 ∨
      xhciHidReportBufferBytes < endpoint.descriptor.maxPacket ∨ endpoint.ringPhysical = 0) := by
    simp only [not_or, configured.1, configured.2, free, Bool.true_eq_false, Bool.false_eq_true,
      not_false_eq_true, true_and, Nat.not_lt, Nat.not_le, not_not, ne_eq]
    exact ⟨controller, few, notControl, packet, packetFits, ring⟩
  have mapped : ¬(environment.mapsFrame endpoint.ringPhysical = false ∨
      environment.mapsFrame endpoint.runtime.reportBufferPhysical = false) := by
    rw [ringMapped, bufferMapped]
    decide
  have buildable : ¬(endpoint.ringPhysical = 0 ∨ endpoint.ringPhysical &&& 0x3f ≠ 0 ∨
      xhciInterruptRingUsable ≤ endpoint.runtime.producerIndex ∨ endpoint.runtime.reportBufferPhysical = 0 ∨
      endpoint.runtime.reportBufferPhysical &&& 0xfff ≠ 0 ∨ endpoint.descriptor.maxPacket = 0 ∨
      xhciHidReportBufferBytes < endpoint.descriptor.maxPacket) := by
    simp only [not_or, Nat.not_lt, Nat.not_le, not_not, ne_eq]
    exact ⟨ring, aligned, producer, buffer, bufferAligned, packet, packetFits⟩
  have rings : ¬(device.slotId = 0 ∨ xhciMmioWindowSize - 4 < device.slotId * 4 ∨
      31 < endpoint.descriptor.endpointId ∨
      xhciMmioWindowSize - 4 < (device.slotId * 4 + state.doorbellOffset) % 2 ^ 32) := by
    simp only [not_or, Nat.not_lt]
    exact ⟨slot, slotFits, known, doorbell⟩
  have allocated : m52AllocateReportBuffer environment device.slotId endpoint = some endpoint :=
    if_pos buffer
  rw [m52SubmitEndpoint, if_neg usable, allocated]
  simp only [if_neg mapped]
  rw [xhciBuildInterruptInTrb, if_neg buildable]
  by_cases last : endpoint.runtime.producerIndex = xhciInterruptRingUsable - 1
  · simp only [if_pos last, if_neg submitted, if_neg rings]
    exact ⟨_, rfl, ⟨rfl, rfl, if_pos rfl, _, rfl⟩, rfl⟩
  · simp only [if_neg last, if_neg submitted, if_neg rings]
    exact ⟨_, rfl, ⟨rfl, rfl, if_pos rfl, _, rfl⟩, rfl⟩

/-- A pass that succeeds leaves all endpoints armed and their descriptors as
they are. -/
theorem rearmEndpoints_armed (endpoints : List HidEndpoint) :
    ∀ armed, rearmEndpoints environment state device endpoints = (true, armed) →
      (∀ endpoint ∈ armed, endpoint.runtime.transferOutstanding = true) ∧
        armed.map (·.descriptor) = endpoints.map (·.descriptor) := by
  induction endpoints with
  | nil =>
    intro armed isArmed
    cases isArmed
    simp
  | cons endpoint rest ih =>
    intro armed isArmed
    rw [rearmEndpoints] at isArmed
    split at isArmed
    · grind
    split at isArmed
    · cases isArmed
    rename_i submitted isSubmitted
    simp only [Prod.mk.injEq] at isArmed
    rcases isArmed with ⟨succeeds, rfl⟩
    rcases ih _ (Prod.ext succeeds rfl) with ⟨all, descriptors⟩
    rcases m52SubmitEndpoint_armed isSubmitted with ⟨outstanding, descriptor⟩
    simp_all

/-- Armed endpoints in front are passed over. -/
theorem rearmEndpoints_append {environment : HidEnvironment} {state : XhciState}
    {device : HidDevice} {before : List HidEndpoint} (rest : List HidEndpoint)
    (outstanding : ∀ endpoint ∈ before, endpoint.runtime.transferOutstanding = true) :
    rearmEndpoints environment state device (before ++ rest) =
      ((rearmEndpoints environment state device rest).1,
        before ++ (rearmEndpoints environment state device rest).2) := by
  induction before with
  | nil => rfl
  | cons endpoint before ih =>
    simp_all [List.cons_append, rearmEndpoints]

theorem rearmEndpoints_settled {endpoints : List HidEndpoint}
    (outstanding : ∀ endpoint ∈ endpoints, endpoint.runtime.transferOutstanding = true) :
    rearmEndpoints environment state device endpoints = (true, endpoints) := by
  have whole := @rearmEndpoints_append environment state device endpoints [] outstanding
  rw [List.append_nil] at whole
  rw [whole, rearmEndpoints, List.append_nil]

theorem m60ClassifyHidDevice_congr {endpoints : List HidEndpoint} {transferEvents : Nat}
    (configured : device.deviceConfigured = true ∧ device.hidEndpointReady = true)
    (descriptors : endpoints.map (·.descriptor) = device.endpoints.map (·.descriptor)) :
    m60ClassifyHidDevice environment
        { device with
          endpoints := endpoints
          transferEvents := transferEvents } =
      m60ClassifyHidDevice environment device := by
  have length : endpoints.length = device.endpoints.length := by
    have same := congrArg List.length descriptors
    rwa [List.length_map, List.length_map] at same
  have formats : endpoints.any (·.descriptor.reportFormat == .unsupported) =
      device.endpoints.any (·.descriptor.reportFormat == .unsupported) := by
    have same := congrArg (List.any · (·.reportFormat == .unsupported)) descriptors
    simp only [List.any_map] at same
    exact same
  simp_all [m60ClassifyHidDevice]

theorem rearmDevices_settled (devices : List HidDevice) :
    ∀ armed, rearmDevices environment state devices = (true, armed) →
      ∀ device ∈ armed, Settled environment device := by
  induction devices with
  | nil =>
    nofun
  | cons device rest ih =>
    intro armed isArmed
    rw [rearmDevices] at isArmed
    split at isArmed
    · cases isArmed
    · rename_i notHid
      simp only [Prod.mk.injEq] at isArmed
      rcases isArmed with ⟨succeeds, rfl⟩
      exact List.forall_mem_cons.mpr ⟨Or.inl notHid, ih _ (Prod.ext succeeds rfl)⟩
    · split at isArmed
      · cases isArmed
      split at isArmed
      · cases isArmed
      rename_i endpoints rearmed
      simp only [Prod.mk.injEq] at isArmed
      rcases isArmed with ⟨succeeds, rfl⟩
      refine List.forall_mem_cons.mpr ⟨Or.inr ?_, ih _ (Prod.ext succeeds rfl)⟩
      rcases rearmEndpoints_armed _ _ rearmed with ⟨outstanding, descriptors⟩
      grind [List.length_map, m60ClassifyHidDevice_congr]

/-- Settled devices in front are passed over. -/
theorem rearmDevices_append {environment : HidEnvironment} {state : XhciState}
    {before : List HidDevice} (rest : List HidDevice)
    (settled : ∀ device ∈ before, Settled environment device) :
    rearmDevices environment state (before ++ rest) =
      ((rearmDevices environment state rest).1,
        before ++ (rearmDevices environment state rest).2) := by
  induction before with
  | nil => rfl
  | cons device before ih =>
    rw [List.forall_mem_cons] at settled
    rw [List.cons_append, rearmDevices, ih settled.2]
    rcases settled.1 with notHid | ⟨supported, configured, ready, few, outstanding⟩
    · rw [notHid]
      rfl
    have usable : ¬(device.deviceConfigured = false ∨ device.hidEndpointReady = false ∨
        xhciMaxHidEndpoints < device.endpoints.length) := by
      simp only [configured, ready, not_or, Bool.true_eq_false, not_false_eq_true, true_and]
      exact Nat.not_lt.mpr few
    rw [supported]
    simp only [if_neg usable, rearmEndpoints_settled outstanding]
    rfl

end BoringOS.UsbHid
