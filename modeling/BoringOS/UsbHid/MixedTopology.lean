import BoringOS.UsbHid.Reclassification

namespace BoringOS.UsbHid

open Library Xhci

/-!
# Arming after a mixed configuration

Each device of the topology was either passed over or configured as a HID device, at its
own place.  The later classification therefore agrees with what happened to it, and the
endpoints that are armed have usable descriptors.
-/

/-! ## Each device at its place -/

theorem putBack_each {Value : Type} {holds : Nat → Value → Prop} (places : List Nat) :
    ∀ {values saved : List Value},
      (∀ place value, saved[place]? = some value → place ∉ places → holds place value) →
      List.Forall₂ holds places values →
      ∀ place value, (putBack saved places values)[place]? = some value → holds place value := by
  induction places with
  | nil =>
    intro values saved others each place value isValue
    cases each
    exact others place value isValue List.not_mem_nil
  | cons first rest ih =>
    intro values saved others each
    cases each with
    | cons holdsFirst holdsRest =>
      refine ih ?_ holdsRest
      grind

theorem length_putBack {Value : Type} (places : List Nat) :
    ∀ saved values : List Value, (putBack saved places values).length = saved.length := by
  induction places with
  | nil => simp [putBack]
  | cons place rest ih =>
    rintro saved (_ | ⟨value, values⟩)
    · rfl
    · rw [putBack, ih, List.length_set]

/-- The device at a place has been configured, as that one of the HID devices that it is. -/
def ConfiguredAt (environment : HidEnvironment) (answers : Nat → HidAnswers) (places : List Nat)
    (devices : List AddressedDevice) (place : Nat) (after : AddressedDevice) : Prop :=
  ∃ index device, places[index]? = some place ∧ devices[place]? = some device ∧
    configureHidDevice environment (answers index) device = (true, after)

variable {environment : HidEnvironment}

variable {devices : List AddressedDevice}

variable {answers : Nat → HidAnswers}

theorem configureFrom_true (places : List Nat) :
    ∀ {before : List Nat} {after : List AddressedDevice},
      (∀ place ∈ places, place < devices.length) →
      configureFrom environment answers before.length (places.filterMap (devices[·]?)) =
        (true, after) →
      List.Forall₂ (ConfiguredAt environment answers (before ++ places) devices) places after := by
  induction places with
  | nil =>
    intro before after _ configured
    cases configured
    exact .nil
  | cons place rest ih =>
    intro before after inRange configured
    rcases List.getElem?_eq_some_iff.mpr ⟨inRange place List.mem_cons_self, rfl⟩ with isDevice
    rw [List.filterMap_cons_some isDevice, configureFrom] at configured
    split at configured
    · cases configured
    rename_i device isConfigured
    have behind := @ih (before ++ [place])
    rw [List.append_assoc, List.length_append, List.length_singleton] at behind
    cases restConfigured : configureFrom environment answers (before.length + 1)
        (rest.filterMap (devices[·]?)) with
    | mk success later =>
      rw [restConfigured] at configured
      cases configured
      refine .cons ⟨before.length, _, ?_, isDevice, isConfigured⟩
        (behind (fun other isOther => inRange other (List.mem_cons_of_mem place isOther))
          restConfigured)
      rw [List.getElem?_append_right (Nat.le_refl _), Nat.sub_self]
      rfl

/-- The device was passed over. -/
def PassedOver (environment : HidEnvironment) (devices : List AddressedDevice) (place : Nat)
    (after : AddressedDevice) : Prop :=
  devices[place]? = some after ∧ mixedClassification environment after = .notHid

theorem hidPlaces_lt {place : Nat}
    (isPlace : place ∈ hidPlaces environment devices) : place < devices.length :=
  List.mem_range.mp (List.mem_filter.mp isPlace).1

theorem passedOver_of_not_mem {place : Nat} {device : AddressedDevice}
    (valid : devices.any (mixedClassification environment · == .invalid) = false)
    (isDevice : devices[place]? = some device) (notHid : place ∉ hidPlaces environment devices) :
    PassedOver environment devices place device := by
  have inRange := (List.getElem?_eq_some_iff.mp isDevice).1
  have isValid := List.any_eq_false.mp valid device (List.mem_of_getElem? isDevice)
  rw [beq_iff_eq] at isValid
  rw [hidPlaces, List.mem_filter, not_and] at notHid
  have isFiltered := notHid (List.mem_range.mpr inRange)
  simp only [isDevice, Bool.or_eq_true, beq_iff_eq, not_or] at isFiltered
  refine ⟨isDevice, ?_⟩
  cases isClass : mixedClassification environment device with
  | supported => exact absurd isClass isFiltered.1
  | validUnsupported => exact absurd isClass isFiltered.2
  | notHid => rfl
  | invalid => exact absurd isClass isValid

theorem xhciConfigureHidDevicesMixed_true
    {running : Bool} {devices after : List AddressedDevice}
    (configured : xhciConfigureHidDevicesMixed environment answers running devices = (true, after)) :
    after.length = devices.length ∧ ∀ place device, after[place]? = some device →
      ConfiguredAt environment answers (hidPlaces environment devices) devices place device ∨
        PassedOver environment devices place device := by
  unfold xhciConfigureHidDevicesMixed at configured
  simp only [] at configured
  split at configured
  · cases configured
  split at configured
  · cases configured
  rename_i valid
  rw [Bool.not_eq_true] at valid
  split at configured
  · simp_all [passedOver_of_not_mem]
  unfold xhciConfigureHidDevices at configured
  split at configured
  · cases configured
  cases isResult : configureFrom environment answers 0
      ((hidPlaces environment devices).filterMap (devices[·]?)) with
  | mk success values =>
    rw [isResult] at configured
    cases configured
    refine ⟨length_putBack _ _ _, putBack_each _ ?_ ?_⟩
    · simp_all [passedOver_of_not_mem]
    · exact (@configureFrom_true _ _ _ _ [] _ (fun place => hidPlaces_lt) isResult).imp
        fun place device => Or.inl

/-! ## What may happen in between -/

/-- The device has kept its descriptors.  Its endpoints may have been in use, and the storage
driver may have configured it. -/
structure Retains (after later : AddressedDevice) : Prop where
  addressed : later.service.addressed = after.service.addressed
  ready : later.service.descriptorsReady = after.service.descriptorsReady
  endpointReady : later.service.hidEndpointReady = after.service.hidEndpointReady
  configured : after.service.deviceConfigured = true → later.service.deviceConfigured = true
  endpoints : later.service.endpoints.map (·.descriptor) =
    after.service.endpoints.map (·.descriptor)
  buffer : later.descriptorBufferPhysical = after.descriptorBufferPhysical
  page : later.page = after.page
  length : later.configurationLength = after.configurationLength
  speed : later.speed = after.speed
  vendor : later.vendorId = after.vendorId
  product : later.productId = after.productId

section

variable {environment : HidEnvironment} {after later : AddressedDevice}
  {answers : Nat → HidAnswers} {parsed : XhciHidConfiguration}

theorem Retains.examined (retains : Retains after later)
    (examined : Examined environment after parsed) : Examined environment later parsed where
  addressed := retains.addressed.trans examined.addressed
  ready := retains.ready.trans examined.ready
  buffer := retains.buffer ▸ examined.buffer
  mapped := retains.buffer ▸ examined.mapped
  isParsed := by
    rw [retains.page, retains.length, retains.speed]
    exact examined.isParsed

theorem Retains.supportedEndpoints (retains : Retains after later) (parsed : XhciHidConfiguration) :
    supportedEndpoints later parsed = UsbHid.supportedEndpoints after parsed := by
  rw [UsbHid.supportedEndpoints, UsbHid.supportedEndpoints, retains.vendor, retains.product]

theorem m60Classify_unready (examined : Examined environment later parsed)
    (notReady : later.service.hidEndpointReady = false) :
    m60Classify environment later = m60ClassifyDescriptors environment later := by
  have present : ¬(later.service.addressed = false ∨ later.service.descriptorsReady = false) := by
    rw [examined.addressed, examined.ready]
    decide
  have notConfigured : ¬(later.service.deviceConfigured = true ∧ later.service.hidEndpointReady = true) := by
    rw [notReady]
    exact fun both => Bool.false_ne_true both.2
  rw [m60Classify, m60ClassifyHidDevice, if_neg present, if_neg notConfigured]
  rfl

/-! ## Agreement -/

/-- The endpoints of the device are those it was configured with: the supported ones among its
descriptors, and those of generic mice. -/
def ServedBy (device later : AddressedDevice) : Prop :=
  ∃ parsed generic, xhciParseHidConfigurationEx device.page device.configurationLength device.speed =
      .ok parsed ∧
    (∀ endpoint ∈ generic, IsGenericMouse parsed endpoint) ∧
    later.service.endpoints.map (·.descriptor) =
      (UsbHid.supportedEndpoints device parsed ++ generic).map (·.service)

/-- The device at a place has been configured, and its endpoints are those. -/
structure ServedAt (environment : HidEnvironment) (answers : Nat → HidAnswers)
    (devices : List AddressedDevice) (place : Nat) (later : AddressedDevice) : Prop where
  configured : ∃ index device after, (hidPlaces environment devices)[index]? = some place ∧
    devices[place]? = some device ∧
    configureHidDevice environment (answers index) device = (true, after) ∧ ServedBy device later
  ready : later.service.deviceConfigured = true ∧ later.service.hidEndpointReady = true
  few : later.service.endpoints.length ≤ xhciMaxHidEndpoints
  usable : ∀ endpoint ∈ later.service.endpoints,
    1 < endpoint.descriptor.endpointId ∧ endpoint.descriptor.endpointId ≤ 31 ∧
      endpoint.descriptor.maxPacket ≠ 0 ∧
      endpoint.descriptor.maxPacket ≤ xhciHidReportBufferBytes

/-- The later classification of a device agrees with its configuration. -/
def Agrees (environment : HidEnvironment) (answers : Nat → HidAnswers)
    (devices : List AddressedDevice) (place : Nat) (later : AddressedDevice) : Prop :=
  (m60Classify environment later = .notHid ∧ later.service.hidEndpointReady = false) ∨
    (m60Classify environment later = .supported ∧ ServedAt environment answers devices place later)

theorem map_descriptor_newEndpoint (endpoints : List XhciHidEndpointDescriptor) :
    ∀ {rings : List Nat}, rings.length = endpoints.length →
      (List.zipWith newEndpoint endpoints rings).map (·.descriptor) = endpoints.map (·.service) := by
  induction endpoints with
  | nil =>
    intro rings _
    rfl
  | cons endpoint rest ih =>
    intro rings eachRing
    cases rings with
    | nil => cases eachRing
    | cons ring rings =>
      rw [List.zipWith_cons_cons, List.map_cons, List.map_cons, ih (Nat.succ.inj eachRing)]
      rfl

theorem origin_of_served {served : List HidEndpoint} {endpoints : List XhciHidEndpointDescriptor}
    (descriptors : served.map (·.descriptor) = endpoints.map (·.service)) {endpoint : HidEndpoint}
    (isEndpoint : endpoint ∈ served) :
    ∃ origin ∈ endpoints, origin.service = endpoint.descriptor := by
  have isDescriptor : endpoint.descriptor ∈ served.map (·.descriptor) :=
    List.mem_map.mpr ⟨endpoint, isEndpoint, rfl⟩
  simp_all

theorem m60Classify_served {device : AddressedDevice}
    {endpoints : List XhciHidEndpointDescriptor} (addressed : device.service.addressed = true)
    (present : device.service.descriptorsReady = true)
    (ready : device.service.deviceConfigured = true ∧ device.service.hidEndpointReady = true)
    (descriptors : device.service.endpoints.map (·.descriptor) = endpoints.map (·.service))
    (served : endpoints ≠ []) (few : endpoints.length ≤ xhciMaxHidEndpoints)
    (formats : ∀ endpoint ∈ endpoints, endpoint.reportFormat ≠ .unsupported) :
    m60Classify environment device = .supported := by
  have sameLength : device.service.endpoints.length = endpoints.length := by
    have lengths := congrArg List.length descriptors
    rwa [List.length_map, List.length_map] at lengths
  have noneUnsupported :
      ¬device.service.endpoints.any (·.descriptor.reportFormat == .unsupported) = true := by
    rw [List.any_eq_true]
    rintro ⟨endpoint, isEndpoint, isFormat⟩
    rcases origin_of_served descriptors isEndpoint with ⟨origin, isOrigin, same⟩
    rw [beq_iff_eq, ← same] at isFormat
    exact formats origin isOrigin isFormat
  grind [m60Classify, m60ClassifyHidDevice]

theorem passedOver_agrees {devices : List AddressedDevice} {place : Nat}
    (fresh : ∀ device ∈ devices, device.service.hidEndpointReady = false)
    (passedOver : PassedOver environment devices place after) (retains : Retains after later) :
    Agrees environment answers devices place later := by
  rcases passedOver with ⟨isDevice, isClass⟩
  have notReady := fresh after (List.mem_of_getElem? isDevice)
  rw [mixedClassification] at isClass
  split at isClass
  · cases isClass
  rename_i atHand
  simp only [not_or, Bool.not_eq_false] at atHand
  rw [xhciClassifyHidConfigurationEx] at isClass
  split at isClass
  · cases isClass
  rename_i parsed isParsed
  have examined : Examined environment after parsed :=
    ⟨atHand.1, atHand.2.1, atHand.2.2.1, atHand.2.2.2.2, isParsed⟩
  have laterExamined := retains.examined examined
  have laterReady := retains.endpointReady.trans notReady
  refine Or.inl ⟨?_, laterReady⟩
  grind [m60Classify_unready, m60ClassifyDescriptors_examined]

theorem configuredAt_agrees {devices : List AddressedDevice} {place : Nat}
    (isConfigured : ConfiguredAt environment answers (hidPlaces environment devices) devices place after)
    (retains : Retains after later) :
    Agrees environment answers devices place later := by
  rcases isConfigured with ⟨index, device, isPlace, isDevice, succeeded⟩
  rcases configureHidDevice_true succeeded with ⟨parsed, examined, notReady, configured⟩
  cases configured with
  | unserved reason unsupported =>
    have laterExamined : Examined environment later parsed := retains.examined { examined with }
    have laterReady := retains.endpointReady.trans notReady
    refine Or.inl ⟨?_, laterReady⟩
    have stillUnsupported : UsbHid.supportedEndpoints later parsed = [] := by
      rw [retains.supportedEndpoints]
      exact unsupported
    rw [m60Classify_unready laterExamined laterReady,
      m60ClassifyDescriptors_examined laterExamined, if_pos (Or.inr stillUnsupported)]
  | served generic rings isGeneric served few eachRing =>
    have wellFormed := examined.accepted.wellFormed
    have usable : ∀ endpoint ∈ UsbHid.supportedEndpoints device parsed ++ generic,
        Usable endpoint ∧ endpoint.reportFormat ≠ .unsupported := by
      intro endpoint isEndpoint
      rcases List.mem_append.mp isEndpoint with isSupported | isMouse
      · exact supportedEndpoints_usable wellFormed endpoint isSupported
      · exact (isGeneric endpoint isMouse).usable wellFormed
    have descriptors := retains.endpoints.trans (map_descriptor_newEndpoint _ eachRing)
    have ready : later.service.deviceConfigured = true ∧
        later.service.hidEndpointReady = true := ⟨retains.configured rfl, retains.endpointReady⟩
    refine Or.inr ⟨m60Classify_served (retains.addressed.trans examined.addressed)
      (retains.ready.trans examined.ready) ready descriptors served few
      (fun endpoint isEndpoint => (usable endpoint isEndpoint).2), ?_⟩
    refine ⟨⟨index, device, _, isPlace, isDevice, succeeded, parsed, generic, examined.isParsed,
      isGeneric, descriptors⟩, ready, ?_, ?_⟩
    · have lengths := congrArg List.length descriptors
      grind
    · intro endpoint isEndpoint
      rcases origin_of_served descriptors isEndpoint with ⟨origin, isOrigin, same⟩
      rcases (usable origin isOrigin).1 with ⟨notControl, known, packet, fits⟩
      rw [← same]
      exact ⟨notControl, known, packet, fits⟩

end

/-! ## Arming -/

/-- `m60_rearm_hid_endpoints` over the devices with their retained descriptors -/
def rearmAddressed (environment : HidEnvironment) (state : XhciState) :
    List AddressedDevice → Bool × List HidDevice
  | [] => (true, [])
  | device :: rest =>
    match m60Classify environment device with
    | .invalid => (false, device.service :: rest.map (·.service))
    | .notHid =>
      let rearmed := rearmAddressed environment state rest
      (rearmed.1, device.service :: rearmed.2)
    | .supported =>
      if device.service.deviceConfigured = false ∨ device.service.hidEndpointReady = false ∨
          xhciMaxHidEndpoints < device.service.endpoints.length then
        (false, device.service :: rest.map (·.service))
      else
        match rearmEndpoints environment state device.service device.service.endpoints with
        | (false, endpoints) =>
          (false, { device.service with endpoints := endpoints } :: rest.map (·.service))
        | (true, endpoints) =>
          let rearmed := rearmAddressed environment state rest
          (rearmed.1, { device.service with endpoints := endpoints } :: rearmed.2)

/-- What arming an endpoint asks for besides its descriptor: the rings and frames, and a slot
with a doorbell -/
structure Provided (environment : HidEnvironment) (state : XhciState) (device : HidDevice)
    (endpoint : HidEndpoint) : Prop where
  controller : device.controllerIndex = state.controllerIndex
  ring : endpoint.ringPhysical ≠ 0
  aligned : endpoint.ringPhysical &&& 0x3f = 0
  ringMapped : environment.mapsFrame endpoint.ringPhysical = true
  submitted : endpoint.runtime.submittedTransfers ≠ uint32Max
  slot : device.slotId ≠ 0
  slotFits : device.slotId * 4 ≤ xhciMmioWindowSize - 4
  doorbell : (device.slotId * 4 + state.doorbellOffset) % 2 ^ 32 ≤ xhciMmioWindowSize - 4
  buffer : ∃ allocated, m52AllocateReportBuffer environment device.slotId endpoint =
      some allocated ∧
    allocated.runtime.reportBufferPhysical ≠ 0 ∧
    allocated.runtime.reportBufferPhysical &&& 0xfff = 0 ∧
    environment.mapsFrame allocated.runtime.reportBufferPhysical = true ∧
    allocated.runtime.producerIndex < xhciInterruptRingUsable

section

variable {environment : HidEnvironment} {state : XhciState} {device : HidDevice}
  {endpoint allocated : HidEndpoint}

theorem m52AllocateReportBuffer_runtime
    (isAllocated : m52AllocateReportBuffer environment device.slotId endpoint = some allocated) :
    allocated.runtime.transferOutstanding = endpoint.runtime.transferOutstanding ∧
      allocated.runtime.submittedTransfers = endpoint.runtime.submittedTransfers ∧
      allocated.ringPhysical = endpoint.ringPhysical := by
  grind [m52AllocateReportBuffer]

theorem m52SubmitEndpoint_allocated
    (isAllocated : m52AllocateReportBuffer environment device.slotId endpoint = some allocated)
    (buffer : allocated.runtime.reportBufferPhysical ≠ 0)
    (submittable : (m52SubmitEndpoint environment state device allocated).1 = true) :
    (m52SubmitEndpoint environment state device endpoint).1 = true := by
  rcases m52AllocateReportBuffer_runtime isAllocated with ⟨outstanding, _, ring⟩
  have descriptor := m52AllocateReportBuffer_descriptor isAllocated
  have again : m52AllocateReportBuffer environment device.slotId allocated = some allocated := by
    rw [m52AllocateReportBuffer, if_pos buffer]
  have same : m52SubmitEndpoint environment state device endpoint =
        m52SubmitEndpoint environment state device allocated ∨
      m52SubmitEndpoint environment state device allocated = (false, allocated) := by
    unfold m52SubmitEndpoint
    rw [outstanding, descriptor, ring, isAllocated, again]
    split
    · exact Or.inr rfl
    · simp
  grind

theorem m52SubmitEndpoint_provided (provided : Provided environment state device endpoint)
    (few : device.endpoints.length ≤ xhciMaxHidEndpoints)
    (ready : device.deviceConfigured = true ∧ device.hidEndpointReady = true)
    (free : endpoint.runtime.transferOutstanding = false)
    (usable : 1 < endpoint.descriptor.endpointId ∧ endpoint.descriptor.endpointId ≤ 31 ∧
      endpoint.descriptor.maxPacket ≠ 0 ∧
      endpoint.descriptor.maxPacket ≤ xhciHidReportBufferBytes) :
    (m52SubmitEndpoint environment state device endpoint).1 = true := by
  rcases provided.buffer with ⟨allocated, isAllocated, buffer, aligned, mapped, producer⟩
  rcases m52AllocateReportBuffer_runtime isAllocated with ⟨outstanding, submitted, ring⟩
  have descriptor := m52AllocateReportBuffer_descriptor isAllocated
  have submittable : Submittable environment state device allocated :=
    { controller := provided.controller
      few := few
      configured := ready
      free := outstanding.trans free
      notControl := descriptor ▸ usable.1
      known := descriptor ▸ usable.2.1
      packet := descriptor ▸ usable.2.2.1
      packetFits := descriptor ▸ usable.2.2.2
      ring := ring ▸ provided.ring
      aligned := ring ▸ provided.aligned
      ringMapped := ring ▸ provided.ringMapped
      buffer := buffer
      bufferAligned := aligned
      bufferMapped := mapped
      producer := producer
      submitted := submitted ▸ provided.submitted
      slot := provided.slot
      slotFits := provided.slotFits
      doorbell := provided.doorbell }
  rcases m52SubmitEndpoint_succeeds submittable with ⟨armed, isArmed, _, _⟩
  exact m52SubmitEndpoint_allocated isAllocated buffer (congrArg Prod.fst isArmed)

/-- Arming the endpoints of a device fails only where something is not provided. -/
theorem rearmEndpoints_provided (few : device.endpoints.length ≤ xhciMaxHidEndpoints)
    (ready : device.deviceConfigured = true ∧ device.hidEndpointReady = true) (endpoints : List HidEndpoint) :
    (∀ endpoint ∈ endpoints, 1 < endpoint.descriptor.endpointId ∧
      endpoint.descriptor.endpointId ≤ 31 ∧ endpoint.descriptor.maxPacket ≠ 0 ∧
      endpoint.descriptor.maxPacket ≤ xhciHidReportBufferBytes) →
    (rearmEndpoints environment state device endpoints).1 = false →
    ∃ endpoint ∈ endpoints, ¬Provided environment state device endpoint := by
  induction endpoints with
  | nil =>
    intro _ fails
    cases fails
  | cons endpoint rest ih =>
    intro usable fails
    have inRest : (rearmEndpoints environment state device rest).1 = false →
        ∃ other ∈ endpoint :: rest, ¬Provided environment state device other := by
      intro restFails
      rcases ih (fun other isOther => usable other (List.mem_cons_of_mem endpoint isOther))
        restFails with ⟨other, isOther, notProvided⟩
      exact ⟨other, List.mem_cons_of_mem endpoint isOther, notProvided⟩
    rw [rearmEndpoints] at fails
    split at fails
    · exact inRest fails
    split at fails
    · grind [m52SubmitEndpoint_provided]
    · exact inRest fails

end

/-- Arming the endpoints of all devices whose classification agrees with their configuration
fails only where something is not provided. -/
theorem rearmAddressed_provided {environment : HidEnvironment} {answers : Nat → HidAnswers}
    {state : XhciState} {devices : List AddressedDevice} (laters : List AddressedDevice) :
    (∀ later ∈ laters, ∃ place, Agrees environment answers devices place later) →
    (rearmAddressed environment state laters).1 = false →
    ∃ later ∈ laters, ∃ endpoint ∈ later.service.endpoints,
      ¬Provided environment state later.service endpoint := by
  induction laters with
  | nil =>
    intro _ fails
    cases fails
  | cons later rest ih =>
    intro agree fails
    have inRest : (rearmAddressed environment state rest).1 = false →
        ∃ other ∈ later :: rest, ∃ endpoint ∈ other.service.endpoints,
          ¬Provided environment state other.service endpoint := by
      intro restFails
      rcases ih (fun other isOther => agree other (List.mem_cons_of_mem later isOther))
        restFails with ⟨other, isOther, found⟩
      exact ⟨other, List.mem_cons_of_mem later isOther, found⟩
    rcases agree later List.mem_cons_self with ⟨place, ⟨isClass, _⟩ | ⟨isClass, served⟩⟩
    · grind [rearmAddressed]
    have ready : ¬(later.service.deviceConfigured = false ∨ later.service.hidEndpointReady = false ∨
        xhciMaxHidEndpoints < later.service.endpoints.length) := by
      rw [served.ready.1, served.ready.2, not_or, not_or, Nat.not_lt]
      exact ⟨(by decide), (by decide), served.few⟩
    rw [rearmAddressed, isClass] at fails
    simp only [if_neg ready] at fails
    split at fails
    · rename_i refused
      rcases rearmEndpoints_provided served.few served.ready _ served.usable
        (congrArg Prod.fst refused) with ⟨endpoint, isEndpoint, notProvided⟩
      grind
    · exact inRest fails

/-! ## The whole topology -/

theorem mixed_reclassification {environment : HidEnvironment} {answers : Nat → HidAnswers}
    {running : Bool} {devices after laters : List AddressedDevice}
    (fresh : ∀ device ∈ devices, device.service.hidEndpointReady = false)
    (configured : xhciConfigureHidDevicesMixed environment answers running devices = (true, after))
    (retains : List.Forall₂ Retains after laters) :
    laters.length = devices.length ∧
      (∀ place later, laters[place]? = some later → Agrees environment answers devices place later) ∧
      ∀ state, (rearmAddressed environment state laters).1 = false →
        ∃ later ∈ laters, ∃ endpoint ∈ later.service.endpoints,
          ¬Provided environment state later.service endpoint := by
  rcases xhciConfigureHidDevicesMixed_true configured with ⟨sameLength, each⟩
  have agree : ∀ place later, laters[place]? = some later → Agrees environment answers devices place later := by
    intro place later isLater
    rcases List.getElem?_eq_some_iff.mp isLater with ⟨inRange, isThere⟩
    have inAfter : place < after.length := by
      rwa [retains.length_eq]
    have retained := retains.get inAfter inRange
    rw [List.get_eq_getElem, List.get_eq_getElem, isThere] at retained
    rcases each place after[place] (List.getElem?_eq_getElem inAfter) with isConfigured | passedOver
    · exact configuredAt_agrees isConfigured retained
    · exact passedOver_agrees fresh passedOver retained
  refine ⟨retains.length_eq.symm.trans sameLength, agree, fun state fails =>
    @rearmAddressed_provided environment answers state devices laters ?_ fails⟩
  intro later isLater
  rcases List.mem_iff_getElem?.mp isLater with ⟨place, isThere⟩
  exact ⟨place, agree place later isThere⟩

/-! ## A keyboard and a storage stick -/

/-- A boot keyboard with one interrupt endpoint -/
def bootKeyboardPage : List UInt8 :=
  [9, 2, 34, 0, 1, 1, 0, 0xa0, 50, 9, 4, 0, 0, 1, 3, 1, 1, 0, 9, 0x21, 0x11, 1, 0, 1, 0x22, 63, 0,
    7, 5, 0x81, 3, 8, 0, 10]

/-- A stick with two bulk endpoints -/
def stickPage : List UInt8 :=
  [9, 2, 32, 0, 1, 1, 0, 0x80, 50, 9, 4, 0, 0, 2, 8, 6, 80, 0, 7, 5, 0x81, 2, 64, 0, 0, 7, 5, 2, 2, 64, 0, 0]

def addressedService (slotId : Nat) : HidDevice where
  controllerIndex := 0
  slotId := slotId
  addressed := true
  descriptorsReady := true
  deviceConfigured := false
  hidEndpointReady := false
  transferEvents := 0
  endpoints := []

def addressedDevice (slotId : Nat) (page : List UInt8)
    (discovered : xhciValidateConfigurationDescriptor page page.length = some page.length) :
    AddressedDevice where
  service := addressedService slotId
  speed := 1
  descriptorBufferPhysical := slotId * 4096
  page := page
  configurationLength := page.length
  vendorId := 0x1234
  productId := 0x5678
  controlOutstanding := false
  hidRejectionReason := .none
  discovered := fun _ => ⟨page.length, discovered⟩

def keyboardAndStick : List AddressedDevice :=
  [addressedDevice 1 stickPage (by decide +kernel), addressedDevice 2 bootKeyboardPage (by decide +kernel)]

def everythingMapped : HidEnvironment where
  mapsRegisters := true
  mapsFrame := fun _ => true
  frameFor := fun _ _ => some 0x100000
  classifyDescriptors := fun _ => .notHid

/-- Every request is served, and no report descriptor is that of a mouse. -/
def willingAnswers : HidAnswers where
  commandOutstanding := false
  setConfiguration := true
  reportFrame := fun _ => true
  reportDescriptor := fun _ length => some (List.replicate length 0)
  parseMouseReportDescriptor := fun _ => .validUnsupported
  setProtocol := fun _ => true
  ringFrame := fun index => some (0x200000 + index * 4096)
  inputContext := true
  configureCommand := true
  completionsLeft := true

theorem Retains.refl (device : AddressedDevice) : Retains device device :=
  ⟨rfl, rfl, rfl, id, rfl, rfl, rfl, rfl, rfl, rfl, rfl⟩

theorem mixed_reclassification_keyboardAndStick :
    (xhciConfigureHidDevicesMixed everythingMapped (fun _ => willingAnswers) true
      keyboardAndStick).2.length = 2 ∧
    (∀ place later,
      (xhciConfigureHidDevicesMixed everythingMapped (fun _ => willingAnswers) true
        keyboardAndStick).2[place]? = some later →
      Agrees everythingMapped (fun _ => willingAnswers) keyboardAndStick place later) ∧
    ∀ state, (rearmAddressed everythingMapped state
        (xhciConfigureHidDevicesMixed everythingMapped (fun _ => willingAnswers) true
          keyboardAndStick).2).1 = false →
      ∃ later ∈ (xhciConfigureHidDevicesMixed everythingMapped (fun _ => willingAnswers) true
          keyboardAndStick).2, ∃ endpoint ∈ later.service.endpoints,
        ¬Provided everythingMapped state later.service endpoint := by
  have configured : xhciConfigureHidDevicesMixed everythingMapped (fun _ => willingAnswers) true
      keyboardAndStick = (true, (xhciConfigureHidDevicesMixed everythingMapped
        (fun _ => willingAnswers) true keyboardAndStick).2) := by
    refine Prod.ext ?_ rfl
    decide +kernel
  refine mixed_reclassification ?_ configured ?_
  · intro device isDevice
    rcases List.mem_cons.mp isDevice with rfl | isSecond
    · rfl
    · rw [List.mem_singleton.mp isSecond]
      rfl
  simp [Retains.refl]

end BoringOS.UsbHid
