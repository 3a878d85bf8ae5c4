import BoringOS.UsbHid.Descriptors

namespace BoringOS.UsbHid

open Library Xhci

/-!
# Configuring the HID devices of a mixed topology

A transcription of `configure_hid_device` and of the functions below it in
`kernel/arch/x86_64/xhci.c`, of `xhci_configure_hid_devices_mixed`, and of the
classification in `kernel/core/usb_hid.c` that later decides which endpoints are armed.
The breadcrumbs of the physical test builds are left out.
-/

def usbHidReportDescriptorMaxBytes : Nat := 1024
def xhciMaxAddressedDevices : Nat := 8

/-- `enum usb_hid_report_parse_result`, with the layout that was found -/
inductive UsbHidReportParse where
  | supported (layout : UsbHidMouseLayout)
  | validUnsupported
  | malformed
  | bitOverflow
deriving DecidableEq, Repr

/-- What the controller, the device and the frame allocator answer while a device is
configured, and what is made of its report descriptors.  A report descriptor and a protocol
are asked for once for an interface. -/
structure HidAnswers where
  commandOutstanding : Bool
  setConfiguration : Bool
  reportFrame : Nat → Bool
  reportDescriptor : (interface length : Nat) → Option (List UInt8)
  parseMouseReportDescriptor : List UInt8 → UsbHidReportParse
  setProtocol : Nat → Bool
  ringFrame : Nat → Option Nat
  inputContext : Bool
  configureCommand : Bool
  completionsLeft : Bool

/-- `struct xhci_addressed_device`, with the page that its descriptors are retained in.  The
configuration and the transfer rings of its endpoints are those that the report service
uses. -/
structure AddressedDevice where
  service : HidDevice
  speed : Nat
  descriptorBufferPhysical : Nat
  page : List UInt8
  configurationLength : Nat
  vendorId : Nat
  productId : Nat
  controlOutstanding : Bool
  hidRejectionReason : XhciHidRejectionReason
  discovered : service.descriptorsReady = true →
    ∃ received, xhciValidateConfigurationDescriptor page received = some configurationLength

/-- `report_parse_rejection` -/
def reportParseRejection : UsbHidReportParse → XhciHidRejectionReason
  | .malformed => .reportDescriptorMalformed
  | .bitOverflow => .reportBitOverflow
  | .validUnsupported => .reportLayoutUnsupported
  | .supported _ => .none

variable (answers : HidAnswers)

/-- `select_generic_mouse_reports` for the first endpoint of an interface -/
def genericMouse (candidate : XhciHidEndpointDescriptor) :
    Except XhciHidRejectionReason XhciHidEndpointDescriptor :=
  if candidate.hidDescriptorPresent = false ∨ candidate.reportDescriptorType ≠ xhciUsbDescriptorReport ∨
      candidate.reportDescriptorLength = 0 then .error .hidDescriptorMissing
  else if usbHidReportDescriptorMaxBytes < candidate.reportDescriptorLength then
    .error .reportDescriptorTooLarge
  else if answers.reportFrame candidate.interfaceNumber = false then
    .error .runtimeConfiguration
  else
    match answers.reportDescriptor candidate.interfaceNumber candidate.reportDescriptorLength with
    | none => .error .reportControlTransfer
    | some [] => .error .reportControlTransfer
    | some report =>
      match answers.parseMouseReportDescriptor report with
      | .supported layout =>
        if candidate.maxPacket < (layout.reportBits + 7) / 8 + if layout.hasReportId then 1 else 0 then
          .error .reportPacketMismatch
        else
          .ok
            { candidate with
              reportFormat := .genericMouse
              mouseLayout := layout }
      | result => .error (reportParseRejection result)

/-- The loop of `select_generic_mouse_reports`, with the interfaces that it has been to and
the first reason for a rejection -/
def selectGenericMouseReports (answers : HidAnswers) :
    List XhciHidEndpointDescriptor → List Nat → XhciHidConfiguration → XhciHidRejectionReason →
      Option (XhciHidConfiguration × XhciHidRejectionReason)
  | [], _, selected, firstReason => some (selected, firstReason)
  | candidate :: rest, processed, selected, firstReason =>
    if candidate.reportFormat ≠ .unsupported ∨ candidate.interfaceNumber ∈ processed then
      selectGenericMouseReports answers rest processed selected firstReason
    else if processed.length = xhciMaxHidEndpoints then none
    else
      match genericMouse answers candidate with
      | .error reason =>
        selectGenericMouseReports answers rest (processed ++ [candidate.interfaceNumber])
          selected (if firstReason = .none then reason else firstReason)
      | .ok endpoint =>
        if selected.endpoints.length = xhciMaxHidEndpoints then none
        else
          selectGenericMouseReports answers rest (processed ++ [candidate.interfaceNumber])
            { selected with endpoints := selected.endpoints ++ [endpoint] } firstReason

variable (endpoint : XhciHidEndpointDescriptor)

def XhciHidEndpointDescriptor.boot : Bool :=
  endpoint.reportFormat == .bootKeyboard || endpoint.reportFormat == .bootMouse

/-- `configure_hid_boot_protocols`, behind the endpoints that it has been to -/
def configureHidBootProtocols (answers : HidAnswers) :
    (previous endpoints : List XhciHidEndpointDescriptor) → Bool
  | _, [] => true
  | previous, endpoint :: rest =>
    if endpoint.boot = true ∧
        previous.any (fun candidate => candidate.boot &&
          candidate.interfaceNumber == endpoint.interfaceNumber) = false ∧
        answers.setProtocol endpoint.interfaceNumber = false then false
    else configureHidBootProtocols answers (previous ++ [endpoint]) rest

/-- What the report service uses of an endpoint descriptor -/
def XhciHidEndpointDescriptor.service : HidEndpointDescriptor where
  endpointId := endpoint.endpointId
  maxPacket := endpoint.maxPacket
  reportFormat := endpoint.reportFormat
  mouseLayout := endpoint.mouseLayout

def zeroRuntime : HidEndpointRuntime where
  reportBufferPhysical := 0
  expectedTrbPhysical := 0
  keyboardState := ⟨0, List.replicate usbHidBootKeys 0, length_noKeys⟩
  submittedTransfers := 0
  completedTransfers := 0
  shortPackets := 0
  reportBytes := 0
  decodedReports := 0
  keyPresses := 0
  keyReleases := 0
  pointerReports := 0
  producerIndex := 0
  lastReportLength := 0
  lastPointerX := 0
  lastPointerY := 0
  lastKeyUsage := 0
  lastPointerButtons := 0
  producerCycle := false
  transferOutstanding := false
  lastKeyDown := false
  pointerValid := false

/-- A new transfer ring: nothing but the link behind its end -/
def newRing (physical : Nat) : Nat → XhciTrb := fun index =>
  if index = xhciInterruptRingUsable then
    ⟨physical, 0, xhciTrbTypeLink <<< xhciTrbTypeShift ||| xhciTrbToggleCycle ||| xhciTrbCycle⟩
  else ⟨0, 0, 0⟩

/-- An endpoint that has just been configured -/
def newEndpoint (ringPhysical : Nat) : HidEndpoint where
  descriptor := endpoint.service
  runtime := zeroRuntime
  ringPhysical := ringPhysical
  ring := newRing ringPhysical
  page := zeroPage
  wholePage := length_zeroPage
  doorbells := []

variable (environment : HidEnvironment) (device : AddressedDevice)

/-- `descriptor_buffer_bytes` -/
def descriptorBufferBytes : Option (List UInt8) :=
  if device.descriptorBufferPhysical = 0 ∨
      environment.mapsFrame device.descriptorBufferPhysical = false then none
  else some device.page

/-- The loop that gets a frame for each transfer ring -/
def ringFrames (answers : HidAnswers) : (count index : Nat) → Option (List Nat)
  | 0, _ => some []
  | count + 1, index =>
    match answers.ringFrame index, ringFrames answers count (index + 1) with
    | some ring, some rings => some (ring :: rings)
    | _, _ => none

/-- The end of `configure_hid_device`, for the endpoints that were selected: the device with
its transfer rings -/
def configureEndpoints (device : AddressedDevice)
    (configuration : XhciHidConfiguration) : Bool × AddressedDevice :=
  let refused := { device with hidRejectionReason := .runtimeConfiguration }
  match ringFrames answers configuration.endpoints.length 0 with
  | none => (false, refused)
  | some rings =>
    if answers.inputContext = false ∨ answers.configureCommand = false ∨
        answers.completionsLeft = false then (false, refused)
    else
      (true,
        { device with
          service :=
            { device.service with
              deviceConfigured := true
              hidEndpointReady := true
              endpoints := List.zipWith newEndpoint configuration.endpoints rings }
          hidRejectionReason := .none })

/-- `configure_hid_device`, behind its check of the descriptors -/
def configureParsed (device : AddressedDevice)
    (parsed configuration : XhciHidConfiguration) : Bool × AddressedDevice :=
  let refused := fun reason => { device with hidRejectionReason := reason }
  if parsed.endpoints.length = 0 then (true, refused .reportLayoutUnsupported)
  else if answers.setConfiguration = false then (false, refused .runtimeConfiguration)
  else
    match selectGenericMouseReports answers parsed.endpoints [] configuration .none with
    | none => (false, refused .endpointCapacity)
    | some (configuration, rejection) =>
      if configuration.endpoints.length = 0 then
        (true, refused (if rejection ≠ .none then rejection else .reportLayoutUnsupported))
      else if configureHidBootProtocols answers [] configuration.endpoints = false then
        (false, refused .runtimeConfiguration)
      else configureEndpoints answers device configuration

/-- `configure_hid_device` -/
def configureHidDevice (answers : HidAnswers) (device : AddressedDevice) : Bool × AddressedDevice :=
  let refused := fun reason => { device with hidRejectionReason := reason }
  if device.service.addressed = false ∨ device.service.descriptorsReady = false ∨
      device.service.deviceConfigured = true ∨ device.service.hidEndpointReady = true ∨
      device.controlOutstanding = true ∨ answers.commandOutstanding = true then
    (false, refused .runtimeConfiguration)
  else
    match descriptorBufferBytes environment device with
    | none => (false, refused .runtimeConfiguration)
    | some bytes =>
      match xhciParseHidConfigurationEx bytes device.configurationLength device.speed with
      | .error reason => (false, refused reason)
      | .ok parsed =>
        match xhciSelectSupportedHidConfiguration parsed device.vendorId device.productId with
        | none => (false, refused .runtimeConfiguration)
        | some configuration => configureParsed answers device parsed configuration

/-- The loop of `xhci_configure_hid_devices` from a device on, with the answers for each
device -/
def configureFrom (environment : HidEnvironment) (answers : Nat → HidAnswers) (index : Nat) :
    List AddressedDevice → Bool × List AddressedDevice
  | [] => (true, [])
  | device :: rest =>
    match configureHidDevice environment (answers index) device with
    | (false, device) => (false, device :: rest)
    | (true, device) =>
      let configured := configureFrom environment answers (index + 1) rest
      (configured.1, device :: configured.2)

/-- `xhci_configure_hid_devices` -/
def xhciConfigureHidDevices (answers : Nat → HidAnswers)
    (devices : List AddressedDevice) : Bool × List AddressedDevice :=
  if environment.mapsRegisters = false ∨ devices.length = 0 then (false, devices)
  else configureFrom environment answers 0 devices

/-- The classification of a device in `xhci_configure_hid_devices_mixed` -/
def mixedClassification : XhciHidClassification :=
  if device.service.addressed = false ∨ device.service.descriptorsReady = false ∨
      device.descriptorBufferPhysical = 0 ∨ device.configurationLength = 0 ∨
      environment.mapsFrame device.descriptorBufferPhysical = false then .invalid
  else
    (xhciClassifyHidConfigurationEx device.page device.configurationLength device.speed
      device.vendorId device.productId).1

/-- The loop that puts the HID devices back to their places -/
def putBack {Value : Type} (saved : List Value) : List Nat → List Value → List Value
  | place :: places, value :: values => putBack (saved.set place value) places values
  | _, _ => saved

/-- The places of the HID devices -/
def hidPlaces (devices : List AddressedDevice) : List Nat :=
  (List.range devices.length).filter fun place =>
    match devices[place]? with
    | none => false
    | some device =>
      mixedClassification environment device == .supported ||
        mixedClassification environment device == .validUnsupported

/-- `xhci_configure_hid_devices_mixed` -/
def xhciConfigureHidDevicesMixed (answers : Nat → HidAnswers)
    (running : Bool) (devices : List AddressedDevice) : Bool × List AddressedDevice :=
  if running = false ∨ devices.length = 0 ∨ xhciMaxAddressedDevices < devices.length then
    (false, devices)
  else if devices.any (mixedClassification environment · == .invalid) then (false, devices)
  else
    let places := hidPlaces environment devices
    if places.length = 0 then (true, devices)
    else
      let configured :=
        xhciConfigureHidDevices environment answers (places.filterMap (devices[·]?))
      (configured.1, putBack devices places configured.2)

/-- A round of the loop of `m60_classify_hid_device`, with the flag that the device claims a
HID interface -/
def m60Visit (bytes : List UInt8) (offset length : Nat) (type : UInt8) (claimsHid : Bool) :
    Except Unit Bool :=
  if type = xhciUsbDescriptorInterface then
    if length < 9 then .error ()
    else
      .ok (claimsHid || (byteAt bytes (offset + 3) == 0 && byteAt bytes (offset + 5) == xhciUsbClassHid))
  else .ok claimsHid

/-- `m60_classify_hid_device` for a device that is not configured -/
def m60ClassifyDescriptors : HidClassification :=
  let bytes := device.page
  if device.descriptorBufferPhysical = 0 ∨ device.configurationLength < 9 ∨
      xhciDescriptorBufferBytes < device.configurationLength ∨
      environment.mapsFrame device.descriptorBufferPhysical = false then .invalid
  else if byteAt bytes 0 < 9 ∨ bytes.getD 1 0 ≠ xhciUsbDescriptorConfiguration then .invalid
  else
    let total := little16 bytes 2
    if total ≠ device.configurationLength ∨ total < 9 ∨ xhciDescriptorBufferBytes < total then
      .invalid
    else
      match recordWalk bytes total () (m60Visit bytes) total 0 false with
      | .error () => .invalid
      | .ok (offset, claimsHid) =>
        if offset ≠ total then .invalid
        else if claimsHid = false then .notHid
        else
          match xhciParseHidConfiguration bytes total device.speed with
          | none => .invalid
          | some parsed =>
            match xhciSelectSupportedHidConfiguration parsed device.vendorId device.productId with
            | none => .invalid
            | some supported =>
              if supported.endpoints.length = 0 then .notHid else .supported

/-- What the report service asks for when it is about this device -/
def HidEnvironment.about : HidEnvironment :=
  { environment with
    classifyDescriptors := fun _ => m60ClassifyDescriptors environment device }

/-- `m60_classify_hid_device` -/
def m60Classify : HidClassification :=
  m60ClassifyHidDevice (environment.about device) device.service

end BoringOS.UsbHid
