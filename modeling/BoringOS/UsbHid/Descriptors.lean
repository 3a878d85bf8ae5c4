import BoringOS.Library.RecordWalk
import BoringOS.UsbHid.Transfers

namespace BoringOS.UsbHid

open Library

/-!
# Configuration descriptors

A transcription of the descriptor functions of `kernel/core/xhci.c` and of the
classification of `kernel/core/xhci_mixed.c`.  A configuration is a sequence of
descriptors, each of which begins with its length and its type.  An interface descriptor
governs the HID and endpoint descriptors behind it, up to the next interface.
-/

def xhciDescriptorBufferBytes : Nat := 4096
def xhciUsbDescriptorConfiguration : UInt8 := 2
def xhciUsbDescriptorInterface : UInt8 := 4
def xhciUsbDescriptorEndpoint : UInt8 := 5
def xhciUsbDescriptorHid : UInt8 := 0x21
def xhciUsbDescriptorReport : Nat := 0x22
def xhciUsbClassHid : Nat := 3
def xhciUsbEndpointTransferInterrupt : Nat := 3
def xhciUsbHidSubclassBoot : Nat := 1
def xhciUsbHidProtocolKeyboard : Nat := 1
def xhciUsbHidProtocolMouse : Nat := 2
def xhciQemuHidVendorId : Nat := 0x0627
def xhciQemuHidProductId : Nat := 0x0001
def boringUsbSpeedHigh : Nat := 3

variable (bytes : List UInt8)

def byteAt (offset : Nat) : Nat := (bytes.getD offset 0).toNat

def little16 (offset : Nat) : Nat := byteAt bytes offset ||| byteAt bytes (offset + 1) <<< 8

/-- `xhci_validate_configuration_descriptor`, which runs when a device is discovered: the
length that is retained with the descriptors -/
def xhciValidateConfigurationDescriptor (received : Nat) : Option Nat :=
  if received < 9 ∨ xhciDescriptorBufferBytes < received ∨ byteAt bytes 0 < 9 ∨
      bytes.getD 1 0 ≠ xhciUsbDescriptorConfiguration then none
  else
    let total := little16 bytes 2
    if total < 9 ∨ xhciDescriptorBufferBytes < total ∨ received < total then none
    else
      match recordWalk bytes total () (fun _ _ _ state => .ok state) total 0 () with
      | .error () => none
      | .ok (offset, ()) => if offset ≠ total then none else some total

/-- `enum xhci_hid_rejection_reason` -/
inductive XhciHidRejectionReason where
  | none
  | configurationHeader
  | descriptorBounds
  | interfaceDescriptor
  | interfaceEndpointCount
  | hidDescriptor
  | endpointDescriptor
  | endpointEncoding
  | duplicateEndpoint
  | endpointCapacity
  | packetSize
  | interval
  | hidDescriptorMissing
  | reportDescriptorTooLarge
  | reportControlTransfer
  | reportDescriptorMalformed
  | reportBitOverflow
  | reportLayoutUnsupported
  | reportPacketMismatch
  | runtimeConfiguration
deriving DecidableEq, Repr

def noMouseLayout : UsbHidMouseLayout where
  reportBits := 0
  buttonsBitOffset := 0
  xBitOffset := 0
  yBitOffset := 0
  wheelBitOffset := 0
  reportId := 0
  buttonCount := 0
  xBits := 0
  yBits := 0
  wheelBits := 0
  hasReportId := false
  hasWheel := false

/-- `struct xhci_hid_endpoint_descriptor` -/
structure XhciHidEndpointDescriptor where
  mouseLayout : UsbHidMouseLayout
  hidVersion : Nat
  reportDescriptorLength : Nat
  maxPacket : Nat
  interfaceNumber : Nat
  alternateSetting : Nat
  interfaceSubclass : Nat
  protocol : Nat
  reportFormat : XhciHidReportFormat
  endpointAddress : Nat
  endpointId : Nat
  interval : Nat
  xhciInterval : Nat
  hidCountryCode : Nat
  hidDescriptorCount : Nat
  reportDescriptorType : Nat
  hidDescriptorPresent : Bool
deriving DecidableEq, Repr

/-- `struct xhci_hid_configuration` -/
structure XhciHidConfiguration where
  endpoints : List XhciHidEndpointDescriptor
  configurationValue : Nat
  hidInterfaceCount : Nat
deriving DecidableEq, Repr

/-- `hid_interrupt_packet_size` -/
def hidInterruptPacketSize (speed raw : Nat) : Option Nat :=
  if raw &&& 0xf800 ≠ 0 then none
  else
    let packet := raw &&& 0x07ff
    if packet = 0 then none
    else if speed = 1 then if 64 < packet then none else some packet
    else if speed = 2 then if 8 < packet then none else some packet
    else if speed = 3 then if 1024 < packet then none else some packet
    else none

/-- `hid_interrupt_interval` -/
def hidInterruptInterval (speed descriptorInterval : Nat) : Option Nat :=
  if descriptorInterval = 0 then none
  else if speed = 1 ∨ speed = 2 then
    let encoded := Nat.log2 (descriptorInterval * 8)
    if encoded < 3 ∨ 10 < encoded then none else some encoded
  else if speed = 3 then
    if 16 < descriptorInterval then none else some (descriptorInterval - 1)
  else none

/-- `xhci_usb_endpoint_id` -/
def xhciUsbEndpointId (endpointAddress : Nat) : Option Nat :=
  let number := endpointAddress &&& 0x0f
  if number = 0 ∨ endpointAddress &&& 0x70 ≠ 0 then none
  else
    let id := number * 2 + if endpointAddress &&& 0x80 ≠ 0 then 1 else 0
    if id < 2 ∨ 31 < id then none else some id

/-- The interface that the parser is in -/
structure HidInterface where
  hid : Bool
  hidDescriptor : Bool
  number : Nat
  alternate : Nat
  subclass : Nat
  protocol : Nat
  declaredEndpoints : Nat
  seenEndpoints : Nat
  hidVersion : Nat
  reportLength : Nat
  country : Nat
  descriptorCount : Nat
  reportType : Nat
deriving DecidableEq, Repr

/-- The local variables of the parser -/
structure HidParse where
  parsed : XhciHidConfiguration
  current : HidInterface
  endpointIds : Nat
deriving DecidableEq, Repr

def HidParse.start (configurationValue : Nat) : HidParse where
  parsed := ⟨[], configurationValue, 0⟩
  current := ⟨false, false, 0, 0, 0, 0, 0, 0, 0, 0, 0, 0, 0⟩
  endpointIds := 0

/-- The branch of the parser for an interface descriptor -/
def parseInterface (offset length : Nat) (state : HidParse) :
    Except XhciHidRejectionReason HidParse :=
  if state.current.hid = true ∧ state.current.seenEndpoints ≠ state.current.declaredEndpoints then
    .error .interfaceEndpointCount
  else if length < 9 then .error .interfaceDescriptor
  else
    let hid := byteAt bytes (offset + 3) == 0 && byteAt bytes (offset + 5) == xhciUsbClassHid
    let current : HidInterface :=
      { hid := hid
        hidDescriptor := false
        number := byteAt bytes (offset + 2)
        alternate := byteAt bytes (offset + 3)
        subclass := byteAt bytes (offset + 6)
        protocol := byteAt bytes (offset + 7)
        declaredEndpoints := byteAt bytes (offset + 4)
        seenEndpoints := 0
        hidVersion := 0
        reportLength := 0
        country := 0
        descriptorCount := 0
        reportType := 0 }
    if hid = true then
      if state.parsed.hidInterfaceCount = 255 then .error .interfaceDescriptor
      else
        .ok
          { state with
            current := current
            parsed.hidInterfaceCount := state.parsed.hidInterfaceCount + 1 }
    else .ok { state with current := current }

/-- The loop over the subordinate descriptors of a HID descriptor: the type and the length
of the only report descriptor among them -/
def subordinates (bytes : List UInt8) : (count entry reportType reportLength : Nat) →
    Except XhciHidRejectionReason (Nat × Nat)
  | 0, _, reportType, reportLength => .ok (reportType, reportLength)
  | count + 1, entry, reportType, reportLength =>
    if byteAt bytes entry = xhciUsbDescriptorReport then
      if reportType = 0 then
        subordinates bytes count (entry + 3) (byteAt bytes entry) (little16 bytes (entry + 1))
      else .error .hidDescriptor
    else subordinates bytes count (entry + 3) reportType reportLength

/-- The branch of the parser for a HID descriptor -/
def parseHidDescriptor (offset length : Nat) (state : HidParse) :
    Except XhciHidRejectionReason HidParse :=
  let count := byteAt bytes (offset + 5)
  if state.current.hidDescriptor = true ∨ length < 6 then .error .hidDescriptor
  else if length < 6 + count * 3 ∨ count = 0 then .error .hidDescriptor
  else
    match subordinates bytes count (offset + 6) state.current.reportType state.current.reportLength with
    | .error reason => .error reason
    | .ok (reportType, reportLength) =>
      .ok
        { state with
          current.hidDescriptor := true
          current.hidVersion := little16 bytes (offset + 2)
          current.country := byteAt bytes (offset + 4)
          current.descriptorCount := count
          current.reportType := reportType
          current.reportLength := reportLength }

/-- The format that the parser gives the endpoints of an interface -/
def bootFormat (subclass protocol : Nat) : XhciHidReportFormat :=
  if subclass = xhciUsbHidSubclassBoot ∧ protocol = xhciUsbHidProtocolKeyboard then .bootKeyboard
  else if subclass = xhciUsbHidSubclassBoot ∧ protocol = xhciUsbHidProtocolMouse then .bootMouse
  else .unsupported

/-- The packet size of an endpoint, and whether it asks for several packets in a
microframe -/
def rawPacket (speed raw : Nat) : Except XhciHidRejectionReason (Nat × Bool) :=
  if speed = boringUsbSpeedHigh ∧ raw &&& 0x1800 ≠ 0 then
    if raw &&& 0x1800 = 0x1800 then .error .packetSize else .ok (raw &&& 0x07ff, true)
  else .ok (raw, false)

/-- An interrupt endpoint of a HID interface -/
def parseInterruptEndpoint (speed offset endpointId : Nat)
    (state : HidParse) : Except XhciHidRejectionReason HidParse :=
  let current := state.current
  let raw := little16 bytes (offset + 4)
  match rawPacket speed raw with
  | .error reason => .error reason
  | .ok (packet, highBandwidth) =>
    match hidInterruptPacketSize speed packet with
    | none => .error .packetSize
    | some maxPacket =>
      if speed ≠ boringUsbSpeedHigh ∧ raw &&& 0xf800 ≠ 0 then .error .packetSize
      else
        match hidInterruptInterval speed (byteAt bytes (offset + 6)) with
        | none => .error .interval
        | some xhciInterval =>
          if byteAt bytes (offset + 2) &&& 0x80 = 0 ∨ highBandwidth = true then .ok state
          else if state.parsed.endpoints.length = xhciMaxHidEndpoints then
            .error .endpointCapacity
          else
            let endpoint : XhciHidEndpointDescriptor :=
              { mouseLayout := noMouseLayout
                hidVersion := current.hidVersion
                reportDescriptorLength := current.reportLength
                maxPacket := maxPacket
                interfaceNumber := current.number
                alternateSetting := current.alternate
                interfaceSubclass := current.subclass
                protocol := current.protocol
                reportFormat := bootFormat current.subclass current.protocol
                endpointAddress := byteAt bytes (offset + 2)
                endpointId := endpointId
                interval := byteAt bytes (offset + 6)
                xhciInterval := xhciInterval
                hidCountryCode := current.country
                hidDescriptorCount := current.descriptorCount
                reportDescriptorType := current.reportType
                hidDescriptorPresent := current.hidDescriptor }
            .ok
              { state with
                parsed.endpoints := state.parsed.endpoints ++ [endpoint] }

/-- The branch of the parser for an endpoint descriptor -/
def parseEndpoint (speed offset length : Nat) (state : HidParse) :
    Except XhciHidRejectionReason HidParse :=
  if length < 7 then .error .endpointDescriptor
  else if state.current.seenEndpoints = 255 then .error .interfaceEndpointCount
  else
    match xhciUsbEndpointId (byteAt bytes (offset + 2)) with
    | none => .error .endpointEncoding
    | some endpointId =>
      if state.endpointIds.testBit endpointId then .error .duplicateEndpoint
      else
        let seen :=
          { state with
            current.seenEndpoints := state.current.seenEndpoints + 1
            endpointIds := state.endpointIds ||| 1 <<< endpointId }
        if byteAt bytes (offset + 3) &&& 0x03 ≠ xhciUsbEndpointTransferInterrupt then .ok seen
        else parseInterruptEndpoint bytes speed offset endpointId seen

/-- One round of the parser -/
def parseDescriptor (speed : Nat) (offset length : Nat) (type : UInt8)
    (state : HidParse) : Except XhciHidRejectionReason HidParse :=
  if type = xhciUsbDescriptorInterface then parseInterface bytes offset length state
  else if type = xhciUsbDescriptorHid ∧ state.current.hid = true then
    parseHidDescriptor bytes offset length state
  else if type = xhciUsbDescriptorEndpoint ∧ state.current.hid = true then
    parseEndpoint bytes speed offset length state
  else .ok state

/-- `xhci_parse_hid_configuration_ex` -/
def xhciParseHidConfigurationEx (received speed : Nat) :
    Except XhciHidRejectionReason XhciHidConfiguration :=
  if received < 9 ∨ xhciDescriptorBufferBytes < received ∨ byteAt bytes 0 < 9 ∨
      bytes.getD 1 0 ≠ xhciUsbDescriptorConfiguration then
    .error .configurationHeader
  else
    let total := little16 bytes 2
    if total < 9 ∨ received < total ∨ xhciDescriptorBufferBytes < total ∨ byteAt bytes 5 = 0 then
      .error .configurationHeader
    else
      match recordWalk bytes total .descriptorBounds (parseDescriptor bytes speed) total 0
          (HidParse.start (byteAt bytes 5)) with
      | .error reason => .error reason
      | .ok (offset, state) =>
        if state.current.hid = true ∧ state.current.seenEndpoints ≠ state.current.declaredEndpoints then
          .error .interfaceEndpointCount
        else if offset ≠ total then .error .descriptorBounds
        else .ok state.parsed

/-- `xhci_parse_hid_configuration` -/
def xhciParseHidConfiguration (received speed : Nat) : Option XhciHidConfiguration :=
  match xhciParseHidConfigurationEx bytes received speed with
  | .error _ => none
  | .ok configuration => if configuration.hidInterfaceCount ≠ 0 then some configuration else none

/-- The format that an endpoint is served with: the boot protocols, and the tablet of the
acceptance runs -/
def supportedFormat (vendorId productId : Nat) (endpoint : XhciHidEndpointDescriptor) :
    XhciHidReportFormat :=
  if endpoint.interfaceSubclass = xhciUsbHidSubclassBoot ∧
      endpoint.protocol = xhciUsbHidProtocolKeyboard then .bootKeyboard
  else if endpoint.interfaceSubclass = xhciUsbHidSubclassBoot ∧
      endpoint.protocol = xhciUsbHidProtocolMouse then .bootMouse
  else if vendorId = xhciQemuHidVendorId ∧ productId = xhciQemuHidProductId ∧
      endpoint.interfaceNumber = 0 ∧ endpoint.alternateSetting = 0 ∧
      endpoint.interfaceSubclass = 0 ∧ endpoint.protocol = 0 ∧
      endpoint.endpointAddress = 0x81 ∧ endpoint.endpointId = 3 ∧ endpoint.maxPacket = 8 then
    .qemuAbsoluteTablet
  else .unsupported

/-- The round of `xhci_select_supported_hid_configuration` for one endpoint -/
def selectEndpoint (vendorId productId : Nat) (endpoint : XhciHidEndpointDescriptor) :
    Option XhciHidEndpointDescriptor :=
  match supportedFormat vendorId productId endpoint with
  | .unsupported => none
  | format => some { endpoint with reportFormat := format }

/-- `xhci_select_supported_hid_configuration` -/
def xhciSelectSupportedHidConfiguration (parsed : XhciHidConfiguration)
    (vendorId productId : Nat) : Option XhciHidConfiguration :=
  if parsed.configurationValue = 0 ∨ xhciMaxHidEndpoints < parsed.endpoints.length then none
  else
    some
      { endpoints := parsed.endpoints.filterMap (selectEndpoint vendorId productId)
        configurationValue := parsed.configurationValue
        hidInterfaceCount := parsed.hidInterfaceCount }

/-- `enum xhci_hid_classification` -/
inductive XhciHidClassification where
  | supported
  | validUnsupported
  | notHid
  | invalid
deriving DecidableEq, Repr

/-- `xhci_classify_hid_configuration_ex` -/
def xhciClassifyHidConfigurationEx (received speed vendorId productId : Nat) :
    XhciHidClassification × XhciHidRejectionReason :=
  match xhciParseHidConfigurationEx bytes received speed with
  | .error reason => (.invalid, reason)
  | .ok configuration =>
    if configuration.hidInterfaceCount = 0 then (.notHid, .none)
    else
      match xhciSelectSupportedHidConfiguration configuration vendorId productId with
      | none => (.invalid, .runtimeConfiguration)
      | some supported =>
        if supported.endpoints.length = 0 then (.validUnsupported, .none)
        else (.supported, .none)

end BoringOS.UsbHid
