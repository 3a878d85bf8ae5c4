import BoringOS.Library.LittleEndian
import BoringOS.Library.Run

namespace BoringOS.Xhci

open Library

/-!
# Control requests on the default endpoint

A transcription of the request builders of `kernel/core/xhci.c` and of the
submitting functions of `kernel/arch/x86_64/xhci.c`, as far as they touch the
transfer ring of the default endpoint.  The ring has a link at its end, and
the producer is an index below the link together with a cycle bit.

A submitting function leaves the producer alone once it has rung the doorbell,
so the answers of the controller do not matter here.
-/

def xhciTrbSize : Nat := 16
def xhciEp0RingUsable : Nat := 252
def xhciDescriptorBufferBytes : Nat := 4096
def usbHidReportDescriptorMaxBytes : Nat := 1024
def boringUsbHubDescriptorMaxBytes : Nat := 11
def boringUsbHubPortMax : Nat := 15
def boringUsbHubPortFeatureReset : UInt16 := 4
def boringUsbHubPortFeaturePower : UInt16 := 8
def boringUsbHubPortFeatureCReset : UInt16 := 20
def xhciUsbDescriptorReport : UInt8 := 0x22

def xhciTrbTypeSetupStage : Nat := 2
def xhciTrbTypeDataStage : Nat := 3
def xhciTrbTypeStatusStage : Nat := 4
def xhciTrbTypeLink : Nat := 6
def xhciTrbTypeShift : Nat := 10
def xhciTrbCycle : Nat := 1
def xhciTrbToggleCycle : Nat := 2
def xhciTrbIsp : Nat := 4
def xhciTrbIoc : Nat := 32
def xhciTrbIdt : Nat := 64
def xhciTrbDirectionIn : Nat := 0x10000
def xhciSetupTrtInData : Nat := 0x30000

/-- `struct xhci_trb` -/
structure XhciTrb where
  parameter : Nat
  status : Nat
  control : Nat
deriving DecidableEq, Repr

/-- `struct xhci_control_td` -/
structure XhciControlTd where
  setup : XhciTrb
  data : XhciTrb
  status : XhciTrb
  setupPhysical : Nat
  dataPhysical : Nat
  statusPhysical : Nat
  nextProducerIndex : Nat
  nextProducerCycle : Bool
deriving DecidableEq, Repr

/-- The page frames of a device that has an address: the transfer ring of its
default endpoint and the buffer for the answers -/
structure Ep0Frames where
  ringPhysical : Nat
  bufferPhysical : Nat
  ringPresent : ringPhysical ≠ 0
  ringAligned : ringPhysical % 64 = 0
  bufferPresent : bufferPhysical ≠ 0
  bufferAligned : bufferPhysical % xhciDescriptorBufferBytes = 0

def cycleBit (producerCycle : Bool) : Nat := if producerCycle then xhciTrbCycle else 0

/-- `build_control_in_td` -/
def buildControlInTd (ringPhysical producerIndex : Nat) (producerCycle : Bool)
    (bufferPhysical : Nat) (setup : List UInt8) (length : Nat) : Option XhciControlTd :=
  if ringPhysical = 0 ∨ ringPhysical &&& 0x3f ≠ 0 ∨ bufferPhysical = 0 ∨
      bufferPhysical &&& (xhciDescriptorBufferBytes - 1) ≠ 0 ∨ length = 0 ∨
      xhciDescriptorBufferBytes < length ∨ xhciEp0RingUsable - 3 < producerIndex ∨
      (setup.headD 0) &&& 0x80 = 0 then none
  else
    let setupPhysical := ringPhysical + producerIndex * xhciTrbSize
    some {
      setup := ⟨loadLe setup, 8, xhciTrbTypeSetupStage <<< xhciTrbTypeShift ||| xhciTrbIdt |||
        xhciSetupTrtInData ||| cycleBit producerCycle⟩
      data := ⟨bufferPhysical, length, xhciTrbTypeDataStage <<< xhciTrbTypeShift |||
        xhciTrbDirectionIn ||| xhciTrbIsp ||| cycleBit producerCycle⟩
      status := ⟨0, 0, xhciTrbTypeStatusStage <<< xhciTrbTypeShift ||| xhciTrbIoc ||| cycleBit producerCycle⟩
      setupPhysical := setupPhysical
      dataPhysical := setupPhysical + xhciTrbSize
      statusPhysical := setupPhysical + xhciTrbSize + xhciTrbSize
      nextProducerIndex :=
        if producerIndex = xhciEp0RingUsable - 3 then 0 else producerIndex + 3
      nextProducerCycle :=
        if producerIndex = xhciEp0RingUsable - 3 then !producerCycle else producerCycle }

/-- `build_no_data_control_td` -/
def buildNoDataControlTd (ringPhysical producerIndex : Nat) (producerCycle : Bool)
    (setup : List UInt8) : Option XhciControlTd :=
  if ringPhysical = 0 ∨ ringPhysical &&& 0x3f ≠ 0 ∨ xhciEp0RingUsable - 2 < producerIndex then
    none
  else
    let setupPhysical := ringPhysical + producerIndex * xhciTrbSize
    some {
      setup := ⟨loadLe setup, 8, xhciTrbTypeSetupStage <<< xhciTrbTypeShift ||| xhciTrbIdt |||
        cycleBit producerCycle⟩
      data := ⟨0, 0, 0⟩
      status := ⟨0, 0, xhciTrbTypeStatusStage <<< xhciTrbTypeShift ||| xhciTrbDirectionIn |||
        xhciTrbIoc ||| cycleBit producerCycle⟩
      setupPhysical := setupPhysical
      dataPhysical := 0
      statusPhysical := setupPhysical + xhciTrbSize
      nextProducerIndex :=
        if producerIndex = xhciEp0RingUsable - 2 then 0 else producerIndex + 2
      nextProducerCycle :=
        if producerIndex = xhciEp0RingUsable - 2 then !producerCycle else producerCycle }

/-- The requests that the drivers make, under the names of their builders -/
inductive ControlRequest where
  | getDescriptor (descriptorType descriptorIndex : UInt8) (length : UInt16)
  | hidGetReportDescriptor (interfaceNumber : UInt8) (length : UInt16)
  | hubGetDescriptor (length : UInt16)
  | hubGetPortStatus (port : UInt8)
  | setConfiguration (configurationValue : UInt8)
  | hidSetProtocol (interfaceNumber : UInt8)
  | hubSetPortFeature (port : UInt8) (feature : UInt16)
  | hubClearPortFeature (port : UInt8) (feature : UInt16)
deriving DecidableEq, Repr

namespace ControlRequest

/-- The eight bytes of the setup packet -/
def setup : ControlRequest → List UInt8
  | getDescriptor descriptorType descriptorIndex length =>
    [0x80, 0x06, descriptorIndex, descriptorType, 0, 0, length.toUInt8, (length >>> 8).toUInt8]
  | hidGetReportDescriptor interfaceNumber length =>
    [0x81, 0x06, 0, xhciUsbDescriptorReport, interfaceNumber, 0, length.toUInt8, (length >>> 8).toUInt8]
  | hubGetDescriptor length =>
    [0xa0, 0x06, 0, 0x29, 0, 0, length.toUInt8, (length >>> 8).toUInt8]
  | hubGetPortStatus port => [0xa3, 0x00, 0, 0, port, 0, 4, 0]
  | setConfiguration configurationValue => [0, 9, configurationValue, 0, 0, 0, 0, 0]
  | hidSetProtocol interfaceNumber => [0x21, 0x0b, 0, 0, interfaceNumber, 0, 0, 0]
  | hubSetPortFeature port feature =>
    [0x23, 0x03, feature.toUInt8, (feature >>> 8).toUInt8, port, 0, 0, 0]
  | hubClearPortFeature port feature =>
    [0x23, 0x01, feature.toUInt8, (feature >>> 8).toUInt8, port, 0, 0, 0]

/-- The number of bytes that a request asks for, where it asks for any -/
def dataLength : ControlRequest → Option Nat
  | getDescriptor _ _ length => some length.toNat
  | hidGetReportDescriptor _ length => some length.toNat
  | hubGetDescriptor length => some length.toNat
  | hubGetPortStatus _ => some 4
  | _ => none

/-- What the builders check of their arguments before they look at the ring -/
def argumentsValid : ControlRequest → Bool
  | getDescriptor descriptorType _ _ => descriptorType != 0
  | hidGetReportDescriptor _ length =>
    length != 0 && decide (length.toNat ≤ usbHidReportDescriptorMaxBytes)
  | hubGetDescriptor length => decide (length.toNat ≤ boringUsbHubDescriptorMaxBytes)
  | hubGetPortStatus port => port != 0 && decide (port.toNat ≤ boringUsbHubPortMax)
  | setConfiguration configurationValue => configurationValue != 0
  | hidSetProtocol _ => true
  | hubSetPortFeature port feature =>
    port != 0 && decide (port.toNat ≤ boringUsbHubPortMax) &&
      (feature == boringUsbHubPortFeatureReset || feature == boringUsbHubPortFeaturePower)
  | hubClearPortFeature port feature =>
    port != 0 && decide (port.toNat ≤ boringUsbHubPortMax) && feature == boringUsbHubPortFeatureCReset

/-- The slots of the ring that a request takes -/
def slots (request : ControlRequest) : Nat := if request.dataLength.isSome then 3 else 2

/-- A request that the builders have nothing to object to -/
def WellFormed (request : ControlRequest) : Prop :=
  request.argumentsValid = true ∧ ∀ length, request.dataLength = some length →
      length ≠ 0 ∧ length ≤ xhciDescriptorBufferBytes

end ControlRequest

/-- The producer of a transfer ring, and the ring itself -/
structure Ep0 where
  producerIndex : Nat
  producerCycle : Bool
  ring : Nat → XhciTrb

variable (frames : Ep0Frames)

/-- The public builders: their arguments are checked, and one of the two
functions above does the rest. -/
def xhciBuildControlTd (ep0 : Ep0) (request : ControlRequest) : Option XhciControlTd :=
  if request.argumentsValid = false then none
  else
    match request.dataLength with
    | some length =>
      buildControlInTd frames.ringPhysical ep0.producerIndex ep0.producerCycle
        frames.bufferPhysical request.setup length
    | none =>
      buildNoDataControlTd frames.ringPhysical ep0.producerIndex ep0.producerCycle request.setup

def storeTrb (ring : Nat → XhciTrb) (index : Nat) (trb : XhciTrb) : Nat → XhciTrb :=
  fun other => if other = index then trb else ring other

/-- The entries of a request, in the order of the ring -/
def ControlRequest.trbs (request : ControlRequest) (td : XhciControlTd) : List XhciTrb :=
  if request.dataLength.isSome then [td.setup, td.data, td.status] else [td.setup, td.status]

def storeTrbs (ring : Nat → XhciTrb) (start : Nat) : List XhciTrb → Nat → XhciTrb
  | [] => ring
  | trb :: rest => storeTrbs (storeTrb ring start trb) (start + 1) rest

/-- The link at the end of the ring -/
def linkTrb (producerCycle : Bool) : XhciTrb :=
  ⟨frames.ringPhysical, 0, xhciTrbTypeLink <<< xhciTrbTypeShift ||| xhciTrbToggleCycle |||
    cycleBit producerCycle⟩

/-- `ep0_submit_descriptor`, `ep0_submit_hub_in` and their like, up to the
doorbell -/
def ep0Submit (ep0 : Ep0) (request : ControlRequest) : Bool × Ep0 :=
  match xhciBuildControlTd frames ep0 request with
  | none => (false, ep0)
  | some td =>
    let ring := storeTrbs ep0.ring ep0.producerIndex (request.trbs td)
    (true,
      { producerIndex := td.nextProducerIndex
        producerCycle := td.nextProducerCycle
        ring :=
          if ep0.producerIndex = xhciEp0RingUsable - request.slots then
            storeTrb ring xhciEp0RingUsable (linkTrb frames ep0.producerCycle)
          else ring })

/-- The producer after some requests -/
def afterRequests : Ep0 → List ControlRequest → Ep0 :=
  run fun ep0 request => (ep0Submit frames ep0 request).2

end BoringOS.Xhci
