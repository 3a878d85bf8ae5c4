import BoringOS.Library.Loops
import BoringOS.UsbHid.Configuration

namespace BoringOS.UsbHid

open Library

/-!
# What an accepted configuration is like

Each round of the parser either begins an interface or leaves the count of HID interfaces
alone, and adds at most one endpoint, whose identifier and packet size the report service
can use.  The later classification goes from descriptor to descriptor in the same way and
looks at nothing but the interfaces.
-/

/-- An endpoint that the report service can submit transfers for -/
structure Usable (endpoint : XhciHidEndpointDescriptor) : Prop where
  notControl : 1 < endpoint.endpointId
  known : endpoint.endpointId ≤ 31
  packet : endpoint.maxPacket ≠ 0
  packetFits : endpoint.maxPacket ≤ xhciHidReportBufferBytes

theorem hidInterruptPacketSize_some {speed raw packet : Nat}
    (isPacket : hidInterruptPacketSize speed raw = some packet) :
    packet ≠ 0 ∧ packet ≤ xhciHidReportBufferBytes := by
  have within : raw &&& 0x07ff ≤ xhciHidReportBufferBytes :=
    Nat.le_trans Nat.and_le_right (by decide)
  unfold hidInterruptPacketSize at isPacket
  split at isPacket
  · cases isPacket
  simp only [Option.ite_none_left_eq_some] at isPacket
  have same : raw &&& 0x07ff = packet := by
    split at isPacket
    · simp_all
    split at isPacket
    · simp_all
    simp_all
  omega

theorem xhciUsbEndpointId_some {address id : Nat} (isId : xhciUsbEndpointId address = some id) :
    1 < id ∧ id ≤ 31 := by
  unfold xhciUsbEndpointId at isId
  grind

/-- What a round of the parser behind an interface descriptor leaves -/
structure SameInterfaces (state next : HidParse) : Prop where
  count : next.parsed.hidInterfaceCount = state.parsed.hidInterfaceCount
  value : next.parsed.configurationValue = state.parsed.configurationValue
  endpoints : next.parsed.endpoints = state.parsed.endpoints ∨
    ∃ endpoint, Usable endpoint ∧ state.parsed.endpoints.length ≠ xhciMaxHidEndpoints ∧
      next.parsed.endpoints = state.parsed.endpoints ++ [endpoint]

theorem SameInterfaces.refl (state : HidParse) : SameInterfaces state state :=
  ⟨rfl, rfl, Or.inl rfl⟩

variable {bytes : List UInt8}

variable {state next : HidParse}

theorem parseHidDescriptor_ok {offset length : Nat} (isNext : parseHidDescriptor bytes offset length state = .ok next) :
    SameInterfaces state next := by
  unfold parseHidDescriptor at isNext
  simp only [ite_eq_ok] at isNext
  rcases isNext with ⟨_, _, isNext⟩
  split at isNext
  · cases isNext
  · cases isNext
    exact ⟨rfl, rfl, Or.inl rfl⟩

theorem parseInterruptEndpoint_ok {speed offset endpointId : Nat}
    (notControl : 1 < endpointId) (known : endpointId ≤ 31)
    (isNext : parseInterruptEndpoint bytes speed offset endpointId state = .ok next) :
    SameInterfaces state next := by
  unfold parseInterruptEndpoint at isNext
  simp only [] at isNext
  split at isNext
  · cases isNext
  split at isNext
  · cases isNext
  rename_i maxPacket isPacket
  have packet := hidInterruptPacketSize_some isPacket
  rw [ite_eq_ok] at isNext
  rcases isNext with ⟨_, isNext⟩
  split at isNext
  · cases isNext
  split at isNext
  · cases isNext
    exact SameInterfaces.refl state
  rw [ite_eq_ok] at isNext
  rcases isNext with ⟨room, isNext⟩
  cases isNext
  exact ⟨rfl, rfl, Or.inr ⟨_, ⟨notControl, known, packet.1, packet.2⟩, room, rfl⟩⟩

variable {speed offset length : Nat}

theorem parseEndpoint_ok (isNext : parseEndpoint bytes speed offset length state = .ok next) :
    SameInterfaces state next := by
  unfold parseEndpoint at isNext
  simp only [ite_eq_ok] at isNext
  rcases isNext with ⟨_, _, isNext⟩
  split at isNext
  · cases isNext
  rename_i endpointId isId
  have inRange := xhciUsbEndpointId_some isId
  rw [ite_eq_ok] at isNext
  rcases isNext with ⟨_, isNext⟩
  split at isNext
  · cases isNext
    exact ⟨rfl, rfl, Or.inl rfl⟩
  · have same := parseInterruptEndpoint_ok inRange.1 inRange.2 isNext
    exact ⟨same.count, same.value, same.endpoints⟩

/-- Whether an interface descriptor begins a HID interface -/
def beginsHid (bytes : List UInt8) (offset : Nat) : Bool :=
  byteAt bytes (offset + 3) == 0 && byteAt bytes (offset + 5) == xhciUsbClassHid

theorem parseInterface_ok {offset length : Nat}
    (isNext : parseInterface bytes offset length state = .ok next) :
    9 ≤ length ∧ next.parsed.endpoints = state.parsed.endpoints ∧
      next.parsed.configurationValue = state.parsed.configurationValue ∧
      next.parsed.hidInterfaceCount =
        state.parsed.hidInterfaceCount + if beginsHid bytes offset then 1 else 0 := by
  unfold parseInterface at isNext
  simp only [ite_eq_ok] at isNext
  rcases isNext with ⟨_, proper, isNext⟩
  refine ⟨Nat.not_lt.mp proper, ?_⟩
  split at isNext
  · rw [ite_eq_ok] at isNext
    grind [beginsHid]
  grind [beginsHid]

theorem parseDescriptor_ok {type : UInt8}
    (isNext : parseDescriptor bytes speed offset length type state = .ok next) :
    (type = xhciUsbDescriptorInterface ∧ parseInterface bytes offset length state = .ok next) ∨
      (type ≠ xhciUsbDescriptorInterface ∧ SameInterfaces state next) := by
  unfold parseDescriptor at isNext
  split at isNext
  · simp [*]
  rename_i notInterface
  refine Or.inr ⟨notInterface, ?_⟩
  grind [parseHidDescriptor_ok, parseEndpoint_ok, SameInterfaces.refl]

/-- The endpoints of a configuration are few, and each one is usable. -/
structure WellFormed (configuration : XhciHidConfiguration) : Prop where
  value : configuration.configurationValue ≠ 0
  few : configuration.endpoints.length ≤ xhciMaxHidEndpoints
  usable : ∀ endpoint ∈ configuration.endpoints, Usable endpoint

theorem parseDescriptor_wellFormed {type : UInt8} (wellFormed : WellFormed state.parsed)
    (isNext : parseDescriptor bytes speed offset length type state = .ok next) :
    WellFormed next.parsed := by
  rcases wellFormed with ⟨value, few, usable⟩
  rcases parseDescriptor_ok isNext with ⟨_, begins⟩ | ⟨_, same⟩
  · rcases parseInterface_ok begins with ⟨_, endpoints, sameValue, _⟩
    exact ⟨by rwa [sameValue], by rwa [endpoints], by rwa [endpoints]⟩
  rcases same.endpoints with endpoints | ⟨endpoint, isUsable, room, endpoints⟩
  · exact ⟨by rwa [same.value], by rwa [endpoints], by rwa [endpoints]⟩
  refine ⟨by rwa [same.value], ?_, ?_⟩
  · grind
  grind

/-- A round of the later classification sees the interfaces that the parser counts. -/
theorem m60Visit_of_parse {type : UInt8} {claimsHid : Bool}
    (related : claimsHid = decide (state.parsed.hidInterfaceCount ≠ 0))
    (isNext : parseDescriptor bytes speed offset length type state = .ok next) :
    ∃ claims, m60Visit bytes offset length type claimsHid = .ok claims ∧
      claims = decide (next.parsed.hidInterfaceCount ≠ 0) := by
  refine ⟨_, ?_, rfl⟩
  rcases parseDescriptor_ok isNext with ⟨isInterface, begins⟩ | ⟨notInterface, same⟩
  · rcases parseInterface_ok begins with ⟨proper, _, _, count⟩
    rw [m60Visit, if_pos isInterface, if_neg (Nat.not_lt.mpr proper), count, related]
    change Except.ok (_ || beginsHid bytes offset) = _
    simp
  · rw [m60Visit, if_neg notInterface, same.count, related]

/-- What the parser has checked of the descriptors that it accepts -/
structure Accepted (bytes : List UInt8) (received : Nat) (configuration : XhciHidConfiguration) :
    Prop where
  header : 9 ≤ byteAt bytes 0
  type : bytes.getD 1 0 = xhciUsbDescriptorConfiguration
  walked : recordWalk bytes (little16 bytes 2) () (m60Visit bytes) (little16 bytes 2) 0 false =
    .ok (little16 bytes 2, decide (configuration.hidInterfaceCount ≠ 0))
  wellFormed : WellFormed configuration

theorem xhciParseHidConfigurationEx_ok {received speed : Nat} {configuration : XhciHidConfiguration}
    (parsed : xhciParseHidConfigurationEx bytes received speed = .ok configuration) :
    Accepted bytes received configuration := by
  unfold xhciParseHidConfigurationEx at parsed
  simp only [ite_eq_ok] at parsed
  rcases parsed with ⟨isHeader, isTotal, parsed⟩
  simp only [not_or, not_not, Nat.not_lt] at isHeader isTotal
  split at parsed
  · cases parsed
  rename_i offset state walked
  rw [ite_eq_ok, ite_eq_ok] at parsed
  rcases parsed with ⟨_, atEnd, parsed⟩
  rw [not_not] at atEnd
  cases parsed
  have started : WellFormed (HidParse.start (byteAt bytes 5)).parsed :=
    ⟨isTotal.2.2.2, Nat.zero_le _, fun endpoint isEndpoint => by cases isEndpoint⟩
  have looked := @recordWalk_simulates _ _ _ _ bytes (little16 bytes 2) .descriptorBounds ()
    (parseDescriptor bytes speed) (m60Visit bytes)
    (fun state claimsHid => claimsHid = decide (state.parsed.hidInterfaceCount ≠ 0))
    m60Visit_of_parse (little16 bytes 2) 0 (HidParse.start (byteAt bytes 5)) false _ rfl walked
  rcases looked with ⟨claimsHid, looked, claims⟩
  refine ⟨isHeader.2.2.1, isHeader.2.2.2, ?_, ?_⟩
  · rw [looked, claims, atEnd]
  · exact @recordWalk_invariant _ _ _ _ _ _ (fun state => WellFormed state.parsed)
      parseDescriptor_wellFormed _ _ _ _ started walked

theorem xhciSelectSupportedHidConfiguration_accepted {received : Nat}
    {parsed : XhciHidConfiguration} (accepted : Accepted bytes received parsed)
    (vendorId productId : Nat) :
    xhciSelectSupportedHidConfiguration parsed vendorId productId = some
        { endpoints := parsed.endpoints.filterMap (selectEndpoint vendorId productId)
          configurationValue := parsed.configurationValue
          hidInterfaceCount := parsed.hidInterfaceCount } := by
  have valid : ¬(parsed.configurationValue = 0 ∨ xhciMaxHidEndpoints < parsed.endpoints.length) := by
    rw [not_or, Nat.not_lt]
    exact ⟨accepted.wellFormed.value, accepted.wellFormed.few⟩
  rw [xhciSelectSupportedHidConfiguration, if_neg valid]

theorem selectEndpoint_some {vendorId productId : Nat}
    {endpoint selected : XhciHidEndpointDescriptor}
    (isSelected : selectEndpoint vendorId productId endpoint = some selected) :
    selected.reportFormat ≠ .unsupported ∧ (Usable endpoint → Usable selected) := by
  unfold selectEndpoint at isSelected
  split at isSelected
  · cases isSelected
  rename_i isFormat
  cases isSelected
  exact ⟨isFormat, fun usable => { usable with }⟩

/-- The length of a configuration is what was retained when it was discovered. -/
theorem discovered_length {received total : Nat}
    (discovered : xhciValidateConfigurationDescriptor bytes received = some total) :
    little16 bytes 2 = total ∧ 9 ≤ total ∧ total ≤ xhciDescriptorBufferBytes := by
  unfold xhciValidateConfigurationDescriptor at discovered
  simp only [Option.ite_none_left_eq_some] at discovered
  grind

end BoringOS.UsbHid
