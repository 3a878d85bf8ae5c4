import BoringOS.UsbHid.ParsedDescriptors
import BoringOS.UsbHid.Arming

namespace BoringOS.UsbHid

open Library Xhci

/-!
# The later classification agrees with the configuration

Before the endpoints of the desktop are armed, every device is classified again: a
configured one by its endpoints, any other one by its retained descriptors.  After a
successful configuration the second classification finds exactly the devices that were
configured, and arming fails nowhere because of a descriptor.
-/

/-- An endpoint of the configuration that is served as a mouse with a layout of its own -/
def IsGenericMouse (parsed : XhciHidConfiguration) (endpoint : XhciHidEndpointDescriptor) : Prop :=
  ∃ candidate ∈ parsed.endpoints, ∃ layout, endpoint =
      { candidate with
        reportFormat := .genericMouse
        mouseLayout := layout }

/-- What a successful `configure_hid_device` leaves: a device that is not served at all, or
one that is served by the selected endpoints and those of generic mice -/
inductive Configured (device : AddressedDevice) (parsed : XhciHidConfiguration)
    (supported : List XhciHidEndpointDescriptor) : AddressedDevice → Prop
  | unserved (reason : XhciHidRejectionReason) (unsupported : supported = []) :
      Configured device parsed supported { device with hidRejectionReason := reason }
  | served (generic : List XhciHidEndpointDescriptor) (rings : List Nat)
      (isGeneric : ∀ endpoint ∈ generic, IsGenericMouse parsed endpoint)
      (served : supported ++ generic ≠ [])
      (few : (supported ++ generic).length ≤ xhciMaxHidEndpoints)
      (eachRing : rings.length = (supported ++ generic).length) :
      Configured device parsed supported
        { device with
          service :=
            { device.service with
              deviceConfigured := true
              hidEndpointReady := true
              endpoints := List.zipWith newEndpoint (supported ++ generic) rings }
          hidRejectionReason := .none }

variable {answers : HidAnswers}

theorem genericMouse_ok {candidate endpoint : XhciHidEndpointDescriptor}
    (isMouse : genericMouse answers candidate = .ok endpoint) :
    ∃ layout, endpoint =
      { candidate with
        reportFormat := .genericMouse
        mouseLayout := layout } := by
  unfold genericMouse at isMouse
  grind

theorem selectGenericMouseReports_some {parsed : XhciHidConfiguration}
    (candidates : List XhciHidEndpointDescriptor) :
    ∀ {processed : List Nat} {selected : XhciHidConfiguration}
      {firstReason : XhciHidRejectionReason}
      {result : XhciHidConfiguration × XhciHidRejectionReason},
      (∀ candidate ∈ candidates, candidate ∈ parsed.endpoints) →
      selected.endpoints.length ≤ xhciMaxHidEndpoints →
      selectGenericMouseReports answers candidates processed selected firstReason = some result →
      ∃ generic, result.1.endpoints = selected.endpoints ++ generic ∧
        (∀ endpoint ∈ generic, IsGenericMouse parsed endpoint) ∧
        result.1.endpoints.length ≤ xhciMaxHidEndpoints := by
  induction candidates with
  | nil =>
    intro processed selected firstReason result _ few isResult
    cases isResult
    simp [*]
  | cons candidate rest ih =>
    intro processed selected firstReason result inParsed few isResult
    have restParsed : ∀ other ∈ rest, other ∈ parsed.endpoints := fun other isOther =>
      inParsed other (List.mem_cons_of_mem candidate isOther)
    rw [selectGenericMouseReports] at isResult
    split at isResult
    · exact ih restParsed few isResult
    rw [Option.ite_none_left_eq_some] at isResult
    rcases isResult with ⟨_, isResult⟩
    split at isResult
    · exact ih restParsed few isResult
    rename_i endpoint isMouse
    rw [Option.ite_none_left_eq_some] at isResult
    rcases isResult with ⟨room, isResult⟩
    have fewer : (selected.endpoints ++ [endpoint]).length ≤ xhciMaxHidEndpoints := by
      rw [List.length_append, List.length_singleton]
      omega
    rcases ih restParsed fewer isResult with ⟨generic, endpoints, isGeneric, fits⟩
    refine ⟨endpoint :: generic, ?_, ?_, fits⟩
    · simp [*]
    · intro other isOther
      rcases List.mem_cons.mp isOther with rfl | later
      · exact ⟨candidate, inParsed candidate List.mem_cons_self, genericMouse_ok isMouse⟩
      · exact isGeneric other later

theorem length_ringFrames (count : Nat) :
    ∀ {index : Nat} {rings : List Nat}, ringFrames answers count index = some rings →
      rings.length = count := by
  induction count with
  | zero =>
    intro index rings isRings
    cases isRings
    rfl
  | succ count ih =>
    grind [ringFrames]

theorem configureEndpoints_true {device after : AddressedDevice}
    {configuration : XhciHidConfiguration}
    (configured : configureEndpoints answers device configuration = (true, after)) :
    ∃ rings : List Nat, rings.length = configuration.endpoints.length ∧ after =
      { device with
        service :=
          { device.service with
            deviceConfigured := true
            hidEndpointReady := true
            endpoints := List.zipWith newEndpoint configuration.endpoints rings }
        hidRejectionReason := .none } := by
  unfold configureEndpoints at configured
  split at configured
  · cases configured
  grind [length_ringFrames]

theorem configureParsed_true {device after : AddressedDevice}
    {parsed supported : XhciHidConfiguration}
    (subset : parsed.endpoints = [] → supported.endpoints = [])
    (few : supported.endpoints.length ≤ xhciMaxHidEndpoints)
    (configured : configureParsed answers device parsed supported = (true, after)) :
    Configured device parsed supported.endpoints after := by
  unfold configureParsed at configured
  simp only [] at configured
  split at configured
  · rename_i noEndpoint
    cases configured
    exact .unserved _ (subset (List.length_eq_zero_iff.mp noEndpoint))
  split at configured
  · cases configured
  · split at configured
    · cases configured
    · rename_i configuration rejection isSelected
      rcases selectGenericMouseReports_some _ (fun _ isCandidate => isCandidate) few isSelected
        with ⟨generic, endpoints, isGeneric, fits⟩
      split at configured
      · rename_i noEndpoint
        cases configured
        rw [List.length_eq_zero_iff, endpoints, List.append_eq_nil_iff] at noEndpoint
        exact .unserved _ noEndpoint.1
      · rename_i someEndpoint
        split at configured
        · cases configured
        rcases configureEndpoints_true configured with ⟨rings, eachRing, rfl⟩
        rw [List.length_eq_zero_iff] at someEndpoint
        rw [endpoints] at eachRing fits someEndpoint ⊢
        exact .served generic rings isGeneric someEndpoint fits eachRing

/-- The descriptors of the device are at hand, and the parser has accepted them. -/
structure Examined (environment : HidEnvironment) (device : AddressedDevice)
    (parsed : XhciHidConfiguration) : Prop where
  addressed : device.service.addressed = true
  ready : device.service.descriptorsReady = true
  buffer : device.descriptorBufferPhysical ≠ 0
  mapped : environment.mapsFrame device.descriptorBufferPhysical = true
  isParsed : xhciParseHidConfigurationEx device.page device.configurationLength device.speed =
    .ok parsed

/-- The endpoints of a configuration that are served as they are -/
def supportedEndpoints (device : AddressedDevice) (parsed : XhciHidConfiguration) :
    List XhciHidEndpointDescriptor :=
  parsed.endpoints.filterMap (selectEndpoint device.vendorId device.productId)

section

variable {environment : HidEnvironment} {device after : AddressedDevice}
  {parsed : XhciHidConfiguration}

theorem Examined.accepted (examined : Examined environment device parsed) :
    Accepted device.page device.configurationLength parsed :=
  xhciParseHidConfigurationEx_ok examined.isParsed

theorem Examined.select (examined : Examined environment device parsed) :
    xhciSelectSupportedHidConfiguration parsed device.vendorId device.productId =
      some ⟨supportedEndpoints device parsed, parsed.configurationValue, parsed.hidInterfaceCount⟩ :=
  xhciSelectSupportedHidConfiguration_accepted examined.accepted _ _

theorem supportedEndpoints_usable (wellFormed : WellFormed parsed) :
    ∀ endpoint ∈ supportedEndpoints device parsed,
      Usable endpoint ∧ endpoint.reportFormat ≠ .unsupported := by
  intro endpoint isEndpoint
  rcases List.mem_filterMap.mp isEndpoint with ⟨origin, isOrigin, isSelected⟩
  rcases selectEndpoint_some isSelected with ⟨isFormat, usable⟩
  exact ⟨usable (wellFormed.usable origin isOrigin), isFormat⟩

theorem IsGenericMouse.usable {endpoint : XhciHidEndpointDescriptor}
    (isGeneric : IsGenericMouse parsed endpoint) (wellFormed : WellFormed parsed) :
    Usable endpoint ∧ endpoint.reportFormat ≠ .unsupported := by
  rcases isGeneric with ⟨candidate, isCandidate, -, rfl⟩
  rcases wellFormed.usable candidate isCandidate with ⟨notControl, known, packet, fits⟩
  exact ⟨⟨notControl, known, packet, fits⟩, fun isFormat => by cases isFormat⟩

/-- What `configure_hid_device` was about when it succeeded -/
theorem configureHidDevice_true {answers : HidAnswers}
    (configured : configureHidDevice environment answers device = (true, after)) :
    ∃ parsed, Examined environment device parsed ∧ device.service.hidEndpointReady = false ∧
      Configured device parsed (supportedEndpoints device parsed) after := by
  unfold configureHidDevice at configured
  split at configured
  · cases configured
  rename_i isFresh
  simp only [not_or, Bool.not_eq_false, Bool.not_eq_true] at isFresh
  rcases isFresh with ⟨addressed, ready, _, notReady, _, _⟩
  split at configured
  · cases configured
  rename_i bytes isBytes
  rw [descriptorBufferBytes, Option.ite_none_left_eq_some, not_or, Bool.not_eq_false] at isBytes
  rcases isBytes with ⟨⟨buffer, mapped⟩, isPage⟩
  cases isPage
  split at configured
  · cases configured
  rename_i parsed isParsed
  have examined : Examined environment device parsed := ⟨addressed, ready, buffer, mapped, isParsed⟩
  rw [examined.select] at configured
  refine ⟨parsed, examined, notReady, configureParsed_true ?_ ?_ configured⟩
  · simp_all [supportedEndpoints]
  · exact Nat.le_trans (List.length_filterMap_le _ _) examined.accepted.wellFormed.few

/-- The later classification of a device by its descriptors finds what the parser found. -/
theorem m60ClassifyDescriptors_examined (examined : Examined environment device parsed) :
    m60ClassifyDescriptors environment device =
      if parsed.hidInterfaceCount = 0 ∨ supportedEndpoints device parsed = [] then .notHid
      else .supported := by
  rcases device.discovered examined.ready with ⟨received, discovered⟩
  rcases discovered_length discovered with ⟨isTotal, long, short⟩
  have accepted := examined.accepted
  have atHand : ¬(device.descriptorBufferPhysical = 0 ∨ device.configurationLength < 9 ∨
      xhciDescriptorBufferBytes < device.configurationLength ∨
      environment.mapsFrame device.descriptorBufferPhysical = false) := by
    simp only [not_or, Nat.not_lt, Bool.not_eq_false]
    exact ⟨examined.buffer, long, short, examined.mapped⟩
  have header : ¬(byteAt device.page 0 < 9 ∨ device.page.getD 1 0 ≠ xhciUsbDescriptorConfiguration) := by
    rw [not_or, not_not, Nat.not_lt]
    exact ⟨accepted.header, accepted.type⟩
  have bounds : ¬(little16 device.page 2 ≠ device.configurationLength ∨
      little16 device.page 2 < 9 ∨ xhciDescriptorBufferBytes < little16 device.page 2) := by
    rw [isTotal]
    omega
  have again : xhciParseHidConfigurationEx device.page (little16 device.page 2) device.speed =
      .ok parsed := by
    rw [isTotal]
    exact examined.isParsed
  unfold m60ClassifyDescriptors
  simp only [if_neg atHand, if_neg header, if_neg bounds, accepted.walked]
  rw [if_neg (not_not.mpr rfl)]
  by_cases noInterface : parsed.hidInterfaceCount = 0
  · simp [*]
  have claims : ¬decide (parsed.hidInterfaceCount ≠ 0) = false := by
    rw [decide_eq_false_iff_not]
    exact not_not.mpr noInterface
  have parsedAgain : xhciParseHidConfiguration device.page (little16 device.page 2)
      device.speed = some parsed := by
    rw [xhciParseHidConfiguration, again]
    exact if_pos noInterface
  simp only [if_neg claims, parsedAgain, examined.select, List.length_eq_zero_iff, noInterface, false_or]

end

end BoringOS.UsbHid
