import Mathlib.Data.List.Nodup
import Mathlib.Data.Nat.Bitwise

namespace BoringOS.UsbHid

/-!
# Reports of keyboards and pointers

A transcription of the report decoders of `kernel/core/usb_hid_impl.inc`, and
for each of them the reports that it accepts.  A rejected report leaves
nothing behind.
-/

def usbHidBootKeyReportSize : Nat := 8
def usbHidBootMouseReportMin : Nat := 3
def usbHidAbsoluteTabletReportSize : Nat := 6
def usbHidBootKeys : Nat := 6
def usbHidMouseReportMaxBits : Nat := 512

/-- `struct usb_hid_key_transition` -/
structure UsbHidKeyTransition where
  usage : UInt8
  down : Bool
deriving DecidableEq, Repr

/-- `struct usb_hid_keyboard_state` -/
structure UsbHidKeyboardState where
  modifiers : UInt8
  keys : List UInt8
  sixKeys : keys.length = usbHidBootKeys
deriving DecidableEq, Repr

theorem length_noKeys : (List.replicate usbHidBootKeys (0 : UInt8)).length = usbHidBootKeys :=
  List.length_replicate

/-- `report_valid`, on the keys of a report -/
def reportValid : List UInt8 → Bool
  | [] => true
  | usage :: rest =>
    if 1 ≤ usage ∧ usage ≤ 3 then false
    else if usage = 0 then reportValid rest
    else if rest.contains usage then false
    else reportValid rest

/-- The keys of one state that another one lacks -/
def missingKeys (keys others : List UInt8) : List UInt8 :=
  keys.filter fun usage => usage != 0 && !others.contains usage

/-- `usb_hid_keyboard_decode` -/
def usbHidKeyboardDecode (state : UsbHidKeyboardState) (report : List UInt8) (capacity : Nat) :
    Option (UsbHidKeyboardState × List UsbHidKeyTransition) :=
  if valid : report.length = usbHidBootKeyReportSize ∧ reportValid (report.drop 2) = true then
    let next := report.drop 2
    let transitions := (missingKeys state.keys next).map (⟨·, false⟩) ++
      (missingKeys next state.keys).map (⟨·, true⟩)
    if capacity < transitions.length then none
    else some (⟨report.getD 0 0, next, by rw [List.length_drop, valid.1]; rfl⟩, transitions)
  else none

/-- No error usage and no usage twice -/
def AcceptableKeys (keys : List UInt8) : Prop :=
  (∀ usage ∈ keys, usage = 0 ∨ 3 < usage) ∧ (keys.filter (· ≠ 0)).Nodup

theorem reportValid_iff (keys : List UInt8) : reportValid keys = true ↔ AcceptableKeys keys := by
  induction keys with
  | nil => exact iff_of_true rfl ⟨fun _ member => absurd member List.not_mem_nil, List.nodup_nil⟩
  | cons usage rest ih =>
    rw [reportValid, AcceptableKeys, List.forall_mem_cons]
    by_cases isError : 1 ≤ usage ∧ usage ≤ 3
    · grind
    rw [if_neg isError]
    by_cases zero : usage = 0
    · grind [AcceptableKeys]
    have large : 3 < usage := by
      rw [UInt8.lt_iff_toNat_lt]
      have positive : usage.toNat ≠ 0 := fun none => zero (UInt8.toNat_inj.mp none)
      simp only [UInt8.le_iff_toNat_le] at isError
      have one : (1 : UInt8).toNat = 1 := rfl
      omega
    rw [if_neg zero, List.filter_cons_of_pos (by simpa using zero), List.nodup_cons]
    by_cases twice : rest.contains usage = true
    · simp_all
    · rw [if_neg twice, ih, AcceptableKeys]
      simp_all

theorem length_missingKeys {keys : List UInt8} (others : List UInt8)
    (sixKeys : keys.length = usbHidBootKeys) :
    (missingKeys keys others).length ≤ usbHidBootKeys := by
  rw [← sixKeys]
  exact List.length_filter_le _ _

/-- A keyboard report is decoded exactly if it has the right length and
acceptable keys: there is always room for its transitions. -/
theorem usbHidKeyboardDecode_isSome (state : UsbHidKeyboardState) (report : List UInt8) :
    (usbHidKeyboardDecode state report (usbHidBootKeys * 2)).isSome = true ↔
      report.length = usbHidBootKeyReportSize ∧ AcceptableKeys (report.drop 2) := by
  rw [usbHidKeyboardDecode, ← reportValid_iff]
  by_cases valid : report.length = usbHidBootKeyReportSize ∧ reportValid (report.drop 2) = true
  · have six : (report.drop 2).length = usbHidBootKeys := by
      rw [List.length_drop, valid.1]
      rfl
    have released := length_missingKeys (report.drop 2) state.sixKeys
    have pressed := length_missingKeys state.keys six
    have fits : ¬usbHidBootKeys * 2 <
        ((missingKeys state.keys (report.drop 2)).map (UsbHidKeyTransition.mk · false) ++
          (missingKeys (report.drop 2) state.keys).map (UsbHidKeyTransition.mk · true)).length := by
      rw [List.length_append, List.length_map, List.length_map]
      omega
    simp_all
  simp [*]

/-- `struct usb_hid_mouse_report` -/
structure UsbHidMouseReport where
  dx : Int
  dy : Int
  wheel : Int
  buttons : UInt8
deriving DecidableEq, Repr

variable (report : List UInt8)

/-- `usb_hid_mouse_decode` -/
def usbHidMouseDecode : Option UsbHidMouseReport :=
  if report.length < usbHidBootMouseReportMin ∨ 4 < report.length then none
  else
    some
      { buttons := report.getD 0 0 &&& 0x1f
        dx := (report.getD 1 0).toInt8.toInt
        dy := (report.getD 2 0).toInt8.toInt
        wheel := if report.length = 4 then (report.getD 3 0).toInt8.toInt else 0 }

/-- `struct usb_hid_absolute_tablet_report` -/
structure UsbHidAbsoluteTabletReport where
  x : Nat
  y : Nat
  wheel : Int
  buttons : UInt8
deriving DecidableEq, Repr

/-- `usb_hid_absolute_tablet_decode` -/
def usbHidAbsoluteTabletDecode : Option UsbHidAbsoluteTabletReport :=
  if report.length ≠ usbHidAbsoluteTabletReportSize then none
  else
    some
      { buttons := report.getD 0 0 &&& 0x1f
        x := (report.getD 1 0).toNat ||| (report.getD 2 0).toNat <<< 8
        y := (report.getD 3 0).toNat ||| (report.getD 4 0).toNat <<< 8
        wheel := (report.getD 5 0).toInt8.toInt }

/-- `struct usb_hid_mouse_layout`, as far as the decoder uses it -/
structure UsbHidMouseLayout where
  reportBits : Nat
  buttonsBitOffset : Nat
  xBitOffset : Nat
  yBitOffset : Nat
  wheelBitOffset : Nat
  reportId : UInt8
  buttonCount : Nat
  xBits : Nat
  yBits : Nat
  wheelBits : Nat
  hasReportId : Bool
  hasWheel : Bool
deriving DecidableEq, Repr

/-- `hid_extract_bits` -/
def hidExtractBits (offset count : Nat) : Option Nat :=
  if count = 0 ∨ 16 < count ∨ report.length * 8 < offset + count then none
  else
    some ((List.range count).foldl
      (fun extracted index =>
        if (report.getD ((offset + index) / 8) 0).toNat.testBit ((offset + index) % 8) then
          extracted ||| 1 <<< index
        else extracted)
      0)

/-- `hid_sign_extend` -/
def hidSignExtend (value bits : Nat) : Int :=
  let sign := 1 <<< (bits - 1)
  (value ^^^ sign : Nat) - (sign : Int)

variable (layout : UsbHidMouseLayout)

/-- The place of a field behind the report ID, in sixteen bits -/
def UsbHidMouseLayout.place (offset : Nat) : Nat :=
  (offset + if layout.hasReportId then 8 else 0) % 2 ^ 16

/-- The button loop of `usb_hid_mouse_layout_decode` -/
def layoutButtons (layout : UsbHidMouseLayout) (report : List UInt8) : List Nat → UInt8 → Option UInt8
  | [], buttons => some buttons
  | index :: rest, buttons =>
    match hidExtractBits report (layout.place (layout.buttonsBitOffset + index)) 1 with
    | none => none
    | some down =>
      layoutButtons layout report rest
        (if down ≠ 0 then buttons ||| UInt8.ofNat (1 <<< index) else buttons)

/-- What `usb_hid_mouse_layout_decode` checks before it extracts a field -/
def layoutUsable (report : List UInt8) : Prop :=
  layout.reportBits ≠ 0 ∧ layout.reportBits ≤ usbHidMouseReportMaxBits ∧
    layout.xBits ≠ 0 ∧ layout.xBits ≤ 16 ∧ layout.yBits ≠ 0 ∧ layout.yBits ≤ 16 ∧
    layout.buttonCount ≤ 8 ∧
    (layout.hasWheel = true → layout.wheelBits ≠ 0 ∧ layout.wheelBits ≤ 8) ∧
    (layout.hasReportId = true → report[0]? = some layout.reportId) ∧
    layout.reportBits + (if layout.hasReportId then 8 else 0) ≤ report.length * 8

instance (layout : UsbHidMouseLayout) (report : List UInt8) :
    Decidable (layoutUsable layout report) :=
  inferInstanceAs (Decidable (_ ∧ _))

/-- The wheel, which there may not be -/
def layoutWheel (report : List UInt8) : Option Nat :=
  if layout.hasWheel then
    hidExtractBits report (layout.place layout.wheelBitOffset) layout.wheelBits
  else some 0

/-- `usb_hid_mouse_layout_decode` -/
def usbHidMouseLayoutDecode (report : List UInt8) : Option UsbHidMouseReport :=
  if layoutUsable layout report then
    match hidExtractBits report (layout.place layout.xBitOffset) layout.xBits,
      hidExtractBits report (layout.place layout.yBitOffset) layout.yBits, layoutWheel layout report,
      layoutButtons layout report (List.range layout.buttonCount) 0 with
    | some x, some y, some wheel, some buttons =>
      some
        { buttons := buttons
          dx := hidSignExtend x layout.xBits
          dy := hidSignExtend y layout.yBits
          wheel := if layout.hasWheel then hidSignExtend wheel layout.wheelBits else 0 }
    | _, _, _, _ => none
  else none

/-- A field that lies within the report -/
def FieldFits (offset count : Nat) : Prop :=
  count ≠ 0 ∧ count ≤ 16 ∧ offset + count ≤ report.length * 8

theorem hidExtractBits_isSome (offset count : Nat) :
    (hidExtractBits report offset count).isSome = true ↔ FieldFits report offset count := by
  rw [hidExtractBits, FieldFits]
  simp

theorem layoutButtons_isSome (report : List UInt8) (indices : List Nat) :
    ∀ buttons, (layoutButtons layout report indices buttons).isSome = true ↔
      ∀ index ∈ indices, FieldFits report (layout.place (layout.buttonsBitOffset + index)) 1 := by
  induction indices with
  | nil => exact fun _ => iff_of_true rfl (fun _ member => absurd member List.not_mem_nil)
  | cons index rest ih =>
    intro buttons
    rw [layoutButtons, List.forall_mem_cons, ← hidExtractBits_isSome]
    grind

/-- The layout is usable, and all its fields lie within the report. -/
def LayoutFits (report : List UInt8) : Prop :=
  layoutUsable layout report ∧ FieldFits report (layout.place layout.xBitOffset) layout.xBits ∧
    FieldFits report (layout.place layout.yBitOffset) layout.yBits ∧
    (layout.hasWheel = true →
      FieldFits report (layout.place layout.wheelBitOffset) layout.wheelBits) ∧
    ∀ index < layout.buttonCount, FieldFits report (layout.place (layout.buttonsBitOffset + index)) 1

theorem layoutWheel_isSome (report : List UInt8) :
    (layoutWheel layout report).isSome = true ↔
      (layout.hasWheel = true → FieldFits report (layout.place layout.wheelBitOffset) layout.wheelBits) := by
  rw [layoutWheel]
  split
  · rename_i hasWheel
    rw [hidExtractBits_isSome, imp_iff_right hasWheel]
  simp [*]

theorem usbHidMouseLayoutDecode_isSome (report : List UInt8) :
    (usbHidMouseLayoutDecode layout report).isSome = true ↔ LayoutFits layout report := by
  have inRange : (∀ index < layout.buttonCount,
      FieldFits report (layout.place (layout.buttonsBitOffset + index)) 1) ↔
        ∀ index ∈ List.range layout.buttonCount,
          FieldFits report (layout.place (layout.buttonsBitOffset + index)) 1 := by
    simp only [List.mem_range]
  rw [usbHidMouseLayoutDecode, LayoutFits, ← hidExtractBits_isSome, ← hidExtractBits_isSome,
    ← layoutWheel_isSome, inRange, ← layoutButtons_isSome layout report _ 0]
  split
  · rename_i usable
    rw [and_iff_right usable]
    cases hidExtractBits report (layout.place layout.xBitOffset) layout.xBits with
    | none => simp
    | some x =>
      cases hidExtractBits report (layout.place layout.yBitOffset) layout.yBits with
      | none => simp
      | some y =>
        cases layoutWheel layout report with
        | none => simp
        | some wheel =>
          cases layoutButtons layout report (List.range layout.buttonCount) 0 with
          | none => simp
          | some buttons => simp
  simp [*]

/-- `enum xhci_hid_report_format` -/
inductive XhciHidReportFormat where
  | unsupported
  | bootKeyboard
  | bootMouse
  | genericMouse
  | qemuAbsoluteTablet
deriving DecidableEq, Repr

/-- A report that carries the ID of another collection -/
def ForeignReport (report : List UInt8) : Prop :=
  layout.hasReportId = true ∧ report[0]? ≠ some layout.reportId

instance (layout : UsbHidMouseLayout) (report : List UInt8) :
    Decidable (ForeignReport layout report) :=
  inferInstanceAs (Decidable (_ ∧ _))

/-- What the decoder of a format has nothing to object to.  A report for
another collection is none of its business. -/
def AcceptableContent (report : List UInt8) :
    XhciHidReportFormat → Prop
  | .bootKeyboard => report.length = usbHidBootKeyReportSize ∧ AcceptableKeys (report.drop 2)
  | .bootMouse => usbHidBootMouseReportMin ≤ report.length ∧ report.length ≤ 4
  | .genericMouse => ForeignReport layout report ∨ LayoutFits layout report
  | .qemuAbsoluteTablet => report.length = usbHidAbsoluteTabletReportSize
  | .unsupported => False

/-- A report that is accepted: it is not empty, and the decoder takes it. -/
def AcceptableReport (format : XhciHidReportFormat) (layout : UsbHidMouseLayout)
    (report : List UInt8) : Prop :=
  report ≠ [] ∧ AcceptableContent layout report format

end BoringOS.UsbHid
