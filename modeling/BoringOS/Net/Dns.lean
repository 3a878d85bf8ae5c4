import Mathlib

namespace BoringOS.Net

/-!
# The DNS client

`dns_encode_name`, `dns_validate_name`, `net_dns_skip_name` and `parse_dns_answer` of
`kernel/core/net.c`.  A read outside the packet has no result here, so a function
that has one for every packet stays inside it.
-/

def netDnsMaxPointerDepth : Nat := 8
def boringNetHostMax : Nat := 253

/-- The loop that `dns_validate_name` and `net_dns_skip_name` share, from a cursor
to the end of the name.  They differ in how they follow a pointer. -/
def dnsWalkName (packet : List UInt8) (follow : Nat → Option Bool) (cursor : Nat) :
    Option (Option Nat) :=
  if packet.length ≤ cursor then some none
  else
    match packet[cursor]? with
    | none => none
    | some label =>
      if label = 0 then some (some (cursor + 1))
      else if label &&& 0xc0 = 0xc0 then
        if packet.length - cursor < 2 then some none
        else
          match packet[cursor + 1]? with
          | none => none
          | some low =>
            let pointer := (label &&& 0x3f).toNat * 256 + low.toNat
            if packet.length ≤ pointer then some none
            else
              match follow pointer with
              | none => none
              | some false => some none
              | some true => some (some (cursor + 2))
      else if label &&& 0xc0 ≠ 0 ∨ 63 < label.toNat then some none
      else if packet.length - (cursor + 1) < label.toNat then some none
      else dnsWalkName packet follow (cursor + 1 + label.toNat)
termination_by packet.length - cursor

/-- `dns_validate_name` -/
def dnsValidateName (packet : List UInt8) (offset depth : Nat) : Option Bool :=
  if netDnsMaxPointerDepth < depth ∨ packet.length ≤ offset then some false
  else
    (dnsWalkName packet (fun pointer => dnsValidateName packet pointer (depth + 1)) offset).map
      Option.isSome
termination_by netDnsMaxPointerDepth + 1 - depth

/-- `net_dns_skip_name`, with the number of bytes that are consumed -/
def netDnsSkipName (packet : List UInt8) (offset : Nat) : Option (Option Nat) :=
  if packet.length ≤ offset then some none
  else
    (dnsWalkName packet (fun pointer => dnsValidateName packet pointer 1) offset).map fun ended =>
      ended.map (· - offset)

/-- The characters of a label: letters, digits, hyphens and underscores -/
def dnsAllowed (character : UInt8) : Bool :=
  (97 ≤ character && character ≤ 122) || (65 ≤ character && character ≤ 90) ||
    (48 ≤ character && character ≤ 57) || character = 45 || character = 95

def dnsDot : UInt8 := 46

/-- The inner loop of `dns_encode_name`: the next label, and the text from its end on -/
def dnsScanLabel : (labelLength : Nat) → List UInt8 → Option (List UInt8 × List UInt8)
  | _, [] => some ([], [])
  | labelLength, character :: rest =>
    if character = dnsDot then some ([], character :: rest)
    else if dnsAllowed character = false ∨ 63 ≤ labelLength then none
    else
      match dnsScanLabel (labelLength + 1) rest with
      | none => none
      | some (label, later) => some (character :: label, later)

theorem dnsScanLabel_some {labelLength : Nat} {text label rest : List UInt8}
    (scanned : dnsScanLabel labelLength text = some (label, rest)) (few : labelLength ≤ 63) :
    text = label ++ rest ∧ (∀ character ∈ label, dnsAllowed character = true) ∧
      labelLength + label.length ≤ 63 ∧ ∀ character ∈ rest.head?, character = dnsDot := by
  induction text generalizing labelLength label with
  | nil =>
    cases scanned
    exact ⟨rfl, nofun, few, nofun⟩
  | cons character text ih =>
    rw [dnsScanLabel] at scanned
    split at scanned
    · rename_i isDot
      cases scanned
      refine ⟨rfl, nofun, few, ?_⟩
      rintro other ⟨⟩
      exact isDot
    split at scanned
    · cases scanned
    rename_i admitted
    rw [not_or, Bool.not_eq_false, Nat.not_le] at admitted
    split at scanned
    · cases scanned
    rename_i inner
    cases scanned
    rcases ih inner admitted.2 with ⟨rfl, allowed, short, dot⟩
    refine ⟨rfl, List.forall_mem_cons.mpr ⟨admitted.1, allowed⟩, ?_, dot⟩
    rw [List.length_cons]
    omega

/-- The outer loop of `dns_encode_name`, after the output so far -/
def dnsEncodeLabels (capacity : Nat) (output text : List UInt8) : Option (List UInt8) :=
  if text = [] then some output
  else
    match _found : dnsScanLabel 0 text with
    | none => none
    | some (label, rest) =>
      if label.length = 0 ∨ capacity - output.length < 1 + label.length then none
      else
        let output := output ++ UInt8.ofNat label.length :: label
        match rest with
        | [] => some output
        | _ :: later => if later = [] then none else dnsEncodeLabels capacity output later
termination_by text.length
decreasing_by
  rw [(dnsScanLabel_some _found (Nat.zero_le _)).1, List.length_append, List.length_cons]
  omega

/-- `dns_encode_name`, with the bytes that are written to the buffer -/
def dnsEncodeName (capacity : Nat) (name : List UInt8) : Option (List UInt8) :=
  if name.length = 0 ∨ boringNetHostMax < name.length then none
  else
    match dnsEncodeLabels capacity [] name with
    | none => none
    | some output => if capacity ≤ output.length then none else some (output ++ [0])

/-! ## Host names -/

/-- A label of a host name -/
structure IsLabel (label : List UInt8) : Prop where
  nonempty : label ≠ []
  short : label.length ≤ 63
  allowed : ∀ character ∈ label, dnsAllowed character = true

/-- The text of some labels, with a dot between any two -/
def hostText : List (List UInt8) → List UInt8
  | [] => []
  | [label] => label
  | label :: rest => label ++ dnsDot :: hostText rest

/-- Each label behind its length -/
def wireLabels (labels : List (List UInt8)) : List UInt8 :=
  labels.flatMap fun label => UInt8.ofNat label.length :: label

/-- The name as it stands in a packet: the empty label ends it. -/
def wireName (labels : List (List UInt8)) : List UInt8 := wireLabels labels ++ [0]

/-- The labels of a name that stands at the beginning of the bytes -/
def decodeLabels : List UInt8 → Option (List (List UInt8))
  | [] => none
  | size :: rest =>
    if size = 0 then some []
    else if rest.length < size.toNat then none
    else (decodeLabels (rest.drop size.toNat)).map (rest.take size.toNat :: ·)
termination_by bytes => bytes.length

variable {labels : List (List UInt8)} {label : List UInt8}

theorem hostText_cons (more : labels ≠ []) :
    hostText (label :: labels) = label ++ dnsDot :: hostText labels := by
  cases labels with
  | nil => exact absurd rfl more
  | cons other rest => rfl

theorem wireLabels_cons : wireLabels (label :: labels) =
    UInt8.ofNat label.length :: label ++ wireLabels labels :=
  List.flatMap_cons

/-- In a packet a name takes two bytes more than its text. -/
theorem length_wireName (some : labels ≠ []) :
    (wireName labels).length = (hostText labels).length + 2 := by
  induction labels with
  | nil => exact absurd rfl some
  | cons label labels ih =>
    by_cases last : labels = []
    · simp [last, wireName, wireLabels, hostText]
    have rest := ih last
    rw [wireName, List.length_append] at rest
    rw [hostText_cons last, wireName, wireLabels_cons]
    simp only [List.length_append, List.length_cons] at rest ⊢
    omega

namespace IsLabel

variable (isLabel : IsLabel label)
include isLabel

theorem size : (UInt8.ofNat label.length).toNat = label.length := by
  have short := isLabel.short
  rw [UInt8.toNat_ofNat', Nat.mod_eq_of_lt]
  omega

theorem positive : UInt8.ofNat label.length ≠ 0 := by
  intro zero
  have size := isLabel.size
  rw [zero] at size
  exact isLabel.nonempty (List.eq_nil_of_length_eq_zero size.symm)

/-- The length is neither taken for a pointer nor refused. -/
theorem plain : UInt8.ofNat label.length &&& 0xc0 = 0 := by
  have all : ∀ size < 64, UInt8.ofNat size &&& 0xc0 = 0 := by decide
  exact all label.length (Nat.lt_succ_of_le isLabel.short)

/-- A label ends where the text ends or where a dot follows. -/
theorem scanned {labelLength : Nat} {rest : List UInt8} (few : labelLength + label.length ≤ 63)
    (ends : ∀ character ∈ rest.head?, character = dnsDot) :
    dnsScanLabel labelLength (label ++ rest) = some (label, rest) := by
  have allowed := isLabel.allowed
  clear isLabel
  induction label generalizing labelLength with
  | nil =>
    cases rest with
    | nil => rfl
    | cons character rest => exact if_pos (ends character rfl)
  | cons character label ih =>
    rw [List.forall_mem_cons] at allowed
    rw [List.length_cons] at few
    have notDot : character ≠ dnsDot := by
      rintro rfl
      exact absurd allowed.1 (by decide)
    rw [List.cons_append, dnsScanLabel, if_neg notDot, allowed.1,
      if_neg (by simp only [Bool.true_eq_false, false_or]; omega), ih (by omega) allowed.2]

end IsLabel

/-! ## The encoder -/

theorem dnsEncodeLabels_some {capacity : Nat} {output text result : List UInt8}
    (fits : output.length ≤ capacity) (encoded : dnsEncodeLabels capacity output text = some result)
    (nonempty : text ≠ []) :
    ∃ labels, labels ≠ [] ∧ (∀ label ∈ labels, IsLabel label) ∧ text = hostText labels ∧
      result = output ++ wireLabels labels ∧ result.length ≤ capacity := by
  have isLabel : ∀ {text label rest : List UInt8}, dnsScanLabel 0 text = some (label, rest) →
      label.length ≠ 0 → IsLabel label ∧ text = label ++ rest ∧
        ∀ character ∈ rest.head?, character = dnsDot := by
    intro text label rest scanned some
    rcases dnsScanLabel_some scanned (Nat.zero_le _) with ⟨isText, allowed, short, dot⟩
    refine ⟨⟨?_, Nat.zero_add label.length ▸ short, allowed⟩, isText, dot⟩
    rintro rfl
    exact some rfl
  fun_induction dnsEncodeLabels capacity output text with
  | case1 => exact absurd rfl nonempty
  | case2 => cases encoded
  | case3 => cases encoded
  | case4 =>
    rename_i label room written _ scanned
    rw [not_or, Nat.not_lt] at room
    rcases isLabel scanned room.1 with ⟨sound, rfl, -⟩
    rw [← Option.some.inj encoded]
    refine ⟨[label], List.cons_ne_nil _ _, List.forall_mem_singleton.mpr sound,
      List.append_nil label, ?_, ?_⟩
    · rw [wireLabels_cons, wireLabels, List.flatMap_nil, List.append_nil]
    · simp only [written, List.length_append, List.length_cons]
      omega
  | case5 => cases encoded
  | case6 =>
    rename_i label room written dot later _ more scanned ih
    rw [not_or, Nat.not_lt] at room
    rcases isLabel scanned room.1 with ⟨sound, rfl, isDot⟩
    have within : written.length ≤ capacity := by
      simp only [written, List.length_append, List.length_cons]
      omega
    rcases ih within encoded more with ⟨labels, some, all, rfl, rfl, short⟩
    refine ⟨label :: labels, List.cons_ne_nil _ _, List.forall_mem_cons.mpr ⟨sound, all⟩, ?_, ?_, short⟩
    · rw [hostText_cons some, isDot dot rfl]
    · rw [wireLabels_cons, List.append_assoc]

/-- One turn of the outer loop, for a label that fits -/
theorem dnsEncodeLabels_append {capacity : Nat} {output rest : List UInt8}
    (isLabel : IsLabel label) (ends : ∀ character ∈ rest.head?, character = dnsDot)
    (room : output.length + (1 + label.length) ≤ capacity) :
    dnsEncodeLabels capacity output (label ++ rest) =
      match rest with
      | [] => some (output ++ UInt8.ofNat label.length :: label)
      | _ :: later =>
        if later = [] then none
        else dnsEncodeLabels capacity (output ++ UInt8.ofNat label.length :: label) later := by
  have positive := List.length_pos_iff.mpr isLabel.nonempty
  have scanned := isLabel.scanned (Nat.zero_add label.length ▸ isLabel.short) ends
  have some : label ++ rest ≠ [] := List.append_ne_nil_of_left_ne_nil isLabel.nonempty _
  rw [dnsEncodeLabels, if_neg some]
  split
  · rename_i found
    rw [found] at scanned
    cases scanned
  rename_i found
  rw [found] at scanned
  cases scanned
  rw [if_neg (by omega)]
  cases rest with
  | nil => rfl
  | cons dot later => rfl

theorem hostText_ne_nil (some : labels ≠ []) (all : ∀ label ∈ labels, IsLabel label) :
    hostText labels ≠ [] := by
  cases labels with
  | nil => exact absurd rfl some
  | cons label rest =>
    have nonempty := (all label List.mem_cons_self).nonempty
    cases rest with
    | nil => exact nonempty
    | cons other rest => exact List.append_ne_nil_of_left_ne_nil nonempty _

theorem dnsEncodeLabels_hostText {capacity : Nat} (some : labels ≠ [])
    (all : ∀ label ∈ labels, IsLabel label) :
    ∀ output : List UInt8, output.length + (wireLabels labels).length ≤ capacity →
      dnsEncodeLabels capacity output (hostText labels) = .some (output ++ wireLabels labels) := by
  induction labels with
  | nil => exact absurd rfl some
  | cons label labels ih =>
    intro output fits
    rcases List.forall_mem_cons.mp all with ⟨isLabel, others⟩
    rw [wireLabels_cons, List.length_append, List.length_cons] at fits
    by_cases last : labels = []
    · subst last
      have turn := @dnsEncodeLabels_append _ capacity output [] isLabel nofun (by omega)
      rw [List.append_nil] at turn
      rw [wireLabels_cons, wireLabels, List.flatMap_nil, List.append_nil]
      exact turn
    · rw [hostText_cons last, dnsEncodeLabels_append isLabel (by simp) (by omega)]
      dsimp only
      rw [if_neg (hostText_ne_nil last others), ih last others _ (by simp; omega),
        wireLabels_cons, List.append_assoc]

/-! ## The decoders -/

theorem decodeLabels_wireName (all : ∀ label ∈ labels, IsLabel label) :
    decodeLabels (wireName labels) = some labels := by
  induction labels with
  | nil => rw [wireName, wireLabels, List.flatMap_nil, List.nil_append, decodeLabels, if_pos rfl]
  | cons label labels ih =>
    rcases List.forall_mem_cons.mp all with ⟨isLabel, others⟩
    rw [wireName, wireLabels_cons, List.append_assoc, List.cons_append, decodeLabels,
      if_neg isLabel.positive, isLabel.size, if_neg (by rw [List.length_append]; omega),
      List.drop_left, List.take_left]
    exact congrArg _ (ih others)

/-- A name without pointers is walked through to its end. -/
theorem dnsWalkName_wireName {follow : Nat → Option Bool} {after : List UInt8}
    (all : ∀ label ∈ labels, IsLabel label) :
    ∀ before : List UInt8, dnsWalkName (before ++ wireName labels ++ after) follow before.length =
      some (some (before.length + (wireName labels).length)) := by
  induction labels with
  | nil =>
    intro before
    rw [dnsWalkName]
    simp [wireName, wireLabels]
  | cons label labels ih =>
    intro before
    rcases List.forall_mem_cons.mp all with ⟨isLabel, others⟩
    have isPacket : before ++ wireName (label :: labels) ++ after =
        (before ++ UInt8.ofNat label.length :: label) ++ wireName labels ++ after := by
      simp [wireName, wireLabels_cons]
    have ends := ih others (before ++ UInt8.ofNat label.length :: label)
    rw [← isPacket, List.length_append, List.length_cons] at ends
    have here : (before ++ wireName (label :: labels) ++ after)[before.length]? =
        some (UInt8.ofNat label.length) := by
      simp [wireName, wireLabels_cons]
    have length : (before ++ wireName (label :: labels) ++ after).length =
        before.length + (1 + label.length) + (wireName labels ++ after).length := by
      simp [wireName, wireLabels_cons]
      omega
    rw [dnsWalkName, here]
    dsimp only
    rw [isLabel.size, isLabel.plain, length, if_neg (by omega), if_neg isLabel.positive,
      if_neg (by decide), if_neg (by simpa using isLabel.short), if_neg (by omega), Nat.add_right_comm,
      Nat.add_assoc, ends]
    simp only [wireName, wireLabels_cons, List.length_append, List.length_cons, Nat.add_assoc,
      Nat.add_comm, Nat.add_left_comm]

theorem netDnsSkipName_wireName {before after : List UInt8} (all : ∀ label ∈ labels, IsLabel label) :
    netDnsSkipName (before ++ wireName labels ++ after) before.length =
      some (some (wireName labels).length) := by
  have inside : ¬ (before ++ wireName labels ++ after).length ≤ before.length := by
    simp only [wireName, List.length_append, List.length_singleton]
    omega
  rw [netDnsSkipName, if_neg inside, dnsWalkName_wireName all, Option.map_some, Option.map_some,
    Nat.add_sub_cancel_left]

theorem dnsEncodeName_some {capacity : Nat} {name encoding : List UInt8}
    (encoded : dnsEncodeName capacity name = some encoding) :
    ∃ labels, labels ≠ [] ∧ (∀ label ∈ labels, IsLabel label) ∧ name = hostText labels ∧
      name.length ≤ boringNetHostMax ∧ encoding = wireName labels ∧
      (wireName labels).length ≤ capacity := by
  rw [dnsEncodeName] at encoded
  split at encoded
  · cases encoded
  rename_i sized
  rw [not_or, Nat.not_lt] at sized
  split at encoded
  · cases encoded
  rename_i output found
  split at encoded
  · cases encoded
  rename_i room
  cases encoded
  have some : name ≠ [] := fun empty => sized.1 (congrArg List.length empty)
  rcases dnsEncodeLabels_some (Nat.zero_le _) found some with ⟨labels, more, all, isText, rfl, _⟩
  refine ⟨labels, more, all, isText, sized.2, rfl, ?_⟩
  rw [wireName, List.length_append, List.length_singleton]
  exact Nat.not_le.mp room

theorem dnsEncodeName_hostText {capacity : Nat} (some : labels ≠ [])
    (all : ∀ label ∈ labels, IsLabel label) (short : (hostText labels).length ≤ boringNetHostMax)
    (fits : (wireName labels).length ≤ capacity) :
    dnsEncodeName capacity (hostText labels) = .some (wireName labels) := by
  have sized : ¬ ((hostText labels).length = 0 ∨ boringNetHostMax < (hostText labels).length) :=
    not_or.mpr ⟨fun empty => hostText_ne_nil some all (List.eq_nil_of_length_eq_zero empty),
      Nat.not_lt.mpr short⟩
  rw [wireName, List.length_append, List.length_singleton] at fits
  rw [dnsEncodeName, if_neg sized,
    dnsEncodeLabels_hostText some all [] (by rw [List.length_nil]; omega), List.nil_append]
  exact if_neg (Nat.not_le.mpr fits)

/-- What is encoded is a host name that fits, and the decoders give back its labels and
its length. -/
theorem dns_encode_name_exact (capacity : Nat) (name : List UInt8) :
    ((dnsEncodeName capacity name).isSome = true ↔
      ∃ labels, labels ≠ [] ∧ (∀ label ∈ labels, IsLabel label) ∧ name = hostText labels ∧
        name.length ≤ boringNetHostMax ∧ (wireName labels).length ≤ capacity) ∧
      ∀ encoding, dnsEncodeName capacity name = some encoding →
        (∀ labels, (∀ label ∈ labels, IsLabel label) → name = hostText labels →
          encoding = wireName labels ∧ decodeLabels encoding = some labels) ∧
        ∀ before after, netDnsSkipName (before ++ encoding ++ after) before.length =
          some (some encoding.length) := by
  constructor
  · constructor
    · intro encoded
      rcases Option.isSome_iff_exists.mp encoded with ⟨encoding, encoded⟩
      rcases dnsEncodeName_some encoded with ⟨labels, some, all, isText, short, -, fits⟩
      exact ⟨labels, some, all, isText, short, fits⟩
    · rintro ⟨labels, some, all, rfl, short, fits⟩
      rw [dnsEncodeName_hostText some all short fits, Option.isSome_some]
  · intro encoding encoded
    rcases dnsEncodeName_some encoded with ⟨labels, some, all, isText, short, rfl, fits⟩
    refine ⟨?_, fun before after => netDnsSkipName_wireName all⟩
    intro others allOthers rfl
    have more : others ≠ [] := by
      rintro rfl
      exact hostText_ne_nil some all isText.symm
    rw [length_wireName some, ← isText, ← length_wireName more] at fits
    have isEncoding := dnsEncodeName_hostText more allOthers short fits
    rw [encoded, Option.some.injEq] at isEncoding
    rw [isEncoding]
    exact ⟨rfl, decodeLabels_wireName allOthers⟩

/-! ## Answers -/

def netDnsMaxRecords : Nat := 64

/-- `read_be16`, at an offset of the packet -/
def readBe16? (packet : List UInt8) (offset : Nat) : Option Nat :=
  packet[offset]?.bind fun high =>
    packet[offset + 1]?.map fun low => high.toNat * 256 + low.toNat

/-- `read_be32` -/
def readBe32? (packet : List UInt8) (offset : Nat) : Option Nat :=
  (readBe16? packet offset).bind fun high =>
    (readBe16? packet (offset + 2)).map fun low => high * 65536 + low

/-- The loop over the questions: the offset behind them -/
def dnsSkipQuestions (packet : List UInt8) : (questions offset : Nat) → Option (Option Nat)
  | 0, offset => some (some offset)
  | questions + 1, offset =>
    (netDnsSkipName packet offset).bind fun
      | none => some none
      | some consumed =>
        if packet.length - offset < consumed then some none
        else if packet.length - (offset + consumed) < 4 then some none
        else
          (readBe16? packet (offset + consumed)).bind fun type =>
            (readBe16? packet (offset + consumed + 2)).bind fun classCode =>
              if type ≠ 1 ∨ classCode ≠ 1 then some none
              else dnsSkipQuestions packet questions (offset + consumed + 4)

/-- The loop over the answers: the first address -/
def dnsFindAddress (packet : List UInt8) : (answers offset : Nat) → Option (Option Nat)
  | 0, _ => some none
  | answers + 1, offset =>
    (netDnsSkipName packet offset).bind fun
      | none => some none
      | some consumed =>
        if packet.length - offset < consumed then some none
        else if packet.length - (offset + consumed) < 10 then some none
        else
          (readBe16? packet (offset + consumed)).bind fun type =>
            (readBe16? packet (offset + consumed + 2)).bind fun classCode =>
              (readBe16? packet (offset + consumed + 8)).bind fun dataLength =>
                let data := offset + consumed + 10
                if packet.length - data < dataLength then some none
                else if type = 1 ∧ classCode = 1 ∧ dataLength = 4 then
                  (readBe32? packet data).map fun address =>
                    if address = 0 then none else some address
                else dnsFindAddress packet answers (data + dataLength)

/-- `parse_dns_answer` -/
def parseDnsAnswer (packet : List UInt8) (expectedId : Nat) : Option (Option Nat) :=
  if packet.length < 12 then some none
  else
    (readBe16? packet 0).bind fun id =>
      if id ≠ expectedId then some none
      else
        (readBe16? packet 2).bind fun flags =>
        (readBe16? packet 4).bind fun questions =>
        (readBe16? packet 6).bind fun answers =>
        (readBe16? packet 8).bind fun authorities =>
        (readBe16? packet 10).bind fun additional =>
          if flags &&& 0x8000 = 0 ∨ flags &&& 0x7800 ≠ 0 ∨ flags &&& 0x0200 ≠ 0 ∨
              flags &&& 0x000f ≠ 0 ∨ questions = 0 ∨ answers = 0 ∨
              netDnsMaxRecords < questions + answers + authorities + additional then some none
          else
            (dnsSkipQuestions packet questions 12).bind fun
              | none => some none
              | some offset => dnsFindAddress packet answers offset

/-! ## Well-formed packets -/

/-- A name in a packet, with the number of pointers that are followed on the way to its
last label and the place where the bytes of the name itself end -/
inductive NameAt (packet : List UInt8) : (pointers offset ended : Nat) → Prop
  | root {offset : Nat} (zero : packet[offset]? = some 0) : NameAt packet 0 offset (offset + 1)
  | label {pointers offset ended : Nat} {label : UInt8} (here : packet[offset]? = some label)
      (positive : label ≠ 0) (plain : label.toNat < 64)
      (inside : offset + 1 + label.toNat ≤ packet.length)
      (rest : NameAt packet pointers (offset + 1 + label.toNat) ended) :
      NameAt packet pointers offset ended
  | pointer {pointers offset target ended : Nat} {label low : UInt8}
      (here : packet[offset]? = some label) (next : packet[offset + 1]? = some low)
      (isPointer : 192 ≤ label.toNat)
      (isTarget : target = (label.toNat - 192) * 256 + low.toNat)
      (rest : NameAt packet pointers target ended) :
      NameAt packet (pointers + 1) offset (offset + 2)

/-- A name with no longer chain of pointers than the client follows -/
def AdmittedName (packet : List UInt8) (offset ended : Nat) : Prop :=
  ∃ pointers, pointers ≤ netDnsMaxPointerDepth ∧ NameAt packet pointers offset ended

/-- The questions of a packet, all of type A and class IN -/
inductive QuestionsAt (packet : List UInt8) : (questions offset ended : Nat) → Prop
  | done {offset : Nat} : QuestionsAt packet 0 offset offset
  | question {questions offset after ended : Nat} (name : AdmittedName packet offset after)
      (isType : readBe16? packet after = some 1) (isClass : readBe16? packet (after + 2) = some 1)
      (rest : QuestionsAt packet questions (after + 4) ended) :
      QuestionsAt packet (questions + 1) offset ended

/-- A record: a name, the fixed fields and then the data -/
structure RecordAt (packet : List UInt8) (offset type classCode data dataLength : Nat) :
    Prop where
  name : ∃ after, AdmittedName packet offset after ∧ data = after + 10 ∧
    readBe16? packet after = some type ∧ readBe16? packet (after + 2) = some classCode ∧
    readBe16? packet (after + 8) = some dataLength
  inside : data + dataLength ≤ packet.length

/-- The data of the first record of type A, class IN and length four, behind records
that are well formed -/
inductive FirstAddress (packet : List UInt8) : (answers offset address : Nat) → Prop
  | here {answers offset data address : Nat} (record : RecordAt packet offset 1 1 data 4)
      (isData : readBe32? packet data = some address) :
      FirstAddress packet (answers + 1) offset address
  | later {answers offset type classCode data dataLength address : Nat}
      (record : RecordAt packet offset type classCode data dataLength)
      (other : ¬ (type = 1 ∧ classCode = 1 ∧ dataLength = 4))
      (rest : FirstAddress packet answers (data + dataLength) address) :
      FirstAddress packet (answers + 1) offset address

/-- A response of a name server: not truncated, and without an error -/
structure DnsResponse (packet : List UInt8) (id questions answers : Nat) : Prop where
  isId : readBe16? packet 0 = some id
  flags : ∃ flags, readBe16? packet 2 = some flags ∧ flags &&& 0x8000 ≠ 0 ∧
    flags &&& 0x7800 = 0 ∧ flags &&& 0x0200 = 0 ∧ flags &&& 0x000f = 0
  isQuestions : readBe16? packet 4 = some questions
  isAnswers : readBe16? packet 6 = some answers

/-! ## The reads of a response -/

section Answers

variable {packet : List UInt8}

theorem readBe16_inside {offset : Nat} (inside : offset + 2 ≤ packet.length) :
    ∃ value, readBe16? packet offset = some value := by
  rw [readBe16?, List.getElem?_eq_getElem (by omega), List.getElem?_eq_getElem (by omega)]
  exact ⟨_, rfl⟩

theorem readBe32_inside {offset : Nat} (inside : offset + 4 ≤ packet.length) :
    ∃ value, readBe32? packet offset = some value := by
  rcases @readBe16_inside packet offset (by omega) with ⟨high, isHigh⟩
  rcases @readBe16_inside packet (offset + 2) (by omega) with ⟨low, isLow⟩
  rw [readBe32?, isHigh, isLow]
  exact ⟨_, rfl⟩

theorem pointer_iff (label : UInt8) : label &&& 0xc0 = 0xc0 ↔ 192 ≤ label.toNat := by
  have all : ∀ value < 256, UInt8.ofNat value &&& 0xc0 = 0xc0 ↔ 192 ≤ value := by
    decide +kernel
  simpa using all label.toNat label.toNat_lt

theorem plain_iff (label : UInt8) :
    ¬ (label &&& 0xc0 ≠ 0 ∨ 63 < label.toNat) ↔ label.toNat < 64 := by
  have all : ∀ value < 256, ¬ (UInt8.ofNat value &&& 0xc0 ≠ 0 ∨ 63 < value) ↔ value < 64 := by
    decide +kernel
  simpa using all label.toNat label.toNat_lt

theorem target_eq {label : UInt8} (isPointer : 192 ≤ label.toNat) :
    (label &&& 0x3f).toNat = label.toNat - 192 := by
  have all : ∀ value < 256, 192 ≤ value → (UInt8.ofNat value &&& 0x3f).toNat = value - 192 := by
    decide +kernel
  simpa using all label.toNat label.toNat_lt isPointer

theorem NameAt.inside {pointers offset ended : Nat} (name : NameAt packet pointers offset ended) :
    offset < packet.length := by
  cases name with
  | root zero => exact (List.getElem?_eq_some_iff.mp zero).1
  | label here => exact (List.getElem?_eq_some_iff.mp here).1
  | pointer here => exact (List.getElem?_eq_some_iff.mp here).1

theorem NameAt.atPointer {pointers offset ended : Nat} {label : UInt8}
    (name : NameAt packet pointers offset ended) (here : packet[offset]? = some label)
    (isPointer : 192 ≤ label.toNat) :
    ended = offset + 2 ∧ ∃ low rest after, packet[offset + 1]? = some low ∧
      pointers = rest + 1 ∧ NameAt packet rest ((label.toNat - 192) * 256 + low.toNat) after := by
  cases name with
  | root zero =>
    rw [zero] at here
    cases here
    exact absurd isPointer (by decide)
  | label found _ plain =>
    rw [found] at here
    cases here
    omega
  | pointer found next _ isTarget rest =>
    rw [found] at here
    cases here
    exact ⟨rfl, _, _, _, next, rfl, isTarget ▸ rest⟩

theorem NameAt.atLabel {pointers offset ended : Nat} {label : UInt8}
    (name : NameAt packet pointers offset ended) (here : packet[offset]? = some label)
    (notPointer : ¬ 192 ≤ label.toNat) (positive : label ≠ 0) :
    label.toNat < 64 ∧ offset + 1 + label.toNat ≤ packet.length ∧
      NameAt packet pointers (offset + 1 + label.toNat) ended := by
  cases name with
  | root zero =>
    rw [zero] at here
    cases here
    exact absurd rfl positive
  | label found _ plain inside rest =>
    rw [found] at here
    cases here
    exact ⟨plain, inside, rest⟩
  | pointer found _ isPointer =>
    rw [found] at here
    cases here
    exact absurd isPointer notPointer

theorem NameAt.atRoot {pointers offset ended : Nat} (name : NameAt packet pointers offset ended)
    (zero : packet[offset]? = some 0) : pointers = 0 ∧ ended = offset + 1 := by
  cases name with
  | root => exact ⟨rfl, rfl⟩
  | label found positive =>
    rw [found] at zero
    cases zero
    exact absurd rfl positive
  | pointer found _ isPointer =>
    rw [found] at zero
    cases zero
    exact absurd isPointer (by decide)

/-- The walk stays inside the packet and ends behind exactly the names that need no more
pointers than are left to it. -/
theorem dnsWalkName_exact {follow : Nat → Option Bool} {depth : Nat}
    (few : depth ≤ netDnsMaxPointerDepth)
    (follows : ∀ pointer, ∃ answer, follow pointer = some answer ∧ (answer = true ↔
      ∃ pointers ended, depth + 1 + pointers ≤ netDnsMaxPointerDepth ∧
        NameAt packet pointers pointer ended))
    (cursor : Nat) :
    ∃ result, dnsWalkName packet follow cursor = some result ∧ ∀ ended, result = some ended ↔
      ∃ pointers, depth + pointers ≤ netDnsMaxPointerDepth ∧
        NameAt packet pointers cursor ended := by
  fun_induction dnsWalkName packet follow cursor with
  | case1 cursor outside =>
    refine ⟨none, rfl, fun ended => ⟨nofun, ?_⟩⟩
    rintro ⟨pointers, -, name⟩
    exact absurd name.inside (Nat.not_lt.mpr outside)
  | case2 cursor inside nothing =>
    exact absurd (List.getElem?_eq_none_iff.mp nothing) inside
  | case3 cursor inside zero =>
    refine ⟨_, rfl, fun ended => ⟨?_, ?_⟩⟩
    · rintro ⟨⟩
      exact ⟨0, few, NameAt.root zero⟩
    · rintro ⟨pointers, -, name⟩
      rw [(name.atRoot zero).2]
  | case4 cursor inside label here positive isPointer short =>
    refine ⟨none, rfl, fun ended => ⟨nofun, ?_⟩⟩
    rintro ⟨pointers, -, name⟩
    rcases name.atPointer here ((pointer_iff _).mp isPointer) with ⟨-, low, -, -, next, -⟩
    have := (List.getElem?_eq_some_iff.mp next).1
    omega
  | case5 cursor inside label here positive isPointer long nothing =>
    have := List.getElem?_eq_none_iff.mp nothing
    omega
  | case6 cursor inside label here positive isPointer long low next pointer outside =>
    refine ⟨none, rfl, fun ended => ⟨nofun, ?_⟩⟩
    rintro ⟨pointers, -, name⟩
    have high := (pointer_iff _).mp isPointer
    rcases name.atPointer here high with ⟨-, _, _, _, found, -, rest⟩
    rw [next] at found
    cases found
    rw [← target_eq high] at rest
    exact absurd rest.inside (Nat.not_lt.mpr outside)
  | case7 cursor inside label here positive isPointer long low next pointer within nothing =>
    rcases follows pointer with ⟨answer, found, -⟩
    rw [nothing] at found
    cases found
  | case8 cursor inside label here positive isPointer long low next pointer within refused =>
    refine ⟨none, rfl, fun ended => ⟨nofun, ?_⟩⟩
    rintro ⟨pointers, enough, name⟩
    have high := (pointer_iff _).mp isPointer
    rcases name.atPointer here high with ⟨-, _, rest, after, found, rfl, name⟩
    rw [next] at found
    cases found
    rw [← target_eq high] at name
    rcases follows pointer with ⟨answer, found, isAnswer⟩
    rw [refused] at found
    cases found
    exact absurd (isAnswer.mpr ⟨rest, after, by omega, name⟩) Bool.false_ne_true
  | case9 cursor inside label here positive isPointer long low next pointer within accepted =>
    have high := (pointer_iff _).mp isPointer
    refine ⟨_, rfl, fun ended => ⟨?_, ?_⟩⟩
    · rintro ⟨⟩
      rcases follows pointer with ⟨answer, found, isAnswer⟩
      rw [accepted] at found
      cases found
      rcases isAnswer.mp rfl with ⟨pointers, ended, enough, name⟩
      refine ⟨pointers + 1, by omega, NameAt.pointer here next high ?_ name⟩
      rw [← target_eq high]
    · rintro ⟨pointers, -, name⟩
      rw [(name.atPointer here high).1]
  | case10 cursor inside label here positive notPointer refused =>
    refine ⟨none, rfl, fun ended => ⟨nofun, ?_⟩⟩
    rintro ⟨pointers, -, name⟩
    have low := name.atLabel here (mt (pointer_iff _).mpr notPointer) positive
    exact absurd refused ((plain_iff _).mpr low.1)
  | case11 cursor inside label here positive notPointer plain long =>
    refine ⟨none, rfl, fun ended => ⟨nofun, ?_⟩⟩
    rintro ⟨pointers, -, name⟩
    have low := name.atLabel here (mt (pointer_iff _).mpr notPointer) positive
    omega
  | case12 cursor inside label here positive notPointer plain fits ih =>
    rcases ih with ⟨result, walked, isResult⟩
    refine ⟨result, walked, fun ended => (isResult ended).trans ?_⟩
    constructor
    · rintro ⟨pointers, enough, name⟩
      exact ⟨pointers, enough, NameAt.label here positive ((plain_iff _).mp plain) (by omega) name⟩
    · rintro ⟨pointers, enough, name⟩
      have low := name.atLabel here (mt (pointer_iff _).mpr notPointer) positive
      exact ⟨pointers, enough, low.2.2⟩

theorem dnsValidateName_exact (offset depth : Nat) :
    ∃ answer, dnsValidateName packet offset depth = some answer ∧ (answer = true ↔
      ∃ pointers ended, depth + pointers ≤ netDnsMaxPointerDepth ∧
        NameAt packet pointers offset ended) := by
  fun_induction dnsValidateName packet offset depth with
  | case1 offset depth refused =>
    refine ⟨false, rfl, nofun, ?_⟩
    rintro ⟨pointers, ended, enough, name⟩
    have inside := name.inside
    omega
  | case2 offset depth admitted ih =>
    rcases dnsWalkName_exact (by omega) ih offset with ⟨result, walked, isResult⟩
    refine ⟨result.isSome, by rw [walked, Option.map_some], ?_⟩
    rw [Option.isSome_iff_exists]
    simp only [isResult]
    exact exists_comm

theorem NameAt.offset_lt {pointers offset ended : Nat}
    (name : NameAt packet pointers offset ended) : offset < ended := by
  induction name with
  | root => exact Nat.lt_succ_self _
  | label _ _ _ _ _ ih => omega
  | pointer => omega

theorem netDnsSkipName_exact (offset : Nat) :
    ∃ result, netDnsSkipName packet offset = some result ∧
      ∀ consumed, result = some consumed ↔ AdmittedName packet offset (offset + consumed) := by
  rw [netDnsSkipName]
  split
  · rename_i outside
    refine ⟨none, rfl, fun consumed => ⟨nofun, ?_⟩⟩
    rintro ⟨pointers, -, name⟩
    exact absurd name.inside (Nat.not_lt.mpr outside)
  · rcases dnsWalkName_exact (Nat.zero_le _) (fun pointer => dnsValidateName_exact pointer 1)
      offset with ⟨result, walked, isResult⟩
    simp only [Nat.zero_add] at isResult
    refine ⟨_, by rw [walked, Option.map_some], fun consumed => ?_⟩
    rw [AdmittedName, ← isResult, Option.map_eq_some_iff]
    constructor
    · rintro ⟨ended, rfl, rfl⟩
      rcases (isResult ended).mp rfl with ⟨pointers, -, name⟩
      rw [Nat.add_sub_cancel' (Nat.le_of_lt name.offset_lt)]
    · intro ends
      exact ⟨_, ends, Nat.add_sub_cancel_left _ _⟩

theorem dnsSkipQuestions_sound (questions offset : Nat) :
    ∃ result, dnsSkipQuestions packet questions offset = some result ∧
      ∀ ended, result = some ended → QuestionsAt packet questions offset ended := by
  induction questions generalizing offset with
  | zero =>
    refine ⟨_, rfl, ?_⟩
    rintro ended ⟨⟩
    exact QuestionsAt.done
  | succ questions ih =>
    rcases @netDnsSkipName_exact packet offset with ⟨skipped, skips, isName⟩
    rw [dnsSkipQuestions, skips, Option.bind_some]
    cases skipped with
    | none => exact ⟨none, rfl, nofun⟩
    | some consumed =>
      dsimp only
      split
      · exact ⟨none, rfl, nofun⟩
      split
      · exact ⟨none, rfl, nofun⟩
      rcases @readBe16_inside packet (offset + consumed) (by omega) with ⟨type, isType⟩
      rcases @readBe16_inside packet (offset + consumed + 2) (by omega) with ⟨classCode, isClass⟩
      rw [isType, Option.bind_some, isClass, Option.bind_some]
      split
      · exact ⟨none, rfl, nofun⟩
      rename_i asked
      simp only [ne_eq, not_or, Decidable.not_not] at asked
      rcases ih (offset + consumed + 4) with ⟨result, found, sound⟩
      refine ⟨result, found, fun ended isEnd => ?_⟩
      exact QuestionsAt.question ((isName consumed).mp rfl) (asked.1 ▸ isType) (asked.2 ▸ isClass)
        (sound ended isEnd)

theorem dnsFindAddress_sound (answers offset : Nat) :
    ∃ result, dnsFindAddress packet answers offset = some result ∧
      ∀ address, result = some address → address ≠ 0 ∧ FirstAddress packet answers offset address := by
  induction answers generalizing offset with
  | zero => exact ⟨none, rfl, nofun⟩
  | succ answers ih =>
    rcases @netDnsSkipName_exact packet offset with ⟨skipped, skips, isName⟩
    rw [dnsFindAddress, skips, Option.bind_some]
    cases skipped with
    | none => exact ⟨none, rfl, nofun⟩
    | some consumed =>
      dsimp only
      split
      · exact ⟨none, rfl, nofun⟩
      split
      · exact ⟨none, rfl, nofun⟩
      rcases @readBe16_inside packet (offset + consumed) (by omega) with ⟨type, isType⟩
      rcases @readBe16_inside packet (offset + consumed + 2) (by omega) with ⟨classCode, isClass⟩
      rcases @readBe16_inside packet (offset + consumed + 8) (by omega) with ⟨dataLength, isLength⟩
      rw [isType, Option.bind_some, isClass, Option.bind_some, isLength, Option.bind_some]
      split
      · exact ⟨none, rfl, nofun⟩
      have record : RecordAt packet offset type classCode (offset + consumed + 10) dataLength :=
        { name := ⟨_, (isName consumed).mp rfl, rfl, isType, isClass, isLength⟩
          inside := by omega }
      split
      · rename_i isAddress
        rcases isAddress with ⟨rfl, rfl, rfl⟩
        rcases readBe32_inside record.inside with ⟨address, isData⟩
        refine ⟨_, by rw [isData, Option.map_some], ?_⟩
        intro found isFound
        split at isFound
        · cases isFound
        · cases isFound
          exact ⟨‹_›, FirstAddress.here record isData⟩
      · rename_i other
        rcases ih (offset + consumed + 10 + dataLength) with ⟨result, found, sound⟩
        refine ⟨result, found, fun address isFound => ?_⟩
        rcases sound address isFound with ⟨nonzero, first⟩
        exact ⟨nonzero, FirstAddress.later record other first⟩

end Answers

/-- Nothing is read outside a packet, a name is accepted if its chain of pointers is short
enough, and an address is the data of the first matching record of the response. -/
theorem parse_dns_answer_sound (packet : List UInt8) (expectedId : Nat) :
    (∀ offset depth, ∃ answer, dnsValidateName packet offset depth = some answer ∧
      (answer = true ↔ ∃ pointers ended, depth + pointers ≤ netDnsMaxPointerDepth ∧
        NameAt packet pointers offset ended)) ∧
    (∀ offset, ∃ result, netDnsSkipName packet offset = some result ∧
      ∀ consumed, result = some consumed ↔ AdmittedName packet offset (offset + consumed)) ∧
    ∃ result, parseDnsAnswer packet expectedId = some result ∧
      ∀ address, result = some address → address ≠ 0 ∧ ∃ questions answers start,
        DnsResponse packet expectedId questions answers ∧
        QuestionsAt packet questions 12 start ∧ FirstAddress packet answers start address := by
  refine ⟨dnsValidateName_exact, netDnsSkipName_exact, ?_⟩
  rw [parseDnsAnswer]
  split
  · exact ⟨none, rfl, nofun⟩
  rename_i long
  have reads : ∀ offset, offset + 2 ≤ 12 → ∃ value, readBe16? packet offset = some value :=
    fun offset inside => readBe16_inside (by omega)
  rcases reads 0 (by decide) with ⟨id, isId⟩
  rw [isId, Option.bind_some]
  split
  · exact ⟨none, rfl, nofun⟩
  rename_i expected
  rw [Decidable.not_not] at expected
  rcases reads 2 (by decide) with ⟨flags, isFlags⟩
  rcases reads 4 (by decide) with ⟨questions, isQuestions⟩
  rcases reads 6 (by decide) with ⟨answers, isAnswers⟩
  rcases reads 8 (by decide) with ⟨authorities, isAuthorities⟩
  rcases reads 10 (by decide) with ⟨additional, isAdditional⟩
  rw [isFlags, isQuestions, isAnswers, isAuthorities, isAdditional]
  simp only [Option.bind_some]
  split
  · exact ⟨none, rfl, nofun⟩
  rename_i accepted
  simp only [ne_eq, not_or, Decidable.not_not] at accepted
  rcases @dnsSkipQuestions_sound packet questions 12 with ⟨behind, skips, asked⟩
  rw [skips, Option.bind_some]
  cases behind with
  | none => exact ⟨none, rfl, nofun⟩
  | some start =>
    rcases @dnsFindAddress_sound packet answers start with ⟨result, found, sound⟩
    refine ⟨result, found, fun address isFound => ?_⟩
    rcases sound address isFound with ⟨nonzero, first⟩
    refine ⟨nonzero, questions, answers, start, ?_, asked start rfl, first⟩
    exact
      { isId := expected ▸ isId
        flags := ⟨flags, isFlags, accepted.1, accepted.2.1, accepted.2.2.1, accepted.2.2.2.1⟩
        isQuestions := isQuestions
        isAnswers := isAnswers }

end BoringOS.Net
