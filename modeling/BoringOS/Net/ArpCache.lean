import BoringOS.Library.Run
import BoringOS.Net.Dhcp

namespace BoringOS.Net

open Library

/-!
# The ARP cache

`process_arp`, `arp_cache_put` and `arp_cache_get` of `kernel/core/net.c`.  A
packet for this host, a request or a reply, teaches the cache the hardware
address of its sender.  A known address is updated where it stands, a new one
takes the next slot of a ring.

The history of a run keeps the accepted packets, each with whether it brought
a new entry.  The cache is a function of this history: the last eight
addresses that were inserted, with the hardware address that was accepted
last for each of them.
-/

def netEthHeader : Nat := 14
def netArpBytes : Nat := 28
def netArpCache : Nat := 8
def netEthertypeArp : Nat := 0x0806
def netEthertypeIpv4 : Nat := 0x0800
def netIpv4Zero : Nat := 0
def netIpv4Broadcast : Nat := 0xffffffff

def zeroMac : List UInt8 := List.replicate 6 0
def broadcastMac : List UInt8 := List.replicate 6 0xff

section

variable (bytes : List UInt8) (offset : Nat)

def readBe16 : Nat := loadLe (slice bytes offset 2).reverse

def readBe32 : Nat := loadLe (slice bytes offset 4).reverse

end

/-- `struct net_arp_entry` -/
structure ArpEntry where
  valid : Bool
  address : Nat
  mac : List UInt8
deriving DecidableEq, Repr

/-- The variables that decide what becomes of an ARP packet -/
structure ArpState where
  nicMac : List UInt8
  configured : Bool
  address : Nat
  cache : Nat → ArpEntry
  replace : Nat

namespace ArpState

variable (net : ArpState)

/-- `mac_for_us` -/
def macForUs (mac : List UInt8) : Prop := mac = net.nicMac ∨ mac = broadcastMac

instance (mac : List UInt8) : Decidable (net.macForUs mac) := inferInstanceAs (Decidable (_ ∨ _))

/-- The slot that both searches of the cache stop at -/
def arpIndex (address : Nat) : Option Nat :=
  (List.range netArpCache).find? fun index =>
    (net.cache index).valid && decide ((net.cache index).address = address)

def arpCachePut (address : Nat) (mac : List UInt8) : ArpState :=
  if address = netIpv4Zero ∨ address = netIpv4Broadcast ∨ mac.getD 0 0 &&& 1 ≠ 0 then net
  else
    match net.arpIndex address with
    | some index =>
      { net with cache := Function.update net.cache index { net.cache index with mac := mac } }
    | none =>
      { net with
        cache := Function.update net.cache net.replace ⟨true, address, mac⟩
        replace := (net.replace + 1) % netArpCache }

def arpCacheGet (address : Nat) : Option (List UInt8) :=
  (net.arpIndex address).map fun index => (net.cache index).mac

/-- `send_arp`, as the frame that it hands to the card -/
def sendArp (operation : Nat) (destinationMac : List UInt8) (targetIp : Nat)
    (targetMac : List UInt8) : List UInt8 :=
  destinationMac ++ net.nicMac ++ writeBe16 netEthertypeArp ++ writeBe16 1 ++
    writeBe16 netEthertypeIpv4 ++ [6, 4] ++ writeBe16 operation ++ net.nicMac ++
    writeBe32 net.address ++ targetMac ++ writeBe32 targetIp

/-- `process_arp`, with the frame that is sent in answer -/
def processArp (frame : List UInt8) : ArpState × Option (List UInt8) :=
  if frame.length < netEthHeader + netArpBytes ∨ ¬ net.macForUs (slice frame 0 6) ∨
      readBe16 frame 12 ≠ netEthertypeArp then (net, none)
  else
    let arp := frame.drop netEthHeader
    if readBe16 arp 0 ≠ 1 ∨ readBe16 arp 2 ≠ netEthertypeIpv4 ∨ arp.getD 4 0 ≠ 6 ∨ arp.getD 5 0 ≠ 4 then
      (net, none)
    else
      let operation := readBe16 arp 6
      if operation ≠ 1 ∧ operation ≠ 2 then (net, none)
      else
        let senderMac := slice arp 8 6
        let senderIp := readBe32 arp 14
        let targetIp := readBe32 arp 24
        let learned :=
          if senderIp ≠ netIpv4Zero ∧ senderMac.getD 0 0 &&& 1 = 0 then net.arpCachePut senderIp senderMac
          else net
        if operation = 2 then
          if net.configured = false ∨ targetIp ≠ net.address ∨ slice arp 18 6 ≠ net.nicMac then (net, none)
          else (learned, none)
        else if net.configured = true ∧ targetIp = net.address ∧ senderMac ≠ zeroMac then
          (learned, some (net.sendArp 2 senderMac senderIp senderMac))
        else (net, none)

/-- A packet that asks this host for its address, or answers this host -/
def ArpForUs (frame : List UInt8) : Prop :=
  let arp := frame.drop netEthHeader
  netEthHeader + netArpBytes ≤ frame.length ∧ net.macForUs (slice frame 0 6) ∧
    readBe16 frame 12 = netEthertypeArp ∧ readBe16 arp 0 = 1 ∧ readBe16 arp 2 = netEthertypeIpv4 ∧
    arp.getD 4 0 = 6 ∧ arp.getD 5 0 = 4 ∧ net.configured = true ∧ readBe32 arp 24 = net.address ∧
    (readBe16 arp 6 = 1 ∧ slice arp 8 6 ≠ zeroMac ∨ readBe16 arp 6 = 2 ∧ slice arp 18 6 = net.nicMac)

instance (frame : List UInt8) : Decidable (net.ArpForUs frame) := inferInstanceAs (Decidable (_ ∧ _))

/-- An entry that the cache is ready to take -/
def Admissible (address : Nat) (mac : List UInt8) : Prop :=
  address ≠ netIpv4Zero ∧ address ≠ netIpv4Broadcast ∧ mac.getD 0 0 &&& 1 = 0

instance (address : Nat) (mac : List UInt8) : Decidable (Admissible address mac) :=
  inferInstanceAs (Decidable (_ ∧ _))

/-- The addresses that a packet is accepted with -/
def arpSender (frame : List UInt8) : Option (Nat × List UInt8) :=
  let arp := frame.drop netEthHeader
  if net.ArpForUs frame ∧ Admissible (readBe32 arp 14) (slice arp 8 6) then
    some (readBe32 arp 14, slice arp 8 6)
  else none

end ArpState

/-- What a cache is told and asked -/
inductive ArpEvent where
  | nic (mac : List UInt8)
  | configure (configured : Bool) (address : Nat)
  | receive (frame : List UInt8)
  | lookup (address : Nat)
deriving DecidableEq, Repr

/-- An accepted packet, and whether its sender was not in the cache before -/
structure Learned where
  address : Nat
  mac : List UInt8
  inserted : Bool
deriving DecidableEq, Repr

/-- A state of the cache, with the packets accepted up to it -/
structure ArpTrace where
  net : ArpState
  accepted : List Learned

namespace ArpTrace

def step (trace : ArpTrace) : ArpEvent → ArpTrace
  | .nic mac => { trace with net := { trace.net with nicMac := mac } }
  | .configure configured address =>
    { trace with net := { trace.net with configured := configured, address := address } }
  | .lookup _ => trace
  | .receive frame =>
    { net := (trace.net.processArp frame).1
      accepted := trace.accepted ++ ((trace.net.arpSender frame).map fun sender =>
        ⟨sender.1, sender.2, (trace.net.arpCacheGet sender.1).isNone⟩).toList }

/-- The cache is cleared when the system starts. -/
def start : ArpTrace := ⟨⟨[], false, 0, fun _ => ⟨false, 0, zeroMac⟩, 0⟩, []⟩

/-- The hardware address of the packet that was accepted last for an address -/
def lastMac (accepted : List Learned) (address : Nat) : Option (List UInt8) :=
  (accepted.reverse.find? fun packet => decide (packet.address = address)).map (·.mac)

/-- The addresses that entries were made for, in their order -/
def insertions (accepted : List Learned) : List Nat :=
  (accepted.filter (·.inserted)).map (·.address)

/-- What holds of the cache after every run -/
structure CacheExact (trace : ArpTrace) : Prop where
  unique : ∀ index < netArpCache, ∀ other < netArpCache, (trace.net.cache index).valid = true →
    (trace.net.cache other).valid = true →
    (trace.net.cache index).address = (trace.net.cache other).address → index = other
  fresh : ∀ before packet after, trace.accepted = before ++ packet :: after → packet.inserted = true →
    (insertions after).length < netArpCache →
    (trace.net.arpCacheGet packet.address).isSome = true ∧
      trace.net.arpCacheGet packet.address = lastMac trace.accepted packet.address
  admissible : ∀ index < netArpCache, (trace.net.cache index).valid = true →
    ArpState.Admissible (trace.net.cache index).address (trace.net.cache index).mac

/-- No entry has the hardware address of all zeros. -/
def NoZeroMac (trace : ArpTrace) : Prop :=
  ∀ index < netArpCache, (trace.net.cache index).valid = true → (trace.net.cache index).mac ≠ zeroMac

/-- A reply that this host learns from names the hardware address of its sender. -/
def RepliesNamed (trace : ArpTrace) : ArpEvent → Prop
  | .receive frame =>
    let arp := frame.drop netEthHeader
    trace.net.ArpForUs frame ∧ readBe16 arp 6 = 2 ∧
      ArpState.Admissible (readBe32 arp 14) (slice arp 8 6) → slice arp 8 6 ≠ zeroMac
  | _ => True

instance (trace : ArpTrace) : ∀ event, Decidable (RepliesNamed trace event)
  | .receive _ => inferInstanceAs (Decidable (_ → _))
  | .nic _ | .configure _ _ | .lookup _ => inferInstanceAs (Decidable True)

end ArpTrace

/-!
## One packet
-/

section

variable {net : ArpState} {address index : Nat} {mac frame : List UInt8}

theorem arpIndex_some (found : net.arpIndex address = some index) :
    index < netArpCache ∧ (net.cache index).valid = true ∧ (net.cache index).address = address := by
  have holds := List.find?_some found
  rw [Bool.and_eq_true, decide_eq_true_iff] at holds
  exact ⟨List.mem_range.mp (List.mem_of_find?_eq_some found), holds⟩

theorem arpIndex_none (missed : net.arpIndex address = none) (below : index < netArpCache)
    (valid : (net.cache index).valid = true) : (net.cache index).address ≠ address := by
  intro same
  apply List.find?_eq_none.mp missed index (List.mem_range.mpr below)
  rw [valid, same, decide_eq_true rfl, Bool.and_self]

/-- The cache refuses what it must not take, which the code asks in part before. -/
theorem arpCachePut_refused (refused : ¬ ArpState.Admissible address mac) :
    net.arpCachePut address mac = net := by
  apply if_pos
  by_contra taken
  rw [not_or, not_or, Classical.not_not] at taken
  exact refused taken

theorem arpCachePut_checked :
    (if address ≠ netIpv4Zero ∧ mac.getD 0 0 &&& 1 = 0 then net.arpCachePut address mac else net) =
      net.arpCachePut address mac := by
  split_ifs with checked
  · rfl
  · exact (arpCachePut_refused fun admissible => checked ⟨admissible.1, admissible.2.2⟩).symm

theorem processArp_forUs : (net.processArp frame).1 =
    if net.ArpForUs frame then
      net.arpCachePut (readBe32 (frame.drop netEthHeader) 14) (slice (frame.drop netEthHeader) 8 6)
    else net := by
  rw [ArpState.processArp]
  simp only [arpCachePut_checked]
  split_ifs with framed forUs header forUs operation forUs reply refused forUs forUs request forUs forUs
  all_goals try rfl
  all_goals simp_all [ArpState.ArpForUs]
  exact absurd framed (Nat.not_lt.mpr forUs.1)

/-- The conditions of a packet, those of the cache included, are checked in
several places of the code. -/
theorem processArp_cache : (net.processArp frame).1 =
    match net.arpSender frame with
    | some (address, mac) => net.arpCachePut address mac
    | none => net := by
  rw [processArp_forUs, ArpState.arpSender]
  split_ifs with forUs accepted accepted
  · rfl
  · exact arpCachePut_refused fun admissible => accepted ⟨forUs, admissible⟩
  · exact absurd accepted.1 forUs
  · rfl

end

namespace ArpTrace

variable {net : ArpState} {accepted : List Learned} {address : Nat} {mac : List UInt8}

theorem insertions_append (first second : List Learned) :
    insertions (first ++ second) = insertions first ++ insertions second := by
  rw [insertions, List.filter_append, List.map_append]
  rfl

theorem lastMac_append (packet : Learned) : lastMac (accepted ++ [packet]) address =
    if packet.address = address then some packet.mac else lastMac accepted address := by
  rw [lastMac, List.reverse_append, List.reverse_singleton, List.singleton_append, List.find?_cons]
  split_ifs with same
  · rw [decide_eq_true same]
    rfl
  · rw [decide_eq_false same]
    rfl

theorem lastMac_mem (last : some mac = lastMac accepted address) :
    ∃ packet ∈ accepted, packet.address = address ∧ packet.mac = mac := by
  obtain ⟨packet, found, isMac⟩ := Option.map_eq_some_iff.mp last.symm
  exact ⟨packet, List.mem_reverse.mp (List.mem_of_find?_eq_some found),
    by simpa using List.find?_some found, isMac⟩

/-- An entry was made for the address, and the ring has not come around since. -/
def Recent (accepted : List Learned) (place address : Nat) : Prop :=
  (insertions accepted)[place]? = some address ∧ (insertions accepted).length ≤ place + netArpCache

/-- Which entry stands in which slot: the one that was made at some place of
the history stands in the slot of this place, modulo the size of the ring. -/
structure Tracked (cache : Nat → ArpEntry) (replace : Nat) (accepted : List Learned) : Prop where
  slot : replace = (insertions accepted).length % netArpCache
  stored : ∀ {place address}, Recent accepted place address →
    (cache (place % netArpCache)).valid = true ∧
      (cache (place % netArpCache)).address = address ∧
      some (cache (place % netArpCache)).mac = lastMac accepted address
  known : ∀ {index}, index < netArpCache → (cache index).valid = true →
    ∃ place, Recent accepted place (cache index).address ∧ place % netArpCache = index
  single : ∀ {place other address}, Recent accepted place address → Recent accepted other address →
    place = other

namespace Tracked

variable (tracked : Tracked net.cache net.replace accepted)
include tracked

theorem unique {index other : Nat} (below : index < netArpCache) (otherBelow : other < netArpCache)
    (valid : (net.cache index).valid = true) (otherValid : (net.cache other).valid = true)
    (same : (net.cache index).address = (net.cache other).address) : index = other := by
  obtain ⟨place, recent, rfl⟩ := tracked.known below valid
  obtain ⟨otherPlace, otherRecent, rfl⟩ := tracked.known otherBelow otherValid
  rw [same] at recent
  rw [tracked.single recent otherRecent]

/-- A recent entry is found, with the hardware address that came last. -/
theorem get_recent {place : Nat} (recent : Recent accepted place address) :
    (net.arpCacheGet address).isSome = true ∧ net.arpCacheGet address = lastMac accepted address := by
  obtain ⟨valid, isAddress, last⟩ := tracked.stored recent
  have below : place % netArpCache < netArpCache := Nat.mod_lt _ (by decide)
  rw [ArpState.arpCacheGet]
  cases found : net.arpIndex address with
  | none => exact absurd isAddress (arpIndex_none found below valid)
  | some index =>
    obtain ⟨inTable, foundValid, foundAddress⟩ := arpIndex_some found
    have same := tracked.unique inTable below foundValid valid (foundAddress.trans isAddress.symm)
    rw [same, ← last]
    exact ⟨rfl, rfl⟩

/-- An address that is in the cache gets another hardware address. -/
theorem updated {index : Nat} (found : net.arpIndex address = some index) :
    Tracked (Function.update net.cache index { net.cache index with mac := mac }) net.replace
      (accepted ++ [⟨address, mac, false⟩]) := by
  obtain ⟨below, valid, isAddress⟩ := arpIndex_some found
  have kept : insertions (accepted ++ [⟨address, mac, false⟩]) = insertions accepted := by
    rw [insertions_append]
    exact List.append_nil _
  have same : ∀ place other, Recent (accepted ++ [⟨address, mac, false⟩]) place other ↔
      Recent accepted place other := fun place other => by rw [Recent, Recent, kept]
  refine ⟨by rw [kept]; exact tracked.slot, fun {place other} recent => ?_, fun {other} otherBelow => ?_,
    fun {place other name} => by rw [same, same]; exact tracked.single⟩
  · obtain ⟨otherValid, isOther, last⟩ := tracked.stored ((same _ _).mp recent)
    rw [lastMac_append]
    by_cases here : place % netArpCache = index
    · subst here
      rw [Function.update_self, if_pos (isAddress.symm.trans isOther)]
      exact ⟨valid, isOther, rfl⟩
    rw [Function.update_of_ne here, if_neg]
    · exact ⟨otherValid, isOther, last⟩
    · intro again
      apply here
      exact tracked.unique (Nat.mod_lt _ (by decide)) below otherValid valid
        (isOther.trans (again.symm.trans isAddress.symm))
  · by_cases here : other = index
    · subst here
      rw [Function.update_self]
      simpa only [same] using tracked.known below
    · rw [Function.update_of_ne here]
      simpa only [same] using tracked.known otherBelow

/-- A new entry takes the slot of the one that was made eight insertions before. -/
theorem inserted (missed : net.arpIndex address = none) :
    Tracked (Function.update net.cache net.replace ⟨true, address, mac⟩)
      ((net.replace + 1) % netArpCache) (accepted ++ [⟨address, mac, true⟩]) := by
  have grown : insertions (accepted ++ [⟨address, mac, true⟩]) = insertions accepted ++ [address] :=
    insertions_append _ _
  have slot := tracked.slot
  have absent : ∀ {place other}, Recent accepted place other → other ≠ address := by
    intro place other recent
    obtain ⟨valid, isOther, -⟩ := tracked.stored recent
    rw [← isOther]
    exact arpIndex_none missed (Nat.mod_lt _ (by decide)) valid
  have split : ∀ {place other}, Recent (accepted ++ [⟨address, mac, true⟩]) place other →
      place = (insertions accepted).length ∧ other = address ∨
        Recent accepted place other ∧ place % netArpCache ≠ net.replace := by
    intro place other recent
    rw [Recent, grown, List.length_append, List.length_singleton] at recent
    obtain ⟨isOther, near⟩ := recent
    rcases Nat.lt_or_ge place (insertions accepted).length with earlier | last
    · rw [List.getElem?_append_left earlier] at isOther
      refine Or.inr ⟨⟨isOther, by omega⟩, ?_⟩
      rw [slot]
      unfold netArpCache at near ⊢
      omega
    · have within := (List.getElem?_eq_some_iff.mp isOther).1
      rw [List.length_append, List.length_singleton] at within
      obtain rfl : place = (insertions accepted).length := by omega
      rw [List.getElem?_concat_length] at isOther
      exact Or.inl ⟨rfl, (Option.some.inj isOther).symm⟩
  refine ⟨?_, fun {place other} recent => ?_, fun {index} below valid => ?_,
    fun {place other name} first second => ?_⟩
  · rw [grown, List.length_append, List.length_singleton, slot, Nat.mod_add_mod]
  · rw [lastMac_append]
    rcases split recent with ⟨rfl, rfl⟩ | ⟨old, elsewhere⟩
    · rw [← slot, Function.update_self, if_pos rfl]
      exact ⟨rfl, rfl, rfl⟩
    · rw [Function.update_of_ne elsewhere, if_neg (absent old).symm]
      exact tracked.stored old
  · by_cases here : index = net.replace
    · subst here
      rw [Function.update_self]
      refine ⟨(insertions accepted).length, ⟨?_, ?_⟩, slot.symm⟩
      · rw [grown, List.getElem?_concat_length]
      · rw [grown, List.length_append, List.length_singleton]
        exact Nat.add_le_add_left (by decide) _
    · rw [Function.update_of_ne here] at valid ⊢
      obtain ⟨place, ⟨isOther, near⟩, rfl⟩ := tracked.known below valid
      refine ⟨place, ⟨?_, ?_⟩, rfl⟩
      · rw [grown, List.getElem?_append_left (List.getElem?_eq_some_iff.mp isOther).1, isOther]
      · rw [grown, List.length_append, List.length_singleton]
        rw [slot] at here
        unfold netArpCache at near here ⊢
        omega
  · rcases split first with ⟨rfl, rfl⟩ | ⟨old, -⟩ <;>
      rcases split second with ⟨rfl, named⟩ | ⟨other, -⟩
    · rfl
    · exact absurd rfl (absent other)
    · exact absurd named (absent old)
    · exact tracked.single old other

/-- The step lemma: one accepted packet -/
theorem put (admissible : ArpState.Admissible address mac) :
    Tracked (net.arpCachePut address mac).cache (net.arpCachePut address mac).replace
      (accepted ++ [⟨address, mac, (net.arpCacheGet address).isNone⟩]) := by
  have taken : ¬ (address = netIpv4Zero ∨ address = netIpv4Broadcast ∨ mac.getD 0 0 &&& 1 ≠ 0) := by
    rw [not_or, not_or, Classical.not_not]
    exact admissible
  rw [ArpState.arpCachePut, if_neg taken, ArpState.arpCacheGet]
  cases found : net.arpIndex address with
  | none => exact tracked.inserted found
  | some index => exact tracked.updated found

end Tracked

theorem entry_of_accepted {cache : Nat → ArpEntry} {replace index : Nat} {holds : Nat → List UInt8 → Prop}
    (tracked : Tracked cache replace accepted)
    (every : ∀ packet ∈ accepted, holds packet.address packet.mac) (below : index < netArpCache)
    (valid : (cache index).valid = true) : holds (cache index).address (cache index).mac := by
  obtain ⟨place, recent, rfl⟩ := tracked.known below valid
  obtain ⟨packet, member, isAddress, isMac⟩ := lastMac_mem (tracked.stored recent).2.2
  rw [← isAddress, ← isMac]
  exact every packet member

theorem arpSender_some {frame : List UInt8} {sender : Nat × List UInt8}
    (sent : net.arpSender frame = some sender) :
    net.ArpForUs frame ∧ ArpState.Admissible sender.1 sender.2 ∧
      sender.1 = readBe32 (frame.drop netEthHeader) 14 ∧
        sender.2 = slice (frame.drop netEthHeader) 8 6 := by
  obtain ⟨accepted, isSender⟩ := Option.ite_none_right_eq_some.mp sent
  obtain rfl := Option.some.inj isSender
  exact ⟨accepted.1, accepted.2, rfl, rfl⟩

/-- The history explains the cache, and its packets have something in common. -/
def Recorded (holds : Nat → List UInt8 → Prop) (trace : ArpTrace) : Prop :=
  Tracked trace.net.cache trace.net.replace trace.accepted ∧
    ∀ packet ∈ trace.accepted, holds packet.address packet.mac

theorem recorded_start (holds : Nat → List UInt8 → Prop) : Recorded holds start := by
  refine ⟨⟨rfl, fun recent => ?_, fun _ valid => ?_, fun recent => ?_⟩, fun packet member => ?_⟩
  · cases recent.1
  · cases valid
  · cases recent.1
  · cases member

/-- The step lemma of a run: an accepted packet is recorded, nothing else
changes the cache. -/
theorem recorded_step {holds : Nat → List UInt8 → Prop} (trace : ArpTrace) (event : ArpEvent)
    (recorded : Recorded holds trace)
    (taught : ∀ frame sender, event = .receive frame → trace.net.arpSender frame = some sender →
      holds sender.1 sender.2) : Recorded holds (trace.step event) := by
  obtain ⟨tracked, every⟩ := recorded
  cases event with
  | nic mac => exact ⟨tracked, every⟩
  | configure configured address => exact ⟨tracked, every⟩
  | lookup address => exact ⟨tracked, every⟩
  | receive frame =>
    rw [Recorded, step, processArp_cache]
    cases sent : trace.net.arpSender frame with
    | none =>
      rw [Option.map_none, Option.toList_none, List.append_nil]
      exact ⟨tracked, every⟩
    | some sender =>
      refine ⟨tracked.put (arpSender_some sent).2.1, fun packet member => ?_⟩
      rcases List.mem_append.mp member with old | new
      · exact every packet old
      · rw [List.mem_singleton.mp new]
        exact taught frame sender rfl sent

theorem cacheExact_of_recorded {trace : ArpTrace} (recorded : Recorded ArpState.Admissible trace) :
    CacheExact trace := by
  obtain ⟨tracked, admissible⟩ := recorded
  refine ⟨fun index below other otherBelow => tracked.unique below otherBelow,
    fun before packet after isAll isInserted few => ?_, fun index => entry_of_accepted tracked admissible⟩
  have all : insertions trace.accepted =
      insertions before ++ packet.address :: insertions after := by
    rw [isAll, insertions_append]
    exact congrArg _ (congrArg _ (List.filter_cons_of_pos isInserted))
  refine @Tracked.get_recent _ _ _ tracked (insertions before).length ?_
  rw [Recent, all, List.getElem?_append_right (Nat.le_refl _), Nat.sub_self, List.length_append,
    List.length_cons]
  exact ⟨rfl, by omega⟩

/-- After every run an address has at most one entry, an address whose entry
was made less than a table ago has the hardware address that was accepted
last, and no entry is for a group.  A hardware address of all zeros comes in
by a reply only, and never by a request. -/
theorem arp_cache_exact (events : List ArpEvent) :
    CacheExact (run step start events) ∧
      (Respects step RepliesNamed start events → NoZeroMac (run step start events)) := by
  constructor
  · apply cacheExact_of_recorded
    refine run_invariant (fun trace event recorded => ?_) events start (recorded_start _)
    exact recorded_step trace event recorded fun _ _ _ sent => (arpSender_some sent).2.1
  · intro respects
    have recorded : Recorded (fun _ mac => mac ≠ zeroMac) (run step start events) := by
      refine run_invariant_of_respects (fun trace event recorded named => ?_) events start
        (recorded_start _) respects
      refine recorded_step trace event recorded fun frame sender isEvent sent => ?_
      subst isEvent
      obtain ⟨forUs, admissible, isAddress, isMac⟩ := arpSender_some sent
      rw [isMac]
      rcases forUs.2.2.2.2.2.2.2.2.2 with ⟨-, request⟩ | ⟨reply, -⟩
      · exact request
      · exact named ⟨forUs, reply, by rwa [← isAddress, ← isMac]⟩
    intro index below valid
    exact @entry_of_accepted _ _ _ _ (fun _ mac => mac ≠ zeroMac) recorded.1 recorded.2 below valid

/-- A packet of the host `10.0.2.2` to the host `10.0.2.15` -/
def arpPacket (operation : UInt8) (senderMac : List UInt8) : List UInt8 :=
  broadcastMac ++ senderMac ++ [8, 6, 0, 1, 8, 0, 6, 4, 0, operation] ++ senderMac ++ [10, 0, 2, 2] ++
    [2, 0, 0, 0, 0, 1] ++ [10, 0, 2, 15]

/-- This host is configured and then gets a packet. -/
def arpRun (operation : UInt8) (senderMac : List UInt8) : List ArpEvent :=
  [.nic [2, 0, 0, 0, 0, 1], .configure true 0x0a00020f, .receive (arpPacket operation senderMac)]

theorem arp_cache_exact_reply :
    (run step start (arpRun 2 [2, 0, 0, 0, 0, 9])).net.arpCacheGet 0x0a000202 = some [2, 0, 0, 0, 0, 9] ∧
      NoZeroMac (run step start (arpRun 2 [2, 0, 0, 0, 0, 9])) :=
  ⟨by decide, (arp_cache_exact _).2 (by decide)⟩

/-- A request without a hardware address is refused, a reply without one is not. -/
theorem zero_mac_cached :
    (run step start (arpRun 1 zeroMac)).net.arpCacheGet 0x0a000202 = none ∧
      ¬ NoZeroMac (run step start (arpRun 2 zeroMac)) := by
  refine ⟨by decide, fun none => ?_⟩
  exact none 0 (by decide) (by decide) (by decide)

end ArpTrace

end BoringOS.Net
