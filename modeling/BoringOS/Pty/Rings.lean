import BoringOS.Library.RingBuffer
import BoringOS.Pty.Descriptors

namespace BoringOS.Pty

open Library

/-!
# The rings of a pair

A ring holds the bytes from its read position onwards.  The loop of a read
takes the oldest of them off, and the loop of a write appends as many as
there is room for.  All other functions leave the rings of every pair alone
that stays in use.
-/

/-- The bytes that a ring holds, oldest first. -/
def PtyRing.contents (ring : PtyRing) : List UInt8 :=
  ringContents ring.bytes kernelPtyRingCapacity ring.readIndex ring.count

structure RingSound (ring : PtyRing) : Prop where
  readInside : ring.readIndex < kernelPtyRingCapacity
  countLe : ring.count ≤ kernelPtyRingCapacity
  writeAt : ring.writeIndex = (ring.readIndex + ring.count) % kernelPtyRingCapacity

theorem ringClear_sound : RingSound ringClear := ⟨by decide, Nat.zero_le _, by decide⟩

theorem PtyRing.contents_length (ring : PtyRing) : ring.contents.length = ring.count :=
  ringContents_length _ _ _ _

theorem PtyRing.contents_eq_nil {ring : PtyRing} : ring.contents = [] ↔ ring.count = 0 := by
  rw [← List.length_eq_zero_iff, ring.contents_length]

/-- Taking off the oldest byte -/
theorem RingSound.pop {ring : PtyRing} (sound : RingSound ring) (holds : ring.count ≠ 0) :
    let next : PtyRing := { ring with
      readIndex := (ring.readIndex + 1) % kernelPtyRingCapacity
      count := ring.count - 1 }
    RingSound next ∧ ring.contents = ring.bytes ring.readIndex :: next.contents := by
  rcases Nat.exists_eq_succ_of_ne_zero holds with ⟨rest, isCount⟩
  have bound := sound.countLe
  refine ⟨⟨Nat.mod_lt _ (by decide), ?_, ?_⟩, ?_⟩
  · exact Nat.le_trans (Nat.sub_le _ _) bound
  · have shifted : ring.readIndex + ring.count = ring.readIndex + 1 + (ring.count - 1) := by omega
    rw [Nat.mod_add_mod, ← shifted]
    exact sound.writeAt
  · simp only [PtyRing.contents, isCount, ringContents, Nat.succ_sub_one]

/-- Storing a byte behind the last one -/
theorem RingSound.push {ring : PtyRing} (sound : RingSound ring)
    (room : ring.count < kernelPtyRingCapacity) (byte : UInt8) :
    let next : PtyRing := { ring with
      bytes := Function.update ring.bytes ring.writeIndex byte
      writeIndex := (ring.writeIndex + 1) % kernelPtyRingCapacity
      count := ring.count + 1 }
    RingSound next ∧ next.contents = ring.contents ++ [byte] := by
  refine ⟨⟨sound.readInside, room, ?_⟩, ?_⟩
  · simp only [sound.writeAt, Nat.mod_add_mod, Nat.add_assoc]
  · simp only [PtyRing.contents, sound.writeAt]
    exact ringContents_push byte ring.count ring.readIndex sound.readInside room

/-- A read takes off the oldest bytes, as many as it asks for and as there are. -/
theorem readLoop_spec (remaining : Nat) : ∀ ring, RingSound ring → RingSound (readLoop remaining ring).2 ∧
      (readLoop remaining ring).1 = ring.contents.take remaining ∧
      (readLoop remaining ring).2.contents = ring.contents.drop remaining := by
  induction remaining with
  | zero => exact fun ring sound => ⟨sound, rfl, rfl⟩
  | succ remaining ih =>
    intro ring sound
    rw [readLoop]
    split
    · rename_i isEmpty
      have nothing := PtyRing.contents_eq_nil.mpr isEmpty
      simp [*]
    · rename_i holds
      rcases sound.pop holds with ⟨nextSound, contents⟩
      simp [*]

/-- A write appends bytes until it has no more or the ring is full. -/
theorem writeLoop_spec (bytes : List UInt8) : ∀ ring, RingSound ring → RingSound (writeLoop bytes ring).2 ∧
      (writeLoop bytes ring).1 = min bytes.length (kernelPtyRingCapacity - ring.count) ∧
      (writeLoop bytes ring).2.contents = ring.contents ++ bytes.take (writeLoop bytes ring).1 := by
  induction bytes with
  | nil => exact fun ring sound => ⟨sound, (Nat.zero_min _).symm, (List.append_nil _).symm⟩
  | cons byte bytes ih =>
    intro ring sound
    rw [writeLoop]
    split
    · simp [*]
    rename_i notFull
    have room := Nat.lt_of_not_le notFull
    rcases sound.push room byte with ⟨nextSound, contents⟩
    grind

variable (pair : PtyPair) (endpoint : PtyEndpoint)

theorem outgoingRing_eq :
    outgoingRing pair endpoint = incomingRing pair (peerEndpoint endpoint) := by
  cases endpoint <;> rfl

theorem setOutgoingRing_eq (ring : PtyRing) :
    setOutgoingRing pair endpoint ring = setIncomingRing pair (peerEndpoint endpoint) ring := by
  cases endpoint <;> rfl

@[simp] theorem peerEndpoint_peerEndpoint : peerEndpoint (peerEndpoint endpoint) = endpoint := by
  cases endpoint <;> rfl

theorem peerEndpoint_ne : peerEndpoint endpoint ≠ endpoint := by
  cases endpoint <;> decide

theorem eq_peerEndpoint_of_ne {endpoint other : PtyEndpoint} (different : other ≠ endpoint) :
    other = peerEndpoint endpoint := by
  cases endpoint <;> cases other <;> first | rfl | exact absurd rfl different

theorem incomingRing_setIncomingRing (endpoint other : PtyEndpoint)
    (ring : PtyRing) : incomingRing (setIncomingRing pair endpoint ring) other =
      if other = endpoint then ring else incomingRing pair other := by
  cases endpoint <;> cases other <;> rfl

section SetIncomingRing

variable (pair : PtyPair) (endpoint : PtyEndpoint) (ring : PtyRing)

@[simp] theorem setIncomingRing_used : (setIncomingRing pair endpoint ring).used = pair.used := by
  cases endpoint <;> rfl

@[simp] theorem setIncomingRing_refs : (setIncomingRing pair endpoint ring).refs = pair.refs := by
  cases endpoint <;> rfl

@[simp] theorem setIncomingRing_generation :
    (setIncomingRing pair endpoint ring).generation = pair.generation := by
  cases endpoint <;> rfl

@[simp] theorem setIncomingRing_readWaiterPid :
    (setIncomingRing pair endpoint ring).readWaiterPid = pair.readWaiterPid := by
  cases endpoint <;> rfl

end SetIncomingRing

structure HandleLive (pairs : PtyPairs) (handle : PtyHandle) : Prop where
  slotInside : handle.slot < kernelPtyMax
  generation : handle.generation ≠ 0
  used : (pairs handle.slot).used = true
  sameGeneration : (pairs handle.slot).generation = handle.generation
  referenced : (pairs handle.slot).refs handle.endpoint ≠ 0

variable {pairs : PtyPairs} {handle : PtyHandle}

theorem pairFromHandle_eq_some {pair : PtyPair} :
    pairFromHandle pairs handle = some pair ↔ HandleLive pairs handle ∧ pairs handle.slot = pair := by
  simp only [pairFromHandle]
  constructor
  · intro found
    split at found
    · cases found
    rename_i valid
    split at found
    · cases found
    rename_i live
    simp only [not_or, Nat.not_le, Bool.not_eq_false, not_not] at valid live
    exact ⟨⟨valid.1, valid.2, live.1, live.2.1, live.2.2⟩, Option.some.inj found⟩
  · rintro ⟨live, rfl⟩
    rw [if_neg, if_neg]
    · rw [not_or, not_or, Bool.not_eq_false, not_not]
      exact ⟨live.used, live.sameGeneration, live.referenced⟩
    · rw [not_or, Nat.not_le]
      exact ⟨live.slotInside, live.generation⟩

theorem pairFromHandle_of_live
    (live : HandleLive pairs handle) : pairFromHandle pairs handle = some (pairs handle.slot) :=
  pairFromHandle_eq_some.mpr ⟨live, rfl⟩

/-- Every pair that is in use was in use, with the same rings. -/
def RingsKept (pairs next : PtyPairs) : Prop :=
  ∀ slot, (next slot).used = true → (pairs slot).used = true ∧
    ∀ endpoint, incomingRing (next slot) endpoint = incomingRing (pairs slot) endpoint

theorem RingsKept.refl (pairs : PtyPairs) : RingsKept pairs pairs :=
  fun _ used => ⟨used, fun _ => rfl⟩

/-- A pair is changed outside its rings, or taken out of use. -/
theorem RingsKept.update {slot : Nat} {pair : PtyPair} (wasUsed : (pairs slot).used = true)
    (same : pair.used = true →
      ∀ endpoint, incomingRing pair endpoint = incomingRing (pairs slot) endpoint) :
    RingsKept pairs (Function.update pairs slot pair) := by
  intro other used
  rw [Function.update_apply] at used ⊢
  split at used
  · simp [*]
  simp [*]

theorem wakeEndpoint_incomingRing (endpoint other : PtyEndpoint) :
    incomingRing (wakeEndpoint pair endpoint).2 other = incomingRing pair other := by
  rw [wakeEndpoint]
  split <;> cases other <;> rfl

theorem wakeEndpoint_used : (wakeEndpoint pair endpoint).2.used = pair.used := by
  rw [wakeEndpoint]
  split <;> rfl

theorem ptyRetain_ringsKept (pairs : PtyPairs) (handle : PtyHandle) :
    RingsKept pairs (ptyRetain pairs handle).2 := by
  rw [ptyRetain]
  split
  · exact RingsKept.refl pairs
  rename_i pair found
  rcases pairFromHandle_eq_some.mp found with ⟨live, rfl⟩
  split
  · exact RingsKept.refl pairs
  · exact RingsKept.update live.used fun _ endpoint => by cases endpoint <;> rfl

theorem ptyArmReadWaiter_ringsKept (pairs : PtyPairs) (handle : PtyHandle) (pid : Nat) :
    RingsKept pairs (ptyArmReadWaiter pairs handle pid).2 := by
  rw [ptyArmReadWaiter]
  split
  · exact RingsKept.refl pairs
  rename_i pair found
  rcases pairFromHandle_eq_some.mp found with ⟨live, rfl⟩
  split
  · exact RingsKept.refl pairs
  · exact RingsKept.update live.used fun _ endpoint => by cases endpoint <;> rfl

theorem ptyCancelReadWaiter_ringsKept (pairs : PtyPairs) (handle : PtyHandle) (pid : Nat) :
    RingsKept pairs (ptyCancelReadWaiter pairs handle pid) := by
  rw [ptyCancelReadWaiter]
  split
  · exact RingsKept.refl pairs
  rename_i pair found
  rcases pairFromHandle_eq_some.mp found with ⟨live, rfl⟩
  split
  · exact RingsKept.update live.used fun _ endpoint => by cases endpoint <;> rfl
  · exact RingsKept.refl pairs

theorem ptyClose_ringsKept (pairs : PtyPairs) (handle : PtyHandle) :
    RingsKept pairs (ptyClose pairs handle).2.2 := by
  rw [ptyClose]
  split
  · exact RingsKept.refl pairs
  rename_i pair found
  rcases pairFromHandle_eq_some.mp found with ⟨live, rfl⟩
  apply RingsKept.update live.used
  intro used endpoint
  rw [resetUnreferenced] at used ⊢
  split at used
  · cases used
  rename_i referenced
  rw [if_neg referenced, hangUp]
  split
  · rw [wakeEndpoint_incomingRing]
    cases endpoint <;> rfl
  · cases endpoint <;> rfl

theorem setIncomingRing_incomingRing :
    setIncomingRing pair endpoint (incomingRing pair endpoint) = pair := by
  cases endpoint <;> rfl

theorem ptyRead_invalid {length : Nat} (dead : pairFromHandle pairs handle = none) :
    ptyRead pairs handle length = (.invalid, [], pairs) := by
  rw [ptyRead, dead]

theorem ptyRead_spec (live : HandleLive pairs handle)
    (sound : RingSound (incomingRing (pairs handle.slot) handle.endpoint)) (length : Nat) :
    let waiting := (incomingRing (pairs handle.slot) handle.endpoint).contents
    ∃ ring, RingSound ring ∧ ring.contents = waiting.drop length ∧ ptyRead pairs handle length =
        (if length = 0 ∨ waiting ≠ [] then .ok
          else if (pairs handle.slot).refs (peerEndpoint handle.endpoint) = 0 then .hup
          else .wouldBlock,
        waiting.take length,
        Function.update pairs handle.slot (setIncomingRing (pairs handle.slot) handle.endpoint ring)) := by
  intro waiting
  by_cases isZero : length = 0
  · grind [ptyRead, pairFromHandle_of_live, setIncomingRing_incomingRing, Function.update_eq_self]
  rcases readLoop_spec length _ sound with ⟨lastSound, taken, dropped⟩
  refine ⟨_, lastSound, dropped, ?_⟩
  rw [ptyRead, pairFromHandle_of_live live]
  simp only [isZero, if_false, false_or, taken]
  by_cases isEmpty : waiting = []
  · grind
  grind [List.take_eq_nil_iff]

theorem ptyWrite_invalid {bytes : List UInt8} (dead : pairFromHandle pairs handle = none) :
    ptyWrite pairs handle bytes = (.invalid, 0, none, pairs) := by
  rw [ptyWrite, dead]

theorem ptyWrite_hup {bytes : List UInt8} (live : HandleLive pairs handle)
    (gone : (pairs handle.slot).refs (peerEndpoint handle.endpoint) = 0) :
    ptyWrite pairs handle bytes = (.hup, 0, none, pairs) := by
  rw [ptyWrite, pairFromHandle_of_live live]
  exact if_pos gone

/-- A write to a peer that is there appends what the ring has room for, and
wakes the peer's waiter if that is anything. -/
theorem ptyWrite_spec (live : HandleLive pairs handle)
    (present : (pairs handle.slot).refs (peerEndpoint handle.endpoint) ≠ 0)
    (sound : RingSound (incomingRing (pairs handle.slot) (peerEndpoint handle.endpoint)))
    (bytes : List UInt8) :
    let before := incomingRing (pairs handle.slot) (peerEndpoint handle.endpoint)
    ∃ ring, RingSound ring ∧ (ptyWrite pairs handle bytes).2.1 =
        min bytes.length (kernelPtyRingCapacity - before.count) ∧
      ring.contents = before.contents ++ bytes.take (ptyWrite pairs handle bytes).2.1 ∧
      let written := setIncomingRing (pairs handle.slot) (peerEndpoint handle.endpoint) ring
      ptyWrite pairs handle bytes =
        if (ptyWrite pairs handle bytes).2.1 = 0 then
          (.wouldBlock, 0, none, Function.update pairs handle.slot written)
        else
          (.ok, (ptyWrite pairs handle bytes).2.1, (wakeEndpoint written (peerEndpoint handle.endpoint)).1,
            Function.update pairs handle.slot
              (wakeEndpoint written (peerEndpoint handle.endpoint)).2) := by
  intro before
  rcases writeLoop_spec bytes _ sound with ⟨lastSound, transferred, appended⟩
  have result : ptyWrite pairs handle bytes =
      if (writeLoop bytes before).1 = 0 then
        (.wouldBlock, 0, none, Function.update pairs handle.slot
          (setIncomingRing (pairs handle.slot) (peerEndpoint handle.endpoint)
            (writeLoop bytes before).2))
      else
        (.ok, (writeLoop bytes before).1,
          (wakeEndpoint (setIncomingRing (pairs handle.slot) (peerEndpoint handle.endpoint)
            (writeLoop bytes before).2) (peerEndpoint handle.endpoint)).1,
          Function.update pairs handle.slot
            (wakeEndpoint (setIncomingRing (pairs handle.slot) (peerEndpoint handle.endpoint)
              (writeLoop bytes before).2) (peerEndpoint handle.endpoint)).2) := by
    rw [ptyWrite, pairFromHandle_of_live live]
    simp only [present, if_false, outgoingRing_eq, setOutgoingRing_eq, ne_eq, ite_not]
    rfl
  have taken : (ptyWrite pairs handle bytes).2.1 = (writeLoop bytes before).1 := by
    rw [result]
    split
    · rename_i isZero
      exact isZero.symm
    · rfl
  refine ⟨_, lastSound, ?_, ?_, ?_⟩
  · rw [taken]
    exact transferred
  · rw [taken]
    exact appended
  · rw [taken]
    exact result

end BoringOS.Pty
