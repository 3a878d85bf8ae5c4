import BoringOS.Pty.Holders

namespace BoringOS.Pty

open Library

/-!
# Calls and waiters

The remaining functions of the pair table, for any holders and waiters.  A
read or a write changes a ring, arming and taking off a waiter change the
record, and a new pair has the two local handles of its creator for holders.
-/

variable {held : PtyHolder → Option PtyHandle} {awaits awaits' : Nat → PtyHandle → Prop}
  {pairs : PtyPairs} {handle : PtyHandle}

theorem nextGeneration_ne_zero (generation : Nat) : nextGeneration generation ≠ 0 := by
  rw [nextGeneration]
  grind

theorem findUnusedPair_eq_some {index : Nat} (found : findUnusedPair pairs = some index) :
    index < kernelPtyMax ∧ (pairs index).used = false := by
  have unused := List.find?_some found
  exact ⟨List.mem_range.mp (List.mem_of_find?_eq_some found), Bool.not_eq_true' _ ▸ unused⟩

/-- The holders after a pair is created. -/
def heldCreated (held : PtyHolder → Option PtyHandle) (master slave : PtyHandle) :
    PtyHolder → Option PtyHandle :=
  Function.update (Function.update held (.inr .master) (some master)) (.inr .slave) (some slave)

theorem heldCreated_apply (held : PtyHolder → Option PtyHandle) (index generation : Nat)
    (holder : PtyHolder) :
    heldCreated held ⟨index, .master, generation⟩ ⟨index, .slave, generation⟩ holder =
      match holder with
      | .inl descriptor => held (.inl descriptor)
      | .inr endpoint => some ⟨index, endpoint, generation⟩ := by
  rcases holder with descriptor | endpoint
  · rfl
  · cases endpoint <;> rfl

theorem PtySound.create (sound : PtySound held awaits pairs)
    (free : ∀ endpoint, held (.inr endpoint) = none) :
    (∃ master slave next, ptyCreatePair pairs = (.ok (master, slave), next) ∧
        PtySound (heldCreated held master slave) awaits next) ∨
      ptyCreatePair pairs = (.error .noSpace, pairs) := by
  rw [ptyCreatePair]
  cases found : findUnusedPair pairs with
  | none => exact Or.inr rfl
  | some index =>
    refine Or.inl ⟨_, _, _, rfl, ?_⟩
    rcases findUnusedPair_eq_some found with ⟨inside, unused⟩
    have elsewhere : ∀ holder other, held holder = some other → other.slot ≠ index := by
      rintro holder other holds rfl
      rw [(sound.references.valid holder other holds).used] at unused
      cases unused
    have holdsNew : ∀ endpoint holder,
        HoldsEndpoint (heldCreated held ⟨index, .master, nextGeneration (pairs index).generation⟩
            ⟨index, .slave, nextGeneration (pairs index).generation⟩) index endpoint holder ↔
          False ∨ holder = .inr endpoint := by
      intro endpoint holder
      rw [HoldsEndpoint, heldCreated_apply, false_or]
      rcases holder with descriptor | other
      · grind
      · simp
    have holdsOld : ∀ slot endpoint holder, slot ≠ index →
        (HoldsEndpoint (heldCreated held ⟨index, .master, nextGeneration (pairs index).generation⟩
            ⟨index, .slave, nextGeneration (pairs index).generation⟩) slot endpoint holder ↔
          HoldsEndpoint held slot endpoint holder) := by
      intro slot endpoint holder different
      rw [HoldsEndpoint, heldCreated_apply, HoldsEndpoint]
      rcases holder with descriptor | other
      · exact Iff.rfl
      · grind
    refine ⟨⟨fun slot endpoint used => ?_, fun holder other holds => ?_⟩,
      fun pid other isWaiting => ?_, fun pid other isWaiting => ?_⟩
    · by_cases here : slot = index
      · subst here
        rw [Function.update_self]
        exact (Counted.none (fun _ => id)).insert id (holdsNew endpoint)
      · rw [Function.update_of_ne here] at used ⊢
        exact (sound.references.counted slot endpoint used).congr
          (fun holder => holdsOld slot endpoint holder here)
    · rw [heldCreated_apply] at holds
      rcases holder with descriptor | endpoint
      · have valid := sound.references.valid _ _ holds
        have different := elsewhere _ _ holds
        refine ⟨valid.slotInside, valid.generation, ?_, ?_⟩
        · rw [Function.update_of_ne different]
          exact valid.used
        · rw [Function.update_of_ne different]
          exact valid.sameGeneration
      · cases holds
        refine ⟨inside, nextGeneration_ne_zero _, ?_, ?_⟩
        · rw [Function.update_self]
        · rw [Function.update_self]
    · apply (sound.waits pid other isWaiting).update
      rintro rfl
      rcases sound.holders pid other isWaiting with ⟨holder, holds⟩
      exact absurd rfl (elsewhere _ _ holds)
    · rcases sound.holders pid other isWaiting with ⟨holder, holds⟩
      rcases holder with descriptor | endpoint
      · exact ⟨.inl descriptor, (heldCreated_apply _ _ _ _).trans holds⟩
      grind

theorem readLoop_count_le (remaining : Nat) : ∀ ring : PtyRing,
    (readLoop remaining ring).2.count ≤ ring.count := by
  induction remaining with
  | zero => exact fun _ => Nat.le_refl _
  | succ remaining ih =>
    intro ring
    rw [readLoop]
    grind

theorem readLoop_of_nothing {ring : PtyRing} (nothing : ring.count = 0) (remaining : Nat) :
    readLoop remaining ring = ([], ring) := by
  cases remaining with
  | zero => rfl
  | succ remaining => rw [readLoop, if_pos nothing]

theorem ptyRead_pairs (pairs : PtyPairs) (handle : PtyHandle) (length : Nat) :
    (ptyRead pairs handle length).2.2 = pairs ∨
      HandleLive pairs handle ∧ (ptyRead pairs handle length).2.2 =
        Function.update pairs handle.slot (setIncomingRing (pairs handle.slot) handle.endpoint
          (readLoop length (incomingRing (pairs handle.slot) handle.endpoint)).2) := by
  rw [ptyRead]
  cases found : pairFromHandle pairs handle with
  | none => exact Or.inl rfl
  | some pair =>
    rcases pairFromHandle_eq_some.mp found with ⟨live, rfl⟩
    grind

theorem PtySound.read (sound : PtySound held awaits pairs) (handle : PtyHandle) (length : Nat) :
    PtySound held awaits (ptyRead pairs handle length).2.2 := by
  rcases ptyRead_pairs pairs handle length with same | ⟨-, next⟩
  · rw [same]
    exact sound
  rw [next]
  apply sound.update (setIncomingRing_used _ _ _) (setIncomingRing_generation _ _ _)
    (setIncomingRing_refs _ _ _) (fun _ _ => id)
  intro pid other _ _
  refine ⟨by rw [setIncomingRing_readWaiterPid], fun nothing => ?_⟩
  grind [incomingRing_setIncomingRing, readLoop_count_le]

theorem ptyRead_wouldBlock {length : Nat} {bytes : List UInt8} {next : PtyPairs}
    (result : ptyRead pairs handle length = (.wouldBlock, bytes, next)) :
    next = pairs ∧ length ≠ 0 ∧ HandleLive pairs handle ∧
      (incomingRing (pairs handle.slot) handle.endpoint).count = 0 ∧
      (pairs handle.slot).refs (peerEndpoint handle.endpoint) ≠ 0 := by
  rw [ptyRead] at result
  cases found : pairFromHandle pairs handle with
  | none =>
    rw [found] at result
    cases result
  | some pair =>
    rcases pairFromHandle_eq_some.mp found with ⟨live, rfl⟩
    rw [found] at result
    dsimp only at result
    split at result
    · cases result
    rename_i positive
    by_cases nothing : (incomingRing (pairs handle.slot) handle.endpoint).count = 0
    · simp only [readLoop_of_nothing nothing, ne_eq, not_true_eq_false, if_false,
        setIncomingRing_incomingRing, Function.update_eq_self] at result
      grind
    · exfalso
      rcases Nat.exists_eq_succ_of_ne_zero positive with ⟨remaining, rfl⟩
      grind [readLoop]

theorem writeLoop_of_zero {bytes : List UInt8} {ring : PtyRing}
    (nothing : (writeLoop bytes ring).1 = 0) : (writeLoop bytes ring).2 = ring := by
  cases bytes with
  | nil => rfl
  | cons byte bytes =>
    rw [writeLoop] at nothing ⊢
    grind

section

variable (sound : PtySound held awaits pairs)
include sound

/-- A write wakes the waiter of its peer, if it has stored anything. -/
theorem PtySound.write (handle : PtyHandle)
    (bytes : List UInt8) (waits : ∀ pid other, awaits' pid other →
      awaits pid other ∧ (ptyWrite pairs handle bytes).2.2.1 ≠ some pid) :
    PtySound held awaits' (ptyWrite pairs handle bytes).2.2.2 := by
  have fewer : ∀ pid other, awaits' pid other → awaits pid other :=
    fun pid other isWaiting => (waits pid other isWaiting).1
  have unchanged : PtySound held awaits' pairs :=
    ⟨sound.references, fun pid other isWaiting => sound.waits pid other (fewer pid other isWaiting),
      fun pid other isWaiting => sound.holders pid other (fewer pid other isWaiting)⟩
  rw [ptyWrite] at waits ⊢
  cases found : pairFromHandle pairs handle with
  | none => exact unchanged
  | some pair =>
    rcases pairFromHandle_eq_some.mp found with ⟨-, rfl⟩
    rw [found] at waits
    dsimp only at waits ⊢
    split
    · exact unchanged
    rename_i peer
    rw [if_neg peer] at waits
    rw [setOutgoingRing_eq, outgoingRing_eq] at waits ⊢
    split
    · rename_i stored
      rw [if_pos stored] at waits
      apply sound.update
      · rw [wakeEndpoint_used, setIncomingRing_used]
      · rw [wakeEndpoint_generation, setIncomingRing_generation]
      · rw [wakeEndpoint_refs, setIncomingRing_refs]
      · exact fewer
      · intro pid other isWaiting here
        rcases waits pid other isWaiting with ⟨before, notWoken⟩
        have waiting := sound.waits pid other before
        -- The reader of the ring has been woken, so that only its writer may wait.
        have isOwn : other.endpoint ≠ peerEndpoint handle.endpoint := by
          intro isPeer
          have recorded := waiting.recorded
          rw [here, isPeer] at recorded
          rw [wakeEndpoint_fst, setIncomingRing_readWaiterPid, recorded,
            waiterOf_of_ne waiting.positive] at notWoken
          exact notWoken rfl
        simp_all [wakeEndpoint_readWaiterPid_of_ne, setIncomingRing_readWaiterPid,
          wakeEndpoint_incomingRing, incomingRing_setIncomingRing]
    simp_all [writeLoop_of_zero, setIncomingRing_incomingRing, Function.update_eq_self]

/-- The record of a pair changes where nobody waits. -/
theorem PtySound.record {slot : Nat}
    {waiters : PtyEndpoint → Nat} (same : ∀ pid other, awaits pid other → other.slot = slot →
      waiters other.endpoint = (pairs slot).readWaiterPid other.endpoint) :
    PtySound held awaits (Function.update pairs slot { pairs slot with readWaiterPid := waiters }) := by
  refine sound.update ?_ ?_ ?_ (fun _ _ => id) ?_
  · rfl
  · rfl
  · rfl
  · intro pid other isWaiting here
    refine ⟨same pid other isWaiting here, fun nothing => ?_⟩
    assumption

/-- A process goes on record where nobody waits. -/
theorem PtySound.arm (live : HandleLive pairs handle) (pid : Nat) (nobody : ∀ other, ¬ awaits other handle) :
    PtySound held awaits (ptyArmReadWaiter pairs handle pid).2 := by
  rw [ptyArmReadWaiter, pairFromHandle_of_live live]
  dsimp only
  split
  · exact sound
  apply sound.record
  intro waiter other isWaiting here
  apply Function.update_of_ne
  intro same
  rw [live.eq_of_endpoint (sound.live isWaiting) here same] at isWaiting
  exact nobody waiter isWaiting

/-- A process that does not wait goes off record. -/
theorem PtySound.cancel (handle : PtyHandle) {pid : Nat} (runs : ∀ other, ¬ awaits pid other) :
    PtySound held awaits (ptyCancelReadWaiter pairs handle pid) := by
  rw [ptyCancelReadWaiter]
  cases found : pairFromHandle pairs handle with
  | none => exact sound
  | some pair =>
    rcases pairFromHandle_eq_some.mp found with ⟨-, rfl⟩
    dsimp only
    split
    · apply sound.record
      intro waiter other isWaiting here
      apply Function.update_of_ne
      intro same
      have recorded := (sound.waits waiter other isWaiting).recorded
      simp_all
    · exact sound

end

/-- What arming leaves alone, and what it records -/
theorem ptyArmReadWaiter_spec (live : HandleLive pairs handle) {pid : Nat} (positive : pid ≠ 0) :
    ∃ next, ptyArmReadWaiter pairs handle pid = (.ok, next) ∧
      (next handle.slot).readWaiterPid handle.endpoint = pid ∧
      (∀ slot endpoint, (pairs slot).readWaiterPid endpoint = pid →
        (next slot).readWaiterPid endpoint = pid) ∧
      ∀ slot, (next slot).used = (pairs slot).used ∧
        (next slot).generation = (pairs slot).generation ∧ (next slot).refs = (pairs slot).refs ∧
        ∀ endpoint, incomingRing (next slot) endpoint = incomingRing (pairs slot) endpoint := by
  refine ⟨_, by rw [ptyArmReadWaiter, pairFromHandle_of_live live]; exact if_neg positive, ?_, ?_, ?_⟩
  · simp
  · intro slot endpoint recorded
    rw [Function.update_apply]
    split
    · grind
    · exact recorded
  · intro slot
    rw [Function.update_apply]
    split
    · rename_i here
      rw [here]
      refine ⟨rfl, rfl, rfl, fun endpoint => ?_⟩
      cases endpoint <;> rfl
    · exact ⟨rfl, rfl, rfl, fun _ => rfl⟩

end BoringOS.Pty
