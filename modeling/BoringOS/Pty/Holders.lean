import BoringOS.Library.References
import BoringOS.Pty.Rings

namespace BoringOS.Pty

open Library

/-!
# Holders and waiters

The descriptors of processes hold handles, and so do the two local variables
of `m36_pty_create`.  Each reference count is the number of holders.  A task
that waits for an endpoint holds a handle of it, and its process is the
waiter on record while the ring is empty and the peer is there.

The lemmas below follow the functions of the pair table one by one.  Who
holds what, and who waits for what, are parameters here, so that they apply
to every system of processes over the table.
-/

/-- A descriptor of a process, or a local variable of `m36_pty_create`. -/
abbrev PtyHolder := (Nat × Nat) ⊕ PtyEndpoint

/-- The holder holds a handle of the endpoint. -/
def HoldsEndpoint (held : PtyHolder → Option PtyHandle) (slot : Nat) (endpoint : PtyEndpoint)
    (holder : PtyHolder) : Prop :=
  ∃ handle, held holder = some handle ∧ handle.slot = slot ∧ handle.endpoint = endpoint

/-- The part of a live handle that does not depend on the reference count. -/
structure HandleValid (pairs : PtyPairs) (handle : PtyHandle) : Prop where
  slotInside : handle.slot < kernelPtyMax
  generation : handle.generation ≠ 0
  used : (pairs handle.slot).used = true
  sameGeneration : (pairs handle.slot).generation = handle.generation

structure ReferencesExact (held : PtyHolder → Option PtyHandle) (pairs : PtyPairs) : Prop where
  counted : ∀ slot endpoint, (pairs slot).used = true →
    Counted (HoldsEndpoint held slot endpoint) ((pairs slot).refs endpoint)
  valid : ∀ holder handle, held holder = some handle → HandleValid pairs handle

/-- The waiter on record has nothing to read, and a peer. -/
structure Waiting (pairs : PtyPairs) (pid : Nat) (handle : PtyHandle) : Prop where
  positive : pid ≠ 0
  recorded : (pairs handle.slot).readWaiterPid handle.endpoint = pid
  nothing : (incomingRing (pairs handle.slot) handle.endpoint).count = 0
  peer : (pairs handle.slot).refs (peerEndpoint handle.endpoint) ≠ 0

structure PtySound (held : PtyHolder → Option PtyHandle) (awaits : Nat → PtyHandle → Prop)
    (pairs : PtyPairs) : Prop where
  references : ReferencesExact held pairs
  waits : ∀ pid handle, awaits pid handle → Waiting pairs pid handle
  holders : ∀ pid handle, awaits pid handle → ∃ holder, held holder = some handle

section References

variable {held held' : PtyHolder → Option PtyHandle} {pairs : PtyPairs} {holder : PtyHolder}
  {handle other : PtyHandle}

theorem ReferencesExact.live (exact' : ReferencesExact held pairs) (holds : held holder = some handle) :
    HandleLive pairs handle := by
  have valid := exact'.valid holder handle holds
  refine { valid with referenced := ?_ }
  intro isZero
  have counted := exact'.counted handle.slot handle.endpoint valid.used
  rw [isZero] at counted
  exact counted.nobody holder ⟨handle, holds, rfl, rfl⟩

theorem HandleLive.eq_of_endpoint (live : HandleLive pairs handle) (otherLive : HandleLive pairs other)
    (slot : other.slot = handle.slot) (endpoint : other.endpoint = handle.endpoint) :
    other = handle := by
  cases handle
  cases slot
  cases endpoint
  have same := live.sameGeneration.symm.trans otherLive.sameGeneration
  cases same
  rfl

theorem holdsEndpoint_update {slot : Nat} {endpoint : PtyEndpoint} {value : Option PtyHandle}
    {at' : PtyHolder} : HoldsEndpoint (Function.update held holder value) slot endpoint at' ↔
      if at' = holder then
        ∃ handle, value = some handle ∧ handle.slot = slot ∧ handle.endpoint = endpoint
      else HoldsEndpoint held slot endpoint at' := by
  rw [HoldsEndpoint, Function.update_apply]
  split
  · exact Iff.rfl
  · exact Iff.rfl

/-- The pairs change, but not in their references. -/
theorem ReferencesExact.congr (exact' : ReferencesExact held pairs) {next : PtyPairs}
    (used : ∀ slot, (next slot).used = (pairs slot).used)
    (generation : ∀ slot, (next slot).generation = (pairs slot).generation)
    (refs : ∀ slot, (next slot).refs = (pairs slot).refs) : ReferencesExact held next := by
  refine ⟨fun slot endpoint isUsed => ?_, fun holder handle holds => ?_⟩
  · rw [refs]
    exact exact'.counted slot endpoint ((used slot).symm.trans isUsed)
  · have valid := exact'.valid holder handle holds
    exact ⟨valid.slotInside, valid.generation, (used _).trans valid.used,
      (generation _).trans valid.sameGeneration⟩

theorem ReferencesExact.insert (exact' : ReferencesExact held pairs) {pair : PtyPair}
    (live : HandleLive pairs handle) (free : held holder = none)
    (used : pair.used = true) (generation : pair.generation = (pairs handle.slot).generation)
    (refs : pair.refs = Function.update (pairs handle.slot).refs handle.endpoint
      ((pairs handle.slot).refs handle.endpoint + 1)) :
    ReferencesExact (Function.update held holder (some handle)) (Function.update pairs handle.slot pair) := by
  have outside : ∀ slot endpoint, ¬ HoldsEndpoint held slot endpoint holder := by
    rintro slot endpoint ⟨other, holds, -⟩
    rw [free] at holds
    cases holds
  refine ⟨fun slot endpoint isUsed => ?_, fun at' other holds => ?_⟩
  · by_cases here : slot = handle.slot ∧ endpoint = handle.endpoint
    · rcases here with ⟨rfl, rfl⟩
      rw [Function.update_self, refs, Function.update_self]
      apply (exact'.counted _ _ live.used).insert (outside _ _)
      intro at'
      rw [holdsEndpoint_update]
      grind
    · have same : (Function.update pairs handle.slot pair slot).refs endpoint =
          (pairs slot).refs endpoint := by
        rw [Function.update_apply]
        split
        · simp_all
        · rfl
      have wasUsed : (pairs slot).used = true := by
        rw [Function.update_apply] at isUsed
        split at isUsed
        · rename_i isSlot
          rw [isSlot]
          exact live.used
        · exact isUsed
      rw [same]
      apply (exact'.counted slot endpoint wasUsed).congr
      intro at'
      rw [holdsEndpoint_update]
      split
      · grind
      · exact Iff.rfl
  · have valid : HandleValid pairs other := by
      rw [Function.update_apply] at holds
      split at holds
      · cases holds
        exact { live with }
      · exact exact'.valid _ _ holds
    refine ⟨valid.slotInside, valid.generation, ?_, ?_⟩
    · rw [Function.update_apply]
      split
      · exact used
      · exact valid.used
    · rw [Function.update_apply]
      split
      · rename_i isSlot
        rw [generation, ← isSlot]
        exact valid.sameGeneration
      · exact valid.sameGeneration

theorem ReferencesExact.erase (exact' : ReferencesExact held pairs) {pair : PtyPair}
    (holds : held holder = some handle)
    (kept : pair.used = true → pair.generation = (pairs handle.slot).generation ∧
      pair.refs = Function.update (pairs handle.slot).refs handle.endpoint
        ((pairs handle.slot).refs handle.endpoint - 1))
    (reset : pair.used = false → (pairs handle.slot).refs handle.endpoint = 1 ∧
      (pairs handle.slot).refs (peerEndpoint handle.endpoint) = 0) :
    ReferencesExact (Function.update held holder none) (Function.update pairs handle.slot pair) := by
  have live := exact'.live holds
  have erased : ∀ slot endpoint at', HoldsEndpoint (Function.update held holder none) slot endpoint at' ↔
      HoldsEndpoint held slot endpoint at' ∧ at' ≠ holder := by
    intro slot endpoint at'
    rw [holdsEndpoint_update]
    split
    · simp [*]
    · simp [*]
  have dropped := (exact'.counted handle.slot handle.endpoint live.used).erase
    ⟨handle, holds, rfl, rfl⟩ (erased _ _)
  have others : ∀ slot endpoint, ¬ (slot = handle.slot ∧ endpoint = handle.endpoint) →
      (pairs slot).used = true → Counted (HoldsEndpoint (Function.update held holder none) slot endpoint)
        ((pairs slot).refs endpoint) := by
    intro slot endpoint elsewhere used
    apply (exact'.counted slot endpoint used).congr
    intro at'
    rw [erased, and_iff_left_iff_imp]
    rintro ⟨other, otherHolds, rfl, rfl⟩ rfl
    rw [holds] at otherHolds
    cases otherHolds
    exact elsewhere ⟨rfl, rfl⟩
  refine ⟨fun slot endpoint isUsed => ?_, fun at' other otherHolds => ?_⟩
  · by_cases here : slot = handle.slot
    · subst here
      rw [Function.update_self] at isUsed ⊢
      rw [(kept isUsed).2, Function.update_apply]
      split
      · simp [*]
      · rename_i notEndpoint
        exact others _ _ (fun both => notEndpoint both.2) live.used
    simp_all
  · rw [Function.update_apply] at otherHolds
    split at otherHolds
    · cases otherHolds
    rename_i different
    have valid := exact'.valid _ _ otherHolds
    -- Were the pair given back, nobody else would hold it.
    have stillUsed : other.slot = handle.slot → pair.used = true := by
      intro isSlot
      cases isUsed : pair.used with
      | true => rfl
      | false =>
        rcases reset isUsed with ⟨one, none'⟩
        by_cases isEndpoint : other.endpoint = handle.endpoint
        · have nobody := dropped.2
          rw [one] at nobody
          exact absurd ⟨other, (Function.update_of_ne different _ _).trans otherHolds, isSlot,
            isEndpoint⟩ (nobody.nobody at')
        · have nobody := exact'.counted handle.slot (peerEndpoint handle.endpoint) live.used
          rw [none'] at nobody
          exact absurd ⟨other, otherHolds, isSlot, eq_peerEndpoint_of_ne isEndpoint⟩ (nobody.nobody at')
    refine ⟨valid.slotInside, valid.generation, ?_, ?_⟩
    · rw [Function.update_apply]
      split
      · simp [*]
      · exact valid.used
    · rw [Function.update_apply]
      split
      · rename_i isSlot
        rw [(kept (stillUsed isSlot)).1, ← isSlot]
        exact valid.sameGeneration
      · exact valid.sameGeneration

end References

/-- The process that a waiter on record stands for. -/
def waiterOf (pid : Nat) : Option Nat := if pid ≠ 0 then some pid else none

theorem wakeEndpoint_fst (pair : PtyPair) (endpoint : PtyEndpoint) :
    (wakeEndpoint pair endpoint).1 = waiterOf (pair.readWaiterPid endpoint) := by
  rw [wakeEndpoint, waiterOf]
  split <;> rfl

theorem wakeEndpoint_refs (pair : PtyPair) (endpoint : PtyEndpoint) :
    (wakeEndpoint pair endpoint).2.refs = pair.refs := by
  rw [wakeEndpoint]
  split <;> rfl

theorem wakeEndpoint_generation (pair : PtyPair) (endpoint : PtyEndpoint) :
    (wakeEndpoint pair endpoint).2.generation = pair.generation := by
  rw [wakeEndpoint]
  split <;> rfl

theorem wakeEndpoint_readWaiterPid_of_ne {pair : PtyPair} {endpoint other : PtyEndpoint}
    (different : other ≠ endpoint) :
    (wakeEndpoint pair endpoint).2.readWaiterPid other = pair.readWaiterPid other := by
  rw [wakeEndpoint]
  split
  · exact Function.update_of_ne different _ _
  · rfl

/-- What closing a live handle does to its pair. -/
inductive CloseEffect (pair : PtyPair) (endpoint : PtyEndpoint) : Option Nat → PtyPair → Prop where
  /-- Other references of the endpoint remain. -/
  | dropped (next : PtyPair) (remain : pair.refs endpoint ≠ 1)
      (isNext : next = { pair with
        refs := Function.update pair.refs endpoint (pair.refs endpoint - 1) }) :
      CloseEffect pair endpoint none next
  /-- The last one goes, and the peer is woken. -/
  | hungUp (woken : Option Nat) (next : PtyPair) (last : pair.refs endpoint = 1)
      (peer : pair.refs (peerEndpoint endpoint) ≠ 0)
      (isWaiter : woken = waiterOf (pair.readWaiterPid (peerEndpoint endpoint))) (used : next.used = pair.used)
      (generation : next.generation = pair.generation)
      (refs : next.refs = Function.update pair.refs endpoint (pair.refs endpoint - 1)) :
      CloseEffect pair endpoint woken next
  /-- The last one of both goes, and the pair is given back. -/
  | released (woken : Option Nat) (next : PtyPair) (last : pair.refs endpoint = 1)
      (peer : pair.refs (peerEndpoint endpoint) = 0) (unused : next.used = false) :
      CloseEffect pair endpoint woken next

theorem both_zero_iff (refs : PtyEndpoint → Nat) (endpoint : PtyEndpoint) :
    refs .master = 0 ∧ refs .slave = 0 ↔ refs endpoint = 0 ∧ refs (peerEndpoint endpoint) = 0 := by
  cases endpoint
  · exact Iff.rfl
  · exact and_comm

theorem ptyClose_effect {pairs : PtyPairs} {handle : PtyHandle} (live : HandleLive pairs handle) :
    ∃ woken next, ptyClose pairs handle = (.ok, woken, Function.update pairs handle.slot next) ∧
      CloseEffect (pairs handle.slot) handle.endpoint woken next := by
  have positive := live.referenced
  refine ⟨_, _, by rw [ptyClose, pairFromHandle_of_live live], ?_⟩
  rw [hangUp]
  by_cases last : (pairs handle.slot).refs handle.endpoint = 1
  · have gone : Function.update (pairs handle.slot).refs handle.endpoint
        ((pairs handle.slot).refs handle.endpoint - 1) handle.endpoint = 0 := by
      rw [Function.update_self, last]
    rw [if_pos gone, resetUnreferenced]
    by_cases peer : (pairs handle.slot).refs (peerEndpoint handle.endpoint) = 0
    · apply CloseEffect.released _ _ last peer
      rw [if_pos]
      · rfl
      · rw [both_zero_iff _ handle.endpoint, wakeEndpoint_refs]
        grind
    · rw [if_neg]
      · have same : Function.update (pairs handle.slot).readWaiterPid handle.endpoint 0
            (peerEndpoint handle.endpoint) =
              (pairs handle.slot).readWaiterPid (peerEndpoint handle.endpoint) :=
          Function.update_of_ne (peerEndpoint_ne _) _ _
        exact CloseEffect.hungUp _ _ last peer
          ((wakeEndpoint_fst _ _).trans (congrArg waiterOf same)) (wakeEndpoint_used _ _)
          (wakeEndpoint_generation _ _) (wakeEndpoint_refs _ _)
      · rw [both_zero_iff _ handle.endpoint, wakeEndpoint_refs]
        simp_all [Function.update_of_ne, peerEndpoint_ne]
  · have remains : Function.update (pairs handle.slot).refs handle.endpoint
        ((pairs handle.slot).refs handle.endpoint - 1) handle.endpoint ≠ 0 := by
      rw [Function.update_self]
      omega
    rw [if_neg remains, resetUnreferenced, if_neg]
    · exact CloseEffect.dropped _ last rfl
    · rw [both_zero_iff _ handle.endpoint]
      exact fun both => remains both.1

section Sound

variable {held : PtyHolder → Option PtyHandle} {awaits awaits' : Nat → PtyHandle → Prop}
  {pairs : PtyPairs} {holder : PtyHolder} {handle : PtyHandle}

theorem PtySound.live (sound : PtySound held awaits pairs) {pid : Nat} (waits : awaits pid handle) :
    HandleLive pairs handle := by
  rcases sound.holders pid handle waits with ⟨holder, holds⟩
  exact sound.references.live holds

/-- The pair of a waiter changes, but not in what he waits for. -/
theorem Waiting.update {pid slot : Nat} {pair : PtyPair} (before : Waiting pairs pid handle)
    (here : handle.slot = slot → (pairs slot).readWaiterPid handle.endpoint = pid →
      (incomingRing (pairs slot) handle.endpoint).count = 0 →
      (pairs slot).refs (peerEndpoint handle.endpoint) ≠ 0 →
      pair.readWaiterPid handle.endpoint = pid ∧ (incomingRing pair handle.endpoint).count = 0 ∧
        pair.refs (peerEndpoint handle.endpoint) ≠ 0) :
    Waiting (Function.update pairs slot pair) pid handle := by
  by_cases isSlot : handle.slot = slot
  · subst isSlot
    rcases here rfl before.recorded before.nothing before.peer with ⟨recorded, nothing, peer⟩
    have changed : Function.update pairs handle.slot pair handle.slot = pair :=
      Function.update_self _ _ _
    exact ⟨before.positive, by rw [changed]; exact recorded, by rw [changed]; exact nothing,
      by rw [changed]; exact peer⟩
  · have kept : Function.update pairs slot pair handle.slot = pairs handle.slot :=
      Function.update_of_ne isSlot _ _
    exact ⟨before.positive, by rw [kept]; exact before.recorded, by rw [kept]; exact before.nothing,
      by rw [kept]; exact before.peer⟩

/-- A pair changes outside of its references. -/
theorem PtySound.update (sound : PtySound held awaits pairs) {slot : Nat} {pair : PtyPair}
    (used : pair.used = (pairs slot).used) (generation : pair.generation = (pairs slot).generation)
    (refs : pair.refs = (pairs slot).refs) (fewer : ∀ pid other, awaits' pid other → awaits pid other)
    (waits : ∀ pid other, awaits' pid other → other.slot = slot →
      pair.readWaiterPid other.endpoint = (pairs slot).readWaiterPid other.endpoint ∧
        ((incomingRing (pairs slot) other.endpoint).count = 0 →
          (incomingRing pair other.endpoint).count = 0)) :
    PtySound held awaits' (Function.update pairs slot pair) := by
  refine ⟨sound.references.congr (fun other => ?_) (fun other => ?_) (fun other => ?_),
    fun pid other isWaiting => ?_, fun pid other isWaiting => sound.holders pid other
      (fewer pid other isWaiting)⟩
  · grind
  · grind
  · grind
  · apply (sound.waits pid other (fewer pid other isWaiting)).update
    grind

theorem waiterOf_of_ne {pid : Nat} (positive : pid ≠ 0) : waiterOf pid = some pid := if_pos positive

/-- A holder closes its handle.  Whoever waits on was not woken and has a
holder of his own. -/
theorem PtySound.close (sound : PtySound held awaits pairs) (holds : held holder = some handle) :
    ∃ woken next, ptyClose pairs handle = (.ok, woken, next) ∧
      ∀ awaits' : Nat → PtyHandle → Prop,
        (∀ pid other, awaits' pid other → awaits pid other ∧ woken ≠ some pid ∧
          ∃ remaining, remaining ≠ holder ∧ held remaining = some other) →
        PtySound (Function.update held holder none) awaits' next := by
  have live := sound.references.live holds
  rcases ptyClose_effect live with ⟨woken, pair, closed, effect⟩
  refine ⟨woken, _, closed, fun awaits' waits => ?_⟩
  have references : ReferencesExact (Function.update held holder none)
      (Function.update pairs handle.slot pair) := by
    apply sound.references.erase holds
    · intro used
      cases effect with
      | dropped _ remain isNext =>
        rw [isNext]
        exact ⟨rfl, rfl⟩
      | hungUp _ _ last peer isWaiter isUsed generation refs => exact ⟨generation, refs⟩
      | released _ _ last peer unused =>
        rw [unused] at used
        cases used
    · intro unused
      cases effect with
      | dropped _ remain isNext =>
        rw [isNext] at unused
        rw [live.used] at unused
        cases unused
      | hungUp _ _ last peer isWaiter isUsed generation refs =>
        rw [isUsed, live.used] at unused
        cases unused
      | released _ _ last peer _ => exact ⟨last, peer⟩
  have holders : ∀ pid other, awaits' pid other →
      ∃ remaining, Function.update held holder none remaining = some other := by
    intro pid other isWaiting
    rcases waits pid other isWaiting with ⟨-, -, remaining, different, otherHolds⟩
    exact ⟨remaining, (Function.update_of_ne different _ _).trans otherHolds⟩
  refine ⟨references, fun pid other isWaiting => ?_, holders⟩
  rcases waits pid other isWaiting with ⟨before, notWoken, -⟩
  rcases holders pid other isWaiting with ⟨remaining, otherHolds⟩
  have stillLive := references.live otherHolds
  have waiting := sound.waits pid other before
  apply waiting.update
  intro here recorded nothing peer
  have used := stillLive.used
  have referenced := stillLive.referenced
  rw [here, Function.update_self] at used referenced
  cases effect with
  | dropped _ remain isNext =>
    rw [isNext]
    refine ⟨recorded, ?_, ?_⟩
    · assumption
    grind
  | hungUp _ _ last peer' isWaiter isUsed generation refs =>
    -- The closed endpoint has no holder left, so that the waiter is its peer.
    rw [refs] at referenced
    have isPeer : other.endpoint = peerEndpoint handle.endpoint := by
      apply eq_peerEndpoint_of_ne
      intro same
      rw [same, Function.update_self, last] at referenced
      exact referenced rfl
    rw [isWaiter, ← isPeer, recorded, waiterOf_of_ne waiting.positive] at notWoken
    exact absurd rfl notWoken
  | released _ _ last peer' unused =>
    rw [unused] at used
    cases used

/-- A free holder takes another reference, unless there are too many. -/
theorem PtySound.retain (sound : PtySound held awaits pairs) (live : HandleLive pairs handle)
    (free : held holder = none) :
    (∃ next, ptyRetain pairs handle = (.ok, next) ∧
        PtySound (Function.update held holder (some handle)) awaits next) ∨
      ptyRetain pairs handle = (.invalid, pairs) := by
  rw [ptyRetain, pairFromHandle_of_live live]
  dsimp only
  split
  · exact Or.inr rfl
  refine Or.inl ⟨_, rfl, ?_⟩
  refine ⟨sound.references.insert live free live.used rfl rfl, fun pid other isWaiting => ?_,
    fun pid other isWaiting => ?_⟩
  · apply (sound.waits pid other isWaiting).update
    intro here recorded nothing peer
    refine ⟨recorded, ?_, ?_⟩
    · assumption
    grind
  · rcases sound.holders pid other isWaiting with ⟨remaining, holds⟩
    refine ⟨remaining, ?_⟩
    grind

end Sound

end BoringOS.Pty
