import BoringOS.Pty.DescriptorSteps

namespace BoringOS.Pty

open Library

/-!
# Binding a descriptor again

`kernel_fd_bind_pty` drops what a slot holds before it takes the new reference.
When the new reference cannot be had, the slot has lost its old one.  Here the
two functions are followed on every table, also on one that is not initialised
and with a regular file that does not close, and it is said exactly when a call
either succeeds with exact counts or leaves everything as it was.
-/

/-- `kernel_fd_bind_pty`.  The table may not be initialised, and the regular file
in the slot closes or it does not. -/
def kernelFdBindPtyAny (initialized closes : Bool) (system : PtySystem) (pid fd : Nat)
    (handle : PtyHandle) (access : Nat) : VfsResult × PtySystem :=
  if initialized = false ∨ kernelFdMax ≤ fd ∨ kernelFdAccessValid access = false then
    (.invalidArgument, system)
  else
    match (system.processes pid).fdTable fd with
    | .regular _ =>
      if closes = false then (.corrupt, system)
      else bindUnused (system.setSlot pid fd .unused) pid fd handle access
    | .pty old _ =>
      match system.closePty old with
      | (.ok, closed) => bindUnused (closed.setSlot pid fd .unused) pid fd handle access
      | (_, failed) => (.corrupt, failed)
    | _ => bindUnused (system.setSlot pid fd .unused) pid fd handle access

/-- `kernel_fd_clone_stdio`, with tables and files as in `kernelFdBindPtyAny` -/
def kernelFdCloneStdioAny (initialized closes : Bool)
    (system : PtySystem) (source sourceFd target targetFd requiredAccess : Nat) :
    VfsResult × PtySystem :=
  if initialized = false ∨ kernelFdMax ≤ sourceFd ∨ kernelFdFirstRegular ≤ targetFd ∨
      kernelFdAccessValid requiredAccess = false then (.invalidArgument, system)
  else
    match (system.processes source).fdTable sourceFd with
    | .pty handle access =>
      if access &&& requiredAccess ≠ requiredAccess then (.accessDenied, system)
      else kernelFdBindPtyAny initialized closes system target targetFd handle requiredAccess
    | .consoleInput =>
      if vfsAccessRead &&& requiredAccess = requiredAccess ∧ targetFd = kernelFdStdin ∧
          (system.processes target).fdTable targetFd = .consoleInput then (.ok, system)
      else (.accessDenied, system)
    | .consoleOutput =>
      if vfsAccessWrite &&& requiredAccess = requiredAccess ∧ targetFd ≠ kernelFdStdin ∧
          (system.processes target).fdTable targetFd = .consoleOutput then (.ok, system)
      else (.accessDenied, system)
    | _ => (.accessDenied, system)

/-! ## What a call leaves behind -/

/-- Every count is the number of descriptors that name the side of the pair, where
the two handles of `m36_pty_create` count as long as it has them, and it is a
value of 32 bits. -/
structure CountsExact (locals : PtyEndpoint → Option PtyHandle) (system : PtySystem) : Prop where
  references : ReferencesExact (system.held locals) system.pairs
  small : ∀ slot endpoint, (system.pairs slot).refs endpoint ≤ uint32Max

/-- No slot of a table has changed, and no count. -/
structure Unchanged (system next : PtySystem) : Prop where
  tables : ∀ pid fd, (next.processes pid).fdTable fd = (system.processes pid).fdTable fd
  counts : ∀ slot endpoint, (next.pairs slot).refs endpoint = (system.pairs slot).refs endpoint

/-- An error leaves everything as it was, and a success leaves exact counts. -/
structure AllOrNothing (locals : PtyEndpoint → Option PtyHandle) (system : PtySystem)
    (outcome : VfsResult × PtySystem) : Prop where
  failed : outcome.1 ≠ .ok → Unchanged system outcome.2
  done : outcome.1 = .ok → ReferencesExact (outcome.2.held locals) outcome.2.pairs

variable {system : PtySystem} {locals : PtyEndpoint → Option PtyHandle} {pid fd : Nat}
  {handle old : PtyHandle} {access : Nat}

theorem allOrNothing_error {result : VfsResult} (error : result ≠ .ok) :
    AllOrNothing locals system (result, system) :=
  ⟨fun _ => ⟨fun _ _ => rfl, fun _ _ => rfl⟩, fun success => absurd success error⟩

/-- One more reference can be taken. -/
structure Retainable (pairs : PtyPairs) (handle : PtyHandle) : Prop where
  live : HandleLive pairs handle
  notFull : (pairs handle.slot).refs handle.endpoint ≠ uint32Max

/-- A clear slot takes the handle if one more reference can be taken, and stays
clear otherwise. -/
theorem bindUnused_cases (exact' : ReferencesExact (system.held locals) system.pairs)
    (clear : ((system.processes pid).fdTable fd).handle = none) (access : Nat) :
    Retainable system.pairs handle ∧ (bindUnused system pid fd handle access).1 = .ok ∧
        ReferencesExact ((bindUnused system pid fd handle access).2.held locals)
          (bindUnused system pid fd handle access).2.pairs ∨
      ¬ Retainable system.pairs handle ∧
        bindUnused system pid fd handle access = (.invalidArgument, system) := by
  have free : system.held locals (.inl (pid, fd)) = none := clear
  by_cases retainable : Retainable system.pairs handle
  · left
    refine ⟨retainable, ?_⟩
    rw [bindUnused, ptyRetain, pairFromHandle_of_live retainable.live]
    simp only [if_neg retainable.notFull]
    refine ⟨trivial, ?_⟩
    rw [held_setSlot]
    exact exact'.insert retainable.live free retainable.live.used rfl rfl
  · right
    refine ⟨retainable, ?_⟩
    rw [bindUnused, ptyRetain]
    cases found : pairFromHandle system.pairs handle with
    | none => rfl
    | some pair =>
      rcases pairFromHandle_eq_some.mp found with ⟨live, rfl⟩
      have full : (system.pairs handle.slot).refs handle.endpoint = uint32Max :=
        not_not.mp fun notFull => retainable ⟨live, notFull⟩
      simp only [if_pos full]

/-- The new reference can be taken once the old one of the slot is gone.  A slot
that holds the last reference of the side itself does not leave it. -/
def Rebindable (closes : Bool) (system : PtySystem) (pid fd : Nat) (handle : PtyHandle) : Prop :=
  match (system.processes pid).fdTable fd with
  | .unused => True
  | .regular _ => closes = false ∨ Retainable system.pairs handle
  | .pty old _ =>
    HandleLive system.pairs handle ∧
      if handle = old then (system.pairs handle.slot).refs handle.endpoint ≠ 1
      else (system.pairs handle.slot).refs handle.endpoint ≠ uint32Max
  | _ => Retainable system.pairs handle

/-! ## Taking a reference behind a released one -/

theorem retainable_update {pairs : PtyPairs} {pair : PtyPair} {handle : PtyHandle}
    (used : pair.used = (pairs handle.slot).used)
    (generation : pair.generation = (pairs handle.slot).generation)
    (count : pair.refs handle.endpoint = (pairs handle.slot).refs handle.endpoint) :
    Retainable (Function.update pairs handle.slot pair) handle ↔ Retainable pairs handle := by
  have same : Function.update pairs handle.slot pair handle.slot = pair := Function.update_self _ _ _
  constructor
  · rintro ⟨⟨inside, positive, isUsed, isGeneration, referenced⟩, notFull⟩
    rw [same] at isUsed isGeneration referenced notFull
    exact ⟨⟨inside, positive, used.symm.trans isUsed, generation.symm.trans isGeneration,
      count ▸ referenced⟩, count ▸ notFull⟩
  · rintro ⟨⟨inside, positive, isUsed, isGeneration, referenced⟩, notFull⟩
    refine ⟨⟨inside, positive, ?_, ?_, ?_⟩, ?_⟩
    · rw [same, used, isUsed]
    · rw [same, generation, isGeneration]
    · rw [same, count]
      exact referenced
    · rw [same, count]
      exact notFull

/-- After the release of a held reference another one can be taken exactly when the
handle was live, and was not the last reference of its side that went. -/
theorem retainable_closed {pairs : PtyPairs} (live : HandleLive pairs old) {woken : Option Nat}
    {pair : PtyPair} (effect : CloseEffect (pairs old.slot) old.endpoint woken pair)
    (small : ∀ slot endpoint, (pairs slot).refs endpoint ≤ uint32Max) :
    Retainable (Function.update pairs old.slot pair) handle ↔ HandleLive pairs handle ∧
        if handle = old then (pairs handle.slot).refs handle.endpoint ≠ 1
        else (pairs handle.slot).refs handle.endpoint ≠ uint32Max := by
  by_cases elsewhere : handle.slot = old.slot
  · by_cases sameSide : handle.endpoint = old.endpoint
    · by_cases isOld : handle = old
      · subst isOld
        rw [if_pos rfl]
        have positive := live.referenced
        cases effect with
        | dropped _ remain isNext =>
          have count : pair.refs handle.endpoint = (pairs handle.slot).refs handle.endpoint - 1 := by
            rw [isNext]
            exact Function.update_self _ _ _
          refine iff_of_true ⟨⟨live.slotInside, live.generation, ?_, ?_, ?_⟩, ?_⟩ ⟨live, remain⟩
          · rw [Function.update_self, isNext]
            exact live.used
          · rw [Function.update_self, isNext]
            exact live.sameGeneration
          · grind
          grind
        | hungUp _ _ last peer isWaiter used generation refs =>
          refine iff_of_false (fun retainable => ?_) fun both => both.2 last
          have referenced := retainable.live.referenced
          simp_all
        | released _ _ last peer unused =>
          refine iff_of_false (fun retainable => ?_) fun both => both.2 last
          have used := retainable.live.used
          simp_all
      · refine iff_of_false (fun retainable => ?_)
          fun both => isOld (live.eq_of_endpoint both.1 elsewhere sameSide)
        have generation := retainable.live.sameGeneration
        have used := retainable.live.used
        rw [elsewhere, Function.update_self] at generation used
        apply isOld
        have same : pair.generation = (pairs old.slot).generation := by
          cases effect with
          | dropped _ remain isNext => rw [isNext]
          | hungUp _ _ last peer isWaiter isUsed generation' refs => exact generation'
          | released _ _ last peer unused =>
            rw [unused] at used
            cases used
        have numbers : handle.generation = old.generation :=
          generation.symm.trans (same.trans live.sameGeneration)
        cases handle
        simp_all
    · have isPeer : handle.endpoint = peerEndpoint old.endpoint := eq_peerEndpoint_of_ne sameSide
      have notOld : handle ≠ old := fun same => sameSide (congrArg PtyHandle.endpoint same)
      rw [if_neg notOld, ← elsewhere]
      rw [← elsewhere] at effect
      have asBefore : Retainable pairs handle ↔ HandleLive pairs handle ∧
          (pairs handle.slot).refs handle.endpoint ≠ uint32Max :=
        ⟨fun retainable => ⟨retainable.live, retainable.notFull⟩, fun both => ⟨both.1, both.2⟩⟩
      rw [← asBefore]
      cases effect with
      | dropped _ remain isNext =>
        apply retainable_update
        · rw [isNext]
        · rw [isNext]
        simp_all
      | hungUp _ _ last peer isWaiter used generation refs =>
        apply retainable_update used generation
        rw [refs, Function.update_of_ne sameSide]
      | released _ _ last peer unused =>
        refine iff_of_false (fun retainable => ?_) fun retainable => ?_
        · have used := retainable.live.used
          simp_all
        · have referenced := retainable.live.referenced
          simp_all
  · have notOld : handle ≠ old := fun same => elsewhere (congrArg PtyHandle.slot same)
    have same : Function.update pairs old.slot pair handle.slot = pairs handle.slot :=
      Function.update_of_ne elsewhere _ _
    rw [if_neg notOld]
    constructor
    · rintro ⟨⟨inside, positive, used, generation, referenced⟩, notFull⟩
      rw [same] at used generation referenced notFull
      exact ⟨⟨inside, positive, used, generation, referenced⟩, notFull⟩
    · rintro ⟨⟨inside, positive, used, generation, referenced⟩, notFull⟩
      refine ⟨⟨inside, positive, ?_, ?_, ?_⟩, ?_⟩ <;> rw [same] <;> assumption

/-! ## The two calls -/

/-- A slot that has lost what it held -/
theorem not_unchanged_of_cleared {next : PtySystem} (before : (system.processes pid).fdTable fd ≠ .unused)
    (after : (next.processes pid).fdTable fd = .unused) : ¬ Unchanged system next := by
  intro unchanged
  exact before ((unchanged.tables pid fd).symm.trans after)

/-- Binding behind the release of a slot that held something -/
theorem allOrNothing_bindUnused {cleared : PtySystem}
    (exact' : ReferencesExact (cleared.held locals) cleared.pairs)
    (before : (system.processes pid).fdTable fd ≠ .unused)
    (after : (cleared.processes pid).fdTable fd = .unused) :
    AllOrNothing locals system (bindUnused cleared pid fd handle access) ↔
      Retainable cleared.pairs handle := by
  have clear : ((cleared.processes pid).fdTable fd).handle = none := by
    rw [after]
    rfl
  rcases bindUnused_cases exact' clear access with
    ⟨retainable, success, counts⟩ | ⟨notRetainable, refused⟩
  · exact iff_of_true ⟨fun error => absurd success error, fun _ => counts⟩ retainable
  refine iff_of_false (fun atomic => ?_) notRetainable
  rw [refused] at atomic
  exact not_unchanged_of_cleared before after (atomic.failed fun impossible => by cases impossible)

theorem cleared_slot (system : PtySystem) (pid fd : Nat) :
    ((system.setSlot pid fd .unused).processes pid).fdTable fd = .unused := by
  rw [setSlot_fdTable, if_pos ⟨rfl, rfl⟩]

/-- A slot without a handle is cleared without any effect on the counts. -/
theorem referencesExact_cleared (exact' : ReferencesExact (system.held locals) system.pairs)
    (noHandle : ((system.processes pid).fdTable fd).handle = none) :
    ReferencesExact ((system.setSlot pid fd .unused).held locals)
      (system.setSlot pid fd .unused).pairs := by
  have same : (system.setSlot pid fd .unused).held locals = system.held locals := by
    rw [held_setSlot]
    exact Function.update_eq_self_iff.mpr noHandle.symm
  rw [same]
  exact exact'

/-- `kernel_fd_bind_pty` with good arguments is exact where the slot can be bound
again, and only there. -/
theorem bindPty_allOrNothing (counts : CountsExact locals system) {closes : Bool}
    (valid : ¬ (true = false ∨ kernelFdMax ≤ fd ∨ kernelFdAccessValid access = false)) :
    AllOrNothing locals system (kernelFdBindPtyAny true closes system pid fd handle access) ↔
      Rebindable closes system pid fd handle := by
  rw [kernelFdBindPtyAny, if_neg valid, Rebindable]
  have clearing : ∀ (noHandle : ((system.processes pid).fdTable fd).handle = none)
      (before : (system.processes pid).fdTable fd ≠ .unused), AllOrNothing locals system
          (bindUnused (system.setSlot pid fd .unused) pid fd handle access) ↔
        Retainable system.pairs handle :=
    fun noHandle before => allOrNothing_bindUnused
      (referencesExact_cleared counts.references noHandle) before (cleared_slot system pid fd)
  cases slot : (system.processes pid).fdTable fd with
  | unused =>
    have noHandle : ((system.processes pid).fdTable fd).handle = none := by
      rw [slot]
      rfl
    refine iff_of_true ?_ trivial
    rcases bindUnused_cases (referencesExact_cleared counts.references noHandle)
        (by rw [cleared_slot]; rfl) access with ⟨-, success, after⟩ | ⟨-, refused⟩
    · exact ⟨fun error => absurd success error, fun _ => after⟩
    simp only [refused]
    refine ⟨fun _ => ⟨fun other otherFd => ?_, fun _ _ => rfl⟩, fun impossible => by
      cases impossible⟩
    rw [setSlot_fdTable]
    simp_all
  | consoleInput =>
    exact clearing (by rw [slot]; rfl) (by simp [*])
  | consoleOutput =>
    exact clearing (by rw [slot]; rfl) (by simp [*])
  | regular fileAccess =>
    by_cases stays : closes = false
    · simp_all [allOrNothing_error]
    · rw [if_neg stays, or_iff_right stays]
      exact clearing (by rw [slot]; rfl) (by simp [*])
  | pty old oldAccess =>
    have holds : system.held locals (.inl (pid, fd)) = some old := by
      rw [PtySystem.held, slot]
      rfl
    have live := counts.references.live holds
    rcases ptyClose_effect live with ⟨woken, pair, closed, effect⟩
    have result : system.closePty old =
        (.ok, { system with pairs := Function.update system.pairs old.slot pair }.wake woken) := by
      rw [PtySystem.closePty, closed]
    simp only [result]
    rw [← retainable_closed live effect counts.small]
    have released : ReferencesExact
        ((({ system with pairs := Function.update system.pairs old.slot pair }.wake
          woken).setSlot pid fd .unused).held locals)
        (Function.update system.pairs old.slot pair) := by
      rw [held_setSlot, held_wake]
      apply counts.references.erase holds
      · intro used
        cases effect with
        | dropped _ remain isNext =>
          grind
        | hungUp _ _ last peer isWaiter isUsed generation refs => exact ⟨generation, refs⟩
        | released _ _ last peer unused =>
          rw [unused] at used
          cases used
      · intro unused
        cases effect with
        | dropped _ remain isNext =>
          rw [isNext, live.used] at unused
          cases unused
        | hungUp _ _ last peer isWaiter isUsed generation refs =>
          rw [isUsed, live.used] at unused
          cases unused
        | released _ _ last peer _ => exact ⟨last, peer⟩
    simp_all [allOrNothing_bindUnused, cleared_slot]

/-- Arguments that `kernel_fd_bind_pty` does not look behind -/
def BadArguments (initialized : Bool) (fd access : Nat) : Prop :=
  initialized = false ∨ kernelFdMax ≤ fd ∨ kernelFdAccessValid access = false

theorem bindPtyAny_allOrNothing (counts : CountsExact locals system) (initialized closes : Bool)
    (pid fd : Nat) (handle : PtyHandle) (access : Nat) :
    AllOrNothing locals system
        (kernelFdBindPtyAny initialized closes system pid fd handle access) ↔
      BadArguments initialized fd access ∨ Rebindable closes system pid fd handle := by
  by_cases bad : BadArguments initialized fd access
  · have refused : kernelFdBindPtyAny initialized closes system pid fd handle access =
        (.invalidArgument, system) := if_pos bad
    simp_all [allOrNothing_error]
  · rw [or_iff_right bad]
    rcases initialized with _ | _
    · exact absurd (Or.inl rfl) bad
    · exact bindPty_allOrNothing counts bad

/-- The two calls either succeed with exact counts or leave everything as it was,
exactly where the reference that they need can still be taken once the slot has
given up what it held. -/
theorem rebinding_exact (counts : CountsExact locals system) (initialized closes : Bool) :
    (∀ pid fd handle access,
      AllOrNothing locals system (kernelFdBindPtyAny initialized closes system pid fd handle access) ↔
        BadArguments initialized fd access ∨ Rebindable closes system pid fd handle) ∧
    ∀ source sourceFd target targetFd requiredAccess,
      AllOrNothing locals system (kernelFdCloneStdioAny initialized closes system source sourceFd
          target targetFd requiredAccess) ↔
        ∀ handle access, (system.processes source).fdTable sourceFd = .pty handle access →
          sourceFd < kernelFdMax → targetFd < kernelFdFirstRegular →
          access &&& requiredAccess = requiredAccess →
            BadArguments initialized targetFd requiredAccess ∨
              Rebindable closes system target targetFd handle := by
  refine ⟨fun pid fd handle access =>
    bindPtyAny_allOrNothing counts initialized closes pid fd handle access, ?_⟩
  intro source sourceFd target targetFd requiredAccess
  have refused : ∀ result, result ≠ VfsResult.ok → AllOrNothing locals system (result, system) :=
    fun result error => allOrNothing_error error
  have kept : AllOrNothing locals system (.ok, system) :=
    ⟨fun error => absurd rfl error, fun _ => counts.references⟩
  rw [kernelFdCloneStdioAny]
  by_cases bad : initialized = false ∨ kernelFdMax ≤ sourceFd ∨ kernelFdFirstRegular ≤ targetFd ∨
      kernelFdAccessValid requiredAccess = false
  · rw [if_pos bad]
    refine iff_of_true (refused _ fun impossible => by cases impossible) ?_
    intro handle access _ inSource inTarget _
    rcases bad with uninitialized | outside | outside | invalid
    · exact Or.inl (Or.inl uninitialized)
    · omega
    · omega
    · exact Or.inl (Or.inr (Or.inr invalid))
  · rw [if_neg bad]
    simp only [not_or, Nat.not_le] at bad
    cases slot : (system.processes source).fdTable sourceFd with
    | unused =>
      simp [*]
    | regular access =>
      simp [*]
    | consoleInput =>
      grind
    | consoleOutput =>
      grind
    | pty handle access =>
      simp only
      by_cases denied : access &&& requiredAccess ≠ requiredAccess
      · simp [*]
      grind [bindPtyAny_allOrNothing]

/-! ## The last reference of a side -/

/-- A master handle of the first pair -/
def soleMaster : PtyHandle := ⟨0, .master, 1⟩

def soleSlave : PtyHandle := ⟨0, .slave, 1⟩

/-- A process that holds each side of a pair by one descriptor -/
def pairHolder : PtySystem where
  pairs := Function.update ptyInit 0 ⟨ringClear, ringClear, 1, fun _ => 1, fun _ => 0, true⟩
  processes pid :=
    if pid = 1 then
      ⟨fun fd => if fd = 3 then .pty soleMaster vfsAccessRead
        else if fd = 4 then .pty soleSlave vfsAccessRead else .unused, .running⟩
    else ⟨fun _ => .unused, .absent⟩
  nextPid := 2

theorem pairHolder_pairs {slot : Nat} (other : slot ≠ 0) : pairHolder.pairs slot = ptyInit slot :=
  Function.update_of_ne other _ _

theorem pairHolder_held {holder : PtyHolder} {handle : PtyHandle}
    (holds : pairHolder.held noLocals holder = some handle) :
    holder = .inl (1, 3) ∧ handle = soleMaster ∨ holder = .inl (1, 4) ∧ handle = soleSlave := by
  rcases holder with ⟨pid, fd⟩ | endpoint
  · rw [PtySystem.held, pairHolder] at holds
    by_cases isFirst : pid = 1
    · subst isFirst
      by_cases isMaster : fd = 3
      · subst isMaster
        exact Or.inl ⟨rfl, (Option.some.inj holds).symm⟩
      by_cases isSlave : fd = 4
      · subst isSlave
        exact Or.inr ⟨rfl, (Option.some.inj holds).symm⟩
      · simp only [if_true, if_neg isMaster, if_neg isSlave] at holds
        cases holds
    · simp only [if_neg isFirst] at holds
      cases holds
  · cases holds

theorem pairHolder_counts : CountsExact noLocals pairHolder := by
  refine ⟨⟨fun slot endpoint used => ?_, fun holder handle holds => ?_⟩, fun slot endpoint => ?_⟩
  · by_cases isFirst : slot = 0
    · subst isFirst
      have one : ∀ (holder : PtyHolder) (handle : PtyHandle), handle.slot = 0 →
          pairHolder.held noLocals holder = some handle →
          (∀ other otherHandle, pairHolder.held noLocals other = some otherHandle →
            otherHandle.endpoint = handle.endpoint → other = holder) →
          Counted (HoldsEndpoint (pairHolder.held noLocals) 0 handle.endpoint) 1 := by
        intro holder handle isSlot holds alone
        apply Counted.insert (Counted.none fun other nothing => nothing) (fun nothing => nothing)
        intro other
        rw [false_or]
        constructor
        · rintro ⟨otherHandle, otherHolds, -, sameEnd⟩
          exact alone other otherHandle otherHolds sameEnd
        · rintro rfl
          exact ⟨handle, holds, isSlot, rfl⟩
      cases endpoint with
      | master =>
        refine one (.inl (1, 3)) soleMaster rfl rfl fun other otherHandle holds same => ?_
        rcases pairHolder_held holds with ⟨isOther, -⟩ | ⟨-, rfl⟩
        · exact isOther
        · cases same
      | slave =>
        refine one (.inl (1, 4)) soleSlave rfl rfl fun other otherHandle holds same => ?_
        rcases pairHolder_held holds with ⟨-, rfl⟩ | ⟨isOther, -⟩
        · cases same
        · exact isOther
    · rw [pairHolder_pairs isFirst] at used
      cases used
  · rcases pairHolder_held holds with ⟨-, rfl⟩ | ⟨-, rfl⟩
    · exact ⟨by decide, by decide, rfl, rfl⟩
    · exact ⟨by decide, by decide, rfl, rfl⟩
  · by_cases isFirst : slot = 0
    · subst isFirst
      exact (by decide : 1 ≤ uint32Max)
    · rw [pairHolder_pairs isFirst]
      exact Nat.zero_le _

/-- A free slot takes another reference to the master. -/
theorem rebinding_exact_free : CountsExact noLocals pairHolder ∧ AllOrNothing noLocals pairHolder
      (kernelFdBindPtyAny true true pairHolder 1 5 soleMaster vfsAccessRead) :=
  ⟨pairHolder_counts, ((rebinding_exact pairHolder_counts true true).1 1 5 soleMaster vfsAccessRead).mpr
      (Or.inr trivial)⟩

/-- The descriptor that holds the last reference of the master is bound to the
master again.  The call fails, the descriptor is gone, and the master hung up. -/
theorem rebind_drops_last_reference : CountsExact noLocals pairHolder ∧
    (kernelFdBindPtyAny true true pairHolder 1 3 soleMaster vfsAccessRead).1 = .invalidArgument ∧
    (((kernelFdBindPtyAny true true pairHolder 1 3 soleMaster vfsAccessRead).2.processes 1).fdTable
      3) = .unused ∧
    ((kernelFdBindPtyAny true true pairHolder 1 3 soleMaster vfsAccessRead).2.pairs 0).refs .master = 0 ∧
    (pairHolder.pairs 0).refs .master = 1 :=
  ⟨pairHolder_counts, rfl, rfl, rfl, rfl⟩

end BoringOS.Pty
