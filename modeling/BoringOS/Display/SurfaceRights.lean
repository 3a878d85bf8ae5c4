import BoringOS.Display.Surfaces
import BoringOS.Library.Run
import BoringOS.WindowManager.ClientTable

namespace BoringOS.Display

open Library WindowManager

/-!
# Rights over surfaces

Who may do what with a surface is decided by three things that the table keeps:
the endpoint that owns it, the process that its placement was delegated for, and
the one manager.  A history of what has been granted is written beside every
run, in which a surface goes by its creation order, since a slot and even a
token may come back.
-/

/-! ## Deeds -/

/-- A request that has been granted -/
inductive Deed where
  | created (endpoint creation : Nat)
  | delegated (endpoint creation : Nat)
  | bound (endpoint pid creation : Nat)
  | placed (endpoint creation : Nat)
  /-- a commit, a damage or a destruction -/
  | changed (endpoint creation : Nat)
  | managed (endpoint pid : Nat)
deriving DecidableEq, Repr

/-- The creation order of the surface that a token stands for -/
def creationOf (core : DisplayCore) (token : Nat) : Nat :=
  match surfaceIndex core token with
  | none => 0
  | some index => (core.surfaces index).creationOrder

/-- What a message does if it is granted -/
def deeds (table : DisplayTable) (endpoint : Nat) (answers : PeerAnswers) :
    DisplayMessage → List Deed
  | .old request _ =>
    if request.type = boringDisplayRequestCreate then
      [.created endpoint table.core.nextCreationOrder]
    else [.changed endpoint (creationOf table.core request.surfaceToken)]
  | .control request _ =>
    match request.type with
    | .delegate => [.delegated endpoint (creationOf table.core request.surface)]
    | .bind => [.bound endpoint request.ownerPid (creationOf table.core request.surface)]
    | .place => [.placed endpoint (creationOf table.core request.surface)]
    | .manager => [.managed endpoint (answers.servicePid.getD 0)]
    | _ => []
  | .malformed => []

/-- A message of a peer, the end of a peer, an input event for the manager, or
the frame of a focus that waited for the input -/
inductive DisplayCall where
  | message (endpoint : Nat) (answers : PeerAnswers) (message : DisplayMessage)
  | hangUp (endpoint : Nat)
  | input (sent : Bool)
  | focusFrame

/-- A call on the table, with the history of what has been granted -/
def tableStep (pidOf : Nat → Nat) (state : DisplayTable × List Deed) :
    DisplayCall → DisplayTable × List Deed
  | .message endpoint answers message =>
    ((answerMessage pidOf state.1 endpoint answers message).2, state.2 ++
        if (receiveMessage pidOf state.1 endpoint answers message).1 = some .ok then
          deeds state.1 endpoint answers message
        else [])
  | .hangUp endpoint => (forgetSurfaces state.1 endpoint, state.2)
  | .input sent => (inputEvent state.1 sent, state.2)
  | .focusFrame => ({ state.1 with focusPresentPending := false }, state.2)

/-! ## Looking up surfaces -/

variable {pidOf : Nat → Nat} {table : DisplayTable} {core : DisplayCore} {history : List Deed}

theorem surfaceIndex_some {token index : Nat} (found : surfaceIndex core token = some index) :
    index < boringDisplaySurfaceMax ∧ (core.surfaces index).active = true ∧
      (core.surfaces index).token = token := by
  have holds := List.find?_some found
  rw [Bool.and_eq_true, beq_iff_eq] at holds
  exact ⟨List.mem_range.mp (List.mem_of_find?_eq_some found), holds⟩

theorem surfaceLookup_some {token slot : Nat} (found : surfaceLookup core token = some slot) :
    slot < boringDisplaySurfaceMax ∧ (core.surfaces slot).active = true ∧
      (core.surfaces slot).token = token ∧ token ≠ 0 := by
  unfold surfaceLookup at found
  by_cases outside : token = 0 ∨ token &&& 255 = 0 ∨ boringDisplaySurfaceMax < token &&& 255 ∨ token >>> 8 = 0
  · rw [if_pos outside] at found
    cases found
  rw [if_neg outside] at found
  by_cases carried : (core.surfaces ((token &&& 255) - 1)).active = true ∧
      (core.surfaces ((token &&& 255) - 1)).generation = token >>> 8 ∧
        (core.surfaces ((token &&& 255) - 1)).token = token
  · grind
  simp_all

/-- The active surfaces carry the tokens of their slots. -/
structure Tokens (core : DisplayCore) : Prop where
  isSlot : ∀ slot, (core.surfaces slot).active = true → slot < boringDisplaySurfaceMax
  token : ∀ slot, (core.surfaces slot).active = true → (core.surfaces slot).token ≠ 0 ∧
    (core.surfaces slot).token &&& 255 = slot + 1

theorem Tokens.unique (tokens : Tokens core) {slot other : Nat}
    (active : (core.surfaces slot).active = true) (active' : (core.surfaces other).active = true)
    (same : (core.surfaces slot).token = (core.surfaces other).token) : slot = other := by
  have low := (tokens.token slot active).2
  rw [same, (tokens.token other active').2] at low
  exact (Nat.succ_injective low).symm

theorem Tokens.creationOf (tokens : Tokens core) {slot : Nat} (active : (core.surfaces slot).active = true) :
    creationOf core (core.surfaces slot).token = (core.surfaces slot).creationOrder := by
  unfold Display.creationOf
  cases found : surfaceIndex core (core.surfaces slot).token with
  | none =>
    have missed := List.find?_eq_none.mp found slot (List.mem_range.mpr (tokens.isSlot slot active))
    simp_all
  | some index =>
    have isFound := surfaceIndex_some found
    rw [tokens.unique isFound.2.1 active isFound.2.2]

theorem tokenEncode_low {slot generation : Nat} (isToken : tokenEncode slot generation ≠ 0) :
    tokenEncode slot generation &&& 255 = slot + 1 := by
  unfold tokenEncode at isToken ⊢
  by_cases outside : boringDisplaySurfaceMax ≤ slot ∨ generation = 0
  · simp_all
  · rw [if_neg outside]
    exact tokenOf_low generation (Nat.lt_of_not_le fun last => outside (Or.inl last))

/-! ## Forgetting -/

/-- The loop of `forget_peer` clears placements, and those of the endpoint's
surfaces among them. -/
theorem forgetEach_placement (core : DisplayCore) (endpoint index : Nat) (slots : List Nat) :
    ∀ managed : DisplayManaged,
      let after := slots.foldl
        (fun managed slot =>
          if ownedBy core endpoint slot = true then
            managedForget managed (core.surfaces slot).token
          else managed) managed
      after.managerEndpoint = managed.managerEndpoint ∧
      (after.placements index = managed.placements index ∨ after.placements index = noPlacement) ∧
      ((∀ slot ∈ slots, ownedBy core endpoint slot = true →
        (managed.placements index).surface ≠ (core.surfaces slot).token) →
          after.placements index = managed.placements index) ∧
      ((∃ slot ∈ slots, ownedBy core endpoint slot = true ∧ index < boringDisplaySurfaceMax ∧
        (managed.placements index).surface = (core.surfaces slot).token) →
          after.placements index = noPlacement) := by
  induction slots with
  | nil =>
    simp
  | cons slot rest ih =>
    intro managed
    simp only [List.foldl_cons]
    by_cases owned : ownedBy core endpoint slot = true
    · rw [if_pos owned]
      rcases ih (managedForget managed (core.surfaces slot).token) with
        ⟨-, kept, -, -⟩
      by_cases hit : index < boringDisplaySurfaceMax ∧
          (managed.placements index).surface = (core.surfaces slot).token
      · simp_all [managedForget, noPlacement, or_self]
      grind [managedForget]
    · rw [if_neg owned]
      grind

/-- What `forget_peer` leaves of the table -/
structure Forgotten (endpoint : Nat) (table after : DisplayTable) : Prop where
  surface : ∀ slot, after.core.surfaces slot = table.core.surfaces slot ∨
    ((table.core.surfaces slot).ownerEndpoint = endpoint ∧
      (after.core.surfaces slot).active = false)
  next : after.core.nextCreationOrder = table.core.nextCreationOrder
  manager : after.managed.managerEndpoint = table.managed.managerEndpoint ∨
    after.managed.managerEndpoint = 0
  seen : after.managerSeen = table.managerSeen
  placement : ∀ index, after.managed.placements index = noPlacement ∨
    (after.managed.placements index = table.managed.placements index ∧
      ∀ slot, ownedBy table.core endpoint slot = true → index < boringDisplaySurfaceMax →
        (table.managed.placements index).surface ≠ (table.core.surfaces slot).token)
  others : ∀ index, (∀ slot, ownedBy table.core endpoint slot = true →
    (table.managed.placements index).surface ≠ (table.core.surfaces slot).token) →
      after.managed.placements index = table.managed.placements index

theorem forgetSurfaces_forgotten (table : DisplayTable) (endpoint : Nat) :
    Forgotten endpoint table (forgetSurfaces table endpoint) := by
  have cleanup : (forgetSurfaces table endpoint).core = peerCleanup table.core endpoint := by
    unfold forgetSurfaces
    split <;> rfl
  have placements : ∀ index, (forgetSurfaces table endpoint).managed.placements index =
      ((List.range boringDisplaySurfaceMax).foldl
        (fun managed slot =>
          if ownedBy table.core endpoint slot = true then
            managedForget managed (table.core.surfaces slot).token
          else managed) table.managed).placements index := by
    intro index
    unfold forgetSurfaces
    split <;> rfl
  have inRange : ∀ {slot}, ownedBy table.core endpoint slot = true →
      slot ∈ List.range boringDisplaySurfaceMax := by
    intro slot owned
    simp only [ownedBy, Bool.and_eq_true, decide_eq_true_eq] at owned
    exact List.mem_range.mpr owned.1.1
  refine ⟨?_, ?_, ?_, ?_, ?_, ?_⟩
  · intro slot
    rw [cleanup]
    unfold peerCleanup
    split
    · exact Or.inl rfl
    simp only
    split
    · next owned =>
        simp only [ownedBy, Bool.and_eq_true, beq_iff_eq] at owned
        exact Or.inr ⟨owned.2, rfl⟩
    · exact Or.inl rfl
  · rw [cleanup]
    unfold peerCleanup
    split <;> rfl
  · have each := (forgetEach_placement table.core endpoint 0
      (List.range boringDisplaySurfaceMax) table.managed).1
    unfold forgetSurfaces
    grind
  · unfold forgetSurfaces
    split <;> rfl
  · intro index
    rw [placements index]
    have each := forgetEach_placement table.core endpoint index
      (List.range boringDisplaySurfaceMax) table.managed
    by_cases hit : ∃ slot ∈ List.range boringDisplaySurfaceMax,
        ownedBy table.core endpoint slot = true ∧ index < boringDisplaySurfaceMax ∧
          (table.managed.placements index).surface = (table.core.surfaces slot).token
    · exact Or.inl (each.2.2.2 hit)
    grind
  simp_all [forgetEach_placement, List.range, boringDisplaySurfaceMax]

/-! ## The invariant -/

/-- The creation orders of the surfaces are those of the history, and each is
the one of a single owner. -/
structure Creations (core : DisplayCore) (history : List Deed) : Prop where
  unique : ∀ endpoint other creation, .created endpoint creation ∈ history →
    .created other creation ∈ history → endpoint = other
  fresh : ∀ endpoint creation, .created endpoint creation ∈ history →
    core.nextCreationOrder ≠ 0 → creation < core.nextCreationOrder
  owner : ∀ slot, (core.surfaces slot).active = true →
    .created (core.surfaces slot).ownerEndpoint (core.surfaces slot).creationOrder ∈ history
  changed : ∀ endpoint creation, .changed endpoint creation ∈ history →
    .created endpoint creation ∈ history

/-- The manager is the only one there has been, and its process has been found
behind the service of the window manager. -/
structure Managers (pidOf : Nat → Nat) (managerEndpoint : Nat) (managerSeen : Bool)
    (history : List Deed) : Prop where
  once : ∀ endpoint other pid pid', .managed endpoint pid ∈ history →
    .managed other pid' ∈ history → endpoint = other
  authentic : ∀ endpoint pid, .managed endpoint pid ∈ history → pid = pidOf endpoint
  unseen : managerSeen = false → ∀ endpoint pid, .managed endpoint pid ∉ history
  manager : managerEndpoint ≠ 0 → .managed managerEndpoint (pidOf managerEndpoint) ∈ history

/-- What has been granted of a placement: it was delegated by the owner of the
surface, a window was bound to it by the manager, who named the owner's process,
and it is visible because the manager placed it. -/
structure Granted (pidOf : Nat → Nat) (history : List Deed) (surface : DisplaySurface)
    (placement : DisplayPlacement) : Prop where
  active : surface.active = true
  token : placement.surface = surface.token
  pid : placement.ownerPid = pidOf surface.ownerEndpoint
  delegated : [.created surface.ownerEndpoint surface.creationOrder,
    .delegated surface.ownerEndpoint surface.creationOrder].Sublist history
  bound : placement.window ≠ 0 → ∃ manager,
    [.created surface.ownerEndpoint surface.creationOrder,
      .delegated surface.ownerEndpoint surface.creationOrder,
      .bound manager (pidOf surface.ownerEndpoint) surface.creationOrder].Sublist history ∧
    [.managed manager (pidOf manager),
      .bound manager (pidOf surface.ownerEndpoint) surface.creationOrder].Sublist history
  visible : placement.visible = true → placement.window ≠ 0 ∧ ∃ manager,
    [.created surface.ownerEndpoint surface.creationOrder,
      .delegated surface.ownerEndpoint surface.creationOrder,
      .bound manager (pidOf surface.ownerEndpoint) surface.creationOrder,
      .placed manager surface.creationOrder].Sublist history ∧
    [.managed manager (pidOf manager),
      .bound manager (pidOf surface.ownerEndpoint) surface.creationOrder,
      .placed manager surface.creationOrder].Sublist history

/-- The table and the history of what has been granted agree. -/
structure Rights (pidOf : Nat → Nat) (table : DisplayTable) (history : List Deed) : Prop where
  tokens : Tokens table.core
  creations : Creations table.core history
  managers : Managers pidOf table.managed.managerEndpoint table.managerSeen history
  placement : ∀ index, table.managed.placements index = noPlacement ∨
    Granted pidOf history (table.core.surfaces index) (table.managed.placements index)

/-! ## A history that grows -/

theorem Granted.mono {surface : DisplaySurface} {placement : DisplayPlacement}
    {longer : List Deed} (granted : Granted pidOf history surface placement)
    (grows : history.Sublist longer) : Granted pidOf longer surface placement where
  active := granted.active
  token := granted.token
  pid := granted.pid
  delegated := granted.delegated.trans grows
  bound window := by
    rcases granted.bound window with ⟨manager, chain, authority⟩
    exact ⟨manager, chain.trans grows, authority.trans grows⟩
  visible shown := by
    rcases granted.visible shown with ⟨window, manager, chain, authority⟩
    exact ⟨window, manager, chain.trans grows, authority.trans grows⟩

theorem Creations.later {deed : Deed} (creations : Creations core history)
    (notCreated : ∀ endpoint creation, deed ≠ .created endpoint creation)
    (notChanged : ∀ endpoint creation, deed ≠ .changed endpoint creation) :
    Creations core (history ++ [deed]) := by
  have before : ∀ {endpoint creation}, .created endpoint creation ∈ history ++ [deed] →
      .created endpoint creation ∈ history := by
    intro endpoint creation isCreated
    rcases List.mem_append.mp isCreated with isOld | isNew
    · exact isOld
    · grind
  refine ⟨?_, ?_, ?_, ?_⟩
  · exact fun endpoint other creation first second =>
      creations.unique endpoint other creation (before first) (before second)
  · exact fun endpoint creation isCreated => creations.fresh endpoint creation (before isCreated)
  · exact fun slot active => List.mem_append_left _ (creations.owner slot active)
  · intro endpoint creation isChanged
    rcases List.mem_append.mp isChanged with isOld | isNew
    · exact List.mem_append_left _ (creations.changed endpoint creation isOld)
    grind

theorem Managers.later {deed : Deed} {managerEndpoint : Nat} {managerSeen : Bool}
    (managers : Managers pidOf managerEndpoint managerSeen history)
    (notManaged : ∀ endpoint pid, deed ≠ .managed endpoint pid) :
    Managers pidOf managerEndpoint managerSeen (history ++ [deed]) := by
  have before : ∀ {endpoint pid}, .managed endpoint pid ∈ history ++ [deed] →
      .managed endpoint pid ∈ history := by
    intro endpoint pid isManaged
    rcases List.mem_append.mp isManaged with isOld | isNew
    · exact isOld
    · grind
  refine ⟨?_, ?_, ?_, ?_⟩
  · exact fun endpoint other pid pid' first second =>
      managers.once endpoint other pid pid' (before first) (before second)
  · exact fun endpoint pid isManaged => managers.authentic endpoint pid (before isManaged)
  · grind [unseen]
  · exact fun isManager => List.mem_append_left _ (managers.manager isManager)

/-! ## Forgetting keeps the rights -/

/-- Surfaces that are given up together with their placements -/
theorem Rights.shrinks {after : DisplayTable} (rights : Rights pidOf table history)
    (surface : ∀ slot, after.core.surfaces slot = table.core.surfaces slot ∨
      (after.core.surfaces slot).active = false)
    (next : after.core.nextCreationOrder = table.core.nextCreationOrder)
    (manager : after.managed.managerEndpoint = table.managed.managerEndpoint ∨
      after.managed.managerEndpoint = 0) (seen : after.managerSeen = table.managerSeen)
    (placement : ∀ index, after.managed.placements index = noPlacement ∨
      (after.managed.placements index = table.managed.placements index ∧
        (Granted pidOf history (table.core.surfaces index) (table.managed.placements index) →
          after.core.surfaces index = table.core.surfaces index))) : Rights pidOf after history := by
  have stays : ∀ slot, (after.core.surfaces slot).active = true →
      after.core.surfaces slot = table.core.surfaces slot := by
    intro slot active
    rcases surface slot with same | gone
    · exact same
    · simp_all
  refine ⟨⟨?_, ?_⟩, ⟨rights.creations.unique, ?_, ?_, rights.creations.changed⟩,
    ⟨rights.managers.once, rights.managers.authentic, ?_, ?_⟩, ?_⟩
  · intro slot active
    have same := stays slot active
    rw [same] at active
    exact rights.tokens.isSlot slot active
  · intro slot active
    have same := stays slot active
    rw [same] at active ⊢
    exact rights.tokens.token slot active
  · rw [next]
    exact rights.creations.fresh
  · intro slot active
    have same := stays slot active
    rw [same] at active ⊢
    exact rights.creations.owner slot active
  · rw [seen]
    exact rights.managers.unseen
  · intro isManager
    rcases manager with same | gone
    · rw [same] at isManager ⊢
      exact rights.managers.manager isManager
    · exact absurd gone isManager
  · intro index
    rcases placement index with gone | ⟨same, kept⟩
    · exact Or.inl gone
    rw [same]
    rcases rights.placement index with none | granted
    · exact Or.inl none
    simp [*]

theorem Rights.forgetSurfaces (rights : Rights pidOf table history) (endpoint : Nat) :
    Rights pidOf (forgetSurfaces table endpoint) history := by
  have forgotten := forgetSurfaces_forgotten table endpoint
  refine rights.shrinks (fun slot => (forgotten.surface slot).imp_right And.right) forgotten.next
    forgotten.manager forgotten.seen fun index => ?_
  rcases forgotten.placement index with gone | ⟨same, foreign⟩
  · exact Or.inl gone
  refine Or.inr ⟨same, fun granted => ?_⟩
  rcases forgotten.surface index with unchanged | ⟨isOwner, -⟩
  · exact unchanged
  have isSlot := rights.tokens.isSlot index granted.active
  refine absurd granted.token (foreign index ?_ isSlot)
  rw [ownedBy, granted.active, isOwner, beq_self_eq_true, Bool.and_true, Bool.and_true]
  exact decide_eq_true isSlot

/-! ## Requests on surfaces -/

/-- A surface is put into a free slot. -/
structure Added (endpoint : Nat) (core after : DisplayCore) : Prop where
  order : core.nextCreationOrder ≠ 0
  next : after.nextCreationOrder =
    if core.nextCreationOrder = uint64Max then 0 else core.nextCreationOrder + 1
  surfaces : ∃ slot surface, slot < boringDisplaySurfaceMax ∧
    (core.surfaces slot).active = false ∧
    after.surfaces = Function.update core.surfaces slot surface ∧
    surface.ownerEndpoint = endpoint ∧ surface.creationOrder = core.nextCreationOrder ∧
    surface.token ≠ 0 ∧ surface.token &&& 255 = slot + 1

theorem surfaceAdd_cases (core : DisplayCore) (endpoint : Nat) (request : DisplayRequest)
    (bufferHandle pixels : Nat) :
    ((surfaceAdd core endpoint request bufferHandle pixels).1 ≠ .ok ∧
      (surfaceAdd core endpoint request bufferHandle pixels).2.1 = core) ∨
    ((surfaceAdd core endpoint request bufferHandle pixels).1 = .ok ∧
      Added endpoint core (surfaceAdd core endpoint request bufferHandle pixels).2.1) := by
  unfold surfaceAdd
  by_cases invalid : endpoint = 0 ∨ bufferHandle = 0 ∨ pixels = 0
  · simp [*]
  rw [if_neg invalid]
  by_cases full : boringDisplaySurfaceMax ≤ core.liveSurfaces
  · simp [*]
  rw [if_neg full]
  by_cases exhausted : core.nextCreationOrder = 0
  · simp [*]
  rw [if_neg exhausted]
  cases search : (List.range boringDisplaySurfaceMax).find? fun index =>
      !(core.surfaces index).active with
  | none => simp
  | some index =>
    simp only
    by_cases noToken : tokenEncode index (core.surfaces index).generation = 0
    · simp [*]
    rw [if_neg noToken]
    have free := List.find?_some search
    simp only [Bool.not_eq_true'] at free
    exact Or.inr ⟨rfl, exhausted, rfl, index, _,
      List.mem_range.mp (List.mem_of_find?_eq_some search), free, rfl, rfl, rfl, noToken,
      tokenEncode_low noToken⟩

theorem surfaceCommit_ok {endpoint token : Nat} (done : surfaceCommit core endpoint token = .ok) :
    ∃ slot, surfaceLookup core token = some slot ∧
      (core.surfaces slot).ownerEndpoint = endpoint := by
  unfold surfaceCommit at done
  grind

theorem surfaceDestroy_cases (core : DisplayCore) (endpoint token : Nat) :
    ((surfaceDestroy core endpoint token).1 ≠ .ok) ∨
      ∃ slot, surfaceLookup core token = some slot ∧ (core.surfaces slot).ownerEndpoint = endpoint ∧
        surfaceDestroy core endpoint token =
          (.ok,
            { core with
              liveSurfaces := core.liveSurfaces - 1
              surfaces := Function.update core.surfaces slot (clearedSurface (core.surfaces slot)) }) := by
  unfold surfaceDestroy
  grind

/-- The ways in which a request on a surface can end -/
inductive Requested (table : DisplayTable) (endpoint : Nat) (request : DisplayRequest) :
    DisplayStatus × DisplayTable → Prop where
  | refused {status : DisplayStatus} (isError : status ≠ .ok) :
      Requested table endpoint request (status, table)
  | created {core : DisplayCore} (isCreate : request.type = boringDisplayRequestCreate)
      (added : Added endpoint table.core core) :
      Requested table endpoint request (.ok, { table with core := core })
  | committed {slot : Nat} (notCreate : request.type ≠ boringDisplayRequestCreate)
      (found : surfaceLookup table.core request.surfaceToken = some slot)
      (owned : (table.core.surfaces slot).ownerEndpoint = endpoint) :
      Requested table endpoint request (.ok, table)
  | destroyed {slot : Nat} (notCreate : request.type ≠ boringDisplayRequestCreate)
      (found : surfaceLookup table.core request.surfaceToken = some slot)
      (owned : (table.core.surfaces slot).ownerEndpoint = endpoint) :
      Requested table endpoint request
        (.ok,
          { table with
            core := { table.core with
              liveSurfaces := table.core.liveSurfaces - 1
              surfaces := Function.update table.core.surfaces slot
                (clearedSurface (table.core.surfaces slot)) }
            managed := managedForget table.managed request.surfaceToken })

theorem oldRequest_requested (table : DisplayTable) (endpoint : Nat) (request : DisplayRequest)
    (attachment : Nat) (answers : PeerAnswers) :
    Requested table endpoint request (oldRequest table endpoint request attachment answers) := by
  have invalid : Requested table endpoint request (.invalid, table) :=
    Requested.refused fun same => DisplayStatus.noConfusion same
  unfold oldRequest
  by_cases isCreate : request.type = boringDisplayRequestCreate ∧ attachment ≠ 0
  · rw [if_pos isCreate]
    by_cases noSize : answers.bufferSize = 0
    · rw [if_pos noSize]
      exact invalid
    rw [if_neg noSize]
    cases valid : validateCreate table.core request answers.bufferSize with
    | ok =>
      simp only
      by_cases noMapping : answers.mapping = 0
      · simp_all [Requested.refused]
      rw [if_neg noMapping]
      rcases surfaceAdd_cases table.core endpoint request attachment answers.mapping with
        ⟨isError, same⟩ | ⟨isOk, added⟩
      · rw [same]
        exact Requested.refused isError
      grind [Requested.created]
    | invalid => exact invalid
    | access => exact Requested.refused fun same => DisplayStatus.noConfusion same
    | noSpace => exact Requested.refused fun same => DisplayStatus.noConfusion same
    | internal => exact Requested.refused fun same => DisplayStatus.noConfusion same
  rw [if_neg isCreate]
  by_cases attached : attachment ≠ 0
  · rw [if_pos attached]
    exact invalid
  rw [if_neg attached]
  by_cases isCommit : request.type = boringDisplayRequestCommit ∧ metadataEmpty request = true
  · rw [if_pos isCommit]
    by_cases done : surfaceCommit table.core endpoint request.surfaceToken = .ok
    · rcases surfaceCommit_ok done with ⟨slot, found, owned⟩
      rw [done]
      refine Requested.committed ?_ found owned
      rw [isCommit.1]
      decide
    · exact Requested.refused done
  rw [if_neg isCommit]
  by_cases isDestroy : request.type = boringDisplayRequestDestroy ∧ metadataEmpty request = true
  · rw [if_pos isDestroy]
    rcases surfaceDestroy_cases table.core endpoint request.surfaceToken with
      isError | ⟨slot, found, owned, done⟩
    · cases result : surfaceDestroy table.core endpoint request.surfaceToken with
      | mk status core =>
        simp_all [Requested.refused]
    · rw [done]
      refine Requested.destroyed ?_ found owned
      rw [isDestroy.1]
      decide
  rw [if_neg isDestroy]
  by_cases isDamage : request.type = boringDisplayRequestCommitDamage ∧ request.reserved = 0 ∧
      request.byteSize = 0 ∧ request.stride ≠ 0 ∧ request.pixelFormat ≠ 0
  · rw [if_pos isDamage]
    cases done : surfaceCommit table.core endpoint request.surfaceToken with
    | ok =>
      simp only
      split
      · rcases surfaceCommit_ok done with ⟨slot, found, owned⟩
        refine Requested.committed ?_ found owned
        rw [isDamage.1]
        decide
      · exact invalid
    | invalid => exact invalid
    | access => exact Requested.refused fun same => DisplayStatus.noConfusion same
    | noSpace => exact Requested.refused fun same => DisplayStatus.noConfusion same
    | internal => exact Requested.refused fun same => DisplayStatus.noConfusion same
  · rw [if_neg isDamage]
    exact invalid

end BoringOS.Display
