import BoringOS.Display.SurfaceRights

namespace BoringOS.Display

open Library

/-!
# Runs of the table of surfaces

Every message keeps the rights, whoever sends it and whatever the kernel
answers, and the history says what it has done.
-/

variable {pidOf : Nat → Nat} {table : DisplayTable} {core : DisplayCore} {history : List Deed}

/-! ## Requests on surfaces -/

variable {endpoint : Nat}

/-- A new surface -/
theorem Rights.created {after : DisplayCore} (rights : Rights pidOf table history)
    (added : Added endpoint table.core after) :
    Rights pidOf { table with core := after }
      (history ++ [.created endpoint table.core.nextCreationOrder]) := by
  rcases added.surfaces with
    ⟨slot, surface, isSlot, free, isAfter, isOwner, isOrder, someToken, low⟩
  have elsewhere : ∀ other, other ≠ slot → after.surfaces other = table.core.surfaces other :=
    fun other different => by rw [isAfter, Function.update_of_ne different]
  have grows : history.Sublist (history ++ [.created endpoint table.core.nextCreationOrder]) :=
    List.sublist_append_left _ _
  have older : ∀ other, .created other table.core.nextCreationOrder ∉ history :=
    fun other isOld => Nat.lt_irrefl _ (rights.creations.fresh other _ isOld added.order)
  refine ⟨⟨fun other active => ?_, fun other active => ?_⟩, ⟨?_, ?_, ?_, ?_⟩,
    rights.managers.later fun _ _ same => Deed.noConfusion same, fun index => ?_⟩
  · by_cases same : other = slot
    · rw [same]
      exact isSlot
    · rw [show after.surfaces other = _ from elsewhere other same] at active
      exact rights.tokens.isSlot other active
  · by_cases same : other = slot
    · simp [*]
    · rw [show after.surfaces other = _ from elsewhere other same] at active ⊢
      exact rights.tokens.token other active
  · intro first second creation isFirst isSecond
    rcases List.mem_append.mp isFirst with oldFirst | newFirst
    · rcases List.mem_append.mp isSecond with oldSecond | newSecond
      · exact rights.creations.unique first second creation oldFirst oldSecond
      simp_all
    simp_all
  · intro other creation isCreated notLast
    rw [added.next] at notLast ⊢
    by_cases last : table.core.nextCreationOrder = uint64Max
    · simp_all
    rw [if_neg last]
    rcases List.mem_append.mp isCreated with isOld | isNew
    · exact Nat.lt_succ_of_lt (rights.creations.fresh other creation isOld added.order)
    simp_all
  · intro other active
    by_cases same : other = slot
    · simp [*]
    · rw [show after.surfaces other = _ from elsewhere other same] at active ⊢
      exact List.mem_append_left _ (rights.creations.owner other active)
  · intro other creation isChanged
    rcases List.mem_append.mp isChanged with isOld | isNew
    · exact List.mem_append_left _ (rights.creations.changed other creation isOld)
    simp_all
  · rcases rights.placement index with none | granted
    · exact Or.inl none
    · have different : index ≠ slot := by
        rintro rfl
        have active := granted.active
        rw [free] at active
        exact Bool.noConfusion active
      refine Or.inr ?_
      rw [show after.surfaces index = _ from elsewhere index different]
      exact granted.mono grows

/-- A commit, a damage or a destruction that is granted -/
theorem Rights.changed {endpoint slot token : Nat} (rights : Rights pidOf table history)
    (found : surfaceLookup table.core token = some slot)
    (owned : (table.core.surfaces slot).ownerEndpoint = endpoint) :
    Rights pidOf table (history ++ [.changed endpoint (creationOf table.core token)]) := by
  rcases surfaceLookup_some found with ⟨-, active, carries, -⟩
  have isCreation : creationOf table.core token = (table.core.surfaces slot).creationOrder := by
    rw [← carries]
    exact rights.tokens.creationOf active
  have before : ∀ {other creation},
      .created other creation ∈ history ++ [.changed endpoint (creationOf table.core token)] →
        .created other creation ∈ history := by
    intro other creation isCreated
    rcases List.mem_append.mp isCreated with isOld | isNew
    · exact isOld
    · grind
  refine ⟨rights.tokens, ⟨?_, ?_, ?_, ?_⟩,
    rights.managers.later fun _ _ same => Deed.noConfusion same, fun index => ?_⟩
  · exact fun first second creation isFirst isSecond =>
      rights.creations.unique first second creation (before isFirst) (before isSecond)
  · exact fun other creation isCreated => rights.creations.fresh other creation (before isCreated)
  · exact fun other isActive => List.mem_append_left _ (rights.creations.owner other isActive)
  · intro other creation isChanged
    rcases List.mem_append.mp isChanged with isOld | isNew
    · exact List.mem_append_left _ (rights.creations.changed other creation isOld)
    cases List.mem_singleton.mp isNew
    rw [isCreation, ← owned]
    exact List.mem_append_left _ (rights.creations.owner slot active)
  · exact (rights.placement index).imp_right fun granted => granted.mono (List.sublist_append_left _ _)

theorem Rights.destroyed {slot token : Nat} (rights : Rights pidOf table history)
    (found : surfaceLookup table.core token = some slot) :
    Rights pidOf
      { table with
        core := { table.core with
          liveSurfaces := table.core.liveSurfaces - 1
          surfaces := Function.update table.core.surfaces slot (clearedSurface (table.core.surfaces slot)) }
        managed := managedForget table.managed token } history := by
  rcases surfaceLookup_some found with ⟨isSlot, -, carries, -⟩
  refine rights.shrinks (fun other => ?_) rfl (Or.inl rfl) rfl fun index => ?_
  · simp only
    by_cases same : other = slot
    · rw [same, Function.update_self]
      exact Or.inr rfl
    simp [*]
  · simp only [managedForget]
    by_cases hit : index < boringDisplaySurfaceMax ∧ (table.managed.placements index).surface = token
    · exact Or.inl (if_pos hit)
    refine Or.inr ⟨if_neg hit, fun granted => ?_⟩
    have different : index ≠ slot := by
      rintro rfl
      exact hit ⟨isSlot, granted.token.trans carries⟩
    exact Function.update_of_ne different ..

theorem Rights.requested {endpoint attachment : Nat} {request : DisplayRequest}
    {answers : PeerAnswers} {done : DisplayStatus × DisplayTable}
    (rights : Rights pidOf table history) (requested : Requested table endpoint request done) :
    Rights pidOf done.2
      (history ++
        if done.1 = .ok then deeds table endpoint answers (.old request attachment) else []) := by
  cases requested with
  | refused isError =>
    simp [*]
  | created isCreate added =>
    rw [if_pos rfl, deeds, if_pos isCreate]
    exact rights.created added
  | committed notCreate found owned =>
    rw [if_pos rfl, deeds, if_neg notCreate]
    exact rights.changed found owned
  | destroyed notCreate found owned =>
    rw [if_pos rfl, deeds, if_neg notCreate]
    exact (rights.changed found owned).destroyed found

/-! ## Control messages -/

variable {request : DisplayControl}

theorem valid_window (valid : displayControlValidate request = .ok)
    (isPlacing : request.type = .bind ∨ request.type = .place) : request.window ≠ 0 := by
  unfold displayControlValidate at valid
  split at valid
  · next accepted =>
      have content := accepted.2
      rcases isPlacing with isBind | isPlace
      · rw [isBind] at content
        exact (of_decide_eq_true content).2.1
      · rw [isPlace] at content
        exact (of_decide_eq_true content).2.1
  · cases valid

theorem Rights.setPlacement {index : Nat} {placement : DisplayPlacement} {made : List Deed}
    (rights : Rights pidOf table history)
    (about : ∀ deed ∈ made, (∀ endpoint creation, deed ≠ .created endpoint creation) ∧
      (∀ endpoint creation, deed ≠ .changed endpoint creation) ∧
        ∀ endpoint pid, deed ≠ .managed endpoint pid) (single : made = [] ∨ ∃ deed, made = [deed])
    (granted : Granted pidOf (history ++ made) (table.core.surfaces index) placement) :
    Rights pidOf { table with managed := table.managed.setPlacement index placement } (history ++ made) := by
  have later : Creations table.core (history ++ made) ∧
      Managers pidOf table.managed.managerEndpoint table.managerSeen (history ++ made) := by
    rcases single with rfl | ⟨deed, rfl⟩
    · rw [List.append_nil]
      exact ⟨rights.creations, rights.managers⟩
    · have isAbout := about deed (List.mem_singleton.mpr rfl)
      exact ⟨rights.creations.later isAbout.1 isAbout.2.1, rights.managers.later isAbout.2.2⟩
  refine ⟨rights.tokens, later.1, later.2, fun other => ?_⟩
  have stored : (table.managed.setPlacement index placement).placements =
      Function.update table.managed.placements index placement := rfl
  simp only [stored]
  by_cases same : other = index
  · simp [*]
  · rw [Function.update_of_ne same]
    exact (rights.placement other).imp_right fun older => older.mono (List.sublist_append_left _ _)

/-- The deed of a control message on the surface of a slot -/
def placementDeeds (core : DisplayCore) (endpoint index : Nat) (request : DisplayControl) :
    List Deed :=
  match request.type with
  | .delegate => [.delegated endpoint (core.surfaces index).creationOrder]
  | .bind => [.bound endpoint request.ownerPid (core.surfaces index).creationOrder]
  | .place => [.placed endpoint (core.surfaces index).creationOrder]
  | _ => []

theorem placementControl_granted {endpoint index : Nat}
    (rights : Rights pidOf table history) (active : (table.core.surfaces index).active = true)
    (valid : displayControlValidate request = .ok)
    (authority : request.type ≠ .delegate → endpoint = table.managed.managerEndpoint ∧ endpoint ≠ 0) :
    ((placementControl table.managed table.core endpoint (pidOf endpoint) index request).1 ≠ .ok ∧
      (placementControl table.managed table.core endpoint (pidOf endpoint) index request).2 = table.managed) ∨
    ((placementControl table.managed table.core endpoint (pidOf endpoint) index request).1 = .ok ∧
      ∃ placement,
        (placementControl table.managed table.core endpoint (pidOf endpoint) index request).2 =
          table.managed.setPlacement index placement ∧
        Granted pidOf (history ++ placementDeeds table.core endpoint index request)
          (table.core.surfaces index) placement) := by
  have grows : ∀ made, history.Sublist (history ++ made) := List.sublist_append_left history
  -- Everything but a delegation asks for a placement that has been delegated.
  have delegated : ¬((table.managed.placements index).delegated = false ∨
        (table.managed.placements index).surface ≠ request.surface) →
      Granted pidOf history (table.core.surfaces index) (table.managed.placements index) := by
    intro isDelegated
    rcases rights.placement index with none | granted
    · exact absurd (Or.inl (by rw [none]; rfl)) isDelegated
    · exact granted
  unfold placementControl placementDeeds
  cases isType : request.type with
  | delegate =>
    simp only
    by_cases foreign : (table.core.surfaces index).ownerEndpoint ≠ endpoint ∨ pidOf endpoint = 0
    · simp [*]
    rw [if_neg foreign]
    rw [not_or, not_not] at foreign
    by_cases taken : (table.managed.placements index).delegated = true ∨
        (table.managed.placements index).window ≠ 0
    · simp [*]
    rw [if_neg taken]
    refine Or.inr ⟨rfl, _, rfl, active, rfl, by rw [foreign.1], ?_,
      fun window => absurd rfl window, fun shown => Bool.noConfusion shown⟩
    have isOwner := rights.creations.owner index active
    grind
  | bind =>
    simp only
    split
    · simp
    next isDelegated =>
    have granted := delegated isDelegated
    split
    · simp
    next free =>
    rw [not_or, not_not, not_not] at free
    have isPid : request.ownerPid = pidOf (table.core.surfaces index).ownerEndpoint :=
      free.1.symm.trans granted.pid
    have isManager := authority (by simp [*])
    refine Or.inr ⟨rfl, _, rfl, active, granted.token, granted.pid,
      granted.delegated.trans (grows _), fun _ => ⟨endpoint, ?_, ?_⟩, fun shown => ?_⟩
    · rw [isPid]
      exact granted.delegated.append (List.Sublist.refl _)
    · have managed := rights.managers.manager (isManager.1 ▸ isManager.2)
      grind
    · exact absurd free.2 (granted.visible shown).1
  | unbind =>
    simp only
    split
    · simp
    next isDelegated =>
    have granted := delegated isDelegated
    split
    · simp
    exact Or.inr ⟨rfl, _, rfl, active, granted.token, granted.pid,
      granted.delegated.trans (grows _), fun window => absurd rfl window,
      fun shown => Bool.noConfusion shown⟩
  | place =>
    simp only
    split
    · simp
    next isDelegated =>
    have granted := delegated isDelegated
    split
    · simp
    next isWindow =>
    split
    · simp
    have someWindow : (table.managed.placements index).window ≠ 0 := by
      rw [not_not.mp isWindow]
      exact valid_window valid (Or.inr isType)
    have isManager := authority (by simp [*])
    have managed := rights.managers.manager (isManager.1 ▸ isManager.2)
    rw [← isManager.1] at managed
    rcases granted.bound someWindow with ⟨manager, chain, byManager⟩
    have same : manager = endpoint :=
      rights.managers.once manager endpoint _ _ (byManager.subset List.mem_cons_self) managed
    subst same
    refine Or.inr ⟨rfl, _, rfl, active, granted.token, granted.pid, granted.delegated.trans (grows _),
      fun _ => ⟨manager, chain.trans (grows _), byManager.trans (grows _)⟩,
      fun _ => ⟨someWindow, manager, chain.append (List.Sublist.refl _),
        byManager.append (List.Sublist.refl _)⟩⟩
  | info | manager | present | input | reply | inputAck | presentFocus =>
    grind

variable {answers : PeerAnswers}

/-- The deeds of a message are those of the slot that it is about. -/
theorem deeds_placement {endpoint index : Nat}
    {hasBuffer : Bool} (found : surfaceIndex table.core request.surface = some index)
    (notManager : request.type ≠ .manager) :
    deeds table endpoint answers (.control request hasBuffer) =
      placementDeeds table.core endpoint index request := by
  grind [creationOf, deeds, placementDeeds]

theorem placementDeeds_about (core : DisplayCore) (endpoint index : Nat) (request : DisplayControl) :
    (∀ deed ∈ placementDeeds core endpoint index request,
      (∀ endpoint creation, deed ≠ .created endpoint creation) ∧
        (∀ endpoint creation, deed ≠ .changed endpoint creation) ∧
          ∀ endpoint pid, deed ≠ .managed endpoint pid) ∧
    (placementDeeds core endpoint index request = [] ∨
      ∃ deed, placementDeeds core endpoint index request = [deed]) := by
  unfold placementDeeds
  grind

variable {managed : DisplayManaged}

/-- New colours and a new background change no rights. -/
theorem Rights.recolored (rights : Rights pidOf table history)
    (manager : managed.managerEndpoint = table.managed.managerEndpoint)
    (placements : ∀ index, ∃ color, managed.placements index =
      { table.managed.placements index with color := color } ∨
        managed.placements index = table.managed.placements index)
    (hidden : ∀ index, (table.managed.placements index).visible = false →
      managed.placements index = table.managed.placements index) :
    Rights pidOf { table with managed := managed } history := by
  refine ⟨rights.tokens, rights.creations, ?_, fun index => ?_⟩
  · simp only [manager]
    exact rights.managers
  · simp only
    rcases rights.placement index with none | granted
    · rw [hidden index (by rw [none]; rfl)]
      exact Or.inl none
    rcases placements index with ⟨color, colored | same⟩
    · rw [colored]
      exact Or.inr { granted with }
    · rw [same]
      exact Or.inr granted

theorem focusColors_placement (managed : DisplayManaged) (request : DisplayControl) (index : Nat) :
    (∃ color, (focusColors managed request).placements index =
      { managed.placements index with color := color } ∨
        (focusColors managed request).placements index = managed.placements index) ∧
    ((managed.placements index).visible = false →
      (focusColors managed request).placements index = managed.placements index) := by
  unfold focusColors
  by_cases shown : index < boringDisplaySurfaceMax ∧ (managed.placements index).visible = true
  · simp [*]
  simp [*]

/-- The messages that are about a surface -/
theorem managedControl_surface (managed : DisplayManaged) (core : DisplayCore) (pid : Nat)
    {endpoint : Nat} (valid : ¬(endpoint = 0 ∨ displayControlValidate request ≠ .ok))
    (authority : ¬(request.type ≠ .delegate ∧ endpoint ≠ managed.managerEndpoint))
    (notPresent : request.type ≠ .present) (notFocus : request.type ≠ .presentFocus) :
    managedControl managed core endpoint pid request =
      match surfaceIndex core request.surface with
      | none => (.invalid, managed)
      | some index => placementControl managed core endpoint pid index request := by
  unfold managedControl
  grind

/-- `display_managed_control` refuses and changes nothing, or it keeps the rights. -/
theorem managedControl_rights (rights : Rights pidOf table history) (notManager : request.type ≠ .manager)
    (answers : PeerAnswers) (hasBuffer : Bool) :
    ((managedControl table.managed table.core endpoint (pidOf endpoint) request).1 ≠ .ok ∧
      (managedControl table.managed table.core endpoint (pidOf endpoint) request).2 = table.managed) ∨
    ((managedControl table.managed table.core endpoint (pidOf endpoint) request).1 = .ok ∧ Rights pidOf
        { table with
          managed := (managedControl table.managed table.core endpoint (pidOf endpoint) request).2 }
        (history ++ deeds table endpoint answers (.control request hasBuffer))) := by
  unfold managedControl
  by_cases invalid : endpoint = 0 ∨ displayControlValidate request ≠ .ok
  · simp [*]
  rw [if_neg invalid]
  rw [not_or, not_not] at invalid
  by_cases foreign : request.type ≠ .delegate ∧ endpoint ≠ table.managed.managerEndpoint
  · simp [*]
  rw [if_neg foreign]
  have authority : request.type ≠ .delegate → endpoint = table.managed.managerEndpoint ∧ endpoint ≠ 0 := by
    intro notDelegate
    refine ⟨?_, invalid.1⟩
    by_contra different
    exact foreign ⟨notDelegate, different⟩
  by_cases isPresent : request.type = .present
  · simp only [deeds, isPresent, List.append_nil]
    split
    · simp
    · exact Or.inr ⟨rfl, rights.recolored rfl (fun _ => ⟨0, Or.inr rfl⟩) fun _ _ => rfl⟩
  by_cases isFocus : request.type = .presentFocus
  · simp only [deeds, isFocus, List.append_nil]
    split
    · exact Or.inr ⟨rfl, rights.recolored rfl
        (fun index => (focusColors_placement table.managed request index).1)
        fun index => (focusColors_placement table.managed request index).2⟩
    simp
  have onSurface := managedControl_surface table.managed table.core (pidOf endpoint)
    (not_or.mpr ⟨invalid.1, not_not.mpr invalid.2⟩) foreign isPresent isFocus
  unfold managedControl at onSurface
  rw [if_neg (not_or.mpr ⟨invalid.1, not_not.mpr invalid.2⟩), if_neg foreign] at onSurface
  rw [onSurface]
  cases found : surfaceIndex table.core request.surface with
  | none => simp
  | some index =>
    have isSurface := surfaceIndex_some found
    rcases placementControl_granted rights isSurface.2.1 invalid.2 authority with
      refused | ⟨isOk, placement, isPlacement, granted⟩
    · exact Or.inl refused
    refine Or.inr ⟨isOk, ?_⟩
    rw [isPlacement, deeds_placement found notManager]
    have about := placementDeeds_about table.core endpoint index request
    exact rights.setPlacement about.1 about.2 granted

/-- The manager is the first that asks for it, if it is found behind the
service of the window manager. -/
theorem Rights.becomesManager (rights : Rights pidOf table history) (unseen : table.managerSeen = false) :
    Rights pidOf
      { table with
        managed := { table.managed with managerEndpoint := endpoint }
        managerSeen := true } (history ++ [.managed endpoint (pidOf endpoint)]) := by
  have first := rights.managers.unseen unseen
  refine ⟨rights.tokens, rights.creations.later (fun _ _ same => Deed.noConfusion same)
    fun _ _ same => Deed.noConfusion same, ⟨?_, ?_, fun seen => Bool.noConfusion seen, fun _ =>
      List.mem_append_right _ (List.mem_singleton.mpr rfl)⟩, fun index => ?_⟩
  · simp_all
  · simp [*]
  · exact (rights.placement index).imp_right fun granted => granted.mono (List.sublist_append_left _ _)

/-- What a message makes of the table, with the status of its answer: an error
changes nothing, and everything else keeps the rights. -/
def Answered (pidOf : Nat → Nat) (table : DisplayTable) (history made : List Deed)
    (done : Option DisplayStatus × DisplayTable) : Prop :=
  (∀ status, done.1 = some status → status ≠ .ok → done.2 = table) ∧
    Rights pidOf done.2 (history ++ if done.1 = some .ok then made else [])

theorem answered_error {status : DisplayStatus} (rights : Rights pidOf table history)
    (isError : status ≠ .ok) (made : List Deed) :
    Answered pidOf table history made (some status, table) := by
  refine ⟨fun _ _ _ => rfl, ?_⟩
  simp [*]

theorem answered_ok {after : DisplayTable} {made : List Deed}
    (rights : Rights pidOf after (history ++ made)) :
    Answered pidOf table history made (some .ok, after) := by
  refine ⟨fun _ isStatus isError => absurd (Option.some.inj isStatus).symm isError, ?_⟩
  exact rights

theorem answered_none {after : DisplayTable} (rights : Rights pidOf after history)
    (made : List Deed) : Answered pidOf table history made (none, after) := by
  refine ⟨fun _ same => absurd same (by simp), ?_⟩
  simp [*]

section

variable (rights : Rights pidOf table history)
include rights

theorem controlMessage_answered (hasBuffer : Bool) :
    Answered pidOf table history (deeds table endpoint answers (.control request hasBuffer))
      (controlMessage pidOf table endpoint request answers) := by
  have refuses : ∀ status : DisplayStatus, status ≠ .ok →
      Answered pidOf table history (deeds table endpoint answers (.control request hasBuffer))
        (some status, table) := fun status isError => answered_error rights isError _
  unfold controlMessage
  by_cases invalid : displayControlValidate request ≠ .ok
  · grind
  rw [if_neg invalid]
  by_cases noPeer : (if answers.peerAlive = true then pidOf endpoint else 0) = 0
  · rw [if_pos noPeer]
    exact answered_none (rights.forgetSurfaces endpoint) _
  rw [if_neg noPeer]
  have isPeer : (if answers.peerAlive = true then pidOf endpoint else 0) = pidOf endpoint := by
    by_cases alive : answers.peerAlive = true
    · exact if_pos alive
    · simp_all
  rw [isPeer]
  have onTable : request.type ≠ .manager →
      Answered pidOf table history (deeds table endpoint answers (.control request hasBuffer))
        (some (managedControl table.managed table.core endpoint (pidOf endpoint) request).1,
          { table with
            managed := (managedControl table.managed table.core endpoint (pidOf endpoint) request).2
            focusPresentPending :=
              if (managedControl table.managed table.core endpoint (pidOf endpoint) request).1 =
                  .ok ∧ request.type = .presentFocus then true
              else if (managedControl table.managed table.core endpoint (pidOf endpoint) request).1 =
                  .ok ∧ request.type = .present then false
              else table.focusPresentPending }) := by
    intro notManager
    rcases managedControl_rights rights notManager answers hasBuffer with
      ⟨isError, same⟩ | ⟨isOk, kept⟩
    · rw [if_neg (fun both => isError both.1), if_neg (fun both => isError both.1), same]
      exact answered_error rights isError _
    · rw [isOk]
      exact answered_ok { kept with }
  cases isType : request.type with
  | info =>
    simp_all [answered_ok, deeds, List.append_nil]
  | manager =>
    by_cases taken : table.managed.managerEndpoint ≠ 0 ∨ table.managerSeen = true ∨
        answers.servicePid ≠ some (pidOf endpoint)
    · simp [*]
    rw [if_neg taken]
    rw [not_or, not_or, Bool.not_eq_true] at taken
    have isService := not_not.mp taken.2.2
    refine answered_ok ?_
    rw [deeds, isType, isService]
    exact rights.becomesManager taken.2.1
  | inputAck =>
    by_cases pending : endpoint = table.managed.managerEndpoint ∧ table.inputPending = true
    · rw [if_pos pending]
      refine answered_none ?_ _
      exact { rights with }
    simp [*]
  | delegate | bind | place | unbind | present | presentFocus | input | reply =>
    simp_all

/-! ## Messages -/

theorem oldRequest_answered {endpoint attachment : Nat} {request : DisplayRequest}
    {done : DisplayStatus × DisplayTable} (requested : Requested table endpoint request done) :
    Answered pidOf table history (deeds table endpoint answers (.old request attachment))
      (some done.1, done.2) := by
  have kept : Rights pidOf done.2 (history ++
      if done.1 = .ok then deeds table endpoint answers (.old request attachment) else []) :=
    rights.requested requested
  cases requested with
  | refused isError => exact answered_error rights isError _
  | created _ _ => exact answered_ok kept
  | committed _ _ _ => exact answered_ok kept
  | destroyed _ _ _ => exact answered_ok kept

theorem receiveMessage_answered (message : DisplayMessage) :
    Answered pidOf table history (deeds table endpoint answers message)
      (receiveMessage pidOf table endpoint answers message) := by
  have refuses : Answered pidOf table history (deeds table endpoint answers message)
      (some .invalid, table) := answered_error rights (fun same => DisplayStatus.noConfusion same) _
  unfold receiveMessage
  cases message with
  | old request attachment =>
    grind [oldRequest_answered, oldRequest_requested]
  | control request hasBuffer =>
    grind [controlMessage_answered]
  | malformed => exact refuses

/-- A message with its reply: an error that is answered changes nothing. -/
theorem answerMessage_rights (message : DisplayMessage) :
    (∀ status, (answerMessage pidOf table endpoint answers message).1 = some status →
      status ≠ .ok → (answerMessage pidOf table endpoint answers message).2 = table) ∧
    Rights pidOf (answerMessage pidOf table endpoint answers message).2
      (history ++
        if (receiveMessage pidOf table endpoint answers message).1 = some .ok then
          deeds table endpoint answers message
        else []) := by
  have received : Answered pidOf table history (deeds table endpoint answers message)
      (receiveMessage pidOf table endpoint answers message) :=
    receiveMessage_answered rights message
  unfold answerMessage
  cases result : receiveMessage pidOf table endpoint answers message with
  | mk status after =>
    rw [result] at received
    cases status with
    | none => assumption
    | some status =>
      simp only
      by_cases sent : answers.replySent = true
      · rw [if_pos sent]
        exact received
      · rw [if_neg sent]
        exact ⟨fun status same => absurd same (by simp), received.2.forgetSurfaces endpoint⟩

end

theorem Rights.tableStep {state : DisplayTable × List Deed}
    (rights : Rights pidOf state.1 state.2) (call : DisplayCall) :
    Rights pidOf (tableStep pidOf state call).1 (tableStep pidOf state call).2 := by
  cases call with
  | message endpoint answers message => exact (answerMessage_rights rights message).2
  | hangUp endpoint => exact rights.forgetSurfaces endpoint
  | input sent =>
    have pending : Rights pidOf { state.1 with inputPending := true } state.2 := { rights with }
    change Rights pidOf (inputEvent state.1 sent) state.2
    unfold inputEvent
    simp only
    split
    · exact rights
    split
    · exact pending
    · exact pending.forgetSurfaces state.1.managed.managerEndpoint
  | focusFrame => exact { rights with }

theorem rights_start (pidOf : Nat → Nat) (width height : Nat) :
    Rights pidOf (displayTable width height) [] := by
  refine ⟨⟨fun _ active => Bool.noConfusion active, fun _ active => Bool.noConfusion active⟩,
    ⟨?_, ?_, fun _ active => Bool.noConfusion active, ?_⟩, ⟨?_, ?_, ?_, ?_⟩, fun _ => Or.inl rfl⟩
  · nofun
  · nofun
  · nofun
  · nofun
  · nofun
  · exact fun _ _ _ => List.not_mem_nil
  nofun

theorem run_rights (pidOf : Nat → Nat) (width height : Nat) (calls : List DisplayCall) :
    Rights pidOf (run (tableStep pidOf) (displayTable width height, []) calls).1
      (run (tableStep pidOf) (displayTable width height, []) calls).2 := by
  have kept : ∀ (state : DisplayTable × List Deed) call, Rights pidOf state.1 state.2 →
      Rights pidOf (Display.tableStep pidOf state call).1 (Display.tableStep pidOf state call).2 :=
    fun _ call rights => rights.tableStep call
  exact run_invariant kept calls _ (rights_start pidOf width height)

/-! ## Surfaces of others -/

/-- A message leaves the surface of a slot alone, and unless it is from the
manager its placement, too. -/
def Untouched (endpoint slot : Nat) (table after : DisplayTable) : Prop :=
  after.core.surfaces slot = table.core.surfaces slot ∧
    (endpoint ≠ table.managed.managerEndpoint →
      after.managed.placements slot = table.managed.placements slot)

theorem Rights.placement_token {slot other : Nat} (rights : Rights pidOf table history)
    (active : (table.core.surfaces slot).active = true)
    (active' : (table.core.surfaces other).active = true) (different : slot ≠ other) :
    (table.managed.placements slot).surface ≠ (table.core.surfaces other).token := by
  intro same
  rcases rights.placement slot with none | granted
  · rw [none] at same
    exact (rights.tokens.token other active').1 same.symm
  · exact different (rights.tokens.unique active active' (granted.token.symm.trans same))

theorem Rights.forget_untouched {endpoint slot : Nat} (rights : Rights pidOf table history)
    (active : (table.core.surfaces slot).active = true)
    (foreign : (table.core.surfaces slot).ownerEndpoint ≠ endpoint) :
    (Display.forgetSurfaces table endpoint).core.surfaces slot = table.core.surfaces slot ∧
      (Display.forgetSurfaces table endpoint).managed.placements slot = table.managed.placements slot := by
  have forgotten := forgetSurfaces_forgotten table endpoint
  refine ⟨(forgotten.surface slot).resolve_right fun gone => foreign gone.1,
    forgotten.others slot fun other owned => ?_⟩
  simp only [ownedBy, Bool.and_eq_true, beq_iff_eq] at owned
  refine rights.placement_token active owned.1.2 ?_
  rintro rfl
  exact foreign owned.2

theorem placementControl_other {endpoint pid index slot : Nat} (different : slot ≠ index) :
    (placementControl managed core endpoint pid index request).2.placements slot =
      managed.placements slot := by
  have stored : ∀ placement, (managed.setPlacement index placement).placements slot =
      managed.placements slot := fun placement => Function.update_of_ne different ..
  unfold placementControl
  grind

theorem managedControl_untouched {endpoint pid slot : Nat} (foreign : (core.surfaces slot).ownerEndpoint ≠ endpoint)
    (notManager : endpoint ≠ managed.managerEndpoint) :
    (managedControl managed core endpoint pid request).2.placements slot =
      managed.placements slot := by
  by_cases invalid : endpoint = 0 ∨ displayControlValidate request ≠ .ok
  · unfold managedControl
    rw [if_pos invalid]
  by_cases refused : request.type ≠ .delegate ∧ endpoint ≠ managed.managerEndpoint
  · unfold managedControl
    rw [if_neg invalid, if_pos refused]
  have isDelegate : request.type = .delegate := by
    by_contra other
    exact refused ⟨other, notManager⟩
  rw [managedControl_surface managed core pid invalid refused (by simp [*]) (by simp [*])]
  cases found : surfaceIndex core request.surface with
  | none => rfl
  | some index =>
    by_cases same : slot = index
    · unfold placementControl
      simp_all
    · exact placementControl_other same

theorem receiveMessage_untouched {endpoint slot : Nat}
    (rights : Rights pidOf table history) (active : (table.core.surfaces slot).active = true)
    (foreign : (table.core.surfaces slot).ownerEndpoint ≠ endpoint) (message : DisplayMessage) :
    Untouched endpoint slot table (receiveMessage pidOf table endpoint answers message).2 := by
  have same : Untouched endpoint slot table table := ⟨rfl, fun _ => rfl⟩
  cases message with
  | old request attachment =>
    unfold receiveMessage
    simp only
    split
    · have requested := oldRequest_requested table endpoint request attachment answers
      generalize oldRequest table endpoint request attachment answers = done at requested ⊢
      cases requested with
      | refused _ => exact same
      | created _ added =>
        rcases added.surfaces with ⟨other, surface, -, free, isAfter, -⟩
        have different : slot ≠ other := by
          rintro rfl
          rw [active] at free
          exact Bool.noConfusion free
        refine ⟨?_, fun _ => rfl⟩
        simp [*]
      | committed _ _ _ => exact same
      | @destroyed other _ found owned =>
        have isFound := surfaceLookup_some found
        have different : slot ≠ other := by
          rintro rfl
          exact foreign owned
        refine ⟨Function.update_of_ne different .., fun _ => ?_⟩
        refine if_neg fun both => ?_
        rw [← isFound.2.2.1] at both
        exact rights.placement_token active isFound.2.1 different both.2
    · exact same
  | control request hasBuffer =>
    unfold receiveMessage
    simp only
    split
    · exact same
    unfold controlMessage
    simp only
    generalize (if answers.peerAlive = true then pidOf endpoint else 0) = peer
    split
    · exact same
    split
    · have kept := rights.forget_untouched active foreign
      exact ⟨kept.1, fun _ => kept.2⟩
    split
    · exact same
    · split
      · exact same
      · exact ⟨rfl, fun _ => rfl⟩
    · split
      · exact ⟨rfl, fun _ => rfl⟩
      · exact same
    · exact ⟨rfl, managedControl_untouched foreign⟩
  | malformed => exact same

theorem answerMessage_untouched {endpoint slot : Nat}
    (rights : Rights pidOf table history) (active : (table.core.surfaces slot).active = true)
    (foreign : (table.core.surfaces slot).ownerEndpoint ≠ endpoint) (message : DisplayMessage) :
    Untouched endpoint slot table (answerMessage pidOf table endpoint answers message).2 := by
  have received : Untouched endpoint slot table (receiveMessage pidOf table endpoint answers message).2 :=
    receiveMessage_untouched rights active foreign message
  have kept : Rights pidOf (receiveMessage pidOf table endpoint answers message).2
      (history ++
        if (receiveMessage pidOf table endpoint answers message).1 = some .ok then
          deeds table endpoint answers message
        else []) := (receiveMessage_answered rights message).2
  unfold answerMessage
  cases result : receiveMessage pidOf table endpoint answers message with
  | mk status after =>
    rw [result] at received kept
    cases status with
    | none => exact received
    | some status =>
      simp only
      split
      · exact received
      have stays : (after.core.surfaces slot).active = true ∧
          (after.core.surfaces slot).ownerEndpoint ≠ endpoint := by
        rw [received.1]
        exact ⟨active, foreign⟩
      have later := kept.forget_untouched stays.1 stays.2
      exact ⟨later.1.trans received.1, fun notManager => later.2.trans (received.2 notManager)⟩

/-! ## What holds of every run -/

/-- What the display server guards: a placement is visible only after the owner
of its surface has delegated it, the manager has bound it in the name of the
owner's process, and has then placed it; surfaces are changed by their creators
alone; there is one manager at most, found behind the service of the window
manager; and an error changes nothing. -/
structure Guarded (pidOf : Nat → Nat) (state : DisplayTable × List Deed) : Prop where
  shown : ∀ slot, (state.1.managed.placements slot).visible = true →
    let surface := state.1.core.surfaces slot
    surface.active = true ∧ (state.1.managed.placements slot).surface = surface.token ∧
      ∃ manager,
        [.created surface.ownerEndpoint surface.creationOrder,
          .delegated surface.ownerEndpoint surface.creationOrder,
          .bound manager (pidOf surface.ownerEndpoint) surface.creationOrder,
          .placed manager surface.creationOrder].Sublist state.2 ∧
        [.managed manager (pidOf manager),
          .bound manager (pidOf surface.ownerEndpoint) surface.creationOrder,
          .placed manager surface.creationOrder].Sublist state.2
  creator : ∀ endpoint creation, .changed endpoint creation ∈ state.2 →
    ∀ other, .created other creation ∈ state.2 ↔ other = endpoint
  oneManager : ∀ endpoint other pid pid', .managed endpoint pid ∈ state.2 →
    .managed other pid' ∈ state.2 → endpoint = other
  authentic : ∀ endpoint pid, .managed endpoint pid ∈ state.2 → pid = pidOf endpoint
  others : ∀ endpoint answers message slot, (state.1.core.surfaces slot).active = true →
    (state.1.core.surfaces slot).ownerEndpoint ≠ endpoint →
      Untouched endpoint slot state.1 (answerMessage pidOf state.1 endpoint answers message).2
  errors : ∀ endpoint answers message status,
    (answerMessage pidOf state.1 endpoint answers message).1 = some status → status ≠ .ok →
      (answerMessage pidOf state.1 endpoint answers message).2 = state.1

/-- Every run of messages, well-formed or not, from any peers, with input
events and with peers that go away at any time -/
theorem display_guarded (pidOf : Nat → Nat) (width height : Nat) (calls : List DisplayCall) :
    Guarded pidOf (run (tableStep pidOf) (displayTable width height, []) calls) := by
  have rights := run_rights pidOf width height calls
  refine ⟨fun slot shown => ?_, fun endpoint creation isChanged other => ⟨fun isCreated => ?_, ?_⟩,
    rights.managers.once, rights.managers.authentic,
    fun endpoint answers message slot active foreign =>
      answerMessage_untouched rights active foreign message,
    fun endpoint answers message => (answerMessage_rights rights message).1⟩
  · rcases rights.placement slot with none | granted
    · rw [none] at shown
      exact Bool.noConfusion shown
    · exact ⟨granted.active, granted.token, (granted.visible shown).2⟩
  · exact rights.creations.unique other endpoint creation isCreated
      (rights.creations.changed endpoint creation isChanged)
  · rintro rfl
    exact rights.creations.changed other creation isChanged

end BoringOS.Display
