import Mathlib.Data.List.Nodup
import BoringOS.Desktop.Clients
import BoringOS.WindowManager.Keeping

namespace BoringOS.Desktop

open Display Library WindowManager

/-!
# Runs of the window manager with its clients

Whether a client keeps its connection and its window is decided by the
manager's own steps: no step of another client, of the display or of the
kernel's input touches them.
-/

variable {endpoint : Nat} {system : ManagedSystem}

/-! ## Connections -/

/-- The client has closed its end. -/
def ended (system : ManagedSystem) (endpoint : Nat) : Bool :=
  (system.links endpoint).any (!·.clientOpen)

variable (links : Nat → Option ClientLink)

/-- The manager's end is open. -/
def held (endpoint : Nat) : Bool := (links endpoint).any (·.managerOpen)

theorem setLink_self (other : Nat) (change : ClientLink → ClientLink) :
    setLink links other change other = (links other).map change := Function.update_self ..

theorem setLink_of_ne {links : Nat → Option ClientLink} {other : Nat}
    {change : ClientLink → ClientLink} (different : endpoint ≠ other) :
    setLink links other change endpoint = links endpoint := Function.update_of_ne different ..

/-- A property of a connection that the change keeps -/
theorem any_setLink {links : Nat → Option ClientLink} {other : Nat}
    {change : ClientLink → ClientLink} {holds : ClientLink → Bool}
    (kept : ∀ link, holds (change link) = holds link) :
    (setLink links other change endpoint).any holds = (links endpoint).any holds := by
  by_cases same : endpoint = other
  · rw [same, setLink_self]
    cases links other with
    | none => rfl
    | some link => exact kept link
  · rw [setLink_of_ne same]

theorem isSome_setLink (other : Nat) (change : ClientLink → ClientLink) (endpoint : Nat) :
    (setLink links other change endpoint).isSome = (links endpoint).isSome := by
  by_cases same : endpoint = other
  · rw [same, setLink_self, Option.isSome_map]
  · rw [setLink_of_ne same]

/-! ## What a step does to a connection -/

/-- The ways in which a task of the manager changes a connection.  Its own end
is closed when a client is ended or not admitted, and the other end never. -/
theorem serveLinks_cases (system : ManagedSystem) (accepts installs : Bool) (task : WmTask) :
    serveLinks system accepts installs task = system.links ∨
      ∃ other change, serveLinks system accepts installs task = setLink system.links other change ∧
        (∀ link, (change link).clientOpen = link.clientOpen) ∧
          ((∀ link, (change link).managerOpen = link.managerOpen) ∨ threatens other task = true ∨
              (task = .accept ∧ accepts = true ∧ admits system other = false ∧
                ∃ rest, system.pending = other :: rest)) := by
  cases task
  case appSend peer message =>
    refine Or.inr ⟨peer, _, rfl, fun link => ?_, Or.inl fun link => ?_⟩
    · split <;> rfl
    · split <;> rfl
  case request peer =>
    refine Or.inr ⟨peer, _, rfl, fun link => ?_, Or.inl fun link => ?_⟩
    · split <;> rfl
    · split <;> rfl
  case drop peer slot =>
    by_cases last : boringWmClientMax ≤ slot
    · refine Or.inr ⟨peer, _, if_pos last, fun link => rfl, Or.inr (Or.inl ?_)⟩
      exact beq_self_eq_true peer
    · exact Or.inl (if_neg last)
  case accept =>
    cases isPending : system.pending with
    | nil =>
      grind [serveLinks]
    | cons other rest =>
      by_cases refused : accepts = true ∧ admits system other = false
      · grind [serveLinks]
      simp_all [serveLinks]
  all_goals exact Or.inl rfl

theorem serveLinks_isSome (accepts installs : Bool) (task : WmTask) (endpoint : Nat) :
    (serveLinks system accepts installs task endpoint).isSome = (system.links endpoint).isSome := by
  rcases serveLinks_cases system accepts installs task with same | ⟨other, change, isSet, -⟩
  · rw [same]
  · rw [isSet]
    exact isSome_setLink ..

/-- The manager does not close the ends of its clients. -/
theorem serveLinks_ended (accepts installs : Bool) (task : WmTask) (endpoint : Nat) :
    (serveLinks system accepts installs task endpoint).any (!·.clientOpen) =
      (system.links endpoint).any (!·.clientOpen) := by
  rcases serveLinks_cases system accepts installs task with same | ⟨other, change, isSet, kept, -⟩
  · rw [same]
  · rw [isSet]
    exact any_setLink fun link => by rw [kept]

/-- The manager keeps its end open for a client that it does not end and that
it admits. -/
theorem serveLinks_held {accepts installs : Bool} {task : WmTask} (quiet : threatens endpoint task = false)
    (admitted : task = .accept → ∀ rest, system.pending = endpoint :: rest → accepts = true →
      admits system endpoint = true) :
    held (serveLinks system accepts installs task) endpoint = held system.links endpoint := by
  unfold held
  rcases serveLinks_cases system accepts installs task with
    same | ⟨other, change, isSet, -, kept | ends | ⟨isAccept, accepted, refused, rest, isPending⟩⟩
  · rw [same]
  · rw [isSet]
    exact any_setLink kept
  · have different : endpoint ≠ other := by
      rintro rfl
      rw [quiet] at ends
      exact Bool.false_ne_true ends
    rw [isSet, setLink_of_ne different]
  · have different : endpoint ≠ other := by
      rintro rfl
      rw [admitted isAccept rest isPending accepted] at refused
      exact Bool.noConfusion refused
    rw [isSet, setLink_of_ne different]

/-! ## The invariant -/

/-- The connections are listed once while they are pending, and only under
handles that the manager can get. -/
structure Listed (system : ManagedSystem) : Prop where
  zero : (system.links 0).isSome = false
  once : system.pending.Nodup
  known : ∀ endpoint ∈ system.pending, (system.links endpoint).isSome = true

/-- The endpoint is pending or served, and its end of the manager is open. -/
structure Tended (endpoint : Nat) (system : ManagedSystem) : Prop where
  peer : endpoint ∈ system.desktop.wm.memory.peers →
    held system.links endpoint = true ∧ endpoint ∉ system.pending
  pending : endpoint ∈ system.pending → held system.links endpoint = true
  attends : Attends endpoint system.desktop.wm

/-- What is proved of a step: the invariant, and that the endpoint keeps what
it has. -/
structure Tends (endpoint : Nat) (system after : ManagedSystem) : Prop where
  tended : Tended endpoint after
  peer : endpoint ∈ system.desktop.wm.memory.peers → endpoint ∈ after.desktop.wm.memory.peers
  registered : ∀ token, Registered system.desktop.wm endpoint token →
    Registered after.desktop.wm endpoint token

variable {accepts installs : Bool}

/-! ## Steps of the manager -/

theorem served (tended : Tended endpoint system) (alive : ended system endpoint = false)
    (spared : sparesTask endpoint system installs system.desktop.wm.todo = true)
    (moves : requestWaits system = false) :
    Served endpoint system.desktop.wm (answersOf system accepts installs) := by
  have reached : ∀ task, task ∈ system.desktop.wm.todo → concerns endpoint task = true →
      ∃ link, system.links endpoint = some link ∧ link.managerOpen = true ∧
        link.clientOpen = true := by
    intro task isTask concerned
    have isHeld := (tended.peer (tended.attends.concerned task isTask concerned)).1
    unfold held at isHeld
    unfold ended at alive
    cases isLink : system.links endpoint with
    | none =>
      simp_all
    | some link =>
      simp_all
  refine ⟨alive, ?_, ?_, ?_⟩
  · intro message rest isTodo
    rcases reached (.appSend endpoint message) (by rw [isTodo]; exact List.mem_cons_self)
      (beq_self_eq_true _) with ⟨link, isLink, managerOpen, clientOpen⟩
    rw [isTodo] at spared
    simp only [sparesTask, bne_self_eq_false, Bool.false_or, isLink, Option.all_some] at spared
    simp_all [answersOf, Option.any_some, sends]
  · intro rest isTodo
    rcases reached (.request endpoint) (by rw [isTodo]; exact List.mem_cons_self)
      (beq_self_eq_true _) with ⟨link, isLink, managerOpen, clientOpen⟩
    rw [isTodo] at spared
    simp only [sparesTask, bne_self_eq_false, Bool.false_or, isLink, Option.all_some] at spared
    simp only [requestWaits, isTodo, isLink, Option.any_some, waits, managerOpen, clientOpen,
      Bool.true_and] at moves
    simp only [answersOf, isTodo, isLink, Option.bind_some, receives, managerOpen]
    unfold receivable at spared
    cases isQueue : link.toManager with
    | nil =>
      simp_all
    | cons request later =>
      rw [isQueue] at spared
      simp only [Bool.and_eq_true, Bool.or_eq_true, Bool.not_eq_true', bne_iff_ne] at spared
      refine ⟨request, ?_, spared.2⟩
      simp only [Bool.true_eq_false, if_false]
      rw [if_neg]
      grind
  · intro index rest isTodo same
    simp_all [sparesTask, bne_self_eq_false, Bool.false_or, beq_iff_eq]

/-- The handle of a connection that is accepted is the one at the head of the
pending ones, and what the kernel says of its peer is what `admits` asks. -/
theorem accepted_pending {rest : List WmTask} (isTodo : system.desktop.wm.todo = .accept :: rest)
    {other : Nat} (isAccepted : (answersOf system accepts installs).accepted = some other) :
    ∃ later, system.pending = other :: later ∧ accepts = true ∧ (answersOf system accepts installs).peerPid =
        ((system.links other).map peerPid).getD 0 := by
  unfold answersOf at isAccepted
  simp only at isAccepted
  split at isAccepted
  · next isAccepting =>
      cases isPending : system.pending with
      | nil =>
        simp_all
      | cons first later =>
        simp_all [answersOf, Option.bind_some]
  · cases isAccepted

/-- The connections after a step of the manager in which nothing ends -/
theorem tended_links {desktop : System} (listed : Listed system) (isEndpoint : endpoint ≠ 0)
    (tended : Tended endpoint system) {link : Link}
    (stepped : wmStep system.desktop.wm system.desktop.side.link
      (answersOf system accepts installs) = some (desktop.wm, link))
    (running : desktop.wm.exited = false) (attends : Attends endpoint desktop.wm) :
    Tended endpoint (serveTask system accepts installs desktop system.desktop.wm.todo) := by
  cases isTodo : system.desktop.wm.todo with
  | nil =>
    have before : endpoint ∈ desktop.wm.memory.peers → endpoint ∈ system.desktop.wm.memory.peers :=
      wmStep_peers isEndpoint stepped fun rest isAccept => by
        simp_all
    exact ⟨fun isPeer => tended.peer (before isPeer), tended.pending, attends⟩
  | cons task rest =>
    have isTask : task ∈ system.desktop.wm.todo := by
      rw [isTodo]
      exact List.mem_cons_self
    have quiet := tended.attends.quiet task isTask
    by_cases accepting : task = .accept
    · subst accepting
      rcases wmStep_accept stepped isTodo running with ⟨other, isAccepted, peers⟩
      rcases accepted_pending isTodo isAccepted with ⟨later, isPending, isAccepting, isPid⟩
      have once := listed.once
      rw [isPending, List.nodup_cons] at once
      have kept : endpoint ≠ other → held (serveLinks system accepts installs .accept) endpoint =
          held system.links endpoint := fun different =>
        serveLinks_held rfl fun _ rest isHead _ => by
          simp_all
      have isLater : servePending system accepts .accept = later := by
        simp only [servePending, isAccepting, isPending, if_true, List.tail_cons]
      refine ⟨fun isPeer => ?_, fun waiting => ?_, attends⟩
      · rw [serveTask, isLater]
        have isPeer : endpoint ∈ desktop.wm.memory.peers := isPeer
        by_cases before : endpoint ∈ system.desktop.wm.memory.peers
        · have was := tended.peer before
          simp_all
        rcases peers with same | ⟨somePid, otherPid, added⟩
        · simp_all
        rw [added] at isPeer
        rcases mem_of_addPeer isPeer with was | ⟨isNew, free⟩
        · exact absurd was before
        subst isNew
        have isAdmitted : admits system endpoint = true := by
          rw [isPid] at somePid otherPid
          exact decide_eq_true ⟨somePid, otherPid, free⟩
        refine ⟨?_, once.1⟩
        rw [serveLinks_held rfl fun _ _ _ _ => isAdmitted]
        exact tended.pending (by rw [isPending]; exact List.mem_cons_self)
      · rw [serveTask, isLater] at waiting
        have different : endpoint ≠ other := by
          rintro rfl
          exact once.1 waiting
        exact (kept different).trans (tended.pending (by grind))
    · have before : endpoint ∈ desktop.wm.memory.peers → endpoint ∈ system.desktop.wm.memory.peers :=
        wmStep_peers isEndpoint stepped fun rest isAccept => by
          simp_all
      have kept : held (serveLinks system accepts installs task) endpoint = held system.links endpoint :=
        serveLinks_held quiet fun isAccept => absurd isAccept accepting
      have same : servePending system accepts task = system.pending := by
        cases task
        case accept => exact absurd rfl accepting
        all_goals rfl
      refine ⟨fun isPeer => ?_, fun waiting => ?_, attends⟩
      · have was := tended.peer (before isPeer)
        simp_all [serveTask]
      · rw [serveTask, same] at waiting
        exact kept.trans (tended.pending waiting)

/-! ## What stays -/

theorem managerStep_cases (system : ManagedSystem) (accepts installs : Bool) :
    managerStep system accepts installs = system ∨
      ∃ (desktop : System) (link : Link), requestWaits system = false ∧
        wmStep system.desktop.wm system.desktop.side.link (answersOf system accepts installs) =
          some (desktop.wm, link) ∧
        managerStep system accepts installs =
          if desktop.wm.exited = true then
            closeAll (serveTask system accepts installs desktop system.desktop.wm.todo)
          else serveTask system accepts installs desktop system.desktop.wm.todo := by
  unfold managerStep
  by_cases blocked : requestWaits system = true ∨
      wmStep system.desktop.wm system.desktop.side.link (answersOf system accepts installs) = none
  · exact Or.inl (if_pos blocked)
  rw [if_neg blocked]
  rw [not_or, Bool.not_eq_true] at blocked
  cases stepped : wmStep system.desktop.wm system.desktop.side.link (answersOf system accepts installs) with
  | none => exact absurd stepped blocked.2
  | some result =>
    grind [step]

theorem serveTask_links (desktop : System) (todo : List WmTask) (endpoint : Nat) :
    ((serveTask system accepts installs desktop todo).links endpoint).isSome =
      (system.links endpoint).isSome ∧
    ended (serveTask system accepts installs desktop todo) endpoint = ended system endpoint := by
  cases todo with
  | nil => exact ⟨rfl, rfl⟩
  | cons task rest =>
    exact ⟨serveLinks_isSome accepts installs task endpoint,
      serveLinks_ended accepts installs task endpoint⟩

theorem closeAll_links (system : ManagedSystem) (endpoint : Nat) :
    ((closeAll system).links endpoint).isSome = (system.links endpoint).isSome ∧
      ended (closeAll system) endpoint = ended system endpoint := by
  unfold closeAll ended
  grind

theorem managerStep_links (system : ManagedSystem) (accepts installs : Bool) (endpoint : Nat) :
    ((managerStep system accepts installs).links endpoint).isSome = (system.links endpoint).isSome ∧
    ended (managerStep system accepts installs) endpoint = ended system endpoint := by
  rcases managerStep_cases system accepts installs with same | ⟨desktop, -, -, -, isStep⟩
  · rw [same]
    exact ⟨rfl, rfl⟩
  grind [closeAll_links, serveTask_links]

/-- A client that has closed its end does not come back. -/
theorem ended_stays {action : ManagedAction} (isEnded : ended system endpoint = true) :
    ended (managedStep system action) endpoint = true := by
  cases action with
  | inputArrives event => exact isEnded
  | display answers => exact isEnded
  | manager accepts installs => exact (managerStep_links ..).2.trans isEnded
  | connect other pid =>
    unfold managedStep
    simp only
    split
    · next free =>
        have different : endpoint ≠ other := by
          rintro rfl
          unfold ended at isEnded
          rw [Option.isNone_iff_eq_none.mp free.2.2.1] at isEnded
          exact Bool.noConfusion isEnded
        simp_all [ended, Function.update_of_ne]
    · exact isEnded
  | request other message =>
    refine (any_setLink fun link => ?_).trans isEnded
    split <;> rfl
  | receive other =>
    simp_all [managedStep, ended, any_setLink]
  | close other =>
    unfold managedStep ended
    simp only
    by_cases same : endpoint = other
    · unfold ended at isEnded
      rw [same, setLink_self]
      cases isLink : system.links other with
      | none =>
        simp_all
      | some link => rfl
    · rw [setLink_of_ne same]
      exact isEnded

theorem step_exited {desktop : System} {own : Action} (isExited : desktop.wm.exited = true) :
    (step desktop own).wm.exited = true := by
  cases own with
  | inputArrives event =>
    grind [step]
  | manager answers =>
    simp_all [wmStep, step]
  | display answers =>
    grind [step]

/-- The manager does not come back either. -/
theorem exited_stays {action : ManagedAction} (isExited : system.desktop.wm.exited = true) :
    (managedStep system action).desktop.wm.exited = true := by
  grind [managedStep_desktop, step_exited]

theorem managerStep_pending (system : ManagedSystem) (accepts installs : Bool) :
    (managerStep system accepts installs).pending.Sublist system.pending := by
  have served : ∀ desktop todo,
      (serveTask system accepts installs desktop todo).pending.Sublist system.pending := by
    intro desktop todo
    cases todo with
    | nil => exact List.Sublist.refl _
    | cons task rest =>
      simp only [serveTask, servePending]
      grind
  rcases managerStep_cases system accepts installs with same | ⟨desktop, -, -, -, isStep⟩
  · rw [same]
  rw [isStep]
  split
  · exact List.nil_sublist _
  · exact served _ _

theorem Listed.step (listed : Listed system) (action : ManagedAction) :
    Listed (managedStep system action) := by
  cases action with
  | inputArrives event => exact ⟨listed.zero, listed.once, listed.known⟩
  | display answers => exact ⟨listed.zero, listed.once, listed.known⟩
  | manager accepts installs =>
    have pending := managerStep_pending system accepts installs
    exact ⟨(managerStep_links ..).1.trans listed.zero, listed.once.sublist pending,
      fun other isPending =>
        (managerStep_links ..).1.trans (listed.known other (pending.subset isPending))⟩
  | connect other pid =>
    unfold managedStep
    simp only
    split
    · next free =>
        have isNone := Option.isNone_iff_eq_none.mp free.2.2.1
        have isNew : other ∉ system.pending := by
          intro isPending
          have isKnown := listed.known other isPending
          rw [isNone] at isKnown
          exact Bool.noConfusion isKnown
        refine ⟨?_, ?_, fun peer isPeer => ?_⟩
        · simp only
          rw [Function.update_of_ne (Ne.symm free.1)]
          exact listed.zero
        · exact List.nodup_append.mpr ⟨listed.once, List.nodup_singleton other,
            fun first isFirst second isSecond => by
              grind⟩
        · simp only
          by_cases same : peer = other
          · simp [*]
          rw [Function.update_of_ne same]
          refine listed.known peer ?_
          simp_all
    · exact listed
  | request other message =>
    exact ⟨(isSome_setLink ..).trans listed.zero, listed.once,
      fun peer isPending => (isSome_setLink ..).trans (listed.known peer isPending)⟩
  | receive other =>
    exact ⟨(isSome_setLink ..).trans listed.zero, listed.once,
      fun peer isPending => (isSome_setLink ..).trans (listed.known peer isPending)⟩
  | close other =>
    exact ⟨(isSome_setLink ..).trans listed.zero, listed.once,
      fun peer isPending => (isSome_setLink ..).trans (listed.known peer isPending)⟩

/-! ## The endpoint over a step -/

theorem Tends.refl (tended : Tended endpoint system) : Tends endpoint system system :=
  ⟨tended, id, fun _ => id⟩

theorem Tends.trans {middle after : ManagedSystem} (first : Tends endpoint system middle)
    (second : Tends endpoint middle after) : Tends endpoint system after :=
  ⟨second.tended, fun isPeer => second.peer (first.peer isPeer),
    fun token registered => second.registered token (first.registered token registered)⟩

/-- A step that leaves the manager alone, and its ends of the connections -/
theorem Tends.aside (tended : Tended endpoint system) {after : ManagedSystem}
    (wm : after.desktop.wm = system.desktop.wm)
    (links : held after.links endpoint = held system.links endpoint)
    (pending : after.pending = system.pending) : Tends endpoint system after := by
  refine ⟨⟨?_, ?_, ?_⟩, ?_, ?_⟩
  · rw [wm, links, pending]
    exact tended.peer
  · rw [links, pending]
    exact tended.pending
  · rw [wm]
    exact tended.attends
  · rw [wm]
    exact id
  · rw [wm]
    exact fun _ => id

theorem Tended.step (tended : Tended endpoint system) (listed : Listed system)
    (isEndpoint : endpoint ≠ 0) {action : ManagedAction} (spared : Spares endpoint system action)
    (alive : ended system endpoint = false)
    (running : (managedStep system action).desktop.wm.exited = false) :
    Tends endpoint system (managedStep system action) := by
  cases action with
  | inputArrives event =>
    grind [Tends.aside, managedStep, Desktop.step]
  | display answers =>
    grind [Tends.aside, managedStep, Desktop.step]
  | manager accepts installs =>
    have isStep : managedStep system (.manager accepts installs) =
      managerStep system accepts installs := rfl
    rw [isStep] at running ⊢
    rcases managerStep_cases system accepts installs with
      same | ⟨desktop, link, moves, stepped, taken⟩
    · rw [same]
      exact Tends.refl tended
    have reached : ∀ todo, (serveTask system accepts installs desktop todo).desktop = desktop := by
      intro todo
      cases todo with
      | nil => rfl
      | cons task rest => rfl
    rw [taken] at running ⊢
    split at running
    · simp_all [closeAll, serveTask]
    next notExited =>
      rw [if_neg notExited]
      rw [reached] at running
      have kept := tended.attends.step (served tended alive spared moves) isEndpoint stepped running
      refine ⟨tended_links listed isEndpoint tended stepped running kept.1, ?_, ?_⟩
      · rw [reached]
        exact kept.2.1
      · rw [reached]
        exact kept.2.2
  | connect other pid =>
    unfold managedStep
    simp only
    split
    · next free =>
        by_cases same : endpoint = other
        · have isHeld : held (Function.update system.links other
              (some ⟨pid, [], [], true, true⟩)) endpoint = true := by
            rw [held, same, Function.update_self]
            rfl
          refine ⟨⟨fun isPeer => ?_, fun _ => isHeld, tended.attends⟩, id, fun _ => id⟩
          have was := (tended.peer isPeer).1
          simp_all [held]
        · have kept : held (Function.update system.links other
              (some ⟨pid, [], [], true, true⟩)) endpoint = held system.links endpoint := by
            unfold held
            rw [Function.update_of_ne same]
          refine ⟨⟨fun isPeer => ?_, fun waiting => ?_, tended.attends⟩, id, fun _ => id⟩
          · have was := tended.peer isPeer
            simp [*]
          · rcases List.mem_append.mp waiting with before | isLast
            · exact kept.trans (tended.pending before)
            grind
    · exact Tends.refl tended
  | request other message =>
    refine Tends.aside tended rfl (any_setLink fun link => ?_) rfl
    split <;> rfl
  | receive other =>
    refine Tends.aside tended rfl ?_ rfl
    simp [managedStep, held, any_setLink]
  | close other =>
    refine Tends.aside tended rfl ?_ rfl
    simp [managedStep, held, any_setLink]

/-! ## Runs -/

variable (actions : List ManagedAction)

theorem alive_before :
    ∀ system, ended (run managedStep system actions) endpoint = false →
      ended system endpoint = false := by
  intro system alive
  cases before : ended system endpoint with
  | false => rfl
  | true =>
    have kept : ∀ state action, ended state endpoint = true →
        ended (managedStep state action) endpoint = true := fun _ _ isEnded => ended_stays isEnded
    have isEnded := run_invariant kept actions system before
    simp_all

theorem running_before :
    ∀ system, (run managedStep system actions).desktop.wm.exited = false →
      system.desktop.wm.exited = false := by
  intro system running
  cases before : system.desktop.wm.exited with
  | false => rfl
  | true =>
    have kept : ∀ (state : ManagedSystem) action, state.desktop.wm.exited = true →
        (managedStep state action).desktop.wm.exited = true := fun _ _ isExited =>
      exited_stays isExited
    have isExited := run_invariant kept actions system before
    simp_all

/-- Over a run that spares it, the endpoint keeps its connection and its
window. -/
theorem run_tends (isEndpoint : endpoint ≠ 0) (actions : List ManagedAction) :
    ∀ system, Listed system → Tended endpoint system →
      Respects managedStep (Spares endpoint) system actions →
        ended (run managedStep system actions) endpoint = false →
          (run managedStep system actions).desktop.wm.exited = false →
            Tends endpoint system (run managedStep system actions) := by
  induction actions with
  | nil => exact fun system _ tended _ _ _ => Tends.refl tended
  | cons action rest ih =>
    intro system listed tended spared alive running
    have first := tended.step listed isEndpoint spared.1 (alive_before (action :: rest) _ alive)
      (running_before rest _ running)
    exact first.trans (ih _ (listed.step action) first.tended spared.2 alive running)

variable (width height displayPid : Nat)

theorem listed_start : Listed (managedStart width height displayPid) :=
  ⟨rfl, List.nodup_nil, fun _ isPending => absurd isPending List.not_mem_nil⟩

theorem tended_start (isEndpoint : endpoint ≠ 0) :
    Tended endpoint (managedStart width height displayPid) := by
  have noPeer : endpoint ∉ (managedStart width height displayPid).desktop.wm.memory.peers := by
    intro isPeer
    exact isEndpoint (List.eq_of_mem_replicate isPeer)
  refine ⟨fun isPeer => absurd isPeer noPeer, fun isPending => absurd isPending List.not_mem_nil,
    ⟨?_, ?_, ?_, fun _ => ⟨⟨[.rpc (displayControl .manager)], rfl, Or.inr (Or.inr ⟨_, rfl⟩)⟩,
      fun slot => rfl⟩⟩⟩
  · intro task isTask
    rcases List.mem_cons.mp isTask with rfl | isLater
    · rfl
    rcases List.mem_cons.mp isLater with rfl | isLast
    · rfl
    · rw [List.mem_singleton.mp isLast]
      rfl
  · nofun
  · rintro ⟨slot, named⟩
    exact absurd named.symm isEndpoint

theorem listed_run (actions : List ManagedAction) :
    Listed (run managedStep (managedStart width height displayPid) actions) :=
  run_invariant (fun _ action listed => listed.step action) actions _ (listed_start width height displayPid)

/-- Once the manager serves a client, it goes on doing so as long as it runs
and the client is alive, and once it has registered the client's window, it
keeps it, in every run in which no message meets a full queue to the client,
the display refuses no placement of its window, and its requests can be
received and do not ask for the end of the window. -/
theorem client_kept (width height displayPid : Nat) (earlier later : List ManagedAction)
    (endpoint token : Nat)
    (spared : Respects managedStep (Spares endpoint) (managedStart width height displayPid)
      (earlier ++ later))
    (alive : clientAlive (run managedStep (managedStart width height displayPid)
      (earlier ++ later)) endpoint = true)
    (running : (run managedStep (managedStart width height displayPid)
      (earlier ++ later)).desktop.wm.exited = false) :
    (Connected (run managedStep (managedStart width height displayPid) earlier) endpoint →
      Connected (run managedStep (managedStart width height displayPid) (earlier ++ later))
        endpoint) ∧
    (Registered (run managedStep (managedStart width height displayPid) earlier).desktop.wm endpoint token →
      Registered (run managedStep (managedStart width height displayPid)
        (earlier ++ later)).desktop.wm endpoint token) := by
  have isEndpoint : endpoint ≠ 0 := by
    rintro rfl
    have none := (listed_run width height displayPid (earlier ++ later)).zero
    unfold clientAlive at alive
    rw [Option.isSome_eq_false_iff, Option.isNone_iff_eq_none] at none
    rw [none] at alive
    exact Bool.noConfusion alive
  have notEnded : ended (run managedStep (managedStart width height displayPid)
      (earlier ++ later)) endpoint = false := by
    unfold clientAlive at alive
    unfold ended
    cases isLink : (run managedStep (managedStart width height displayPid)
        (earlier ++ later)).links endpoint with
    | none => rfl
    | some link =>
      grind
  rw [respects_append] at spared
  rw [run_append] at running notEnded ⊢
  have first := run_tends isEndpoint earlier _ (listed_start width height displayPid)
    (tended_start width height displayPid isEndpoint) spared.1 (alive_before later _ notEnded)
    (running_before later _ running)
  have second := run_tends isEndpoint later _ (listed_run width height displayPid earlier)
    first.tended spared.2 notEnded running
  refine ⟨fun connected => ?_, second.registered token⟩
  have isPeer := second.peer connected.1
  exact ⟨isPeer, (second.tended.peer isPeer).1⟩

/-! ## A client that is slow for a while -/

/-- The manager and the display take turns. -/
def turnsOfBoth (count : Nat) : List ManagedAction :=
  (List.replicate count [.manager true true, .display quietPeers]).flatten

/-- A client connects to the manager and registers a window. -/
def clientRegisters : List ManagedAction :=
  turnsOfBoth 12 ++
    [.connect 11 21,
      .request 11 ({ wmMessage .register with surface := 1001 }, true, false)] ++
      turnsOfBoth 25 ++ [.receive 11, .receive 11]

def keyPressed : List ManagedAction :=
  .inputArrives ⟨.key, boringKeyE, boringKeyDownValue, 0, 0, 0⟩ :: turnsOfBoth 10

theorem client_kept_oneKey :
    Connected (run managedStep (managedStart 800 600 7)
      (clientRegisters ++ (keyPressed ++ [.receive 11]))) 11 ∧
    Registered (run managedStep (managedStart 800 600 7)
      (clientRegisters ++ (keyPressed ++ [.receive 11]))).desktop.wm 11 257 := by
  have kept := client_kept 800 600 7 clientRegisters (keyPressed ++ [.receive 11]) 11 257
    (by decide +kernel) (by decide +kernel) (by decide +kernel)
  exact ⟨kept.1 (by decide +kernel), kept.2 (by decide +kernel)⟩

/-- Seventeen keys are pressed before the client takes its next message. -/
theorem slowClient_dropped :
    ¬∀ (width height displayPid : Nat) (earlier later : List ManagedAction) (endpoint : Nat),
      clientAlive (run managedStep (managedStart width height displayPid)
        (earlier ++ later)) endpoint = true →
      (run managedStep (managedStart width height displayPid) (earlier ++ later)).desktop.wm.exited = false →
      Connected (run managedStep (managedStart width height displayPid) earlier) endpoint →
      Connected (run managedStep (managedStart width height displayPid) (earlier ++ later))
        endpoint := by
  intro claim
  have connected := claim 800 600 7 clientRegisters
    ((keyPressed ++ [.receive 11]) ++ (List.replicate 17 keyPressed).flatten ++
      turnsOfBoth 40 ++ [.receive 11]) 11 (by decide +kernel) (by decide +kernel)
      (by decide +kernel)
  revert connected
  decide +kernel

end BoringOS.Desktop
