import BoringOS.Desktop.InputHandover

namespace BoringOS.Desktop

open Display WindowManager

/-!
# The handover and the display

Every step of the display keeps the handover: it sends an input event only if
the last one has been acknowledged, and it answers every request once.
-/

/-- Input events are taken in no worse conditions. -/
theorem inputReady_free {pending : Bool} {todo : List DisplayTask}
    (ready : InputReady pending todo) : InputReady false todo := by
  induction todo with
  | nil => exact ready
  | cons task rest ih =>
    cases task
    case accept => exact ih ready
    case input => exact ⟨rfl, ready.2⟩
    all_goals exact ready

/-- One watch has been served. -/
theorem inputReady_tail {pending : Bool} {task : DisplayTask} {rest : List DisplayTask}
    (ready : InputReady pending (task :: rest)) :
    InputReady pending rest ∧ (task ≠ .accept → DisplayTask.input ∉ rest) := by
  cases task
  case accept => exact ⟨ready, fun other => absurd rfl other⟩
  case input => exact ⟨inputReady_of_notMem ready.2, fun _ => ready.2⟩
  all_goals
    have absent : DisplayTask.input ∉ rest := fun member => ready (List.mem_cons_of_mem _ member)
    exact ⟨inputReady_of_notMem absent, fun _ => absent⟩

theorem displayReady_inputReady (side : DisplaySide) (answers : DisplayAnswers) :
    InputReady side.server.inputPending (displayReady side answers) := by
  have notPeer : DisplayTask.input ∉ side.server.peers.filterMap (peerReady side answers) := by
    intro member
    rcases List.mem_filterMap.mp member with ⟨slot, -, isReady⟩
    rcases slot with none | peer
    · cases isReady
    cases peer with
    | windowManager =>
      rw [peerReady] at isReady
      grind
    | client endpoint =>
      rw [peerReady] at isReady
      grind
  have behind : InputReady side.server.inputPending
      ((if side.server.inputPending = false ∧ side.events ≠ [] then [.input] else []) ++
        side.server.peers.filterMap (peerReady side answers)) := by
    split
    · rename_i free
      exact ⟨free.1, notPeer⟩
    · exact inputReady_of_notMem notPeer
  rw [displayReady, List.append_assoc]
  split
  · exact behind
  · exact behind

theorem mem_addDisplayPeer {peer other : DisplayPeer} {slots later : List (Option DisplayPeer)}
    (added : addDisplayPeer peer slots = some later) :
    some peer ∈ later ∧ (some other ∈ slots → some other ∈ later) := by
  induction slots generalizing later with
  | nil => cases added
  | cons slot rest ih =>
    cases slot with
    | none =>
      cases added
      simp_all
    | some taken =>
      rcases Option.map_eq_some_iff.mp added with ⟨tail, isTail, rfl⟩
      grind

namespace Handover

variable {deferred : Option DisplayInput} {todo : List WmTask} {link : Link}
  {server : DisplayServer}

/-- What the display may change without touching the handover -/
theorem sameServer (handover : Handover deferred todo link server) {later : DisplayServer}
    (pending : later.inputPending = server.inputPending) (manager : later.manager = server.manager)
    (exited : later.exited = server.exited) (ready : InputReady later.inputPending later.todo)
    (peers : some DisplayPeer.windowManager ∈ server.peers →
      some DisplayPeer.windowManager ∈ later.peers) : Handover deferred todo link later :=
  { handover with
    isPending := by rw [pending]; exact handover.isPending
    managed := by rw [pending, manager]; exact handover.managed
    onlyManager := by rw [manager]; exact handover.onlyManager
    inputReady := ready
    accepted := by
      rw [exited]
      exact fun running isAccepted => peers (handover.accepted running isAccepted)
    bound := by rw [exited, manager]; exact handover.bound
    exited := by rw [exited]; exact handover.exited }

theorem closed (handover : Handover deferred todo link server) {later : DisplayServer}
    {waiting : List DisplayControl} (fewer : List.Sublist waiting link.toDisplay)
    (managed : later.inputPending = true → later.manager ≠ none)
    (onlyManager : ∀ peer, later.manager = some peer → peer = .windowManager)
    (ready : InputReady later.inputPending later.todo)
    (unbound : later.exited = false → later.manager = none) :
    Handover deferred todo
      { link with
        toDisplay := waiting
        display := .closed } later := by
  have one := handover.atMostOne
  have request := handover.oneRequest
  exact
    { running := handover.running
      atMostOne := by
        rw [unacknowledged] at one ⊢
        grind
      isPending := fun opened => absurd rfl opened
      oneRequest := by
        rw [underWay] at request ⊢
        grind
      isAwaited := fun opened => absurd rfl opened
      calls := handover.calls
      reading := readReady_mono (fun _ => Or.inr rfl) handover.reading
      plainAcks := fun request member => handover.plainAcks request (fewer.subset member)
      managed := managed
      onlyManager := onlyManager
      inputReady := ready
      accepted := fun _ isAccepted => by cases isAccepted
      bound := fun running isBound => absurd (unbound running) isBound
      exited := fun _ => rfl }

theorem manager_cases (handover : Handover deferred todo link server) :
    server.manager = none ∨ server.manager = some .windowManager := by
  cases isManager : server.manager with
  | none => exact Or.inl rfl
  | some peer => exact Or.inr (congrArg some (handover.onlyManager peer isManager))

theorem forgotten {side : DisplaySide} (handover : Handover deferred todo side.link side.server)
    (peer : DisplayPeer) :
    Handover deferred todo (forgetPeer side peer).link (forgetPeer side peer).server := by
  cases peer with
  | windowManager =>
    have later := @closed _ _ _ _ handover (forgetPeer side .windowManager).server _ (List.Sublist.refl _)
    rcases handover.manager_cases with noManager | isManager
    · have other : side.server.manager ≠ some .windowManager := by
        rw [noManager]
        exact (Option.some_ne_none _).symm
      simp only [forgetPeer, if_neg other] at later ⊢
      exact later handover.managed handover.onlyManager handover.inputReady (fun _ => noManager)
    · simp only [forgetPeer, if_pos isManager] at later ⊢
      exact later (fun pending => by cases pending) (fun _ none => by cases none)
        (inputReady_free handover.inputReady) (fun _ => trivial)
  | client endpoint =>
    have other : side.server.manager ≠ some (.client endpoint) :=
      fun isManager => by cases handover.onlyManager _ isManager
    simp only [forgetPeer, if_neg other]
    refine handover.sameServer rfl rfl rfl handover.inputReady (fun member => ?_)
    simp [*]

variable {waiting : List DisplayControl}

/-- The manager's request has been taken off, and is answered. -/
theorem replied {later : DisplayServer} {request : DisplayControl} (reply : DisplayReply)
    (arrived : link.toDisplay = request :: waiting) (isRequest : isAck request = false)
    (served : Handover deferred todo link later) :
    Handover deferred todo
      { link with
        toDisplay := waiting
        toManager := link.toManager ++ [.reply reply] } later := by
  have sameCount : unacknowledged deferred todo
      { link with
        toDisplay := waiting
        toManager := link.toManager ++ [.reply reply] } = unacknowledged deferred todo link := by
    simp [unacknowledged, arrived, isInput, isRequest]
  have sameRequests : underWay
      { link with
        toDisplay := waiting
        toManager := link.toManager ++ [.reply reply] } = underWay link := by
    simp only [underWay, arrived, List.countP_append, List.countP_cons, List.countP_nil,
      isReply, isRequest, Bool.not_false, if_true]
    omega
  exact
    { served with
      atMostOne := by rw [sameCount]; exact served.atMostOne
      isPending := by rw [sameCount]; exact served.isPending
      oneRequest := by rw [sameRequests]; exact served.oneRequest
      isAwaited := by rw [sameRequests]; exact served.isAwaited
      reading := readReady_mono (fun _ => Or.inl (by simp)) served.reading
      plainAcks := by
        intro other member
        refine served.plainAcks other ?_
        simp [*] }

section

variable (handover : Handover deferred todo link server)
include handover

/-- The manager's acknowledgement has been taken off. -/
theorem settled (arrived : link.toDisplay = displayControl .inputAck :: waiting)
    (opened : link.display ≠ .closed) :
    server.inputPending = true ∧
      Handover deferred todo { link with toDisplay := waiting }
        { server with inputPending := false } := by
  have oneLess : unacknowledged deferred todo { link with toDisplay := waiting } + 1 =
      unacknowledged deferred todo link := by
    simp only [unacknowledged, arrived, List.countP_cons]
    change _ + waiting.countP isAck + 1 = _ + (waiting.countP isAck + 1)
    omega
  have sameRequests : underWay { link with toDisplay := waiting } = underWay link := by
    simp only [underWay, arrived, List.countP_cons]
    rfl
  have one := handover.atMostOne
  have exactly := handover.isPending opened
  have pending : server.inputPending = true := by
    by_contra free
    rw [if_neg free] at exactly
    omega
  refine ⟨pending, ?_⟩
  exact
    { handover with
      atMostOne := by omega
      isPending := by
        intro _
        change _ = 0
        omega
      oneRequest := by rw [sameRequests]; exact handover.oneRequest
      isAwaited := by rw [sameRequests]; exact handover.isAwaited
      plainAcks := by
        intro other member
        refine handover.plainAcks other ?_
        simp [*]
      managed := fun pending => by cases pending
      inputReady := inputReady_free handover.inputReady }

/-- What the display has left unread when it closes the connection is lost. -/
theorem unread (isClosed : link.display = .closed) (fewer : List.Sublist waiting link.toDisplay) :
    Handover deferred todo { link with toDisplay := waiting } server := by
  have later := handover.closed fewer handover.managed handover.onlyManager handover.inputReady
  rw [← isClosed] at later
  refine later (fun running => ?_)
  by_contra isBound
  have isAccepted := handover.bound running isBound
  grind

theorem sent {later : DisplayServer} (message : DisplayInput) (free : server.inputPending = false)
    (isManager : server.manager = some .windowManager) (running : server.exited = false)
    (pending : later.inputPending = true) (manager : later.manager = server.manager)
    (exited : later.exited = server.exited) (ready : InputReady true later.todo)
    (peers : later.peers = server.peers) :
    Handover deferred todo { link with toManager := link.toManager ++ [.input message] } later := by
  have isAccepted := handover.bound running (by rw [isManager]; exact Option.some_ne_none _)
  have opened : link.display ≠ .closed := by
    rw [isAccepted]
    exact LinkState.noConfusion
  have oneMore : unacknowledged deferred todo
      { link with toManager := link.toManager ++ [.input message] } =
        unacknowledged deferred todo link + 1 := by
    simp only [unacknowledged, List.countP_append, List.countP_cons, List.countP_nil, isInput, if_true]
    omega
  have none := handover.isPending opened
  rw [free, if_neg Bool.false_ne_true] at none
  have sameRequests : underWay { link with toManager := link.toManager ++ [.input message] } =
      underWay link := by
    simp [underWay, isReply]
  exact
    { running := handover.running
      atMostOne := by omega
      isPending := by
        simp_all
      oneRequest := by rw [sameRequests]; exact handover.oneRequest
      isAwaited := by rw [sameRequests]; exact handover.isAwaited
      calls := handover.calls
      reading := readReady_mono (fun _ => Or.inl (by simp)) handover.reading
      plainAcks := handover.plainAcks
      managed := fun _ => by
        simp [*]
      onlyManager := by rw [manager]; exact handover.onlyManager
      inputReady := by rw [pending]; exact ready
      accepted := by rw [exited, peers]; exact handover.accepted
      bound := by rw [exited, manager]; exact handover.bound
      exited := by rw [exited]; exact handover.exited }

end

end Handover

variable {deferred : Option DisplayInput} {todo : List WmTask}

variable {side : DisplaySide}

/-- What a control message does to the server beside its reply -/
theorem controlled_keeps {link : Link} (handover : Handover deferred todo link side.server)
    (answers : DisplayAnswers) (peer : DisplayPeer) (type : DisplayControlType)
    (isAccepted : peer = .windowManager → link.display = .accepted) :
    (controlled side answers peer type).1.link = side.link ∧
      Handover deferred todo link (controlled side answers peer type).1.server := by
  cases type
  case manager =>
    rw [controlled]
    split
    · exact ⟨rfl, handover⟩
    rename_i admitted
    simp only [not_or, not_not] at admitted
    rcases admitted with ⟨-, -, -, isManager⟩
    refine ⟨rfl, ?_⟩
    exact
      { handover with
        managed := fun _ => Option.some_ne_none _
        onlyManager := fun other isOther => (Option.some.inj isOther).symm.trans isManager
        bound := fun _ _ => isAccepted isManager }
  case presentFocus =>
    rw [controlled]
    split
    · exact ⟨rfl, handover.sameServer rfl rfl rfl handover.inputReady id⟩
    · exact ⟨rfl, handover⟩
  case present =>
    rw [controlled]
    split
    · exact ⟨rfl, handover.sameServer rfl rfl rfl handover.inputReady id⟩
    · exact ⟨rfl, handover⟩
  all_goals exact ⟨rfl, handover⟩

/-- A client's control message is answered, or the client is forgotten. -/
theorem control_client (handover : Handover deferred todo side.link side.server) (answers : DisplayAnswers)
    (endpoint : Nat) (request : DisplayControl) :
    Handover deferred todo (control side answers (.client endpoint) request).link
      (control side answers (.client endpoint) request).server := by
  have replying : ∀ side : DisplaySide, Handover deferred todo side.link side.server →
      ∀ status, Handover deferred todo
        (controlReply side answers (.client endpoint) status request.surface).link
        (controlReply side answers (.client endpoint) status request.surface).server := by
    intro side handover status
    rw [controlReply, sendMessage]
    split
    · exact handover
    · exact handover.forgotten _
  have notManager : ¬(request.type = .inputAck ∧ side.server.manager = some (.client endpoint) ∧
      side.server.inputPending = true) := by
    rintro ⟨-, isManager, -⟩
    cases handover.onlyManager _ isManager
  rw [Display.control]
  by_cases valid : displayControlValidate request ≠ .ok
  · grind
  rw [if_neg valid]
  by_cases gone : peerKnown side answers (.client endpoint) = false
  · rw [if_pos gone]
    exact handover.forgotten _
  have keeps := controlled_keeps handover answers (.client endpoint) request.type
    (fun isManager => by cases isManager)
  simp [*]

/-- The manager's control message is an acknowledgement, or it is answered. -/
theorem control_manager (handover : Handover deferred todo side.link side.server)
    {request : DisplayControl} {waiting : List DisplayControl} (answers : DisplayAnswers)
    (arrived : side.link.toDisplay = request :: waiting)
    (isAccepted : side.link.display = .accepted) :
    Handover deferred todo
      (control { side with link := { side.link with toDisplay := waiting } } answers
        .windowManager request).link
      (control { side with link := { side.link with toDisplay := waiting } } answers
        .windowManager request).server := by
  have opened : side.link.display ≠ .closed := by
    rw [isAccepted]
    exact LinkState.noConfusion
  have known : peerKnown { side with link := { side.link with toDisplay := waiting } } answers
      .windowManager = true := handover.running
  by_cases acknowledges : isAck request = true
  · have isPlain := handover.plainAcks request (by rw [arrived]; exact List.mem_cons_self) acknowledges
    rw [isPlain] at arrived
    rcases handover.settled arrived opened with ⟨pending, later⟩
    have isManager := handover.manager_cases.resolve_left (handover.managed pending)
    have valid : displayControlValidate (displayControl .inputAck) = .ok := by decide
    rw [isPlain, Display.control, if_neg (not_not_intro valid), known, if_neg Bool.noConfusion,
      if_pos ⟨rfl, isManager, pending⟩]
    exact later
  · rw [Bool.not_eq_true] at acknowledges
    have replying : ∀ later : DisplaySide, later.link = { side.link with toDisplay := waiting } →
        Handover deferred todo side.link later.server → ∀ status, Handover deferred todo
          (controlReply later answers .windowManager status request.surface).link
          (controlReply later answers .windowManager status request.surface).server := by
      intro later isPopped served status
      rw [controlReply, sendMessage]
      split
      · rename_i sent
        rw [Link.sendToManager] at sent
        grind [Handover.replied]
      have lost := @Handover.forgotten _ _ { later with link := side.link } served .windowManager
      have fewer : List.Sublist waiting side.link.toDisplay := by
        rw [arrived]
        exact List.sublist_cons_self _ _
      have unread := lost.unread rfl fewer
      rw [forgetPeer, isPopped]
      exact unread
    have notAck : ¬(request.type = .inputAck ∧
        side.server.manager = some .windowManager ∧ side.server.inputPending = true) := by
      rintro ⟨isAck', -⟩
      rw [isAck, isAck'] at acknowledges
      cases acknowledges
    grind [controlled_keeps, Display.control]

theorem receive_keeps
    {side later : DisplaySide} (handover : Handover deferred todo side.link side.server)
    {answers : DisplayAnswers} {peer : DisplayPeer}
    (isReceived : receive side answers peer = some later) :
    Handover deferred todo later.link later.server := by
  cases peer with
  | windowManager =>
    rw [receive] at isReceived
    split at isReceived
    · grind [control_manager]
    · split at isReceived
      · cases isReceived
        exact handover.forgotten _
      · cases isReceived
    · cases isReceived
      exact handover.forgotten _
  | client endpoint =>
    rw [receive] at isReceived
    split at isReceived
    · cases isReceived
      exact handover.forgotten _
    · cases isReceived
      split
      · exact handover
      · exact handover.forgotten _
    · cases isReceived
      rw [controlReply, sendMessage]
      split
      · exact handover
      · exact handover.forgotten _
    grind [control_client]

/-- The display sends an input event only when none is unacknowledged. -/
theorem input_keeps
    {side later : DisplaySide} (handover : Handover deferred todo side.link side.server)
    {answers : DisplayAnswers} (free : side.server.inputPending = false)
    (absent : DisplayTask.input ∉ side.server.todo) (running : side.server.exited = false)
    (isInput : input side answers = some later) :
    Handover deferred todo later.link later.server := by
  have cursor : ∀ event, (cursorFollow side.server event).inputPending = side.server.inputPending ∧
      (cursorFollow side.server event).manager = side.server.manager ∧
      (cursorFollow side.server event).exited = side.server.exited ∧
      (cursorFollow side.server event).todo = side.server.todo ∧
      (cursorFollow side.server event).peers = side.server.peers := by
    intro event
    rw [cursorFollow]
    split
    · exact ⟨rfl, rfl, rfl, rfl, rfl⟩
    · exact ⟨rfl, rfl, rfl, rfl, rfl⟩
  rw [Display.input] at isInput
  split at isInput
  · cases isInput
  rename_i event events arrived
  rcases cursor event with ⟨samePending, sameManager, sameExited, sameTodo, samePeers⟩
  have ready : InputReady true (cursorFollow side.server event).todo := by
    rw [sameTodo]
    exact inputReady_of_notMem absent
  rcases handover.manager_cases with noManager | isManager
  · simp only [sameManager, noManager] at isInput
    cases isInput
    refine handover.sameServer samePending sameManager sameExited ?_ ?_
    · rw [sameTodo, samePending]
      exact handover.inputReady
    · rw [samePeers]
      exact id
  · simp only [sameManager, isManager, sendMessage] at isInput
    split at isInput
    · rename_i sent
      rw [Link.sendToManager] at sent
      split at sent
      · cases sent
      cases sent
      cases isInput
      exact handover.sent _ free isManager running rfl isManager.symm sameExited ready samePeers
    · cases isInput
      have isBound : (cursorFollow side.server event).manager = some .windowManager :=
        sameManager.trans isManager
      have later := @Handover.closed _ _ _ _ handover
        (forgetPeer
          { side with
            server := { cursorFollow side.server event with inputPending := true }
            events := events } .windowManager).server _ (List.Sublist.refl _)
      simp only [forgetPeer, if_pos isBound] at later ⊢
      exact later (fun pending => by cases pending) (fun _ none => by cases none)
        (inputReady_free ready) (fun _ => trivial)

theorem acceptPeer_keeps (handover : Handover deferred todo side.link side.server)
    (running : side.server.exited = false) (answers : DisplayAnswers) :
    Handover deferred todo (acceptPeer side answers).link (acceptPeer side answers).server := by
  rw [acceptPeer]
  split
  · split
    · rename_i added
      exact handover.sameServer rfl rfl rfl handover.inputReady (mem_addDisplayPeer added).2
    · exact handover
  · split
    · rename_i isWaiting
      have unbound : side.server.manager = none := by
        by_contra isBound
        have isAccepted := handover.bound running isBound
        rw [isWaiting.1] at isAccepted
        cases isAccepted
      split
      · rename_i added
        have opened : side.link.display ≠ .closed := by
          rw [isWaiting.1]
          exact LinkState.noConfusion
        exact
          { handover with
            isPending := fun _ => handover.isPending opened
            isAwaited := fun _ => handover.isAwaited opened
            reading := readReady_mono (fun arrived => arrived.imp id (fun isClosed => absurd isClosed opened))
              handover.reading
            accepted := fun _ _ => (@mem_addDisplayPeer _ .windowManager _ _ added).1
            bound := fun _ isBound => absurd unbound isBound
            exited := fun ended => absurd (running.symm.trans ended) Bool.false_ne_true }
      · exact handover.closed (List.Sublist.refl _) handover.managed handover.onlyManager
          handover.inputReady (fun _ => unbound)
    · exact handover.closed (List.Sublist.refl _) handover.managed handover.onlyManager
        (fun member => absurd member List.not_mem_nil) (fun ended => by cases ended)

end BoringOS.Desktop
