import BoringOS.Desktop.Clients

namespace BoringOS.Desktop

open Display WindowManager

/-!
# The handover of input events

At any time at most one input event is unacknowledged, and it is so exactly
while the display waits for the acknowledgement.  At most one request to the
display is under way, and the manager waits for the reply as long as it is.
-/

/-! ## The tasks of the manager -/

/-- A task that may stand behind another one -/
def queueable : WmTask → Bool
  | .rpc request => !isAck request
  | .awaitReply => false
  | _ => true

/-- A task that has nothing to do with input events -/
def isInner : WmTask → Bool
  | .rpc request => !isAck request
  | .awaitReply | .acknowledgeInput | .handleInput _ | .receiveInput => false
  | _ => true

/-- Only the first task may wait for a reply. -/
def CallsSound : List WmTask → Prop
  | [] => True
  | task :: rest =>
    (task = .awaitReply ∨ queueable task = true) ∧ ∀ task ∈ rest, queueable task = true

/-- A message is there for the manager when it is about to read one. -/
def ReadReady (arrived : Prop) : List WmTask → Prop
  | .accept :: rest => ReadReady arrived rest
  | .receiveInput :: rest => arrived ∧ WmTask.receiveInput ∉ rest
  | todo => WmTask.receiveInput ∉ todo

/-- The display takes an event only when it does not wait for an
acknowledgement. -/
def InputReady (pending : Bool) : List DisplayTask → Prop
  | .accept :: rest => InputReady pending rest
  | .input :: rest => pending = false ∧ DisplayTask.input ∉ rest
  | todo => DisplayTask.input ∉ todo

/-- What holds between the manager and the display while the manager runs -/
structure Handover (deferred : Option DisplayInput) (todo : List WmTask) (link : Link)
    (server : DisplayServer) : Prop where
  running : link.managerOpen = true
  atMostOne : unacknowledged deferred todo link ≤ 1
  isPending : link.display ≠ .closed →
    unacknowledged deferred todo link = if server.inputPending = true then 1 else 0
  oneRequest : underWay link ≤ awaits todo
  isAwaited : link.display ≠ .closed → underWay link = awaits todo
  calls : CallsSound todo
  reading : ReadReady (link.toManager ≠ [] ∨ link.display = .closed) todo
  plainAcks : ∀ request ∈ link.toDisplay, isAck request = true → request = displayControl .inputAck
  managed : server.inputPending = true → server.manager ≠ none
  onlyManager : ∀ peer, server.manager = some peer → peer = .windowManager
  inputReady : InputReady server.inputPending server.todo
  accepted : server.exited = false → link.display = .accepted →
    some DisplayPeer.windowManager ∈ server.peers
  bound : server.exited = false → server.manager ≠ none → link.display = .accepted
  exited : server.exited = true → link.display = .closed

/-! ## Lists of tasks -/

variable {todo : List WmTask}

theorem readReady_of_notMem {arrived : Prop}
    (absent : WmTask.receiveInput ∉ todo) : ReadReady arrived todo := by
  induction todo with
  | nil => exact absent
  | cons task rest ih =>
    cases task
    case accept => exact ih (fun member => absent (List.mem_cons_of_mem _ member))
    case receiveInput => exact absurd List.mem_cons_self absent
    all_goals exact absent

theorem inputReady_of_notMem {pending : Bool} {todo : List DisplayTask}
    (absent : DisplayTask.input ∉ todo) : InputReady pending todo := by
  induction todo with
  | nil => exact absent
  | cons task rest ih =>
    cases task
    case accept => exact ih (fun member => absent (List.mem_cons_of_mem _ member))
    case input => exact absurd List.mem_cons_self absent
    all_goals exact absent

theorem readReady_mono {before after : Prop} (implied : before → after)
    (ready : ReadReady before todo) : ReadReady after todo := by
  induction todo with
  | nil => exact ready
  | cons task rest ih =>
    cases task
    case accept => exact ih ready
    case receiveInput => exact ⟨implied ready.1, ready.2⟩
    all_goals exact ready

theorem isInner_queueable {task : WmTask} (inner : isInner task = true) :
    queueable task = true ∧ owes task = false ∧ task ≠ .receiveInput := by
  cases task
  case rpc request => exact ⟨inner, rfl, WmTask.noConfusion⟩
  case awaitReply => cases inner
  case acknowledgeInput => cases inner
  case handleInput message => cases inner
  case receiveInput => cases inner
  all_goals exact ⟨rfl, rfl, WmTask.noConfusion⟩

variable {tasks : List WmTask}

theorem queueable_of_inner (allInner : tasks.all isInner = true) :
    ∀ task ∈ tasks, queueable task = true :=
  fun task member => (isInner_queueable (List.all_eq_true.mp allInner task member)).1

theorem owes_of_inner (allInner : tasks.all isInner = true) : tasks.countP owes = 0 := by
  refine List.countP_eq_zero.mpr (fun task member => ?_)
  rw [(isInner_queueable (List.all_eq_true.mp allInner task member)).2.1]
  exact Bool.false_ne_true

theorem receiveInput_of_inner (allInner : tasks.all isInner = true) : WmTask.receiveInput ∉ tasks :=
  fun member => (isInner_queueable (List.all_eq_true.mp allInner _ member)).2.2 rfl

theorem awaits_of_queueable (all : ∀ task ∈ todo, queueable task = true) : awaits todo = 0 := by
  cases todo with
  | nil => rfl
  | cons task rest =>
    cases task
    case awaitReply => exact absurd (all _ List.mem_cons_self) Bool.false_ne_true
    all_goals rfl

theorem callsSound_of_queueable (all : ∀ task ∈ todo, queueable task = true) : CallsSound todo := by
  cases todo with
  | nil => trivial
  | cons task rest =>
    rw [List.forall_mem_cons] at all
    exact ⟨Or.inr all.1, all.2⟩

/-! ## Inner tasks lead to inner tasks -/

theorem actionTasks_inner (core : WmCore) (event : InputEvent) (action : WmAction) :
    (actionTasks core event action).all isInner = true := by
  cases action with
  | focus => rfl
  | reorder => rfl
  | noLauncher => rfl
  | close =>
    rw [actionTasks]
    split
    · rfl
    · rfl
  | none =>
    rw [actionTasks]
    split
    · split
      · rfl
      · rfl
    · rfl

theorem requestTasks_inner (core : WmCore) (endpoint pid : Nat)
    (received : Option (WmMessage × Bool × Bool)) :
    (requestTasks core endpoint pid received).2.all isInner = true := by
  rcases received with none | ⟨message, whole, hasBuffer⟩
  · rfl
  rw [requestTasks]
  repeat' split
  all_goals rfl

variable {answers : WmAnswers}

/-- What an inner task leads to, and that it is nothing if a connection is
accepted -/
theorem innerTask_inner {memory later : WmMemory} {task : WmTask}
    (done : innerTask memory answers task = some (later, tasks)) :
    tasks.all isInner = true ∧ (task = .accept → tasks = []) := by
  cases task
  case request endpoint =>
    cases done
    exact ⟨requestTasks_inner _ _ _ _, WmTask.noConfusion⟩
  case accept =>
    rw [innerTask] at done
    split at done
    · cases done
    split at done
    · cases done
      exact ⟨rfl, fun _ => rfl⟩
    · cases done
      exact ⟨rfl, fun _ => rfl⟩
  case configured index =>
    cases done
    exact ⟨rfl, WmTask.noConfusion⟩
  case syncFocus =>
    cases done
    exact ⟨rfl, WmTask.noConfusion⟩
  all_goals
    rw [innerTask] at done
    refine ⟨?_, WmTask.noConfusion⟩
    repeat' split at done
    all_goals cases done
    all_goals rfl

/-- What the main loop serves of its clients -/
theorem peersReady_mem {memory : WmMemory} {task : WmTask}
    (member : task ∈ memory.peers.filterMap fun endpoint => if endpoint = 0 then none
      else if answers.hangsUp endpoint then some (.hangUp endpoint)
      else if answers.hasSent endpoint then some (.request endpoint) else none) :
    ∃ endpoint, task = .hangUp endpoint ∨ task = .request endpoint := by
  rcases List.mem_filterMap.mp member with ⟨endpoint, -, isReady⟩
  refine ⟨endpoint, ?_⟩
  split at isReady
  · cases isReady
  grind

theorem wmReady_mem {memory : WmMemory} {link : Link} {task : WmTask}
    (member : task ∈ wmReady memory link answers) : queueable task = true ∧ owes task = false := by
  rw [wmReady, List.mem_append, List.mem_append] at member
  rcases member with (isAccept | isRead) | isPeer
  · split at isAccept
    · cases List.mem_singleton.mp isAccept
      exact ⟨rfl, rfl⟩
    · exact absurd isAccept List.not_mem_nil
  · split at isRead
    · cases List.mem_singleton.mp isRead
      exact ⟨rfl, rfl⟩
    · exact absurd isRead List.not_mem_nil
  · rcases peersReady_mem isPeer with ⟨endpoint, rfl | rfl⟩
    · exact ⟨rfl, rfl⟩
    · exact ⟨rfl, rfl⟩

theorem wmReady_readReady (memory : WmMemory) (link : Link) (answers : WmAnswers) :
    ReadReady (link.toManager ≠ [] ∨ link.display = .closed) (wmReady memory link answers) := by
  rw [wmReady]
  have notPeer : WmTask.receiveInput ∉ memory.peers.filterMap fun endpoint =>
      if endpoint = 0 then none
      else if answers.hangsUp endpoint then some (.hangUp endpoint)
      else if answers.hasSent endpoint then some (.request endpoint)
      else none := by
    intro member
    rcases peersReady_mem member with ⟨endpoint, isHangUp | isRequest⟩
    · cases isHangUp
    · cases isRequest
  by_cases arrived : link.toManager ≠ [] ∨ link.display = .closed
  · rw [if_pos arrived]
    by_cases connects : answers.clientsConnect = true
    · rw [if_pos connects]
      exact ⟨arrived, notPeer⟩
    · rw [if_neg connects]
      exact ⟨arrived, notPeer⟩
  · rw [if_neg arrived, List.append_nil]
    by_cases connects : answers.clientsConnect = true
    · simp_all [readReady_of_notMem]
    · rw [if_neg connects]
      exact readReady_of_notMem notPeer

/-! ## Steps of the manager -/

namespace Handover

variable {deferred : Option DisplayInput} {task : WmTask} {todo rest tasks : List WmTask}
  {link : Link} {server : DisplayServer}

/-- A task that neither waits nor reads gives way to others that owe as much. -/
theorem replaced (handover : Handover deferred (task :: rest) link server)
    (waits : task ≠ .awaitReply) (reads : task ≠ .receiveInput)
    (owed : tasks.countP owes = [task].countP owes)
    (all : ∀ task ∈ tasks, queueable task = true) (absent : WmTask.receiveInput ∉ tasks)
    (accepting : task = .accept → tasks = []) : Handover deferred (tasks ++ rest) link server := by
  have inRest : ∀ task ∈ tasks ++ rest, queueable task = true := by
    intro other member
    rcases List.mem_append.mp member with inTasks | inRest
    · exact all other inTasks
    · exact handover.calls.2 other inRest
  have sameCount : unacknowledged deferred (tasks ++ rest) link =
      unacknowledged deferred (task :: rest) link := by
    rw [unacknowledged, unacknowledged, List.countP_append, owed, ← List.countP_append]
    rfl
  have sameWait : awaits (tasks ++ rest) = awaits (task :: rest) := by
    rw [awaits_of_queueable inRest, awaits_of_queueable]
    refine List.forall_mem_cons.mpr ⟨?_, handover.calls.2⟩
    exact handover.calls.1.resolve_left waits
  exact
    { handover with
      atMostOne := by rw [sameCount]; exact handover.atMostOne
      isPending := by rw [sameCount]; exact handover.isPending
      oneRequest := by rw [sameWait]; exact handover.oneRequest
      isAwaited := by rw [sameWait]; exact handover.isAwaited
      calls := callsSound_of_queueable inRest
      reading := by
        have ready := handover.reading
        cases task
        case accept =>
          rw [accepting rfl, List.nil_append]
          exact ready
        case receiveInput => exact absurd rfl reads
        all_goals
          refine readReady_of_notMem (fun member => ?_)
          rcases List.mem_append.mp member with inTasks | inRest
          · exact absent inTasks
          · exact ready (List.mem_cons_of_mem _ inRest) }

theorem requested {request : DisplayControl}
    (handover : Handover deferred (.rpc request :: rest) link server) :
    Handover deferred (.awaitReply :: rest)
      { link with toDisplay := link.toDisplay ++ [request] } server := by
  have notAck : isAck request = false := by
    have sound := handover.calls.1.resolve_left WmTask.noConfusion
    rwa [queueable, Bool.not_eq_true'] at sound
  have sameCount : unacknowledged deferred (.awaitReply :: rest)
      { link with toDisplay := link.toDisplay ++ [request] } =
        unacknowledged deferred (.rpc request :: rest) link := by
    simp [unacknowledged, owes, notAck]
  have oneMore : underWay { link with toDisplay := link.toDisplay ++ [request] } = underWay link + 1 := by
    simp only [underWay, List.countP_append, List.countP_cons, List.countP_nil, notAck]
    simp only [Bool.not_false, if_true]
    omega
  exact
    { handover with
      atMostOne := by rw [sameCount]; exact handover.atMostOne
      isPending := by rw [sameCount]; exact handover.isPending
      oneRequest := by
        rw [oneMore]
        exact Nat.succ_le_succ handover.oneRequest
      isAwaited := by
        intro opened
        rw [oneMore, handover.isAwaited opened]
        rfl
      calls := ⟨Or.inl rfl, handover.calls.2⟩
      reading := fun member => handover.reading (List.mem_cons_of_mem _
        ((List.mem_cons.mp member).resolve_left WmTask.noConfusion))
      plainAcks := by
        intro other member acknowledges
        rcases List.mem_append.mp member with before | new
        · exact handover.plainAcks other before acknowledges
        simp_all }

variable {later : List DisplayEvent}

theorem answered {reply : DisplayReply} (handover : Handover deferred (.awaitReply :: rest) link server)
    (arrived : link.toManager = .reply reply :: later) :
    Handover deferred rest { link with toManager := later } server := by
  have noWait := awaits_of_queueable handover.calls.2
  have sameCount : unacknowledged deferred rest { link with toManager := later } =
      unacknowledged deferred (.awaitReply :: rest) link := by
    simp [unacknowledged, arrived, isInput, owes]
  have oneLess : underWay { link with toManager := later } + 1 = underWay link := by
    simp only [underWay, arrived, List.countP_cons, isReply, if_true]
    omega
  have request := handover.oneRequest
  change underWay link ≤ 1 at request
  exact
    { handover with
      atMostOne := by rw [sameCount]; exact handover.atMostOne
      isPending := by rw [sameCount]; exact handover.isPending
      oneRequest := by omega
      isAwaited := by
        omega
      calls := callsSound_of_queueable handover.calls.2
      reading := readReady_of_notMem fun member =>
        handover.reading (List.mem_cons_of_mem _ member) }

theorem putAside {message : DisplayInput} (handover : Handover none (.awaitReply :: rest) link server)
    (arrived : link.toManager = .input message :: later) :
    Handover (some message) (.awaitReply :: rest) { link with toManager := later } server := by
  have sameCount : unacknowledged (some message) (.awaitReply :: rest)
      { link with toManager := later } = unacknowledged none (.awaitReply :: rest) link := by
    simp [unacknowledged, arrived, List.countP_cons, isInput]
  have sameRequests : underWay { link with toManager := later } = underWay link := by
    simp [underWay, arrived, isReply]
  exact
    { handover with
      atMostOne := by rw [sameCount]; exact handover.atMostOne
      isPending := by rw [sameCount]; exact handover.isPending
      oneRequest := by rw [sameRequests]; exact handover.oneRequest
      isAwaited := by rw [sameRequests]; exact handover.isAwaited
      reading := handover.reading }

theorem acknowledged (handover : Handover deferred (.acknowledgeInput :: rest) link server) :
    Handover deferred rest
      { link with toDisplay := link.toDisplay ++ [displayControl .inputAck] } server := by
  have noWait := awaits_of_queueable handover.calls.2
  have sameCount : unacknowledged deferred rest
      { link with toDisplay := link.toDisplay ++ [displayControl .inputAck] } =
        unacknowledged deferred (.acknowledgeInput :: rest) link := by
    simp only [unacknowledged, List.countP_append, List.countP_cons, List.countP_nil, owes, if_true]
    change _ + _ + _ + (_ + (0 + 1)) = _
    omega
  have sameRequests :
      underWay { link with toDisplay := link.toDisplay ++ [displayControl .inputAck] } =
        underWay link := by
    simp [underWay, isAck, displayControl]
  have sameWait : awaits rest = awaits (.acknowledgeInput :: rest) := noWait
  exact
    { handover with
      atMostOne := by rw [sameCount]; exact handover.atMostOne
      isPending := by rw [sameCount]; exact handover.isPending
      oneRequest := by rw [sameRequests, sameWait]; exact handover.oneRequest
      isAwaited := by rw [sameRequests, sameWait]; exact handover.isAwaited
      calls := callsSound_of_queueable handover.calls.2
      reading := readReady_of_notMem fun member =>
        handover.reading (List.mem_cons_of_mem _ member)
      plainAcks := by
        intro other member acknowledges
        rcases List.mem_append.mp member with before | new
        · exact handover.plainAcks other before acknowledges
        · exact List.mem_singleton.mp new }

/-- An input event is read. -/
theorem received {message : DisplayInput} (handover : Handover deferred (.receiveInput :: rest) link server)
    (arrived : link.toManager = .input message :: later) :
    Handover deferred (.handleInput message :: rest) { link with toManager := later } server := by
  have sameCount : unacknowledged deferred (.handleInput message :: rest)
      { link with toManager := later } = unacknowledged deferred (.receiveInput :: rest) link := by
    simp only [unacknowledged, arrived, List.countP_cons, isInput, owes, if_true]
    simp only [Bool.false_eq_true, if_false]
    omega
  have sameRequests : underWay { link with toManager := later } = underWay link := by
    simp [underWay, arrived, isReply]
  exact
    { handover with
      atMostOne := by rw [sameCount]; exact handover.atMostOne
      isPending := by rw [sameCount]; exact handover.isPending
      oneRequest := by rw [sameRequests]; exact handover.oneRequest
      isAwaited := by rw [sameRequests]; exact handover.isAwaited
      calls := ⟨Or.inr rfl, handover.calls.2⟩
      reading := fun member => handover.reading.2
        ((List.mem_cons.mp member).resolve_left WmTask.noConfusion) }

/-- The event that was put aside is taken up. -/
theorem takenUp {message : DisplayInput} (handover : Handover (some message) [] link server) :
    Handover none [.handleInput message] link server := by
  have sameCount : unacknowledged none [.handleInput message] link =
      unacknowledged (some message) [] link := by
    simp [unacknowledged, owes]
  exact
    { handover with
      atMostOne := by rw [sameCount]; exact handover.atMostOne
      isPending := by rw [sameCount]; exact handover.isPending
      calls := ⟨Or.inr rfl, fun _ member => absurd member List.not_mem_nil⟩
      reading := by
        nofun }

theorem woken (handover : Handover deferred [] link server) (memory : WmMemory)
    (answers : WmAnswers) : Handover deferred (wmReady memory link answers) link server := by
  have all : ∀ task ∈ wmReady memory link answers, queueable task = true :=
    fun task member => (wmReady_mem member).1
  have owed : (wmReady memory link answers).countP owes = 0 := by
    refine List.countP_eq_zero.mpr (fun task member => ?_)
    rw [(wmReady_mem member).2]
    exact Bool.false_ne_true
  have sameCount : unacknowledged deferred (wmReady memory link answers) link =
      unacknowledged deferred [] link := by
    rw [unacknowledged, unacknowledged, owed]
    rfl
  have sameWait : awaits (wmReady memory link answers) = awaits [] := awaits_of_queueable all
  exact
    { handover with
      atMostOne := by rw [sameCount]; exact handover.atMostOne
      isPending := by rw [sameCount]; exact handover.isPending
      oneRequest := by rw [sameWait]; exact handover.oneRequest
      isAwaited := by rw [sameWait]; exact handover.isAwaited
      calls := callsSound_of_queueable all
      reading := wmReady_readReady memory link answers }

end Handover

theorem handleInput_tasks (core : WmCore) (message : DisplayInput) :
    (handleInput core message).2.countP owes = 1 ∧
      (∀ task ∈ (handleInput core message).2, queueable task = true) ∧
      WmTask.receiveInput ∉ (handleInput core message).2 := by
  have inner := actionTasks_inner (inputAction core message).2 message.event (inputAction core message).1
  have none := owes_of_inner inner
  have all := queueable_of_inner inner
  have absent := receiveInput_of_inner inner
  rw [handleInput]
  split
  · refine ⟨?_, List.forall_mem_cons.mpr ⟨rfl, all⟩, ?_⟩
    · rw [List.countP_cons, none]
      rfl
    simp_all
  · refine ⟨?_, ?_, ?_⟩
    · rw [List.countP_append, none]
      rfl
    · intro task member
      rcases List.mem_append.mp member with inTasks | isLast
      · exact all task inTasks
      · rw [List.mem_singleton.mp isLast]
        rfl
    simp [*]

theorem sendToDisplay_some {link later : Link} {request : DisplayControl}
    (sent : link.sendToDisplay request = some later) :
    later = { link with toDisplay := link.toDisplay ++ [request] } := by
  rw [Link.sendToDisplay] at sent
  simp_all

/-- A step of the manager ends it or keeps the handover. -/
theorem wmStep_handover {wm later : WmProcess} {link rest : Link} {server : DisplayServer}
    (handover : Handover wm.deferredInput wm.todo link server)
    (stepped : wmStep wm link answers = some (later, rest)) :
    later.exited = true ∨ Handover later.deferredInput later.todo rest server := by
  rcases wm with ⟨memory, deferred, todo, position, exited⟩
  rw [wmStep] at stepped
  split at stepped
  · cases stepped
  rename_i running
  cases todo with
  | nil =>
    cases position with
    | top =>
      cases deferred with
      | none =>
        grind
      | some message =>
        cases stepped
        exact Or.inr handover.takenUp
    | wait =>
      simp only [] at stepped
      split at stepped
      · cases stepped
      · cases stepped
        exact Or.inr (handover.woken memory answers)
  | cons task calls =>
    cases task
    case rpc request =>
      simp only [] at stepped
      split at stepped
      · cases stepped
        exact Or.inl rfl
      rename_i sent
      cases stepped
      rw [sendToDisplay_some sent]
      exact Or.inr handover.requested
    case awaitReply =>
      simp only [] at stepped
      split at stepped
      · split at stepped
        · cases stepped
          exact Or.inl rfl
        · cases stepped
      · rename_i arrived
        cases stepped
        exact Or.inr (handover.answered arrived)
      · rename_i arrived
        cases deferred with
        | some message =>
          cases stepped
          exact Or.inl rfl
        | none =>
          cases stepped
          exact Or.inr (handover.putAside arrived)
    case acknowledgeInput =>
      simp only [] at stepped
      split at stepped
      · cases stepped
        exact Or.inl rfl
      rename_i sent
      cases stepped
      rw [sendToDisplay_some sent]
      exact Or.inr handover.acknowledged
    case handleInput message =>
      cases stepped
      rcases handleInput_tasks memory.core message with ⟨owed, all, absent⟩
      exact Or.inr (handover.replaced WmTask.noConfusion WmTask.noConfusion owed all absent
        WmTask.noConfusion)
    case receiveInput =>
      simp only [] at stepped
      split at stepped
      · split at stepped
        · cases stepped
          exact Or.inl rfl
        · cases stepped
      · cases stepped
        exact Or.inl rfl
      · rename_i arrived
        cases stepped
        exact Or.inr (handover.received arrived)
    all_goals
      simp only [] at stepped
      split at stepped
      · cases stepped
        exact Or.inl rfl
      rename_i done
      cases stepped
      rcases innerTask_inner done with ⟨inner, accepting⟩
      exact Or.inr (handover.replaced WmTask.noConfusion WmTask.noConfusion
        (owes_of_inner inner) (queueable_of_inner inner) (receiveInput_of_inner inner) accepting)

end BoringOS.Desktop
