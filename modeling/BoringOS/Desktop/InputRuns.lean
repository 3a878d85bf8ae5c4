import BoringOS.Desktop.DisplayHandover

namespace BoringOS.Desktop

open Display Library WindowManager

/-!
# Runs of the desktop

The manager looks at the event that it has put aside once in every round of
its loop.  If it puts aside another one while it handles the first, it waits
for events with this one in its hands, and the display waits for it.  As long
as no input event overtakes a reply there, neither happens.
-/

theorem displayStep_keeps {deferred : Option DisplayInput} {todo : List WmTask}
    {side later : DisplaySide} (handover : Handover deferred todo side.link side.server)
    {answers : DisplayAnswers} (stepped : displayStep side answers = some later) :
    Handover deferred todo later.link later.server := by
  rw [displayStep] at stepped
  split at stepped
  · cases stepped
  rename_i running
  rw [Bool.not_eq_true] at running
  split at stepped
  · split at stepped
    · split at stepped
      · cases stepped
        exact handover.sameServer rfl rfl rfl handover.inputReady id
      · cases stepped
    · cases stepped
      exact handover.sameServer rfl rfl rfl (displayReady_inputReady side answers) id
  · rename_i task rest isTodo
    have ready := handover.inputReady
    rw [isTodo] at ready
    let remaining : DisplaySide := { side with server := { side.server with todo := rest } }
    have served : Handover deferred todo remaining.link remaining.server :=
      handover.sameServer rfl rfl rfl (inputReady_tail ready).1 id
    cases task with
    | accept =>
      cases stepped
      exact acceptPeer_keeps served running answers
    | input => exact input_keeps served ready.1 ready.2 running stepped
    | hangUp peer =>
      cases stepped
      exact served.forgotten peer
    | receive peer => exact receive_keeps served stepped

/-- The manager puts nothing aside at the top of its loop, as long as no input
event overtakes a reply there. -/
theorem wmStep_settled {wm later : WmProcess} {link rest : Link} {server : DisplayServer}
    {answers : WmAnswers} (handover : Handover wm.deferredInput wm.todo link server)
    (settled : wm.position = .wait → wm.deferredInput = none)
    (orderly : wm.exited = false → wm.position = .wait → wm.todo.head? = some .awaitReply →
      WmTask.acknowledgeInput ∉ wm.todo → link.toManager.head?.map isInput ≠ some true)
    (stepped : wmStep wm link answers = some (later, rest)) :
    later.position = .wait → later.deferredInput = none := by
  rcases wm with ⟨memory, deferred, todo, position, exited⟩
  rw [wmStep] at stepped
  split at stepped
  · cases stepped
  rename_i running
  rw [Bool.not_eq_true] at running
  cases todo with
  | nil =>
    cases position with
    | top =>
      cases deferred with
      | none =>
        cases stepped
        exact fun _ => rfl
      | some message =>
        cases stepped
        exact fun _ => rfl
    | wait =>
      simp only [] at stepped
      split at stepped
      · cases stepped
      · cases stepped
        exact fun waits => by cases waits
  | cons task calls =>
    cases task
    case awaitReply =>
      simp only [] at stepped
      split at stepped
      · split at stepped
        · cases stepped
          exact settled
        · cases stepped
      · cases stepped
        exact settled
      · rename_i message others arrived
        have unread : link.toManager.countP isInput ≠ 0 := by
          rw [arrived, List.countP_cons_of_pos rfl]
          exact Nat.succ_ne_zero _
        have owed : (WmTask.awaitReply :: calls).countP owes = 0 := by
          have atMostOne := handover.atMostOne
          change _ + _ + (WmTask.awaitReply :: calls).countP owes + _ ≤ 1 at atMostOne
          omega
        have overtakes : link.toManager.head?.map isInput = some true := by
          rw [arrived]
          rfl
        split at stepped
        · cases stepped
          exact settled
        cases stepped
        intro waits
        have inOrder := orderly running waits rfl
          (fun member => List.countP_eq_zero.mp owed _ member rfl)
        exact absurd overtakes inOrder
    all_goals
      simp only [] at stepped
      repeat' split at stepped
      all_goals cases stepped
      all_goals exact settled

/-- The handover is in order as long as the manager runs, and it has no event
put aside when it goes on to wait. -/
structure Sound (system : System) : Prop where
  handover : system.wm.exited = false →
    Handover system.wm.deferredInput system.wm.todo system.side.link system.side.server
  settled : system.wm.exited = false → system.wm.position = .wait → system.wm.deferredInput = none

theorem starting_absent : WmTask.receiveInput ∉
    [.rpc (displayControl .manager), .managerBound, .syncLayout 0] := by
  decide

theorem sound_start (width height displayPid : Nat) : Sound (start width height displayPid) where
  handover := fun _ =>
    { running := rfl
      atMostOne := Nat.zero_le _
      isPending := fun _ => rfl
      oneRequest := Nat.le_refl _
      isAwaited := fun _ => rfl
      calls := ⟨Or.inr rfl, by decide⟩
      reading := readReady_of_notMem starting_absent
      plainAcks := fun _ member => absurd member List.not_mem_nil
      managed := fun pending => by cases pending
      onlyManager := fun _ isManager => by cases isManager
      inputReady := List.not_mem_nil
      accepted := fun _ isAccepted => by cases isAccepted
      bound := fun _ isBound => absurd rfl isBound
      exited := fun ended => by cases ended }
  settled := fun _ waits => by cases waits

variable {system : System}

theorem Sound.step (sound : Sound system) (action : Action)
    (orderly : Orderly system action) : Sound (step system action) := by
  cases action with
  | inputArrives event =>
    rw [Desktop.step]
    split
    · exact ⟨sound.handover, sound.settled⟩
    · exact sound
  | display answers =>
    rw [Desktop.step]
    split
    · exact sound
    · rename_i stepped
      exact ⟨fun running => displayStep_keeps (sound.handover running) stepped, sound.settled⟩
  | manager answers =>
    rw [Desktop.step]
    split
    · exact sound
    rename_i later link stepped
    have before : system.wm.exited = false := by
      rw [wmStep] at stepped
      split at stepped
      · cases stepped
      · simp [*]
    have handover := sound.handover before
    refine ⟨fun running => ?_, fun _ => ?_⟩
    · grind [wmStep_handover]
    · refine wmStep_settled handover (sound.settled before) ?_ stepped
      exact fun running waits isFirst unanswered overtakes =>
        orderly ⟨running, waits, isFirst, unanswered, overtakes⟩

/-- The display sees a request of the manager, or its connection. -/
theorem displayReady_of_request {deferred : Option DisplayInput} {todo : List WmTask}
    {side : DisplaySide} (handover : Handover deferred todo side.link side.server)
    (running : side.server.exited = false) (opened : side.link.display ≠ .closed)
    (requested : side.link.toDisplay ≠ []) (answers : DisplayAnswers) :
    displayReady side answers ≠ [] := by
  rw [displayReady]
  cases isLink : side.link.display with
  | waiting =>
    rintro ⟨⟩
  | closed => exact absurd isLink opened
  | accepted =>
    have isPeer := handover.accepted running isLink
    have isReady : peerReady side answers (some .windowManager) = some (.receive .windowManager) := by
      rw [peerReady, handover.running, if_neg Bool.noConfusion, if_pos requested]
    intro none
    simp_all

theorem blocked_cases (sound : Sound system) (blocked : ManagerBlocked system) :
    (system.wm.todo = [] ∧ system.wm.position = .wait) ∨
      (awaits system.wm.todo = 1 ∧ system.side.link.toManager = [] ∧ system.side.link.display ≠ .closed) := by
  rcases blocked with ⟨running, isBlocked⟩
  have handover := sound.handover running
  have reading := handover.reading
  rw [wmStep, running, if_neg Bool.noConfusion] at isBlocked
  split at isBlocked
  · grind
  · grind
  · rename_i rest isTodo
    split at isBlocked
    · rename_i none
      split at isBlocked
      · cases isBlocked
      rename_i opened
      rw [isTodo]
      exact Or.inr ⟨rfl, none, opened⟩
    · cases isBlocked
    grind
  · grind
  · cases isBlocked
  · rename_i rest isTodo
    split at isBlocked
    · rename_i none
      split at isBlocked
      · cases isBlocked
      rename_i opened
      rw [isTodo] at reading
      rcases reading.1 with arrived | isClosed
      · exact absurd none arrived
      · exact absurd isClosed opened
    · cases isBlocked
    · cases isBlocked
  grind

theorem Sound.noInputStuck (sound : Sound system) : NoInputStuck system where
  handled := fun running waits _ => sound.settled running waits
  progress := by
    rintro ⟨blocked, ⟨displayRunning, isIdle, displayBlocked⟩, -, holds⟩
    have running := blocked.1
    have handover := sound.handover running
    rcases blocked_cases sound blocked with ⟨isDone, waits⟩ | ⟨awaiting, unanswered, opened⟩
    · rcases holds with isDeferred | owing
      · rw [sound.settled running waits] at isDeferred
        cases isDeferred
      grind
    · have underWay := handover.isAwaited opened
      rw [awaiting, Desktop.underWay, unanswered] at underWay
      grind [displayReady_of_request, displayStep]

/-- In every run in which no input event overtakes a reply at the top of the
manager's loop, the manager never waits for events with a deferred one in its
hands, and the two never wait for each other. -/
theorem desktop_run_noInputStuck (width height displayPid : Nat) (actions : List Action)
    (orderly : Respects step Orderly (start width height displayPid) actions) :
    NoInputStuck (run step (start width height displayPid) actions) :=
  (run_invariant_of_respects (fun _ action sound => sound.step action) actions _
    (sound_start width height displayPid) orderly).noInputStuck

/-- Steps of the manager and of the display while all clients are quiet -/
def turns (counts : List (Nat × Nat)) : List Action :=
  counts.flatMap fun (managers, displays) =>
    List.replicate managers (.manager quietClients) ++ List.replicate displays (.display quietPeers)

/-- A client connects to the manager and registers a window. -/
def newWindow (endpoint surface : Nat) : List Action :=
  [.manager { quietClients with clientsConnect := true },
    .manager { quietClients with
      accepted := some endpoint
      peerPid := endpoint },
    .manager quietClients,
    .manager { quietClients with hasSent := fun other => other == endpoint },
    .manager { quietClients with
      received := some ({ wmMessage .register with surface := surface }, true, false)
      peerPid := endpoint }]

def pointerMoves (distance : Int) : Action := .inputArrives ⟨.mouseMove, 0, distance, 0, 0, 0⟩

/-- Two windows next to each other, and the pointer on the first one -/
def twoWindows : List Action :=
  turns [(1, 4), (4, 2), (3, 0)] ++ newWindow 11 1001 ++
    turns [(1, 2), (6, 2), (6, 2), (3, 0)] ++ newWindow 12 1002 ++
      turns [(1, 2), (6, 2), (6, 2), (6, 2), (3, 0)]

/-- The pointer moves within the first window, to the second one, and within
it. -/
def threeMoves : List Action :=
  [pointerMoves (-1), pointerMoves 150, pointerMoves 1] ++
    turns [(0, 2), (4, 4), (3, 2), (5, 4), (3, 2), (2, 0)]

theorem desktop_run_noInputStuck_oneMove :
    NoInputStuck (run step (start 800 600 7)
      (twoWindows ++ pointerMoves (-1) :: turns [(0, 2), (4, 2), (2, 2), (3, 0)])) :=
  desktop_run_noInputStuck 800 600 7 _ (by decide +kernel)

/-- The third event is left in the hands of the manager, which waits for the
display, which waits for it. -/
theorem threeMoves_stuck :
    ¬∀ (width height displayPid : Nat) (actions : List Action),
      NoInputStuck (run step (start width height displayPid) actions) := by
  intro claim
  have reached := claim 800 600 7 (twoWindows ++ threeMoves)
  have manager : (run step (start 800 600 7) (twoWindows ++ threeMoves)).wm.exited = false ∧
      (wmStep (run step (start 800 600 7) (twoWindows ++ threeMoves)).wm
        (run step (start 800 600 7) (twoWindows ++ threeMoves)).side.link quietClients).isNone = true ∧
      (run step (start 800 600 7) (twoWindows ++ threeMoves)).wm.deferredInput.isSome = true := by
    decide +kernel
  have display :
      (run step (start 800 600 7) (twoWindows ++ threeMoves)).side.server.exited = false ∧
      (run step (start 800 600 7) (twoWindows ++ threeMoves)).side.server.todo = [] ∧
      (displayStep (run step (start 800 600 7) (twoWindows ++ threeMoves)).side
        quietPeers).isNone = true ∧
      (run step (start 800 600 7) (twoWindows ++ threeMoves)).side.server.inputPending =
        true := by
    decide +kernel
  exact reached.progress
    ⟨⟨manager.1, Option.isNone_iff_eq_none.mp manager.2.1⟩,
      ⟨display.1, display.2.1, Option.isNone_iff_eq_none.mp display.2.2.1⟩,
      display.2.2.2, Or.inl manager.2.2⟩

/-- What the display and the manager can rely on while the manager runs -/
structure InOrder (system : System) : Prop where
  /-- At most one input event is not acknowledged yet, and there is one exactly
  while the display waits for the acknowledgement. -/
  oneEvent : system.wm.exited = false →
    unacknowledged system.wm.deferredInput system.wm.todo system.side.link ≤ 1 ∧
    (system.side.link.display ≠ .closed →
      (unacknowledged system.wm.deferredInput system.wm.todo system.side.link = 1 ↔
        system.side.server.inputPending = true))
  /-- At most one request to the display is under way, and the manager waits for
  its reply. -/
  oneRequest : system.wm.exited = false →
    underWay system.side.link ≤ awaits system.wm.todo ∧
      (system.side.link.display ≠ .closed → underWay system.side.link = awaits system.wm.todo)
  /-- Input goes to the window manager alone. -/
  receiver : system.wm.exited = false → system.side.server.inputPending = true →
    system.side.server.manager = some .windowManager

/-- The handover is in order as long as the manager runs. -/
def InHandover (system : System) : Prop :=
  system.wm.exited = false →
    Handover system.wm.deferredInput system.wm.todo system.side.link system.side.server

/-- A step keeps it so, whatever overtakes what. -/
theorem step_handover (system : System) (action : Action) (handover : InHandover system) :
    InHandover (step system action) := by
  cases action with
  | inputArrives event =>
    rw [Desktop.step]
    split
    · exact handover
    · exact handover
  | display answers =>
    rw [Desktop.step]
    split
    · exact handover
    · rename_i stepped
      exact fun running => displayStep_keeps (handover running) stepped
  | manager answers =>
    rw [Desktop.step]
    split
    · exact handover
    rename_i later link stepped
    have before : system.wm.exited = false := by
      rw [wmStep] at stepped
      split at stepped
      · cases stepped
      · simp [*]
    intro running
    rcases wmStep_handover (handover before) stepped with exited | kept
    · exact absurd (exited.symm.trans running) Bool.noConfusion
    · exact kept

theorem managedStep_handover (managed : ManagedSystem) (action : ManagedAction)
    (handover : InHandover managed.desktop) : InHandover (managedStep managed action).desktop := by
  rcases managedStep_desktop managed action with same | ⟨own, isStep⟩
  · rw [same]
    exact handover
  · rw [isStep]
    exact step_handover _ own handover

/-- In every run, in whatever order the manager, the display, the input device and
the clients act, one input event at a time goes to the manager, and one request to
the display. -/
theorem desktop_run_inOrder (width height displayPid : Nat) (actions : List ManagedAction) :
    InOrder (run managedStep (managedStart width height displayPid) actions).desktop := by
  have handover := @run_invariant _ _ _ (fun managed : ManagedSystem => InHandover managed.desktop)
    managedStep_handover actions (managedStart width height displayPid)
    (sound_start width height displayPid).handover
  generalize (run managedStep (managedStart width height displayPid) actions).desktop = system at handover
  constructor
  case oneEvent =>
    intro running
    refine ⟨(handover running).atMostOne, fun opened => ?_⟩
    rw [(handover running).isPending opened]
    split <;> simp_all
  case oneRequest => exact fun running => ⟨(handover running).oneRequest, (handover running).isAwaited⟩
  case receiver =>
    intro running pending
    rcases Option.ne_none_iff_exists'.mp ((handover running).managed pending) with ⟨peer, isManager⟩
    rw [isManager, (handover running).onlyManager peer isManager]

end BoringOS.Desktop
