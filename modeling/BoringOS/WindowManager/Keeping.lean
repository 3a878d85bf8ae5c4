import BoringOS.WindowManager.Authority

namespace BoringOS.WindowManager

open Display

/-!
# What ends a client of the window manager

The manager ends a connection in `drop` and a registration in `wm_remove`.
Here it is followed for one endpoint, from which of the manager's steps these
two can come: as long as messages reach the client, its requests can be
received, and the display accepts its placements, the manager never gets there.
-/

/-! ## Tasks about an endpoint -/

/-- A task that ends the connection of the endpoint or removes its window -/
def threatens (endpoint : Nat) : WmTask → Bool
  | .hangUp peer | .drop peer _ | .remove peer _ => peer == endpoint
  | _ => false

/-- A task that takes the endpoint for a peer -/
def concerns (endpoint : Nat) : WmTask → Bool
  | .appSend peer _ | .request peer | .bound peer _ _ => peer == endpoint
  | _ => false

/-- The window of the endpoint waits for the display to bind it. -/
def binds (endpoint : Nat) : WmTask → Bool
  | .bound peer _ _ => peer == endpoint
  | _ => false

/-- The manager has an authority over a window to offer to the endpoint, and
the display has bound it. -/
def Registered (wm : WmProcess) (endpoint token : Nat) : Prop :=
  wmAuthority wm.memory.core endpoint token = .ok ∧ ∀ task ∈ wm.todo, binds endpoint task = false

instance (wm : WmProcess) (endpoint token : Nat) : Decidable (Registered wm endpoint token) :=
  inferInstanceAs (Decidable (_ ∧ _))

/-- The manager is on its way to its first reply from the display. -/
structure Starting (wm : WmProcess) : Prop where
  todo : ∃ first, wm.todo = first ++ [.managerBound, .syncLayout 0] ∧
    (first = [] ∨ first = [.awaitReply] ∨ ∃ request, first = [.rpc request])
  inactive : ∀ slot, (wm.memory.core.clients slot).active = false

/-- The manager knows the endpoint as a peer wherever it deals with it, and is
not about to end it. -/
structure Attends (endpoint : Nat) (wm : WmProcess) : Prop where
  quiet : ∀ task ∈ wm.todo, threatens endpoint task = false
  concerned : ∀ task ∈ wm.todo, concerns endpoint task = true → endpoint ∈ wm.memory.peers
  named : Names wm.memory.core endpoint → endpoint ∈ wm.memory.peers
  starting : .managerBound ∈ wm.todo → Starting wm

/-- The kernel and the display answer to the manager's step without failing
the client, and the client does not ask for its own end. -/
structure Served (endpoint : Nat) (wm : WmProcess) (answers : WmAnswers) : Prop where
  connected : answers.hangsUp endpoint = false
  sent : ∀ message rest, wm.todo = .appSend endpoint message :: rest → answers.appSent = true
  received : ∀ rest, wm.todo = .request endpoint :: rest →
    ∃ request, answers.received = some request ∧ request.1.type ≠ .unregister
  placed : ∀ index rest, wm.todo = .placed index :: rest →
    (wm.memory.core.clients (wm.memory.core.order index)).endpoint = endpoint →
      wm.memory.reply.status = .ok

/-! ## A task and the tasks that it leads to -/

/-- What a task makes of the memory, and the tasks that it leads to, keep the
endpoint. -/
structure Keeps (endpoint : Nat) (task : WmTask) (memory later : WmMemory)
    (made : List WmTask) : Prop where
  quiet : ∀ next ∈ made, threatens endpoint next = false
  concerned : ∀ next ∈ made, concerns endpoint next = true → endpoint ∈ later.peers
  named : Names later.core endpoint → endpoint ∈ later.peers
  peer : endpoint ∈ memory.peers → endpoint ∈ later.peers
  registered : ∀ token, wmAuthority memory.core endpoint token = .ok →
    binds endpoint task = false → wmAuthority later.core endpoint token = .ok ∧
      ∀ next ∈ made, binds endpoint next = false
  started : .managerBound ∉ made

variable {endpoint : Nat} {wm : WmProcess} {memory later : WmMemory} {answers : WmAnswers}
variable {task : WmTask} {made rest : List WmTask}

/-- A task that does the endpoint no harm -/
structure Mild (endpoint : Nat) (peers : List Nat) (task : WmTask) : Prop where
  quiet : threatens endpoint task = false
  concerned : concerns endpoint task = true → endpoint ∈ peers
  unbound : binds endpoint task = false
  started : task ≠ .managerBound

/-- A task that is about no endpoint -/
def general : WmTask → Bool
  | .appSend .. | .drop .. | .remove .. | .request _ | .bound .. | .hangUp _ | .managerBound => false
  | _ => true

variable {peers : List Nat}

theorem mild_of_general (isGeneral : general task = true) : Mild endpoint peers task := by
  cases task
  all_goals first
    | exact ⟨rfl, fun impossible => Bool.noConfusion impossible, rfl, fun same => WmTask.noConfusion same⟩
    | exact Bool.noConfusion isGeneral

theorem mild_appSend {peer : Nat} (message : WmMessage)
    (known : peer = endpoint → endpoint ∈ peers) : Mild endpoint peers (.appSend peer message) :=
  ⟨rfl, fun concerned => known (beq_iff_eq.mp concerned), rfl, fun same => WmTask.noConfusion same⟩

/-- A task that ends another endpoint -/
theorem mild_ending {peer : Nat} (different : peer ≠ endpoint) :
    (∀ index, Mild endpoint peers (.drop peer index)) ∧
      (∀ token, Mild endpoint peers (.remove peer token)) ∧ Mild endpoint peers (.hangUp peer) := by
  have ending : ∀ next, threatens endpoint next = (peer == endpoint) →
      concerns endpoint next = false → binds endpoint next = false → next ≠ .managerBound →
        Mild endpoint peers next := fun next threat unconcerned unbound later =>
    ⟨threat.trans (beq_eq_false_iff_ne.mpr different),
      fun concerned => absurd concerned (Bool.eq_false_iff.mp unconcerned), unbound, later⟩
  exact ⟨fun _ => ending _ rfl rfl rfl nofun, fun _ => ending _ rfl rfl rfl nofun, ending _ rfl rfl rfl nofun⟩

theorem mild_pair {first second : WmTask} (mild : Mild endpoint peers first)
    (isGeneral : general second = true) : ∀ next ∈ [first, second], Mild endpoint peers next :=
  List.forall_mem_cons.mpr ⟨mild, List.forall_mem_singleton.mpr (mild_of_general isGeneral)⟩

/-- A task that leaves the clients and the peers alone -/
theorem Keeps.aside (core : later.core = memory.core) (peers : later.peers = memory.peers)
    (named : Names memory.core endpoint → endpoint ∈ memory.peers)
    (mild : ∀ next ∈ made, Mild endpoint memory.peers next) :
    Keeps endpoint task memory later made where
  quiet next isNext := (mild next isNext).quiet
  concerned := by
    rw [peers]
    exact fun next isNext => (mild next isNext).concerned
  named := by
    rw [core, peers]
    exact named
  peer := by
    rw [peers]
    exact id
  registered token authorized _ := by
    rw [core]
    exact ⟨authorized, fun next isNext => (mild next isNext).unbound⟩
  started isMade := (mild _ isMade).started rfl

/-- The tasks of a step come before those that were left. -/
theorem Keeps.after (keeps : Keeps endpoint task wm.memory later made)
    (attends : Attends endpoint wm) (isTodo : wm.todo = task :: rest)
    {after : WmProcess} (isMemory : after.memory = later) (isMade : after.todo = made ++ rest)
    (ready : .managerBound ∈ rest → Starting after) :
    Attends endpoint after ∧ (endpoint ∈ wm.memory.peers → endpoint ∈ after.memory.peers) ∧
      ∀ token, Registered wm endpoint token → Registered after endpoint token := by
  have waiting : ∀ next ∈ rest, next ∈ wm.todo := by
    intro next isNext
    rw [isTodo]
    exact List.mem_cons_of_mem _ isNext
  have isTask : task ∈ wm.todo := by
    rw [isTodo]
    exact List.mem_cons_self
  refine ⟨⟨?_, ?_, ?_, ?_⟩, ?_, ?_⟩
  · intro next isNext
    rw [isMade, List.mem_append] at isNext
    rcases isNext with isNew | isOld
    · exact keeps.quiet next isNew
    · exact attends.quiet next (waiting next isOld)
  · intro next isNext concerned
    rw [isMade, List.mem_append] at isNext
    rw [isMemory]
    rcases isNext with isNew | isOld
    · exact keeps.concerned next isNew concerned
    · exact keeps.peer (attends.concerned next (waiting next isOld) concerned)
  · rw [isMemory]
    exact keeps.named
  · intro starting
    rw [isMade, List.mem_append] at starting
    exact starting.elim (fun isNew => absurd isNew keeps.started) ready
  · rw [isMemory]
    exact keeps.peer
  · rintro token ⟨authorized, unbound⟩
    have kept := keeps.registered token authorized (unbound task isTask)
    grind [Registered]

/-- While the first reply is awaited, nothing else is under way. -/
theorem Attends.ready (attends : Attends endpoint wm) (isTodo : wm.todo = task :: rest)
    (notFirst : task ≠ .awaitReply ∧ ∀ request, task ≠ .rpc request) : .managerBound ∉ rest := by
  intro waits
  have starting := attends.starting (by simp [*])
  rcases starting.todo with ⟨first, isFirst, rfl | rfl | ⟨request, rfl⟩⟩
  · grind
  · simp_all
  grind

/-- What is left behind the request of which the first reply is awaited -/
theorem Attends.starting_rest (attends : Attends endpoint wm) (isTodo : wm.todo = task :: rest)
    (notBound : task ≠ .managerBound) (waits : .managerBound ∈ rest) :
    rest = [.managerBound, .syncLayout 0] ∧
      ∀ slot, (wm.memory.core.clients slot).active = false := by
  have starting := attends.starting (by simp [*])
  refine ⟨?_, starting.inactive⟩
  rcases starting.todo with ⟨first, isFirst, rfl | rfl | ⟨request, rfl⟩⟩
  all_goals
    rw [isTodo] at isFirst
    cases isFirst
  · exact absurd rfl notBound
  · rfl
  · rfl

/-! ## Input -/

theorem actionTasks_mild {core : WmCore} {peers : List Nat} (event : InputEvent)
    (action : WmAction) (named : Names core endpoint → endpoint ∈ peers) :
    ∀ next ∈ actionTasks core event action, Mild endpoint peers next := by
  have told : ∀ (slot : Nat) (message : WmMessage),
      ∀ next ∈ [WmTask.appSend (core.clients slot).endpoint message, .resync],
        Mild endpoint peers next := fun slot message =>
    mild_pair (mild_appSend message fun same => named ⟨slot, same⟩) rfl
  cases action with
  | focus => exact List.forall_mem_singleton.mpr (mild_of_general rfl)
  | reorder => exact List.forall_mem_singleton.mpr (mild_of_general rfl)
  | close =>
    unfold actionTasks
    grind
  | noLauncher => exact List.forall_mem_nil _
  | none =>
    unfold actionTasks
    grind

theorem handleInput_keeps (message : DisplayInput)
    (named : Names memory.core endpoint → endpoint ∈ memory.peers) :
    Keeps endpoint task memory { memory with core := (handleInput memory.core message).1 }
      (handleInput memory.core message).2 := by
  have same := handleInput_sameNames memory.core message
  have chosen : (handleInput memory.core message).1 = (inputAction memory.core message).2 := by
    unfold handleInput
    simp only
    split <;> rfl
  have acted : ∀ next ∈ actionTasks (inputAction memory.core message).2 message.event
      (inputAction memory.core message).1, Mild endpoint memory.peers next :=
    actionTasks_mild _ _ fun inside => named (same.names (chosen ▸ inside))
  have mild : ∀ next ∈ (handleInput memory.core message).2, Mild endpoint memory.peers next := by
    intro next isNext
    unfold handleInput at isNext
    simp only at isNext
    split at isNext
    · rcases List.mem_cons.mp isNext with rfl | isLater
      · exact mild_of_general rfl
      · exact acted next isLater
    · rcases List.mem_append.mp isNext with isEarlier | isLast
      · exact acted next isEarlier
      · rw [List.mem_singleton.mp isLast]
        exact mild_of_general rfl
  exact
    { quiet := fun next isNext => (mild next isNext).quiet
      concerned := fun next isNext => (mild next isNext).concerned
      named := fun inside => named (same.names inside)
      peer := id
      registered := fun token authorized _ =>
        ⟨same.authority authorized, fun next isNext => (mild next isNext).unbound⟩
      started := fun isMade => (mild _ isMade).started rfl }

/-! ## Requests -/

/-- The reply to a request, and what follows it -/
theorem mild_reply {peer : Nat} (message : WmMessage) (changed : Bool)
    (known : peer = endpoint → endpoint ∈ peers) :
    ∀ next ∈ [WmTask.appSend peer message, .replied changed], Mild endpoint peers next :=
  mild_pair (mild_appSend message known) rfl

/-- `request`, for a request that has been received and is not the client's
own `BORING_WM_UNREGISTER` -/
theorem requestTasks_keeps {peer pid : Nat} {request : Option (WmMessage × Bool × Bool)}
    (known : peer = endpoint → endpoint ∈ memory.peers)
    (received : peer = endpoint → ∃ message, request = some message ∧ message.1.type ≠ .unregister)
    (named : Names memory.core endpoint → endpoint ∈ memory.peers) :
    Keeps endpoint (.request peer) memory
      { memory with core := (requestTasks memory.core peer pid request).1 }
      (requestTasks memory.core peer pid request).2 := by
  have replied : ∀ (message : WmMessage) (changed : Bool),
      Keeps endpoint (.request peer) memory memory [.appSend peer message, .replied changed] :=
    fun message changed => Keeps.aside rfl rfl named (mild_reply message changed known)
  cases request with
  | none =>
    have different : peer ≠ endpoint := by
      intro same
      rcases received same with ⟨message, impossible, -⟩
      cases impossible
    exact Keeps.aside rfl rfl named (mild_pair ((mild_ending different).1 _) rfl)
  | some request =>
    rcases request with ⟨message, whole, hasBuffer⟩
    unfold requestTasks
    simp only
    generalize (if hasBuffer = true then WmStatus.invalid else wmValidateRequest message whole) = status
    split
    · exact replied _ _
    split
    · split
      · exact replied _ _
      · split
        · next added token isAdded =>
            have core : (wmAdd memory.core peer pid message.surface).2.1 = added := by
              rw [isAdded]
            refine ⟨?_, ?_, ?_, id, ?_, ?_⟩
            · intro next isNext
              rcases List.mem_cons.mp isNext with rfl | isLast
              · rfl
              · rw [List.mem_singleton.mp isLast]
                rfl
            · intro next isNext concerned
              rcases List.mem_cons.mp isNext with rfl | isLast
              · exact Bool.noConfusion concerned
              · rw [List.mem_singleton.mp isLast] at concerned
                exact known (beq_iff_eq.mp concerned)
            · grind [wmAdd_names]
            · intro token authorized _
              rw [← core]
              refine ⟨wmAdd_authority authorized, fun next isNext => ?_⟩
              rcases List.mem_cons.mp isNext with rfl | isLast
              · rfl
              rw [List.mem_singleton.mp isLast]
              refine beq_eq_false_iff_ne.mpr ?_
              rintro rfl
              exact wmAdd_once authorized (congrArg Prod.fst isAdded)
            nofun
        · exact replied _ _
    · split
      · split
        · next isUnregister =>
            split
            · refine Keeps.aside rfl rfl named fun next isNext => ?_
              have different : peer ≠ endpoint := by
                intro same
                rcases received same with ⟨request, isRequest, notUnregister⟩
                cases isRequest
                exact notUnregister isUnregister
              rcases List.mem_cons.mp isNext with rfl | isLater
              · exact mild_of_general rfl
              rcases List.mem_cons.mp isLater with rfl | isReply
              · exact (mild_ending different).2.1 _
              · exact mild_reply _ _ known next isReply
            · exact Keeps.aside rfl rfl named (List.forall_mem_nil _)
        · exact replied _ _
      · exact replied _ _

/-! ## Peers -/

theorem mem_addPeer (other : Nat) (isEndpoint : endpoint ≠ 0)
    (isPeer : endpoint ∈ peers) : endpoint ∈ addPeer other peers := by
  induction peers with
  | nil => exact absurd isPeer List.not_mem_nil
  | cons peer rest ih =>
    unfold addPeer
    grind

theorem mem_withoutPeer {other : Nat} (different : other ≠ endpoint) (isPeer : endpoint ∈ peers) :
    endpoint ∈ peers.map fun peer => if peer = other then 0 else peer :=
  List.mem_map.mpr ⟨endpoint, isPeer, if_neg (Ne.symm different)⟩

/-! ## The other tasks -/

/-- A task that does not touch the display, with all that it leads to -/
theorem innerTask_keeps (attends : Attends endpoint wm) (served : Served endpoint wm answers)
    (isEndpoint : endpoint ≠ 0) (isTodo : wm.todo = task :: rest)
    (stepped : innerTask wm.memory answers task = some (later, made)) :
    Keeps endpoint task wm.memory later made := by
  have isTask : task ∈ wm.todo := by
    rw [isTodo]
    exact List.mem_cons_self
  have aside : ∀ {next : WmMemory} {tasks : List WmTask}, next.core = wm.memory.core →
      next.peers = wm.memory.peers → (∀ task ∈ tasks, general task = true) →
        Keeps endpoint task wm.memory next tasks := fun core peers allGeneral =>
    Keeps.aside core peers attends.named fun next isNext => mild_of_general (allGeneral next isNext)
  cases task with
  | rpc request => cases stepped
  | awaitReply => cases stepped
  | acknowledgeInput => cases stepped
  | handleInput message => cases stepped
  | receiveInput => cases stepped
  | managerBound =>
    have starting := attends.starting isTask
    unfold innerTask at stepped
    simp only at stepped
    split at stepped
    · cases stepped
    cases initialized : wmInit wm.memory.reply.width wm.memory.reply.height with
    | none =>
      simp_all
    | some core =>
      rw [initialized] at stepped
      cases stepped
      have cleared : ∀ slot, (core.clients slot).endpoint = 0 := by
        intro slot
        unfold wmInit at initialized
        split at initialized
        · cases initialized
        · cases initialized
          rfl
      refine ⟨List.forall_mem_nil _, List.forall_mem_nil _, ?_, id, ?_, List.not_mem_nil⟩
      · rintro ⟨slot, isNamed⟩
        simp_all
      · intro token authorized _
        exact absurd authorized (wmAuthority_of_inactive starting.inactive endpoint token)
  | syncLayout index =>
    unfold innerTask at stepped
    grind [general]
  | placed index =>
    unfold innerTask at stepped
    simp only at stepped
    split at stepped
    · next refused =>
        cases stepped
        have different : (wm.memory.core.clients (wm.memory.core.order index)).endpoint ≠
            endpoint := fun same => refused (served.placed index rest isTodo same)
        exact Keeps.aside rfl rfl attends.named (mild_pair ((mild_ending different).1 _) rfl)
    · cases stepped
      exact Keeps.aside rfl rfl attends.named
        (mild_pair (mild_appSend _ fun same => attends.named ⟨_, same⟩) rfl)
  | configured index =>
    cases stepped
    exact aside rfl rfl (by simp [general])
  | presented =>
    simp_all [innerTask, List.forall_mem_nil]
  | syncFocus =>
    cases stepped
    exact aside rfl rfl (by simp [general])
  | focusPresented =>
    cases stepped
    exact aside rfl rfl (by split <;> simp [general])
  | resync =>
    cases stepped
    exact aside rfl rfl (by split <;> simp [general])
  | appSend peer message =>
    unfold innerTask at stepped
    simp only at stepped
    split at stepped
    · grind
    next failed =>
      cases stepped
      have different : peer ≠ endpoint := by
        rintro rfl
        exact failed (served.sent message rest isTodo)
      exact Keeps.aside rfl rfl attends.named
        (List.forall_mem_singleton.mpr ((mild_ending different).1 _))
  | drop peer slot =>
    have notEnded := attends.quiet _ isTask
    have different : peer ≠ endpoint := beq_eq_false_iff_ne.mp notEnded
    unfold innerTask at stepped
    simp only at stepped
    split at stepped
    · cases stepped
      exact
        { quiet := List.forall_mem_nil _
          concerned := List.forall_mem_nil _
          named := fun inside => mem_withoutPeer different (attends.named inside)
          peer := mem_withoutPeer different
          registered := fun token authorized _ => ⟨authorized, List.forall_mem_nil _⟩
          started := List.not_mem_nil }
    have onward : ∀ index, Mild endpoint wm.memory.peers (.drop peer index) :=
      (mild_ending different).1
    split at stepped
    · cases stepped
      refine Keeps.aside rfl rfl attends.named fun next isNext => ?_
      rcases List.mem_cons.mp isNext with rfl | isLater
      · exact mild_of_general rfl
      rcases List.mem_cons.mp isLater with rfl | isLast
      · exact (mild_ending different).2.1 _
      simp_all
    · cases stepped
      exact Keeps.aside rfl rfl attends.named (List.forall_mem_singleton.mpr (onward _))
  | remove peer token =>
    have different : peer ≠ endpoint := beq_eq_false_iff_ne.mp (attends.quiet _ isTask)
    cases stepped
    exact
      { quiet := List.forall_mem_nil _
        concerned := List.forall_mem_nil _
        named := fun inside => attends.named (wmRemove_names isEndpoint inside)
        peer := id
        registered := fun token authorized _ =>
          ⟨wmRemove_authority (Ne.symm different) authorized, List.forall_mem_nil _⟩
        started := List.not_mem_nil }
  | request peer =>
    cases stepped
    refine requestTasks_keeps ?_ ?_ attends.named
    · rintro rfl
      exact attends.concerned _ isTask (beq_self_eq_true _)
    · rintro rfl
      exact served.received rest isTodo
  | bound peer token oldFocus =>
    have known : peer = endpoint → endpoint ∈ wm.memory.peers := by
      rintro rfl
      exact attends.concerned _ isTask (beq_self_eq_true _)
    unfold innerTask at stepped
    simp only at stepped
    split at stepped
    · cases stepped
      have refocused : ∀ (core : WmCore) (focus : Nat),
          SameNames core { core with focus := focus } := fun core focus =>
        ⟨fun _ => rfl, fun _ => rfl, fun _ => rfl⟩
      have mild := mild_reply (requestReply .access 0) false known
      refine ⟨fun next isNext => (mild next isNext).quiet,
        fun next isNext => (mild next isNext).concerned, fun inside => ?_, id, ?_,
        fun isMade => (mild _ isMade).started rfl⟩
      · exact attends.named (wmRemove_names isEndpoint ((refocused _ _).names inside))
      · intro token authorized unbound
        have different : peer ≠ endpoint := beq_eq_false_iff_ne.mp unbound
        exact ⟨(refocused _ _).authority (wmRemove_authority (Ne.symm different) authorized),
          fun next isNext => (mild next isNext).unbound⟩
    · cases stepped
      exact Keeps.aside rfl rfl attends.named (mild_reply _ true known)
  | replied changed =>
    cases stepped
    exact aside rfl rfl (by split <;> simp [general])
  | hangUp peer =>
    cases stepped
    have notEnded := attends.quiet _ isTask
    exact Keeps.aside rfl rfl attends.named
      (mild_pair ((mild_ending (beq_eq_false_iff_ne.mp notEnded)).1 _) rfl)
  | accept =>
    unfold innerTask at stepped
    simp only at stepped
    split at stepped
    · cases stepped
    split at stepped
    · simp_all
    cases stepped
    exact
      { quiet := List.forall_mem_nil _
        concerned := List.forall_mem_nil _
        named := fun inside => mem_addPeer _ isEndpoint (attends.named inside)
        peer := mem_addPeer _ isEndpoint
        registered := fun token authorized _ => ⟨authorized, List.forall_mem_nil _⟩
        started := List.not_mem_nil }

/-! ## Steps -/

theorem wmReady_mild {link : Link} (connected : answers.hangsUp endpoint = false) :
    ∀ next ∈ wmReady memory link answers, Mild endpoint memory.peers next := by
  intro next isNext
  rw [wmReady, List.mem_append, List.mem_append] at isNext
  rcases isNext with (isAccept | isInput) | isPeer
  · split at isAccept
    · rw [List.mem_singleton.mp isAccept]
      exact mild_of_general rfl
    · cases isAccept
  · split at isInput
    · rw [List.mem_singleton.mp isInput]
      exact mild_of_general rfl
    · cases isInput
  · rcases List.mem_filterMap.mp isPeer with ⟨peer, isMember, isTask⟩
    split at isTask
    · cases isTask
    split at isTask
    · next hangs =>
        cases isTask
        have different : peer ≠ endpoint := by
          rintro rfl
          rw [connected] at hangs
          exact Bool.false_ne_true hangs
        exact (mild_ending different).2.2
    split at isTask
    · cases isTask
      refine ⟨rfl, fun concerned => ?_, rfl, fun same => WmTask.noConfusion same⟩
      rw [← beq_iff_eq.mp concerned]
      exact isMember
    · cases isTask

/-- The manager with nothing left to do takes up tasks that do no harm. -/
theorem Attends.takesUp (attends : Attends endpoint wm) {after : WmProcess} (isMemory : after.memory = wm.memory)
    (mild : ∀ next ∈ after.todo, Mild endpoint wm.memory.peers next) :
    Attends endpoint after ∧ (endpoint ∈ wm.memory.peers → endpoint ∈ after.memory.peers) ∧
      ∀ token, Registered wm endpoint token → Registered after endpoint token := by
  unfold Registered
  rw [isMemory]
  refine ⟨⟨fun next isNext => (mild next isNext).quiet, ?_, ?_, ?_⟩, id, ?_⟩
  · rw [isMemory]
    exact fun next isNext => (mild next isNext).concerned
  · rw [isMemory]
    exact attends.named
  · exact fun starting => absurd rfl (mild _ starting).started
  · exact fun token registered =>
      ⟨registered.1, fun next isNext => (mild next isNext).unbound⟩

theorem innerStep_cases {link next : Link} {after : WmProcess}
    (stepped : (match innerTask wm.memory answers task with
      | none => some (wmExit wm link)
      | some (memory, tasks) =>
        some
          ({ wm with
            memory := memory
            todo := tasks ++ rest }, link)) = some (after, next)) :
    some (wmExit wm link) = some (after, next) ∨ ∃ memory tasks,
      innerTask wm.memory answers task = some (memory, tasks) ∧
        { wm with
          memory := memory
          todo := tasks ++ rest } = after := by
  split at stepped
  · exact Or.inl stepped
  next memory tasks isInner =>
    exact Or.inr ⟨memory, tasks, isInner, congrArg Prod.fst (Option.some.inj stepped)⟩

/-- A step of the manager that is served keeps the endpoint, unless the
manager exits. -/
theorem Attends.step (attends : Attends endpoint wm) (served : Served endpoint wm answers)
    (isEndpoint : endpoint ≠ 0) {link next : Link} {after : WmProcess}
    (stepped : wmStep wm link answers = some (after, next)) (running : after.exited = false) :
    Attends endpoint after ∧ (endpoint ∈ wm.memory.peers → endpoint ∈ after.memory.peers) ∧
      ∀ token, Registered wm endpoint token → Registered after endpoint token := by
  have exits : ∀ {left : Link}, some (wmExit wm left) = some (after, next) → False := by
    intro left same
    cases same
    exact Bool.noConfusion running
  unfold wmStep at stepped
  split at stepped
  · cases stepped
  cases isTodo : wm.todo with
  | nil =>
    rw [isTodo] at stepped
    cases isPosition : wm.position with
    | top =>
      rw [isPosition] at stepped
      cases isDeferred : wm.deferredInput with
      | none =>
        rw [isDeferred] at stepped
        cases stepped
        exact attends.takesUp rfl (List.forall_mem_nil _)
      | some message =>
        rw [isDeferred] at stepped
        cases stepped
        exact attends.takesUp rfl (List.forall_mem_singleton.mpr (mild_of_general rfl))
    | wait =>
      rw [isPosition] at stepped
      simp only at stepped
      have ready : ∀ task ∈ wmReady wm.memory link answers,
          Mild endpoint wm.memory.peers task := wmReady_mild served.connected
      split at stepped
      · cases stepped
      · cases stepped
        exact attends.takesUp rfl ready
  | cons task rest =>
    rw [isTodo] at stepped
    have inner := @innerStep_cases wm answers task rest link next after
    have aside : ∀ made : List WmTask, after.memory.core = wm.memory.core →
        after.memory.peers = wm.memory.peers → (∀ task ∈ made, general task = true) →
          Keeps endpoint task wm.memory after.memory made := fun _ core peers allGeneral =>
      Keeps.aside core peers attends.named fun task isTask =>
        mild_of_general (allGeneral task isTask)
    -- Behind the first request there is nothing but what the start leaves to do.
    have waitsOn : ∀ first : List WmTask, task ≠ .managerBound →
        after.memory.core = wm.memory.core → after.todo = first ++ rest →
        (first = [] ∨ first = [.awaitReply] ∨ ∃ request, first = [.rpc request]) →
        .managerBound ∈ rest → Starting after := by
      intro first notBound same isLater isFirst waits
      rcases attends.starting_rest isTodo notBound waits with ⟨isRest, inactive⟩
      exact ⟨⟨first, isRest ▸ isLater, isFirst⟩, same ▸ inactive⟩
    cases task
    case rpc request =>
      simp only at stepped
      split at stepped
      · exact absurd stepped exits
      cases stepped
      exact (aside [.awaitReply] rfl rfl (by simp [general])).after attends isTodo
        rfl rfl (waitsOn [.awaitReply] WmTask.noConfusion rfl rfl (Or.inr (Or.inl rfl)))
    case awaitReply =>
      simp only at stepped
      split at stepped
      · simp_all
      · cases stepped
        exact (aside [] rfl rfl (List.forall_mem_nil _)).after attends isTodo
          rfl rfl (waitsOn [] WmTask.noConfusion rfl rfl (Or.inl rfl))
      · split at stepped
        · exact absurd stepped exits
        · cases stepped
          exact (aside [.awaitReply] rfl rfl (by simp [general])).after attends isTodo
            rfl rfl (waitsOn [.awaitReply] WmTask.noConfusion rfl rfl (Or.inr (Or.inl rfl)))
    case acknowledgeInput =>
      simp only at stepped
      split at stepped
      · exact absurd stepped exits
      cases stepped
      exact (aside [] rfl rfl (List.forall_mem_nil _)).after attends isTodo rfl rfl
        fun waits => absurd waits (attends.ready isTodo
          ⟨WmTask.noConfusion, fun _ => WmTask.noConfusion⟩)
    case handleInput message =>
      cases stepped
      exact (handleInput_keeps message attends.named).after attends isTodo rfl rfl
        fun waits => absurd waits (attends.ready isTodo
          ⟨WmTask.noConfusion, fun _ => WmTask.noConfusion⟩)
    case receiveInput =>
      simp only at stepped
      split at stepped
      · simp_all
      · exact absurd stepped exits
      · next message later isInput =>
          cases stepped
          exact (aside [.handleInput message] rfl rfl (by simp [general])).after attends
            isTodo rfl rfl fun waits => absurd waits (attends.ready isTodo
              ⟨WmTask.noConfusion, fun _ => WmTask.noConfusion⟩)
    all_goals
      rcases inner stepped with exit | ⟨memory, tasks, isInner, rfl⟩
      · exact absurd exit exits
      exact (innerTask_keeps attends served isEndpoint isTodo isInner).after attends isTodo rfl rfl
        fun waits => absurd waits (attends.ready isTodo
          ⟨WmTask.noConfusion, fun _ => WmTask.noConfusion⟩)

/-! ## Where peers come from -/

theorem mem_of_addPeer {other : Nat} (isPeer : endpoint ∈ addPeer other peers) :
    endpoint ∈ peers ∨ (endpoint = other ∧ 0 ∈ peers) := by
  induction peers with
  | nil => exact absurd isPeer List.not_mem_nil
  | cons peer rest ih =>
    unfold addPeer at isPeer
    split at isPeer
    · grind
    grind

theorem innerTask_peers (isEndpoint : endpoint ≠ 0) (notAccept : task ≠ .accept)
    (stepped : innerTask memory answers task = some (later, made))
    (isPeer : endpoint ∈ later.peers) : endpoint ∈ memory.peers := by
  cases task
  case accept => exact absurd rfl notAccept
  case drop peer slot =>
    unfold innerTask at stepped
    simp only at stepped
    split at stepped
    · grind
    grind
  all_goals
    unfold innerTask at stepped
    simp only at stepped
    repeat' split at stepped
    all_goals
      cases stepped
      try exact isPeer

theorem wmStep_peers (isEndpoint : endpoint ≠ 0) {link next : Link} {after : WmProcess}
    (stepped : wmStep wm link answers = some (after, next))
    (notAccept : ∀ rest, wm.todo ≠ .accept :: rest) (isPeer : endpoint ∈ after.memory.peers) :
    endpoint ∈ wm.memory.peers := by
  unfold wmStep at stepped
  split at stepped
  · cases stepped
  cases isTodo : wm.todo with
  | nil =>
    grind
  | cons task rest =>
    rw [isTodo] at stepped
    have inner := @innerStep_cases wm answers task rest link next after
    cases task
    case rpc request =>
      simp only at stepped
      split at stepped
      all_goals
        cases stepped
        exact isPeer
    case awaitReply =>
      simp only at stepped
      repeat' split at stepped
      all_goals
        cases stepped
        try exact isPeer
    case acknowledgeInput =>
      simp only at stepped
      split at stepped
      all_goals
        cases stepped
        exact isPeer
    case handleInput message =>
      cases stepped
      exact isPeer
    case receiveInput =>
      simp only at stepped
      repeat' split at stepped
      all_goals
        cases stepped
        try exact isPeer
    all_goals
      rcases inner stepped with exit | ⟨memory, tasks, isInner, rfl⟩
      · cases exit
        exact isPeer
      exact innerTask_peers isEndpoint
        (fun same => notAccept rest (isTodo.trans (congrArg (· :: rest) same))) isInner isPeer

/-- What becomes of the connection that is accepted -/
theorem wmStep_accept {link next : Link} {after : WmProcess}
    (stepped : wmStep wm link answers = some (after, next)) (isTodo : wm.todo = .accept :: rest)
    (running : after.exited = false) :
    ∃ other, answers.accepted = some other ∧
      (after.memory.peers = wm.memory.peers ∨
        (answers.peerPid ≠ 0 ∧ answers.peerPid ≠ wm.memory.displayPid ∧
          after.memory.peers = addPeer other wm.memory.peers)) := by
  unfold wmStep at stepped
  split at stepped
  · cases stepped
  rw [isTodo] at stepped
  simp only [innerTask] at stepped
  cases isAccepted : answers.accepted with
  | none =>
    rw [isAccepted] at stepped
    cases stepped
    exact Bool.noConfusion running
  | some other =>
    rw [isAccepted] at stepped
    by_cases refused : answers.peerPid = 0 ∨ answers.peerPid = wm.memory.displayPid
    · grind
    grind

end BoringOS.WindowManager
