import BoringOS.Ipc.HandleClosing

namespace BoringOS.Ipc

open Library

/-!
# Registering, connecting and accepting

A registered service comes with its listener.  A new connection has two open
sides: the client's handle stands for one, and an entry of the service's list
for the other.  Accepting hands the second side on from the list to a handle.
-/

section Opening

variable {ipc : IpcTables}

/-! ## Free slots and lists -/

theorem findService_eq_none {name : List UInt8} (missing : findService ipc name = none)
    {service : Nat} (isOpen : ServiceOpen ipc service) :
    (ipc.services service).name ≠ fun position => name.getD position 0 := by
  intro same
  rw [findService, List.find?_range_eq_none] at missing
  have different := missing service isOpen.1
  have found : sameName (ipc.services service) name = true := by
    simp only [sameName, isOpen.2, same, Bool.true_and, Bool.and_eq_true, decide_eq_true_eq, beq_iff_eq]
    refine ⟨fun _ _ => trivial, ?_⟩
    rw [List.getD_eq_getElem?_getD, List.getElem?_eq_none (Nat.le_refl _), Option.getD_none]
  rw [found] at different
  cases different

theorem findFreeService_eq_some {service : Nat} (found : findFreeService ipc = some service) :
    service < ipcGlobalServiceMax ∧ (ipc.services service).active = false := by
  simp_all [findFreeService, List.mem_range]

theorem findFreeConnection_eq_some {index : Nat} (found : findFreeConnection ipc = some index) :
    index < ipcGlobalConnectionMax ∧ (ipc.connections index).active = false := by
  simp_all [findFreeConnection, List.mem_range]

theorem pendingPush_spec {service : IpcService} (sound : ServiceSound service)
    (active : service.active = true) (room : service.pendingCount < ipcPendingPerService)
    {index : Nat} (absent : index ∉ pendingContents service) :
    ∃ longer, pendingPush service index = some longer ∧
      pendingContents longer = pendingContents service ++ [index] ∧ ServiceSound longer ∧
      longer.active = true ∧ longer.name = service.name ∧ longer.owner = service.owner ∧
      longer.ownerPid = service.ownerPid := by
  have contents : ringContents (Function.update service.pending
        ((service.pendingHead + service.pendingCount) % ipcPendingPerService) index)
        ipcPendingPerService service.pendingHead (service.pendingCount + 1) =
      pendingContents service ++ [index] :=
    ringContents_push index service.pendingCount service.pendingHead sound.headInside room
  generalize isLonger : ({ service with
      pending := Function.update service.pending
        ((service.pendingHead + service.pendingCount) % ipcPendingPerService) index
      pendingCount := service.pendingCount + 1 } : IpcService) = longer
  have contents' : pendingContents longer = pendingContents service ++ [index] := by
    rw [← isLonger]
    exact contents
  refine ⟨longer, by rw [pendingPush, if_neg (Nat.not_le.mpr room), isLonger], contents', ?_,
    ?_, by rw [← isLonger], by rw [← isLonger], by rw [← isLonger]⟩
  · refine ⟨?_, ?_, fun inactive => ?_, ?_, ?_⟩
    · rw [← isLonger]
      exact sound.headInside
    · rw [← isLonger]
      exact room
    · grind
    · rw [contents', List.nodup_append]
      refine ⟨sound.nodup, List.nodup_singleton index, fun first firstIn second secondIn same => ?_⟩
      simp_all
    · rw [← isLonger]
      exact sound.named
  · rw [← isLonger]
    exact active

theorem IpcInvariant.inactive_attachment (invariant : IpcInvariant ipc) {index : Nat}
    (inside : index < ipcGlobalConnectionMax) (free : (ipc.connections index).active = false)
    (side : IpcSide) {position : Nat} (inQueue : position < ipcMessagesPerDirection) :
    (((ipc.connections index).incoming side).messages position).attachment = none := by
  have sound := invariant.connections index inside
  have closed : (ipc.connections index).sideOpen side = false := by
    apply Bool.eq_false_iff.mpr
    intro isOpen
    rw [sound.opened.mpr ⟨side, isOpen⟩] at free
    cases free
  exact (sound.queues side).cleared position inQueue
    ((sound.queues side).empty_inactive (sound.closed side closed) inQueue)

/-- What a successful connection attempt leaves behind. -/
structure Connected (ipc next : IpcTables) (index : Nat) : Prop where
  inside : index < ipcGlobalConnectionMax
  free : (ipc.connections index).active = false
  active : (next.connections index).active = true
  queues : ∀ side, queueContents ((next.connections index).incoming side) = []
  kept : QueuesKeptBut (fun other _ => other = index) ipc next

theorem findService_eq_some {name : List UInt8} {service : Nat}
    (found : findService ipc name = some service) : ServiceOpen ipc service := by
  rw [findService, List.find?_range_eq_some, List.mem_range] at found
  have matches' := found.1
  simp only [sameName, Bool.and_eq_true] at matches'
  exact ⟨found.2.1, matches'.1.1⟩

/-! ## An additional handle -/

section Handle

variable {next : IpcTables} {process slot index serviceIndex : Nat} {entry : IpcHandleEntry}
  {service : IpcService}

/-- An empty slot of a process is filled. -/
structure Installs (ipc next : IpcTables) (process slot : Nat) (entry : IpcHandleEntry) :
    Prop where
  empty : ipc.handle? process slot = none
  handles : ∀ owner position, next.handle? owner position =
    if owner = process ∧ position = slot then some entry else ipc.handle? owner position
  buffers : next.buffers = ipc.buffers

/-- A service is replaced by another state of it. -/
structure Replaces (ipc next : IpcTables) (serviceIndex : Nat) (service : IpcService) :
    Prop where
  services : ∀ other, next.services other =
    if other = serviceIndex then service else ipc.services other
  isOpen : ServiceOpen ipc serviceIndex
  sound : ServiceSound service
  active : service.active = (ipc.services serviceIndex).active
  name : service.name = (ipc.services serviceIndex).name

/-- An additional handle brings its references, of either kind. -/
theorem references_with (installs : Installs ipc next process slot entry) :
    (∀ owner position target, EndpointRefers next (.handle owner position) target ↔
      EndpointRefers ipc (.handle owner position) target ∨
        (owner = process ∧ position = slot) ∧ entry.type = .endpoint ∧
          (entry.objectIndex, entry.side) = target) ∧
    ∀ reference service, ListenerRefers next reference service ↔ ListenerRefers ipc reference service ∨
        reference = (process, slot) ∧ entry.type = .listener ∧ entry.objectIndex = service := by
  rcases installs with ⟨empty, handles, -⟩
  constructor
  · grind [EndpointRefers]
  grind [ListenerRefers]

theorem IpcInvariant.registered (invariant : IpcInvariant ipc)
    (installs : Installs ipc next process slot entry)
    (inside : index < ipcGlobalServiceMax) (free : (ipc.services index).active = false)
    (isListener : entry.type = .listener) (isIndex : entry.objectIndex = index)
    (connections : next.connections = ipc.connections) (services : ∀ other,
      next.services other = if other = index then service else ipc.services other)
    (sound : ServiceSound service) (active : service.active = true)
    (nonePending : service.pendingCount = 0)
    (named : ∀ other, ServiceOpen ipc other → (ipc.services other).name ≠ service.name) :
    IpcInvariant next := by
  rcases references_with installs with ⟨endpointWith, listenerWith⟩
  have endpointRefers : ∀ reference target, EndpointRefers next reference target ↔
      EndpointRefers ipc reference target := by
    intro reference target
    cases reference with
    | handle owner position =>
      simp [*]
    | pending other =>
      simp only [EndpointRefers, services]
      by_cases here : other = index
      · simp [here, pendingContents, nonePending, ringContents, free]
      · simp [here]
  have serviceOpen : ∀ other, ServiceOpen next other ↔ ServiceOpen ipc other ∨ other = index := by
    intro other
    simp only [ServiceOpen, services]
    by_cases here : other = index
    · simp [here, active, inside]
    · simp [here]
  constructor
  case endpoints =>
    refine invariant.endpoints.congr (fun target => ?_) endpointRefers
    rw [EndpointOpen, EndpointOpen, connections]
  case listeners =>
    have closed : ¬ ServiceOpen ipc index := by
      rintro ⟨-, isActive⟩
      rw [free] at isActive
      cases isActive
    have listenerRefers : ∀ reference other, ListenerRefers next reference other ↔
        ListenerRefers ipc reference other ∨ reference = (process, slot) ∧ other = index := by
      intro reference other
      rw [listenerWith, isListener, isIndex]
      simp only [true_and, @eq_comm Nat index]
    exact invariant.listeners.insert closed serviceOpen listenerRefers
  case accepted =>
    intro reference other referred
    rw [connections]
    exact invariant.accepted reference other ((endpointRefers _ _).mp referred)
  case connections =>
    rw [connections]
    exact invariant.connections
  case services =>
    intro other otherInside
    rw [services]
    split
    · exact sound
    · exact invariant.services other otherInside
  case names =>
    intro first second firstOpen secondOpen
    rw [services, services]
    by_cases isFirst : first = index
    · grind
    by_cases isSecond : second = index
    · simp_all
    rw [if_neg isFirst, if_neg isSecond]
    exact invariant.names first second (((serviceOpen _).mp firstOpen).resolve_right isFirst)
      (((serviceOpen _).mp secondOpen).resolve_right isSecond)
  case buffers =>
    rw [installs.buffers, connections]
    exact invariant.buffers

theorem IpcInvariant.service_replaced (invariant : IpcInvariant ipc)
    (replaces : Replaces ipc next serviceIndex service) :
    (∀ other, ServiceOpen next other ↔ ServiceOpen ipc other) ∧
      (∀ other < ipcGlobalServiceMax, ServiceSound (next.services other)) ∧
      ∀ first second, ServiceOpen next first → ServiceOpen next second →
        (next.services first).name = (next.services second).name → first = second := by
  rcases replaces with ⟨services, -, sound, sameActive, sameName⟩
  have sameServices : ∀ other, ServiceOpen next other ↔ ServiceOpen ipc other := by
    intro other
    simp only [ServiceOpen, services]
    split
    · rename_i here
      rw [here, sameActive]
    · rfl
  have sameNames : ∀ other, (next.services other).name = (ipc.services other).name := by
    intro other
    rw [services]
    split
    · rename_i here
      rw [here, sameName]
    · rfl
  refine ⟨sameServices, fun other inside => ?_, fun first second firstOpen secondOpen => ?_⟩
  · rw [services]
    split
    · exact sound
    · exact invariant.services other inside
  · rw [sameNames, sameNames]
    exact invariant.names first second ((sameServices _).mp firstOpen) ((sameServices _).mp secondOpen)

/-- A connection, its client's handle and its place in the list of the service
appear together. -/
structure Connects (ipc next : IpcTables) (process slot index serviceIndex : Nat)
    (entry : IpcHandleEntry) (service : IpcService) : Prop extends
    Installs ipc next process slot entry, Replaces ipc next serviceIndex service where
  inside : index < ipcGlobalConnectionMax
  free : (ipc.connections index).active = false
  isEndpoint : entry.type = .endpoint
  isIndex : entry.objectIndex = index
  isClient : entry.side = .client
  connections : ∀ other, next.connections other = if other = index then
    newConnection ipc process (ipc.services serviceIndex) else ipc.connections other
  contents : pendingContents service = pendingContents (ipc.services serviceIndex) ++ [index]
  owner : service.owner = (ipc.services serviceIndex).owner
  ownerPid : service.ownerPid = (ipc.services serviceIndex).ownerPid

theorem IpcInvariant.connected (invariant : IpcInvariant ipc)
    (connects : Connects ipc next process slot index serviceIndex entry service) :
    IpcInvariant next ∧ Connected ipc next index := by
  rcases references_with connects.toInstalls with ⟨endpointWith, listenerWith⟩
  rcases invariant.service_replaced connects.toReplaces with ⟨sameServices, servicesSound, names⟩
  rcases connects with ⟨⟨-, -, buffers⟩, ⟨services, serviceOpen, -, sameActive, -⟩,
    inside, free, isEndpoint, isIndex, isClient, connections, contents, -⟩
  generalize isConnection : newConnection ipc process (ipc.services serviceIndex) = connection at connections
  have active : connection.active = true := by rw [← isConnection]; rfl
  have opens : ∀ side, connection.sideOpen side = true := by
    intro side
    rw [← isConnection]
    cases side <;> rfl
  have queues : ∀ side, connection.incoming side = clearQueue := by
    intro side
    rw [← isConnection]
    cases side <;> rfl
  have notAccepted : connection.serverAccepted = false := by rw [← isConnection]; rfl
  have closed : ∀ side, ¬ EndpointOpen ipc (index, side) := by
    rintro side ⟨-, isActive, -⟩
    rw [free] at isActive
    cases isActive
  have endpointOpen : ∀ target, EndpointOpen next target ↔
      (EndpointOpen ipc target ∨ target = (index, .client)) ∨ target = (index, .server) := by
    rintro ⟨other, side⟩
    simp only [EndpointOpen, connections, Prod.mk.injEq]
    by_cases here : other = index
    · cases side <;> simp [here, inside, active, opens]
    · simp [here]
  have endpointRefers : ∀ reference target, EndpointRefers next reference target ↔
      (EndpointRefers ipc reference target ∨
        reference = .handle process slot ∧ target = (index, .client)) ∨
      reference = .pending serviceIndex ∧ target = (index, .server) := by
    intro reference target
    cases reference with
    | handle owner position =>
      grind
    | pending other =>
      rcases target with ⟨connected, side⟩
      simp only [EndpointRefers, services, reduceCtorEq, false_and, or_false,
        Referee.pending.injEq, Prod.mk.injEq]
      by_cases here : other = serviceIndex
      · subst here
        simp only [if_true, sameActive, serviceOpen.1, serviceOpen.2, contents, true_and,
          List.mem_append, List.mem_singleton]
        constructor
        · simp_all
        grind
      grind
  have attachments : ∀ other < ipcGlobalConnectionMax, ∀ side, ∀ position < ipcMessagesPerDirection,
      (((next.connections other).incoming side).messages position).attachment =
        (((ipc.connections other).incoming side).messages position).attachment := by
    intro other otherInside side position inQueue
    rw [connections]
    split
    · rename_i here
      rw [here, queues, invariant.inactive_attachment inside free side inQueue]
      rfl
    · rfl
  refine ⟨?_, ⟨inside, free, by rw [connections, if_pos rfl, active], fun side => ?_, ?_⟩⟩
  · constructor
    case endpoints =>
      have first : UniquelyReferenced (fun target => EndpointOpen ipc target ∨ target = (index, .client))
          (fun reference target => EndpointRefers ipc reference target ∨
            reference = .handle process slot ∧ target = (index, .client)) :=
        invariant.endpoints.insert (closed .client) (fun _ => Iff.rfl) (fun _ _ => Iff.rfl)
      have stillClosed : ¬ (EndpointOpen ipc (index, .server) ∨
          (index, IpcSide.server) = (index, .client)) := by
        rintro (isOpen | same)
        · exact closed .server isOpen
        · cases same
      exact first.insert stillClosed endpointOpen endpointRefers
    case listeners =>
      refine invariant.listeners.congr sameServices fun reference other => ?_
      simp [*]
    case accepted =>
      intro reference other referred
      rw [connections]
      rcases (endpointRefers _ _).mp referred with (old | ⟨-, impossible⟩) | ⟨isPending, isTarget⟩
      · have different : other ≠ index := by
          rintro rfl
          exact closed .server (invariant.endpoints.sound _ _ old)
        rw [if_neg different]
        exact invariant.accepted reference other old
      · cases impossible
      simp_all
    case connections =>
      intro other otherInside
      rw [connections]
      split
      · refine ⟨fun side => ?_, fun side impossible => ?_, ?_⟩
        · rw [queues]
          exact queueSound_clearQueue
        · grind
        · rw [active]
          simp only [true_iff]
          exact ⟨.client, opens .client⟩
      · exact invariant.connections other otherInside
    case services => exact servicesSound
    case names => exact names
    case buffers =>
      rw [buffers]
      exact invariant.buffers.congr (messageHolds_congr attachments)
  · rw [connections, if_pos rfl, queues]
    rfl
  · intro other side different isOpen
    simp_all

/-- The server's side is handed on from the list of the service to a handle. -/
structure Accepts (ipc next : IpcTables) (process slot index serviceIndex : Nat)
    (entry : IpcHandleEntry) (service : IpcService) : Prop extends
    Installs ipc next process slot entry, Replaces ipc next serviceIndex service where
  isEndpoint : entry.type = .endpoint
  isIndex : entry.objectIndex = index
  isServer : entry.side = .server
  connections : ∀ other, next.connections other =
    if other = index then { ipc.connections index with serverAccepted := true }
    else ipc.connections other
  contents : pendingContents (ipc.services serviceIndex) = index :: pendingContents service
  owner : service.owner = (ipc.services serviceIndex).owner
  ownerPid : service.ownerPid = (ipc.services serviceIndex).ownerPid

theorem IpcInvariant.acceptedOne (invariant : IpcInvariant ipc)
    (accepts : Accepts ipc next process slot index serviceIndex entry service) :
    IpcInvariant next ∧ QueuesKept ipc next := by
  rcases references_with accepts.toInstalls with ⟨endpointWith, listenerWith⟩
  rcases invariant.service_replaced accepts.toReplaces with ⟨sameServices, servicesSound, names⟩
  rcases accepts with ⟨⟨-, -, buffers⟩, ⟨services, serviceOpen, -, sameActive, -⟩,
    isEndpoint, isIndex, isServer, connections, contents, -⟩
  have nodup := (invariant.services serviceIndex serviceOpen.1).nodup
  have incoming : ∀ other side, (next.connections other).incoming side =
      (ipc.connections other).incoming side := by
    intro other side
    rw [connections]
    split
    · rename_i here
      rw [here]
      cases side <;> rfl
    · rfl
  have endpointOpen : ∀ target, EndpointOpen next target ↔ EndpointOpen ipc target := by
    rintro ⟨other, side⟩
    simp only [EndpointOpen, connections]
    split
    · rename_i here
      rw [here]
      cases side <;> rfl
    · rfl
  have inside : EndpointRefers ipc (.pending serviceIndex) (index, .server) :=
    ⟨serviceOpen.1, serviceOpen.2, rfl, by rw [contents]; exact List.mem_cons_self⟩
  have endpointRefers : ∀ reference target, EndpointRefers next reference target ↔
      EndpointRefers ipc reference target ∧
          ¬ (reference = .pending serviceIndex ∧ target = (index, .server)) ∨
        reference = .handle process slot ∧ target = (index, .server) := by
    intro reference target
    cases reference with
    | handle owner position =>
      grind
    | pending other =>
      simp only [EndpointRefers, services, reduceCtorEq, false_and, or_false, Referee.pending.injEq]
      by_cases here : other = serviceIndex
      · subst here
        simp only [if_true, sameActive, serviceOpen.1, serviceOpen.2, contents, true_and, List.mem_cons]
        constructor
        · grind
        grind
      simp [*]
  refine ⟨?_, fun other side isOpen => ⟨(endpointOpen _).mp isOpen, incoming other side⟩⟩
  constructor
  case endpoints => exact invariant.endpoints.transfer inside endpointOpen endpointRefers
  case listeners =>
    refine invariant.listeners.congr sameServices fun reference other => ?_
    simp [*]
  case accepted =>
    intro reference other referred
    rw [connections]
    rcases (endpointRefers _ _).mp referred with ⟨old, different⟩ | ⟨isHandle, isTarget⟩
    · have apart : other ≠ index := by
        rintro rfl
        exact different ⟨invariant.endpoints.unique _ _ _ old inside, rfl⟩
      rw [if_neg apart]
      exact invariant.accepted reference other old
    simp_all
  case connections =>
    intro other otherInside
    have before := invariant.connections other otherInside
    rw [connections]
    split
    · rename_i here
      subst here
      refine ⟨fun side => ?_, fun side => ?_, ?_⟩
      · cases side
        · exact before.queues .client
        · exact before.queues .server
      · cases side
        · exact before.closed .client
        · exact before.closed .server
      · rw [before.opened]
        rfl
    · exact before
  case services => exact servicesSound
  case names => exact names
  case buffers =>
    rw [buffers]
    refine invariant.buffers.congr (messageHolds_congr fun other _ side position _ => ?_)
    rw [incoming]

end Handle

/-! ## The calls -/

theorem ipcServiceRegister_cases (ipc : IpcTables) (process : Nat) (name : List UInt8) (allocated : Bool) :
    SameTables ipc (ipcServiceRegister ipc process name allocated).2 ∨
      ∃ next slot index entry service, SameTables ipc next ∧
        ipcServiceNameValid name = true ∧ findService ipc name = none ∧
        findFreeService next = some index ∧ entry.type = .listener ∧ entry.objectIndex = index ∧
        { clearService with
          owner := some process
          ownerPid := (next.buffers.processes process).pid
          name := fun position => name.getD position 0
          active := true } = service ∧
        Installs next ((next.setService index service).setEntry process slot entry) process slot entry ∧
        (ipcServiceRegister ipc process name allocated).2 =
          (next.setService index service).setEntry process slot entry := by
  have unchanged := SameTables.refl ipc
  rw [ipcServiceRegister]
  split
  · exact Or.inl unchanged
  rename_i valid
  simp only [not_or, Bool.not_eq_false] at valid
  split
  · exact Or.inl unchanged
  rename_i missing
  rcases stateForProcess_cases ipc process true allocated with
    ⟨found, next, result, same, registered⟩
  simp only [result]
  cases found with
  | none => exact Or.inl same
  | some state =>
    cases freeService : findFreeService next with
    | none => exact Or.inl same
    | some index =>
      simp only
      split
      · exact Or.inl same
      rename_i room
      generalize isService : ({ clearService with
        owner := some process
        ownerPid := (next.buffers.processes process).pid
        name := fun position => name.getD position 0
        active := true } : IpcService) = service
      have stateKept : (next.setService index service).states process = some state :=
        registered state rfl
      rcases installHandle_spec stateKept room .listener index .client with
        ⟨handle, slot, entry, installed, empty, isListener, isIndex, -, handles⟩
      rw [installed]
      exact Or.inr ⟨next, slot, index, entry, service, same, valid.2,
        not_not.mp missing, freeService, isListener, isIndex, isService, ⟨empty, handles, rfl⟩, rfl⟩

theorem ipcServiceRegister_spec (invariant : IpcInvariant ipc) (process : Nat)
    (name : List UInt8) (allocated : Bool) :
    IpcInvariant (ipcServiceRegister ipc process name allocated).2 ∧
      QueuesKept ipc (ipcServiceRegister ipc process name allocated).2 := by
  rcases ipcServiceRegister_cases ipc process name allocated with
    same | ⟨next, slot, index, entry, service, same, valid, missing, freeService, isListener,
      isIndex, isService, installs, isNext⟩
  · exact ⟨invariant.of_same same, QueuesKept.of_connections same.connections⟩
  rcases findFreeService_eq_some freeService with ⟨inside, free⟩
  rw [isNext]
  refine ⟨?_, (QueuesKept.of_connections same.connections).trans (QueuesKept.of_connections rfl)⟩
  refine (invariant.of_same same).registered installs inside free isListener isIndex rfl
    (fun _ => Function.update_apply ..) ?_ ?_ ?_ ?_
  · rw [← isService]
    exact ⟨by simp only [clearService]; decide, Nat.zero_le _, fun _ => rfl, List.nodup_nil,
      fun _ => ⟨name, valid, rfl⟩⟩
  · rw [← isService]
  · rw [← isService]
    rfl
  · intro other isOpen
    have missing' : findService next name = none := by
      rw [findService, same.services]
      exact missing
    grind [findService_eq_none]

theorem ipcServiceConnect_cases (invariant : IpcInvariant ipc) (process : Nat)
    (name : List UInt8) (allocated : Bool) :
    SameTables ipc (ipcServiceConnect ipc process name allocated).2 ∨
      ∃ next slot index serviceIndex entry service, SameTables ipc next ∧
        Connects next (ipcServiceConnect ipc process name allocated).2 process slot index
          serviceIndex entry service := by
  rw [ipcServiceConnect]
  split
  · exact Or.inl (SameTables.refl ipc)
  cases isService : findService ipc name with
  | none => exact Or.inl (SameTables.refl ipc)
  | some serviceIndex =>
    have serviceOpen := findService_eq_some isService
    simp only
    split
    · exact Or.inl (SameTables.refl ipc)
    split
    · exact Or.inl (SameTables.refl ipc)
    rename_i notFull
    rcases stateForProcess_cases ipc process true allocated with
      ⟨found, next, result, same, registered⟩
    simp only [result]
    cases found with
    | none => exact Or.inl same
    | some state =>
      cases freeConnection : findFreeConnection next with
      | none => exact Or.inl same
      | some index =>
        simp only
        split
        · exact Or.inl same
        rename_i room
        rcases findFreeConnection_eq_some freeConnection with ⟨inside, free⟩
        have stateKept : (next.setConnection index (newConnection next process
            (ipc.services serviceIndex))).states process = some state :=
          registered state rfl
        rcases installHandle_spec stateKept room .endpoint index .client with
          ⟨handle, slot, entry, installed, empty, isEndpoint, isIndex, isClient, handles⟩
        rw [← same.services] at notFull installed ⊢
        have invariant' := invariant.of_same same
        have isOpen : ServiceOpen next serviceIndex := by
          rw [ServiceOpen, same.services]
          exact serviceOpen
        have absent : index ∉ pendingContents (next.services serviceIndex) := by
          intro member
          have refers : EndpointRefers next (.pending serviceIndex)
              (index, .server) := ⟨isOpen.1, isOpen.2, rfl, member⟩
          have isActive := (invariant'.endpoints.sound _ _ refers).2.1
          rw [free] at isActive
          cases isActive
        rcases pendingPush_spec (invariant'.services serviceIndex isOpen.1)
          isOpen.2 (Nat.not_le.mp notFull) absent with
          ⟨longer, pushed, contents, sound, active, sameName, owner, ownerPid⟩
        rw [installed]
        simp only [pushed]
        exact Or.inr ⟨next, slot, index, serviceIndex, entry, longer, same,
          ⟨empty, handles, rfl⟩, ⟨fun _ => Function.update_apply .., isOpen, sound,
            active.trans isOpen.2.symm, sameName⟩, inside, free, isEndpoint,
          isIndex, isClient, fun _ => Function.update_apply .., contents, owner,
          ownerPid⟩

theorem ipcServiceConnect_spec (invariant : IpcInvariant ipc) (process : Nat)
    (name : List UInt8) (allocated : Bool) :
    IpcInvariant (ipcServiceConnect ipc process name allocated).2 ∧
      (QueuesKept ipc (ipcServiceConnect ipc process name allocated).2 ∨
        ∃ index, Connected ipc (ipcServiceConnect ipc process name allocated).2 index) := by
  rcases ipcServiceConnect_cases invariant process name allocated with
    same | ⟨next, slot, index, serviceIndex, entry, service, same, connects⟩
  · exact ⟨invariant.of_same same, Or.inl (QueuesKept.of_connections same.connections)⟩
  rcases (invariant.of_same same).connected connects with ⟨kept, connected⟩
  refine ⟨kept, Or.inr ⟨index, connected.inside, ?_, connected.active, connected.queues, ?_⟩⟩
  · rw [← same.connections]
    exact connected.free
  · exact (QueuesKept.of_connections same.connections).before connected.kept

theorem ipcServiceAccept_cases (invariant : IpcInvariant ipc) (process listenerHandle : Nat) :
    SameTables ipc (ipcServiceAccept ipc process listenerHandle).2 ∨
      ∃ next slot index serviceIndex entry service, SameTables ipc next ∧
        Accepts next (ipcServiceAccept ipc process listenerHandle).2 process slot index
          serviceIndex entry service := by
  rw [ipcServiceAccept]
  split
  · exact Or.inl (SameTables.refl ipc)
  rcases lookupHandle_cases ipc process listenerHandle .listener with
    ⟨listener, looked, lookedResult, lookedSame, lookedEntry⟩
  simp only [lookedResult]
  cases listener with
  | none => exact Or.inl lookedSame
  | some pair =>
    rcases pair with ⟨listenerSlot, listenerEntry⟩
    rcases lookedEntry _ _ rfl with ⟨listenerActive, isListener⟩
    have serviceOpen : ServiceOpen looked listenerEntry.objectIndex :=
      (invariant.of_same lookedSame).listeners.sound (process, listenerSlot) _
        ⟨listenerEntry, listenerActive, isListener, rfl⟩
    simp only
    split
    · exact Or.inl lookedSame
    split
    · exact Or.inl lookedSame
    cases peeked : pendingPeek (looked.services listenerEntry.objectIndex) with
    | none => exact Or.inl lookedSame
    | some index =>
      simp only
      split
      · exact Or.inl lookedSame
      rcases stateForProcess_cases looked process true true with
        ⟨found, next, result, same, registered⟩
      have sameAll := lookedSame.trans same
      simp only [result]
      cases found with
      | none => exact Or.inl sameAll
      | some state =>
        by_cases room : findFreeHandle state = none
        · simp_all [installHandle]
        rcases installHandle_spec (registered state rfl) room .endpoint index .server with
          ⟨handle, slot, entry, installed, empty, isEndpoint, isIndex, isServer, handles⟩
        rw [← same.services] at peeked ⊢
        rw [← same.connections]
        have isOpen : ServiceOpen next listenerEntry.objectIndex := by
          rw [ServiceOpen, same.services]
          exact serviceOpen
        have waits : (next.services listenerEntry.objectIndex).pendingCount ≠
            0 := by
          intro zero
          rw [pendingPeek, if_pos zero] at peeked
          cases peeked
        rcases pendingPop_spec ((invariant.of_same sameAll).services _ isOpen.1) waits with
          ⟨popped, rest, poppedResult, poppedPeek, contents, sound, active,
            sameName, -, owner, ownerPid⟩
        rw [peeked] at poppedPeek
        cases poppedPeek
        simp only [installed, poppedResult, ne_eq, not_true_eq_false, if_false]
        exact Or.inr ⟨next, slot, index, _, entry, rest, sameAll,
          ⟨empty, handles, rfl⟩, ⟨fun _ => Function.update_apply .., isOpen,
            sound, active, sameName⟩, isEndpoint, isIndex, isServer,
          fun _ => Function.update_apply .., contents, owner, ownerPid⟩

theorem ipcServiceAccept_spec (invariant : IpcInvariant ipc) (process listenerHandle : Nat) :
    IpcInvariant (ipcServiceAccept ipc process listenerHandle).2 ∧
      QueuesKept ipc (ipcServiceAccept ipc process listenerHandle).2 := by
  rcases ipcServiceAccept_cases invariant process listenerHandle with
    same | ⟨next, slot, index, serviceIndex, entry, service, same, accepts⟩
  · exact ⟨invariant.of_same same, QueuesKept.of_connections same.connections⟩
  · rcases (invariant.of_same same).acceptedOne accepts with ⟨kept, queues⟩
    exact ⟨kept, (QueuesKept.of_connections same.connections).trans queues⟩

end Opening

end BoringOS.Ipc
