import BoringOS.Ipc.EndpointClosing

namespace BoringOS.Ipc

open Library

/-!
# Closing handles and services

A handle goes away together with the side or the service that it stands for.
A service goes away after its pending connections, and each of these loses its
server side together with its place in the list.
-/

section Closing

variable {ipc : IpcTables}

theorem IpcInvariant.closed (invariant : IpcInvariant ipc) {middle closed next : IpcTables}
    {index : Nat} {side : IpcSide} {dropped : Referee} (same : middle.connections = ipc.connections)
    (sideClosed : SideClosed middle closed index side)
    (connections : next.connections = closed.connections) (buffers : next.buffers = closed.buffers)
    (inside : EndpointRefers ipc dropped (index, side))
    (refers : ∀ reference target, EndpointRefers next reference target ↔
      EndpointRefers ipc reference target ∧ ¬ (reference = dropped ∧ target = (index, side)))
    (serviceOpen : ∀ service, ServiceOpen next service ↔ ServiceOpen ipc service)
    (listenerRefers : ∀ reference service, ListenerRefers next reference service ↔
      ListenerRefers ipc reference service)
    (services : ∀ service < ipcGlobalServiceMax, ServiceSound (next.services service))
    (names : ∀ service, (next.services service).name = (ipc.services service).name) :
    IpcInvariant next := by
  have opens : ∀ target, EndpointOpen next target ↔ EndpointOpen ipc target ∧ target ≠ (index, side) := by
    intro target
    have closedIff := sideClosed.endpoints target
    simp only [EndpointOpen, same] at closedIff
    rw [EndpointOpen, EndpointOpen, connections]
    exact closedIff
  have endpoints : UniquelyReferenced (EndpointOpen next) (EndpointRefers next) :=
    invariant.endpoints.erase inside opens refers
  constructor
  case endpoints => exact endpoints
  case listeners => exact invariant.listeners.congr serviceOpen listenerRefers
  case accepted =>
    intro reference other referred
    have isOpen : EndpointOpen closed (other, .server) := by
      have isOpen := endpoints.sound _ _ referred
      rw [EndpointOpen, connections] at isOpen
      exact isOpen
    rw [connections, sideClosed.accepted other isOpen, same]
    exact invariant.accepted reference other ((refers _ _).mp referred).1
  case connections =>
    rw [connections]
    exact sideClosed.connections
  case services => exact services
  case names =>
    intro first second firstOpen secondOpen
    rw [names, names]
    exact invariant.names first second ((serviceOpen _).mp firstOpen) ((serviceOpen _).mp secondOpen)
  case buffers =>
    rw [buffers, connections]
    exact sideClosed.buffers

variable {process slot : Nat}

variable {entry : IpcHandleEntry}

/-- Dropping a handle drops its reference, of either kind. -/
theorem references_without {next : IpcTables} (active : ipc.handle? process slot = some entry)
    (services : next.services = ipc.services) (handles : ∀ owner position,
      next.handle? owner position =
        if owner = process ∧ position = slot then none else ipc.handle? owner position) :
    (∀ reference target, EndpointRefers next reference target ↔
      EndpointRefers ipc reference target ∧ ¬ (reference = .handle process slot ∧
        entry.type = .endpoint ∧ target = (entry.objectIndex, entry.side))) ∧
    ∀ reference service, ListenerRefers next reference service ↔ ListenerRefers ipc reference service ∧
        ¬ (reference = (process, slot) ∧ entry.type = .listener) := by
  constructor
  · intro reference target
    cases reference with
    | pending service => simp [EndpointRefers, services]
    | handle owner position =>
      simp only [EndpointRefers, handles, Referee.handle.injEq]
      grind
  · rintro ⟨owner, position⟩ service
    simp only [ListenerRefers, handles, Prod.mk.injEq]
    grind

theorem handle?_invalidate_of_states {middle : IpcTables} (states : middle.states = ipc.states)
    (active : ipc.handle? process slot = some entry) (owner position : Nat) :
    (invalidateHandleEntry middle process slot entry).handle? owner position =
      if owner = process ∧ position = slot then none else ipc.handle? owner position := by
  have same : ∀ owner slot, middle.handle? owner slot = ipc.handle? owner slot := by
    intro owner slot
    rw [IpcTables.handle?, IpcTables.handle?, states]
  rw [handle?_invalidate ((same process slot).trans active), same]

/-- What closing a handle leaves behind. -/
structure HandleClosed (ipc next : IpcTables) (process slot : Nat) : Prop where
  invariant : IpcInvariant next
  kept : QueuesKept ipc next
  handles : ∀ owner position, next.handle? owner position =
    if owner = process ∧ position = slot then none else ipc.handle? owner position

theorem closeEndpointEntry (invariant : IpcInvariant ipc) (active : ipc.handle? process slot = some entry)
    (isEndpoint : entry.type = .endpoint) :
    HandleClosed ipc (closeEntry ipc process slot entry) process slot := by
  have refers : EndpointRefers ipc (.handle process slot) (entry.objectIndex, entry.side) :=
    ⟨entry, active, isEndpoint, rfl⟩
  have isOpen := invariant.endpoints.sound _ _ refers
  have inside : entry.objectIndex < ipcGlobalConnectionMax := isOpen.1
  have closed := closeConnectionSide_spec invariant.connections invariant.buffers isOpen
  have handles := handle?_invalidate_of_states closed.states active
  simp only [closeEntry, isEndpoint, if_pos inside]
  have services : (invalidateHandleEntry (closeConnectionSide ipc entry.objectIndex entry.side)
      process slot entry).services = ipc.services := closed.services
  have without := references_without active services handles
  refine ⟨invariant.closed rfl closed rfl rfl refers (fun reference target => ?_)
    (fun service => ?_) (fun reference service => ?_) ?_ (fun service => ?_), closed.kept, handles⟩
  · simp [without.1, isEndpoint]
  · simp only [ServiceOpen, invalidateHandleEntry, IpcTables.setEntry, closed.services]
  · simp [without.2, isEndpoint]
  · simp only [invalidateHandleEntry, IpcTables.setEntry, closed.services]
    exact invariant.services
  simp [*]

/-! ## Pending connections -/

/-- A service after its oldest pending connection has been taken off. -/
theorem pendingPop_spec {service : IpcService} (sound : ServiceSound service)
    (some' : service.pendingCount ≠ 0) :
    ∃ index rest, pendingPop service = some (index, rest) ∧ pendingPeek service = some index ∧
      pendingContents service = index :: pendingContents rest ∧ ServiceSound rest ∧
      rest.active = service.active ∧ rest.name = service.name ∧
      rest.pendingCount + 1 = service.pendingCount ∧ rest.owner = service.owner ∧
      rest.ownerPid = service.ownerPid := by
  rcases Nat.exists_eq_succ_of_ne_zero some' with ⟨count, isCount⟩
  have room : count < ipcPendingPerService := by
    have bound := sound.countInside
    omega
  have rest : service.pendingCount - 1 = count := by omega
  have unused := head_not_inRing sound.headInside room
  have contents : pendingContents service = service.pending service.pendingHead ::
      ringContents (Function.update service.pending service.pendingHead ipcIndexInvalid)
        ipcPendingPerService ((service.pendingHead + 1) % ipcPendingPerService)
        (service.pendingCount - 1) := by
    rw [pendingContents, isCount, ringContents, Nat.succ_sub_one,
      ringContents_update _ (Nat.mod_lt _ (by decide)) unused]
  have nodup := sound.nodup
  rw [contents] at nodup
  have peeked : pendingPeek service = some (service.pending service.pendingHead) := by
    rw [pendingPeek, if_neg some']
  have popped : pendingPop service = some (service.pending service.pendingHead, { service with
      pending := Function.update service.pending service.pendingHead ipcIndexInvalid
      pendingHead := (service.pendingHead + 1) % ipcPendingPerService
      pendingCount := service.pendingCount - 1 }) := by
    rw [pendingPop, peeked]
  refine ⟨_, _, popped, peeked, contents, ?_, rfl, rfl, ?_, rfl, rfl⟩
  · refine ⟨Nat.mod_lt _ (by decide), ?_, fun inactive => ?_, (List.nodup_cons.mp nodup).2, sound.named⟩
    · simp only [rest]
      omega
    · exact absurd (sound.idle inactive) some'
  · simp only [rest]
    omega

/-- One round of unregistering: the oldest pending connection loses its server
side. -/
theorem unregisterPending_spec (invariant : IpcInvariant ipc) {index : Nat}
    (isOpen : ServiceOpen ipc index) (some' : (ipc.services index).pendingCount ≠ 0) :
    IpcInvariant (unregisterPending ipc index) ∧
      QueuesKept ipc (unregisterPending ipc index) ∧
      (unregisterPending ipc index).states = ipc.states ∧
      ((unregisterPending ipc index).services index).active = true ∧
      ((unregisterPending ipc index).services index).pendingCount + 1 =
        (ipc.services index).pendingCount := by
  rcases pendingPop_spec (invariant.services index isOpen.1) some' with
    ⟨connection, rest, popped, -, contents, restSound, restActive, restName, restCount, -⟩
  have sound := invariant.services index isOpen.1
  have refers : EndpointRefers ipc (.pending index) (connection, .server) :=
    ⟨isOpen.1, isOpen.2, rfl, by rw [contents]; exact List.mem_cons_self⟩
  have sideOpen := invariant.endpoints.sound _ _ refers
  have notAccepted : (ipc.connections connection).serverAccepted = false := by
    apply Bool.eq_false_iff.mpr
    intro accepted
    rcases (invariant.accepted _ _ refers).mp accepted with ⟨owner, slot, impossible⟩
    cases impossible
  have closes : connection < ipcGlobalConnectionMax ∧
      ((ipc.setService index rest).connections connection).active = true ∧
      ((ipc.setService index rest).connections connection).serverAccepted = false :=
    ⟨sideOpen.1, sideOpen.2.1, notAccepted⟩
  have closed : SideClosed (ipc.setService index rest)
      (closeConnectionSide (ipc.setService index rest) connection .server) connection .server :=
    closeConnectionSide_spec invariant.connections invariant.buffers sideOpen
  simp only [unregisterPending, popped, if_pos closes]
  have services : ∀ service,
      (closeConnectionSide (ipc.setService index rest) connection .server).services service =
        if service = index then rest else ipc.services service := by
    intro service
    rw [closed.services]
    simp only [IpcTables.setService, Function.update_apply]
  have handles : ∀ owner slot,
      (closeConnectionSide (ipc.setService index rest) connection .server).handle? owner slot =
        ipc.handle? owner slot := by
    intro owner slot
    rw [IpcTables.handle?, IpcTables.handle?, closed.states]
    rfl
  have sameConnections : (ipc.setService index rest).connections = ipc.connections := rfl
  refine ⟨invariant.closed sameConnections closed rfl rfl refers (fun reference target => ?_)
    (fun service => ?_) (fun reference service => ?_) (fun service inside => ?_)
    (fun service => ?_), closed.kept, closed.states, ?_, ?_⟩
  · cases reference with
    | handle owner slot => simp only [EndpointRefers, handles, reduceCtorEq, false_and,
        not_false_eq_true, and_true]
    | pending service =>
      rcases target with ⟨-, -⟩
      simp only [EndpointRefers, services, Referee.pending.injEq, Prod.mk.injEq]
      by_cases here : service = index
      · subst here
        have nodup := sound.nodup
        rw [contents] at nodup
        have absent := (List.nodup_cons.mp nodup).1
        simp only [if_true, restActive, contents, List.mem_cons, true_and]
        constructor
        · grind
        grind
      simp [*]
  · simp only [ServiceOpen, services]
    grind
  · simp only [ListenerRefers, handles]
  · rw [services]
    split
    · exact restSound
    · exact invariant.services service inside
  · grind
  · rw [services, if_pos rfl, restActive]
    exact isOpen.2
  simp [*]

theorem unregisterLoop_spec (index : Nat) (count : Nat) :
    ∀ ipc, IpcInvariant ipc → ServiceOpen ipc index →
      (ipc.services index).pendingCount = count →
      IpcInvariant (unregisterLoop count ipc index) ∧ QueuesKept ipc (unregisterLoop count ipc index) ∧
        (unregisterLoop count ipc index).states = ipc.states ∧
        ((unregisterLoop count ipc index).services index).active = true ∧
        ((unregisterLoop count ipc index).services index).pendingCount = 0 := by
  induction count with
  | zero => exact fun ipc invariant isOpen empty =>
    ⟨invariant, QueuesKept.refl ipc, rfl, isOpen.2, empty⟩
  | succ count ih =>
    intro ipc invariant isOpen isCount
    rcases unregisterPending_spec invariant isOpen (by omega) with
      ⟨kept, queues, states, active, rest⟩
    rcases ih _ kept ⟨isOpen.1, active⟩ (by omega) with
      ⟨keptAll, queuesAll, statesAll, activeAll, empty⟩
    exact ⟨keptAll, queues.trans queuesAll, statesAll.trans states, activeAll, empty⟩

theorem serviceSound_clear : ServiceSound clearService :=
  ⟨by decide, by decide, fun _ => rfl, List.nodup_nil, fun impossible => nomatch impossible⟩

section

variable (invariant : IpcInvariant ipc)
include invariant

theorem closeListenerEntry (active : ipc.handle? process slot = some entry)
    (isListener : entry.type = .listener) :
    HandleClosed ipc (closeEntry ipc process slot entry) process slot := by
  have refers : ListenerRefers ipc (process, slot) entry.objectIndex :=
    ⟨entry, active, isListener, rfl⟩
  have isOpen := invariant.listeners.sound _ _ refers
  rcases unregisterLoop_spec entry.objectIndex _ ipc invariant isOpen rfl with
    ⟨loopInvariant, loopKept, states, -, empty⟩
  have open' : ¬ (ipc.services entry.objectIndex).active = false := by
    rw [isOpen.2]
    decide
  simp only [closeEntry, isListener, if_pos isOpen.1, unregisterService, if_neg open']
  generalize unregisterLoop (ipc.services entry.objectIndex).pendingCount ipc entry.objectIndex = emptied at *
  have sameHandles : ∀ owner position, emptied.handle? owner position = ipc.handle? owner position := by
    intro owner position
    rw [IpcTables.handle?, IpcTables.handle?, states]
  have clearedStates : (emptied.setService entry.objectIndex clearService).states = ipc.states :=
    states
  have handles := handle?_invalidate_of_states clearedStates active
  generalize isNext : invalidateHandleEntry (emptied.setService entry.objectIndex clearService)
    process slot entry = next at *
  have connections : next.connections = emptied.connections := by rw [← isNext]; rfl
  have buffers : next.buffers = emptied.buffers := by rw [← isNext]; rfl
  have services : ∀ service, next.services service =
      if service = entry.objectIndex then clearService else emptied.services service := by
    intro service
    rw [← isNext]
    simp only [invalidateHandleEntry, IpcTables.setEntry, IpcTables.setService, Function.update_apply]
  have loopRefers : ListenerRefers emptied (process, slot) entry.objectIndex :=
    ⟨entry, (sameHandles _ _).trans active, isListener, rfl⟩
  have serviceOpen : ∀ service, ServiceOpen next service ↔
      ServiceOpen emptied service ∧ service ≠ entry.objectIndex := by
    intro service
    simp only [ServiceOpen, services]
    by_cases here : service = entry.objectIndex
    · simp [here, clearService]
    · simp [here]
  have endpointRefers : ∀ reference target, EndpointRefers next reference target ↔
      EndpointRefers emptied reference target := by
    intro reference target
    cases reference with
    | handle owner position =>
      grind [EndpointRefers]
    | pending service =>
      simp only [EndpointRefers, services]
      by_cases here : service = entry.objectIndex
      · simp [here, clearService, pendingContents, empty, ringContents]
      · simp [here]
  refine ⟨?_, loopKept.trans (QueuesKept.of_connections connections), handles⟩
  constructor
  case endpoints =>
    refine loopInvariant.endpoints.congr (fun target => ?_) endpointRefers
    rw [EndpointOpen, EndpointOpen, connections]
  case listeners =>
    refine loopInvariant.listeners.erase loopRefers serviceOpen fun reference service => ?_
    grind [ListenerRefers]
  case accepted =>
    intro reference index referred
    rw [connections]
    exact loopInvariant.accepted reference index ((endpointRefers _ _).mp referred)
  case connections =>
    rw [connections]
    exact loopInvariant.connections
  case services =>
    intro service inside
    rw [services]
    split
    · exact serviceSound_clear
    · exact loopInvariant.services service inside
  case names =>
    intro first second firstOpen secondOpen
    rcases (serviceOpen first).mp firstOpen with ⟨firstOpen, firstOther⟩
    rcases (serviceOpen second).mp secondOpen with ⟨secondOpen, secondOther⟩
    rw [services, services, if_neg firstOther, if_neg secondOther]
    exact loopInvariant.names first second firstOpen secondOpen
  case buffers =>
    rw [buffers, connections]
    exact loopInvariant.buffers

theorem closeUntypedEntry (active : ipc.handle? process slot = some entry) (untyped : entry.type = .none) :
    HandleClosed ipc (closeEntry ipc process slot entry) process slot := by
  have handles := handle?_invalidate active
  simp only [closeEntry, untyped]
  have services : (invalidateHandleEntry ipc process slot entry).services = ipc.services := rfl
  have without := references_without active services handles
  have endpointRefers : ∀ reference target,
      EndpointRefers (invalidateHandleEntry ipc process slot entry) reference target ↔
        EndpointRefers ipc reference target := by simp [without.1, untyped]
  have listenerRefers : ∀ reference service,
      ListenerRefers (invalidateHandleEntry ipc process slot entry) reference service ↔
        ListenerRefers ipc reference service := by simp [without.2, untyped]
  refine ⟨⟨?_, ?_, ?_, invariant.connections, invariant.services, invariant.names,
    invariant.buffers⟩, QueuesKept.of_connections rfl, handles⟩
  · exact invariant.endpoints.congr (fun _ => Iff.rfl) endpointRefers
  · exact invariant.listeners.congr (fun _ => Iff.rfl) listenerRefers
  · intro reference index referred
    exact invariant.accepted reference index ((endpointRefers _ _).mp referred)

theorem closeEntry_spec (active : ipc.handle? process slot = some entry) :
    HandleClosed ipc (closeEntry ipc process slot entry) process slot := by
  cases type : entry.type with
  | none => exact closeUntypedEntry invariant active type
  | listener => exact closeListenerEntry invariant active type
  | endpoint => exact closeEndpointEntry invariant active type

/-! ## The two calls -/

omit invariant in
theorem ipcClose_cases (ipc : IpcTables) (process handle : Nat) :
    ∃ next, SameTables ipc next ∧ ((ipcClose ipc process handle).2 = next ∨
      ∃ slot entry, next.handle? process slot = some entry ∧
        (ipcClose ipc process handle).2 = closeEntry next process slot entry) := by
  rw [ipcClose]
  split
  · exact ⟨ipc, SameTables.refl ipc, Or.inl rfl⟩
  cases decoded : decodeHandle handle with
  | none => exact ⟨ipc, SameTables.refl ipc, Or.inl rfl⟩
  | some parts =>
    rcases stateForProcess_cases ipc process false false with
      ⟨found, next, result, same, registered⟩
    refine ⟨next, same, ?_⟩
    simp only [result]
    cases found with
    | none => exact Or.inl rfl
    | some state =>
      simp only
      split
      · exact Or.inl rfl
      rename_i valid
      simp only [not_or, Bool.not_eq_false] at valid
      split
      · exact Or.inl rfl
      split
      · exact Or.inl rfl
      split
      · exact Or.inl rfl
      have inside : parts.1 < ipcHandlesPerProcess := by
        simp only [decodeHandle] at decoded
        split at decoded
        · cases decoded
        · grind
      exact Or.inr ⟨parts.1, state.handles parts.1, handle?_eq_some.mpr
        ⟨state, registered state rfl, inside, rfl, valid.1⟩, rfl⟩

theorem ipcClose_spec (process handle : Nat) :
    IpcInvariant (ipcClose ipc process handle).2 ∧
      QueuesKept ipc (ipcClose ipc process handle).2 := by
  rcases ipcClose_cases ipc process handle with ⟨next, same, isNext | ⟨slot, entry, active, isNext⟩⟩
  · rw [isNext]
    exact ⟨invariant.of_same same, QueuesKept.of_connections same.connections⟩
  have closed := closeEntry_spec (invariant.of_same same) active
  rw [isNext]
  exact ⟨closed.invariant, (QueuesKept.of_connections same.connections).trans closed.kept⟩

/-- One round of the cleanup: the slot is empty afterwards, and no other
slot has been filled. -/
theorem cleanupSlot_spec (process slot : Nat) (inside : slot < ipcHandlesPerProcess) :
    IpcInvariant (cleanupSlot process ipc slot) ∧ QueuesKept ipc (cleanupSlot process ipc slot) ∧
      (cleanupSlot process ipc slot).handle? process slot = none ∧
      ∀ owner position, ipc.handle? owner position = none →
        (cleanupSlot process ipc slot).handle? owner position = none := by
  rw [cleanupSlot]
  cases registered : ipc.states process with
  | none =>
    refine ⟨invariant, QueuesKept.refl ipc, ?_, fun _ _ empty => empty⟩
    rw [IpcTables.handle?, registered]
  | some state =>
    simp only
    split
    · rename_i inactive
      refine ⟨invariant, QueuesKept.refl ipc, ?_, fun _ _ empty => empty⟩
      simp [IpcTables.handle?, registered, inactive]
    rename_i isActive
    have active : ipc.handle? process slot = some (state.handles slot) :=
      handle?_eq_some.mpr ⟨state, registered, inside, rfl, Bool.of_not_eq_false isActive⟩
    have closed := closeEntry_spec invariant active
    refine ⟨closed.invariant, closed.kept, ?_, fun owner position empty => ?_⟩
    · rw [closed.handles, if_pos ⟨rfl, rfl⟩]
    · rw [closed.handles]
      grind

end

theorem cleanupSlots_spec (process : Nat) (slots : List Nat) :
    ∀ ipc, (∀ slot ∈ slots, slot < ipcHandlesPerProcess) → IpcInvariant ipc →
      IpcInvariant (slots.foldl (cleanupSlot process) ipc) ∧
        QueuesKept ipc (slots.foldl (cleanupSlot process) ipc) ∧
        (∀ slot ∈ slots, (slots.foldl (cleanupSlot process) ipc).handle? process slot = none) ∧
        ∀ owner position, ipc.handle? owner position = none →
          (slots.foldl (cleanupSlot process) ipc).handle? owner position = none := by
  induction slots with
  | nil =>
    simp [QueuesKept.refl]
  | cons slot rest ih =>
    intro ipc inside invariant
    rcases cleanupSlot_spec invariant process slot (inside slot List.mem_cons_self) with
      ⟨kept, queues, emptied, stays⟩
    rcases ih (cleanupSlot process ipc slot)
      (fun other member => inside other (List.mem_cons_of_mem slot member)) kept with
      ⟨keptAll, queuesAll, emptiedAll, staysAll⟩
    refine ⟨keptAll, queues.trans queuesAll, fun other member => ?_,
      fun owner position empty => staysAll _ _ (stays _ _ empty)⟩
    grind

theorem ipcProcessCleanup_spec (invariant : IpcInvariant ipc) (process : Nat) :
    IpcInvariant (ipcProcessCleanup ipc process) ∧
      QueuesKept ipc (ipcProcessCleanup ipc process) := by
  rw [ipcProcessCleanup]
  rcases stateForProcess_cases ipc process false false with ⟨found, next, result, same, -⟩
  have looked : IpcInvariant next ∧ QueuesKept ipc next :=
    ⟨invariant.of_same same, QueuesKept.of_connections same.connections⟩
  rw [result]
  cases found with
  | none => exact looked
  | some state =>
    simp only
    rcases cleanupSlots_spec process (List.range ipcHandlesPerProcess) next
      (fun slot member => List.mem_range.mp member) looked.1 with ⟨kept, queues, emptied, -⟩
    generalize (List.range ipcHandlesPerProcess).foldl (cleanupSlot process) next = cleaned at *
    -- All slots are empty, so that nothing is lost with the state itself.
    have unseen : SameTables cleaned
        { cleaned with states := Function.update cleaned.states process none } := by
      refine ⟨rfl, rfl, rfl, fun owner slot => ?_⟩
      by_cases isProcess : owner = process
      · subst isProcess
        have gone : IpcTables.handle?
            { cleaned with states := Function.update cleaned.states owner none } owner slot =
              none := by
          simp only [IpcTables.handle?, Function.update_self]
        rw [gone]
        by_cases inside : slot < ipcHandlesPerProcess
        · simp [*]
        · rw [IpcTables.handle?]
          grind
      · simp only [IpcTables.handle?, Function.update_apply, if_neg isProcess]
    exact ⟨kept.of_same unseen,
      looked.2.trans (queues.trans (QueuesKept.of_connections unseen.connections))⟩

end Closing

end BoringOS.Ipc
