import BoringOS.Ipc.IpcRuns

namespace BoringOS.Ipc

open Library

/-!
# For whom a pending connection is

`boring_ipc_service_accept` refuses a connection that is not for the process
that accepts it.  Such a connection never waits at a service of that process:
a connection takes its server from the service to which it is pending, and
neither of them changes its owner while it waits.
-/

/-- The server of a pending connection is the owner of its service. -/
def PendingOwned (ipc : IpcTables) : Prop :=
  ∀ service, ServiceOpen ipc service → ∀ index ∈ pendingContents (ipc.services service),
    (ipc.connections index).serverOwner = (ipc.services service).owner ∧
      (ipc.connections index).serverPid = (ipc.services service).ownerPid

/-- No connection is opened or changes its server. -/
def ServersKept (connections next : Nat → IpcConnection) : Prop :=
  ∀ index, (next index).active = true → (connections index).active = true ∧
    (next index).serverOwner = (connections index).serverOwner ∧
    (next index).serverPid = (connections index).serverPid

theorem ServersKept.refl (connections : Nat → IpcConnection) :
    ServersKept connections connections :=
  fun _ isActive => ⟨isActive, rfl, rfl⟩

theorem ServersKept.trans {connections middle next : Nat → IpcConnection}
    (first : ServersKept connections middle) (second : ServersKept middle next) :
    ServersKept connections next := by
  intro index isActive
  rcases second index isActive with ⟨wasActive, owner, pid⟩
  rcases first index wasActive with ⟨before, owner', pid'⟩
  simp [*]

theorem ServersKept.update (connections : Nat → IpcConnection) {index : Nat}
    {connection : IpcConnection}
    (kept : connection.active = true → (connections index).active = true ∧
      connection.serverOwner = (connections index).serverOwner ∧
      connection.serverPid = (connections index).serverPid) :
    ServersKept connections (Function.update connections index connection) := by
  intro other isActive
  grind

/-- What a step does to the services and to the connections that may be pending -/
structure OwnersKept (ipc next : IpcTables) : Prop where
  servers : ServersKept ipc.connections next.connections
  services : ∀ service, ServiceOpen next service →
    pendingContents (next.services service) = [] ∨
      (ServiceOpen ipc service ∧
        (next.services service).owner = (ipc.services service).owner ∧
        (next.services service).ownerPid = (ipc.services service).ownerPid ∧
        ∀ index ∈ pendingContents (next.services service),
          index ∈ pendingContents (ipc.services service))

theorem OwnersKept.of_services {ipc next : IpcTables} (servers : ServersKept ipc.connections next.connections)
    (services : next.services = ipc.services) : OwnersKept ipc next where
  servers := servers
  services service isOpen := by
    simp_all [ServiceOpen]

theorem OwnersKept.refl (ipc : IpcTables) : OwnersKept ipc ipc := .of_services (.refl _) rfl

theorem OwnersKept.of_tables {ipc next : IpcTables} (connections : next.connections = ipc.connections)
    (services : next.services = ipc.services) : OwnersKept ipc next :=
  .of_services (by rw [connections]; exact .refl _) services

theorem OwnersKept.trans {ipc middle next : IpcTables} (first : OwnersKept ipc middle)
    (second : OwnersKept middle next) : OwnersKept ipc next where
  servers := first.servers.trans second.servers
  services service isOpen := by
    rcases second.services service isOpen with nothing | ⟨wasOpen, owner, pid, pending⟩
    · exact Or.inl nothing
    rcases first.services service wasOpen with nothing | ⟨before, owner', pid', pending'⟩
    · refine Or.inl (List.eq_nil_iff_forall_not_mem.mpr fun index isPending => ?_)
      simp_all
    simp_all

section

variable {ipc next : IpcTables}

theorem SameTables.ownersKept (same : SameTables ipc next) : OwnersKept ipc next :=
  .of_tables same.connections same.services

theorem IpcInvariant.pendingOpen (invariant : IpcInvariant ipc) {service index : Nat}
    (isOpen : ServiceOpen ipc service) (isPending : index ∈ pendingContents (ipc.services service)) :
    EndpointOpen ipc (index, .server) ∧ (ipc.connections index).serverAccepted = false := by
  have refers : EndpointRefers ipc (.pending service) (index, .server) :=
    ⟨isOpen.1, isOpen.2, rfl, isPending⟩
  refine ⟨invariant.endpoints.sound _ _ refers, ?_⟩
  rw [← Bool.not_eq_true, invariant.accepted _ _ refers]
  nofun

theorem OwnersKept.pendingOwned (kept : OwnersKept ipc next) (invariant : IpcInvariant next)
    (owned : PendingOwned ipc) : PendingOwned next := by
  intro service isOpen index isPending
  rcases kept.services service isOpen with nothing | ⟨wasOpen, owner, pid, pending⟩
  · simp_all
  have isActive := (invariant.pendingOpen isOpen isPending).1.2.1
  rcases kept.servers index isActive with ⟨-, serverOwner, serverPid⟩
  rw [serverOwner, serverPid, owner, pid]
  exact owned service wasOpen index (pending index isPending)

/-! ## Closing -/

variable (connection : IpcConnection)

theorem connectionMaybeDestroy_server (isActive : (connectionMaybeDestroy connection).active = true) :
    connectionMaybeDestroy connection = connection := by
  rw [connectionMaybeDestroy] at isActive ⊢
  split
  · rfl
  rename_i unused
  rw [if_neg unused] at isActive
  cases isActive

theorem setIncoming_server (queue : IpcQueue) (side : IpcSide) :
    (connection.setIncoming queue side).active = connection.active ∧
      (connection.setIncoming queue side).serverOwner = connection.serverOwner ∧
      (connection.setIncoming queue side).serverPid = connection.serverPid := by
  cases side <;> exact ⟨rfl, rfl, rfl⟩

theorem closeSide_server (side : IpcSide) :
    (connection.closeSide side).active = connection.active ∧
      (connection.closeSide side).serverOwner = connection.serverOwner ∧
      (connection.closeSide side).serverPid = connection.serverPid := by
  cases side <;> exact ⟨rfl, rfl, rfl⟩

theorem closeConnectionSide_servers (ipc : IpcTables) (index : Nat) (side : IpcSide) :
    ServersKept ipc.connections (closeConnectionSide ipc index side).connections ∧
      (closeConnectionSide ipc index side).services = ipc.services := by
  unfold closeConnectionSide
  simp only
  split
  · exact ⟨.refl _, rfl⟩
  refine ⟨ServersKept.update _ fun stays => ?_, rfl⟩
  simp_all [connectionMaybeDestroy_server, closeSide_server, setIncoming_server]

theorem unregisterPending_servers (ipc : IpcTables) (index : Nat) :
    ServersKept ipc.connections (unregisterPending ipc index).connections ∧
      ∀ other, other ≠ index → (unregisterPending ipc index).services other = ipc.services other := by
  unfold unregisterPending
  split
  · exact ⟨.refl _, fun _ _ => rfl⟩
  rename_i connectionIndex rest popped
  simp only
  split
  · rcases closeConnectionSide_servers (ipc.setService index rest) connectionIndex .server with
      ⟨servers, services⟩
    refine ⟨servers, fun other different => ?_⟩
    rw [services]
    exact Function.update_of_ne different _ _
  · exact ⟨.refl _, fun other different => Function.update_of_ne different _ _⟩

theorem unregisterLoop_servers (index : Nat) (count : Nat) :
    ∀ ipc, ServersKept ipc.connections (unregisterLoop count ipc index).connections ∧
      ∀ other, other ≠ index → (unregisterLoop count ipc index).services other = ipc.services other := by
  induction count with
  | zero => exact fun ipc => ⟨.refl _, fun _ _ => rfl⟩
  | succ count ih =>
    intro ipc
    rcases unregisterPending_servers ipc index with ⟨servers, services⟩
    rcases ih (unregisterPending ipc index) with ⟨servers', services'⟩
    exact ⟨servers.trans servers',
      fun other different => (services' other different).trans (services other different)⟩

theorem unregisterService_owners (ipc : IpcTables) (index : Nat) :
    OwnersKept ipc (unregisterService ipc index) := by
  unfold unregisterService
  split
  · exact .refl ipc
  rcases unregisterLoop_servers index (ipc.services index).pendingCount ipc with
    ⟨servers, services⟩
  refine ⟨servers, fun service isOpen => ?_⟩
  rcases isOpen with ⟨inside, isActive⟩
  by_cases same : service = index
  · subst same
    simp only [IpcTables.setService, Function.update_self] at isActive
    cases isActive
  · simp only [IpcTables.setService, Function.update_of_ne same, services service same] at isActive ⊢
    exact Or.inr ⟨⟨inside, isActive⟩, trivial, trivial, fun _ isPending => isPending⟩

theorem closeEntry_owners (ipc : IpcTables) (process slot : Nat) (entry : IpcHandleEntry) :
    OwnersKept ipc (closeEntry ipc process slot entry) := by
  have closed : ∀ {closed : IpcTables}, OwnersKept ipc closed →
      OwnersKept ipc (invalidateHandleEntry closed process slot entry) :=
    fun kept => kept.trans (.of_tables rfl rfl)
  apply closed
  split
  · split
    · exact unregisterService_owners ipc entry.objectIndex
    · exact .refl ipc
  · split
    · rcases closeConnectionSide_servers ipc entry.objectIndex entry.side with ⟨servers, services⟩
      exact .of_services servers services
    · exact .refl ipc
  · exact .refl ipc

theorem ipcClose_owners (ipc : IpcTables) (process handle : Nat) :
    OwnersKept ipc (ipcClose ipc process handle).2 := by
  rcases ipcClose_cases ipc process handle with ⟨next, same, isNext | ⟨slot, entry, -, isNext⟩⟩
  · rw [isNext]
    exact same.ownersKept
  · rw [isNext]
    exact same.ownersKept.trans (closeEntry_owners next process slot entry)

theorem cleanupSlots_owners (process : Nat) (slots : List Nat) :
    ∀ ipc, OwnersKept ipc (slots.foldl (cleanupSlot process) ipc) := by
  induction slots with
  | nil => exact .refl
  | cons slot rest ih =>
    intro ipc
    refine OwnersKept.trans ?_ (ih (cleanupSlot process ipc slot))
    unfold cleanupSlot
    split
    · exact .refl ipc
    split
    · exact .refl ipc
    · exact closeEntry_owners ipc process slot _

theorem ipcProcessCleanup_owners (ipc : IpcTables) (process : Nat) :
    OwnersKept ipc (ipcProcessCleanup ipc process) := by
  unfold ipcProcessCleanup
  rcases stateForProcess_cases ipc process false false with ⟨found, next, result, same, -⟩
  rw [result]
  cases found with
  | none => exact same.ownersKept
  | some state =>
    exact (same.ownersKept.trans (cleanupSlots_owners process _ next)).trans (.of_tables rfl rfl)

/-! ## Messages -/

theorem Exchanged.ownersKept (exchanged : Exchanged ipc next) : OwnersKept ipc next := by
  rcases exchanged with ⟨looked, buffers, index, queue, side, same, rfl⟩
  refine same.ownersKept.trans (.of_services (ServersKept.update _ fun stays => ?_) rfl)
  simp_all [setIncoming_server]

theorem ipcSend_owners (invariant : IpcInvariant ipc) (process handle : Nat)
    (payload : List UInt8) (bufferHandle : Nat) :
    OwnersKept ipc (ipcSend ipc process handle payload bufferHandle).2 := by
  rcases ipcSend_cases invariant process handle payload bufferHandle with
    ⟨error, next, result, same⟩ | ⟨next, index, side, result, -, -, -, exchanged⟩
  · rw [result]
    exact same.ownersKept
  · rw [result]
    exact exchanged.ownersKept

theorem ipcReceive_owners (invariant : IpcInvariant ipc) (process handle capacity : Nat) :
    OwnersKept ipc (ipcReceive ipc process handle capacity).2 := by
  rcases ipcReceive_cases invariant process handle capacity with ⟨error, next, result, same, -⟩ |
    ⟨received, next, index, side, message, result, -, -, -, -, -, exchanged⟩
  · rw [result]
    exact same.ownersKept
  · rw [result]
    exact exchanged.ownersKept

/-! ## Services -/

theorem pendingContents_clear (service : IpcService) (none' : service.pendingCount = 0) :
    pendingContents service = [] := by
  rw [pendingContents, none', ringContents]

theorem ipcServiceRegister_owners (ipc : IpcTables) (process : Nat) (name : List UInt8)
    (allocated : Bool) : OwnersKept ipc (ipcServiceRegister ipc process name allocated).2 := by
  rcases ipcServiceRegister_cases ipc process name allocated with
    same | ⟨next, slot, index, entry, service, same, -, -, -, -, -, isService, -, isNext⟩
  · exact same.ownersKept
  rw [isNext]
  refine same.ownersKept.trans ⟨.refl _, fun other isOpen => ?_⟩
  by_cases here : other = index
  · refine Or.inl ?_
    simp only [IpcTables.setEntry, IpcTables.setService, here, Function.update_self]
    exact pendingContents_clear service (by rw [← isService]; rfl)
  · simp_all [ServiceOpen, IpcTables.setEntry, IpcTables.setService, Function.update_of_ne]

theorem ipcServiceAccept_owners (invariant : IpcInvariant ipc) (process listener : Nat) :
    OwnersKept ipc (ipcServiceAccept ipc process listener).2 := by
  rcases ipcServiceAccept_cases invariant process listener with
    same | ⟨next, slot, index, serviceIndex, entry, service, same, accepts⟩
  · exact same.ownersKept
  refine same.ownersKept.trans ⟨fun other isActive => ?_, fun other isOpen => Or.inr ?_⟩
  · rw [accepts.connections] at isActive ⊢
    grind
  · have wasOpen := ((invariant.of_same same).service_replaced accepts.toReplaces).1 other
    rw [accepts.services]
    split
    · rename_i here
      rw [here, accepts.owner, accepts.ownerPid, accepts.contents, ← here]
      exact ⟨wasOpen.mp isOpen, rfl, rfl, fun _ => List.mem_cons_of_mem index⟩
    · exact ⟨wasOpen.mp isOpen, rfl, rfl, fun _ => id⟩

/-- A new connection is for the owner of the service that it waits at. -/
theorem ipcServiceConnect_pendingOwned (invariant : IpcInvariant ipc) (owned : PendingOwned ipc)
    (process : Nat) (name : List UInt8) (allocated : Bool) :
    PendingOwned (ipcServiceConnect ipc process name allocated).2 := by
  rcases ipcServiceConnect_cases invariant process name allocated with
    same | ⟨next, slot, index, serviceIndex, entry, service, same, connects⟩
  · exact same.ownersKept.pendingOwned (invariant.of_same same) owned
  have invariant' := invariant.of_same same
  have owned' := same.ownersKept.pendingOwned invariant' owned
  intro other isOpen waiting isPending
  have wasOpen := ((invariant'.service_replaced connects.toReplaces).1 other).mp isOpen
  have different : waiting ∈ pendingContents (next.services other) → waiting ≠ index := by
    rintro waited rfl
    have isActive := (invariant'.pendingOpen wasOpen waited).1.2.1
    rw [connects.free] at isActive
    cases isActive
  rw [connects.services] at isPending ⊢
  rw [connects.connections]
  split at isPending
  · rename_i here
    rw [if_pos here, connects.owner, connects.ownerPid]
    rw [connects.contents, ← here, List.mem_append, List.mem_singleton] at isPending
    rcases isPending with waited | isNew
    · rw [if_neg (different waited), ← here]
      exact owned' other wasOpen waiting waited
    · rw [if_pos isNew]
      exact ⟨rfl, rfl⟩
  · rename_i elsewhere
    rw [if_neg elsewhere, if_neg (different isPending)]
    exact owned' other wasOpen waiting isPending

/-- Whatever a process calls, pending connections stay with the owners of their services. -/
theorem ipcStep_pendingOwned (call : IpcCall) (invariant : IpcInvariant ipc)
    (owned : PendingOwned ipc) : PendingOwned (ipcStep ipc call) := by
  have after := ipcStep_invariant ipc call invariant
  cases call with
  | connect process name allocated =>
    exact ipcServiceConnect_pendingOwned invariant owned process name allocated
  | register process name allocated =>
    exact (ipcServiceRegister_owners ipc process name allocated).pendingOwned after owned
  | accept process listener =>
    exact (ipcServiceAccept_owners invariant process listener).pendingOwned after owned
  | send process handle payload bufferHandle =>
    exact (ipcSend_owners invariant process handle payload bufferHandle).pendingOwned after owned
  | receive process handle capacity =>
    exact (ipcReceive_owners invariant process handle capacity).pendingOwned after owned
  | close process handle => exact (ipcClose_owners ipc process handle).pendingOwned after owned
  | cleanup process => exact (ipcProcessCleanup_owners ipc process).pendingOwned after owned
  | _ => assumption

theorem ipcInitial_pendingOwned : PendingOwned ipcInitial :=
  fun _ isOpen => absurd isOpen.2 Bool.false_ne_true

end

end BoringOS.Ipc
