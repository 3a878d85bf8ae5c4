import Mathlib.Tactic.IntervalCases
import BoringOS.VirtioBlk.Driver

namespace BoringOS.VirtioBlk

open Library

/-!
# Steps of the driver and of the device

Each step keeps the invariant, the steps of the device as long as they keep to
the discipline.
-/

variable {s : BlockSystem} {transfer : Transfer}

/-- A store adds what it says and takes nothing back. -/
theorem submitStore_prepared {stores : Nat}
    (prepared : Prepared s.memory transfer stores) (more : stores < 9) :
    Prepared (submitStore s transfer stores).memory transfer (stores + 1) := by
  rcases prepared with ⟨bounce, type, sector, status, header, data, last⟩
  have length : (transfer.buffer.read transfer.byteOffset transfer.byteCount).length =
      transfer.byteCount := ByteVolume.length_read _ _ _
  have copied : ∀ volume : ByteVolume, (volume.overwrite 0
      (transfer.buffer.read transfer.byteOffset transfer.byteCount)).read 0 transfer.byteCount =
        transfer.buffer.read transfer.byteOffset transfer.byteCount := by
    intro volume
    have same := ByteVolume.read_overwrite_same volume 0
      (transfer.buffer.read transfer.byteOffset transfer.byteCount)
    rw [length] at same
    exact same
  interval_cases stores
  all_goals constructor
  all_goals intro below
  all_goals simp_all [submitStore, virtioPrepareDescriptor, Transfer.type, dataDesc]
  all_goals decide

variable {memory : DmaMemory}

theorem Prepared.described {transfer : Transfer} {stores : Nat}
    (prepared : Prepared memory transfer stores) (done : 9 ≤ stores) :
    Described memory transfer where
  bounce := prepared.bounce (by omega)
  type := prepared.type (by omega)
  sector := prepared.sector (by omega)
  header := prepared.header (by omega)
  data := prepared.data (by omega)
  last := prepared.last (by omega)

variable {chain : Chain}

theorem fetchChain_fresh {call id : Nat} (fetched : fetchChain memory call id = some chain) :
    chain.call = call ∧ chain.moved = false := by
  rw [fetchChain] at fetched
  grind

/-- What the device finds in a memory that describes a chunk is this chunk. -/
theorem Described.isAbout {transfer : Transfer} {call : Nat} (described : Described memory transfer)
    (fetched : fetchChain memory call virtqDescHeader = some chain) : IsAbout chain transfer := by
  simp only [fetchChain, described.header, described.data, dataDesc, described.last] at fetched
  cases fetched
  exact { described with
    length := by rfl
    direction := by
      cases transfer.write with
      | false => rfl
      | true => rfl }

theorem mem_fetch {device : BlockDevice} {call : Nat}
    (entries : ∀ slot, memory.availEntries slot = virtqDescHeader)
    (member : chain ∈ (device.fetch memory call).inFlight) :
    chain ∈ device.inFlight ∨ fetchChain memory call virtqDescHeader = some chain := by
  rw [BlockDevice.fetch] at member
  grind

theorem fetch_disk (device : BlockDevice) (memory : DmaMemory) (call : Nat) :
    (device.fetch memory call).disk = device.disk ∧
      (device.fetch memory call).completed = device.completed := by
  rw [BlockDevice.fetch]
  grind

theorem Awaits.fetch (awaits : Awaits s transfer)
    (entries : ∀ slot, s.memory.availEntries slot = virtqDescHeader) :
    Awaits (s.step .fetch) transfer := by
  have disk := fetch_disk s.device s.memory s.calls
  exact { awaits with
    fetched := by
      intro chain member isCurrent
      rcases mem_fetch entries member with old | new
      · exact awaits.fetched chain old isCurrent
      · exact awaits.described.isAbout new
    moved := by
      intro chain member isCurrent isMoved
      change Moved (s.device.fetch s.memory s.calls).disk _ _
      rw [disk.1]
      rcases mem_fetch entries member with old | new
      · exact awaits.moved chain old isCurrent isMoved
      · rw [(fetchChain_fresh new).2] at isMoved
        cases isMoved
    done := by
      intro isDone
      change Moved (s.device.fetch s.memory s.calls).disk _ _
      change s.calls ∈ (s.device.fetch s.memory s.calls).completed at isDone
      rw [disk.1]
      rw [disk.2] at isDone
      exact awaits.done isDone
    status := by
      intro good
      change s.calls ∈ (s.device.fetch s.memory s.calls).completed
      rw [disk.2]
      exact awaits.status good
    progress := by
      change Served (s.device.fetch s.memory s.calls).disk _ _
      rw [disk.1]
      exact awaits.progress }

variable {index : Nat}

/-- The data of a chain about the chunk are the data of the chunk. -/
theorem move_current (awaits : Awaits s transfer) (isChain : s.device.inFlight[index]? = some chain)
    (isCurrent : chain.call = s.calls) : Awaits (s.step (.move index)) transfer := by
  have isAbout := awaits.fetched chain (List.mem_of_getElem? isChain) isCurrent
  rcases chain with ⟨call, id, type, sector, length, deviceWrites, moved⟩
  have fetched : ∀ other ∈ s.device.inFlight.set index ⟨call, id, type, sector, length, deviceWrites, true⟩,
      other.call = s.calls → IsAbout other transfer := by
    intro other member current
    rcases List.mem_or_eq_of_mem_set member with old | rfl
    · exact awaits.fetched other old current
    · exact { isAbout with }
  rcases isAbout with ⟨isType, isSector, isLength, isDirection⟩
  subst isType isSector isLength isDirection
  simp only [BlockSystem.step, BlockDevice.move, isChain]
  by_cases isWrite : transfer.write = false
  · have reads : transfer.type = virtioBlkTIn := by rw [Transfer.type, isWrite]; rfl
    have deviceWrites : (!transfer.write) = true := by rw [isWrite]; rfl
    rw [if_pos ⟨reads, deviceWrites⟩]
    have isMoved : Moved s.device.disk (s.memory.bounce.overwrite 0
        (s.device.disk.read (transfer.sector * virtioBlkSectorSize) transfer.byteCount))
        transfer := by
      have same := ByteVolume.read_overwrite_same s.memory.bounce 0
        (s.device.disk.read (transfer.sector * virtioBlkSectorSize) transfer.byteCount)
      rw [ByteVolume.length_read] at same
      exact same.symm
    have described := awaits.described
    exact { awaits with
      described := by
        refine { described with bounce := fun writes => ?_ }
        rw [isWrite] at writes
        cases writes
      fetched := fetched
      moved := fun _ _ _ _ => isMoved
      done := fun _ => isMoved }
  · have isWrite : transfer.write = true := Bool.eq_true_of_not_eq_false isWrite
    have writes : transfer.type = virtioBlkTOut := by rw [Transfer.type, isWrite]; rfl
    have hostReads : (!transfer.write) = false := by rw [isWrite]; rfl
    have noRead : ¬(transfer.type = virtioBlkTIn ∧ (!transfer.write) = true) := by
      rw [hostReads]
      exact fun reads => Bool.false_ne_true reads.2
    rw [if_neg noRead, if_pos ⟨writes, hostReads⟩]
    have isMoved : Moved (s.device.disk.overwrite (transfer.sector * virtioBlkSectorSize)
        (s.memory.bounce.read 0 transfer.byteCount)) s.memory.bounce transfer := by
      have same := ByteVolume.read_overwrite_same s.device.disk
        (transfer.sector * virtioBlkSectorSize) (s.memory.bounce.read 0 transfer.byteCount)
      rw [ByteVolume.length_read] at same
      exact same
    exact { awaits with
      fetched := fetched
      moved := fun _ _ _ _ => isMoved
      done := fun _ => isMoved
      progress := awaits.progress.overwrite _ }

variable {status : UInt8}

theorem complete_current (awaits : Awaits s transfer) (isChain : s.device.inFlight[index]? = some chain)
    (isCurrent : status = virtioBlkSOk → chain.call = s.calls) :
    Awaits (s.step (.complete index status)) transfer := by
  have described := awaits.described
  simp only [BlockSystem.step, BlockDevice.complete, isChain]
  by_cases early : status = virtioBlkSOk ∧ chain.moved = false
  · rw [if_pos early]
    exact awaits
  rw [if_neg early]
  have subset : ∀ other ∈ s.device.inFlight.eraseIdx index, other ∈ s.device.inFlight :=
    fun other member => List.mem_of_mem_eraseIdx member
  have isMoved : status = virtioBlkSOk → Moved s.device.disk s.memory.bounce transfer := by
    intro good
    refine awaits.moved chain (List.mem_of_getElem? isChain) (isCurrent good) ?_
    cases moved : chain.moved with
    | false => exact absurd ⟨good, moved⟩ early
    | true => rfl
  exact { awaits with
    described := by
      exact { described with }
    fetched := fun other member => awaits.fetched other (subset other member)
    moved := fun other member => awaits.moved other (subset other member)
    done := by
      intro isDone
      by_cases good : status = virtioBlkSOk
      · exact isMoved good
      · simp only [if_neg good] at isDone
        exact awaits.done isDone
    status := by
      simp_all }

/-- The step of the device has no part in the request. -/
structure Unrelated (s s' : BlockSystem) : Prop where
  disk : s'.device.disk = s.device.disk
  completed : s'.device.completed = s.device.completed
  inFlight : ∀ chain ∈ s'.device.inFlight, chain ∈ s.device.inFlight
  prepared : ∀ transfer stores, Prepared s.memory transfer stores →
    Prepared s'.memory transfer stores

theorem Unrelated.refl (s : BlockSystem) : Unrelated s s :=
  ⟨rfl, rfl, fun _ member => member, fun _ _ prepared => prepared⟩

/-- A step of the device may change what the driver waits for, and nothing
else while a request is served. -/
theorem PhaseInvariant.of_device {s s' : BlockSystem} (invariant : PhaseInvariant s s.phase)
    (phase : s'.phase = s.phase) (calls : s'.calls = s.calls)
    (awaits : ∀ transfer, s.phase.awaited = some transfer → Awaits s transfer → Awaits s' transfer)
    (grows : ∀ call ∈ s.device.completed, call ∈ s'.device.completed)
    (elsewhere : s.phase.promisesNothing = false → s.phase.awaited = none →
      s'.device.disk = s.device.disk ∧ s'.device.completed = s.device.completed)
    (preparing : ∀ transfer stores, s.phase = .preparing transfer stores → Unrelated s s') :
    PhaseInvariant s' s'.phase := by
  rw [phase]
  cases place : s.phase with
  | idle => trivial
  | waiting transfer spins =>
    rw [place] at invariant awaits
    exact awaits transfer rfl invariant
  | recognized transfer =>
    rw [place] at invariant awaits
    exact awaits transfer rfl invariant
  | succeeded transfer =>
    rw [place] at invariant awaits
    rcases invariant with ⟨isAwaited, isDone, reads⟩
    refine ⟨awaits transfer rfl isAwaited, ?_, reads⟩
    rw [calls]
    exact grows _ isDone
  | looping transfer =>
    rw [place] at invariant
    refine ⟨invariant.1, ?_⟩
    rw [(elsewhere (by rw [place]; rfl) (by rw [place]; rfl)).1]
    exact invariant.2
  | preparing transfer stores =>
    rw [place] at invariant
    have unrelated := preparing transfer stores place
    rcases invariant with ⟨prepared, fresh, undone, served, within⟩
    rw [PhaseInvariant, calls, unrelated.disk, unrelated.completed]
    refine ⟨unrelated.prepared transfer stores prepared, ?_, undone, served, within⟩
    exact fun chain member => fresh chain (unrelated.inFlight chain member)
  | submitted transfer succeeds =>
    rw [place] at invariant
    cases succeeds with
    | false => trivial
    | true =>
      have same := elsewhere (by rw [place]; rfl) (by rw [place]; rfl)
      rw [PhaseInvariant, calls, same.1, same.2]
      exact invariant
  | returned transfer result =>
    rw [place] at invariant
    cases result with
    | ok =>
      rw [PhaseInvariant, (elsewhere (by rw [place]; rfl) (by rw [place]; rfl)).1]
      exact invariant
    | ioError => trivial
    | readOnly => trivial

theorem mayWorkOn_awaited {transfer : Transfer}
    (may : s.mayWorkOn chain = true) (isAwaited : s.phase.awaited = some transfer) :
    chain.call = s.calls := by
  have promises : s.phase.promisesNothing = false := by
    cases place : s.phase <;> simp_all [Phase.awaited, Phase.promisesNothing]
  rw [BlockSystem.mayWorkOn] at may
  simp_all

theorem not_mayWorkOn (promises : s.phase.promisesNothing = false)
    (notAwaited : s.phase.awaited = none) : s.mayWorkOn chain = false := by
  rw [BlockSystem.mayWorkOn]
  simp [*]

theorem fetch_invariant (invariant : RequestInvariant s)
    (acts : s.actsForCall .fetch = true) : RequestInvariant (s.step .fetch) := by
  have disk := fetch_disk s.device s.memory s.calls
  constructor
  case fetchedBefore =>
    intro chain member
    rcases mem_fetch invariant.entries member with old | new
    · exact invariant.fetchedBefore chain old
    · exact Nat.le_of_eq (fetchChain_fresh new).1
  case completedBefore =>
    intro call member
    change call ∈ (s.device.fetch s.memory s.calls).completed at member
    rw [disk.2] at member
    exact invariant.completedBefore call member
  case entries => exact invariant.entries
  case phase =>
    refine invariant.phase.of_device rfl rfl ?_ ?_ (fun _ _ => disk) ?_
    · exact fun transfer _ awaits => awaits.fetch invariant.entries
    · intro call member
      change call ∈ (s.device.fetch s.memory s.calls).completed
      rw [disk.2]
      exact member
    · intro transfer stores place
      have nothing : s.device.lastAvail = s.memory.availIdx := by
        simpa [BlockSystem.actsForCall, place] using acts
      rw [BlockSystem.step, BlockDevice.fetch, if_pos nothing]
      exact Unrelated.refl s

theorem move_keeps {device : BlockDevice} (memory : DmaMemory)
    (isChain : device.inFlight[index]? = some chain) :
    (device.move memory index).1.inFlight =
        device.inFlight.set index { chain with moved := true } ∧
      (device.move memory index).1.completed = device.completed ∧
      (device.move memory index).2.availEntries = memory.availEntries := by
  rw [BlockDevice.move, isChain]
  grind

theorem move_none (nobody : s.device.inFlight[index]? = none) : s.step (.move index) = s := by
  rw [BlockSystem.step, BlockDevice.move, nobody]

theorem move_invariant (invariant : RequestInvariant s)
    (acts : s.actsForCall (.move index) = true) : RequestInvariant (s.step (.move index)) := by
  cases isChain : s.device.inFlight[index]? with
  | none =>
    rw [move_none isChain]
    exact invariant
  | some chain =>
    simp only [BlockSystem.actsForCall, isChain] at acts
    rcases move_keeps s.memory isChain with ⟨inFlight, completed, entries⟩
    constructor
    case fetchedBefore =>
      intro other member
      change other ∈ (s.device.move s.memory index).1.inFlight at member
      rw [inFlight] at member
      rcases List.mem_or_eq_of_mem_set member with old | rfl
      · exact invariant.fetchedBefore other old
      · exact invariant.fetchedBefore chain (List.mem_of_getElem? isChain)
    case completedBefore =>
      intro call member
      change call ∈ (s.device.move s.memory index).1.completed at member
      rw [completed] at member
      exact invariant.completedBefore call member
    case entries =>
      intro slot
      change (s.device.move s.memory index).2.availEntries slot = _
      rw [entries]
      exact invariant.entries slot
    case phase =>
      refine invariant.phase.of_device rfl rfl ?_ ?_ ?_ ?_
      · grind [move_current, mayWorkOn_awaited]
      · intro call member
        change call ∈ (s.device.move s.memory index).1.completed
        rw [completed]
        exact member
      · grind [not_mayWorkOn]
      · intro transfer stores place
        rw [not_mayWorkOn (by rw [place]; rfl) (by rw [place]; rfl)] at acts
        cases acts

theorem complete_none (nobody : s.device.inFlight[index]? = none) : s.step (.complete index status) = s := by
  rw [BlockSystem.step, BlockDevice.complete, nobody]

theorem complete_keeps {device : BlockDevice} (memory : DmaMemory)
    (status : UInt8) (isChain : device.inFlight[index]? = some chain) :
    (∀ other ∈ (device.complete memory index status).1.inFlight, other ∈ device.inFlight) ∧
      (∀ call ∈ (device.complete memory index status).1.completed,
        call = chain.call ∨ call ∈ device.completed) ∧
      (∀ call ∈ device.completed, call ∈ (device.complete memory index status).1.completed) ∧
      (device.complete memory index status).2.availEntries = memory.availEntries := by
  rw [BlockDevice.complete, isChain]
  grind [List.mem_of_mem_eraseIdx]

/-- A chain that fails leaves the request alone. -/
theorem complete_unrelated (index : Nat)
    (bad : status ≠ virtioBlkSOk) : Unrelated s (s.step (.complete index status)) := by
  cases isChain : s.device.inFlight[index]? with
  | none =>
    rw [complete_none isChain]
    exact Unrelated.refl s
  | some chain =>
    have late : ¬(status = virtioBlkSOk ∧ chain.moved = false) := fun early => bad early.1
    simp only [BlockSystem.step, BlockDevice.complete, isChain, if_neg late, if_neg bad]
    constructor
    case disk => rfl
    case completed => rfl
    case inFlight => exact fun other member => List.mem_of_mem_eraseIdx member
    case prepared =>
      intro transfer stores prepared
      exact { prepared with status := fun _ => bad }

theorem complete_invariant (invariant : RequestInvariant s) (acts : s.actsForCall (.complete index status) = true) :
    RequestInvariant (s.step (.complete index status)) := by
  cases isChain : s.device.inFlight[index]? with
  | none =>
    rw [complete_none isChain]
    exact invariant
  | some chain =>
    simp only [BlockSystem.actsForCall, isChain, Bool.or_eq_true, bne_iff_ne] at acts
    rcases complete_keeps s.memory status isChain with ⟨inFlight, completed, grows, entries⟩
    constructor
    case fetchedBefore =>
      exact fun other member => invariant.fetchedBefore other (inFlight other member)
    case completedBefore =>
      intro call member
      rcases completed call member with rfl | old
      · exact invariant.fetchedBefore chain (List.mem_of_getElem? isChain)
      · exact invariant.completedBefore call old
    case entries =>
      intro slot
      change (s.device.complete s.memory index status).2.availEntries slot = _
      rw [entries]
      exact invariant.entries slot
    case phase =>
      have failed : s.phase.promisesNothing = false → s.phase.awaited = none →
          Unrelated s (s.step (.complete index status)) := by
        grind [not_mayWorkOn, complete_unrelated]
      refine invariant.phase.of_device rfl rfl ?_ grows ?_ ?_
      · grind [complete_current, mayWorkOn_awaited]
      · exact fun promises notAwaited =>
          ⟨(failed promises notAwaited).disk, (failed promises notAwaited).completed⟩
      · exact fun transfer stores place => failed (by rw [place]; rfl) (by rw [place]; rfl)

end BoringOS.VirtioBlk
