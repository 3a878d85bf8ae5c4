import BoringOS.BoringFs.Codec
import BoringOS.BoringFs.ValidatorSuperblock

namespace BoringOS.BoringFs

open Library

/-!
# Records of accepted volumes

The validator demands zero bytes wherever a record has no field, behind the
extents of an object, and behind the name of a directory record.  This is what
the encoders put there, so every record of an accepted volume is encoded again
to the bytes that it was decoded from.
-/

section Passes

variable {source : ByteSource} {volume : ByteVolume} {superblock : BoringfsSuperblock}

/-- What the second pass finds about a record that is not free. -/
structure ObjectChecked (superblock : BoringfsSuperblock) (record : List UInt8)
    (object : BoringfsObject) : Prop where
  allocated : object.state = boringfsObjectAllocated
  count : object.extentCount ≤ boringfsMaxExtents
  reserved : bytesAllZero (slice record 14 2) = true ∧ bytesAllZero (slice record 88 40) = true
  unused : ∀ index, object.extentCount ≤ index → index < boringfsMaxExtents →
    bytesAllZero (slice record (24 + index * boringfsExtentRecordSize)
      boringfsExtentRecordSize) = true
  extents : ∀ extent ∈ object.liveExtents, superblock.dataStart ≤ extent.startBlock ∧
    extent.startBlock + extent.blockCount ≤ superblock.totalBlocks
  covers : object.sizeBytes ≤ object.blocks.length * boringfsBlockSize

theorem decodeObject_extents (raw : List UInt8) :
    (boringfsDecodeObject raw).extents.length = boringfsMaxExtents := by
  rfl

variable {raw : List UInt8} {object : BoringfsObject}

/-- A round on an extent behind the count leaves the capacity, and the record is
zero there. -/
theorem validateExtent_unused {objectId index : Nat}
    {state next : Nat × BlockOwners} (behind : object.extentCount ≤ index)
    (accepted : validateExtent source superblock objectId raw object index state = .ok next) :
    next = state ∧ bytesAllZero (slice raw (24 + index * boringfsExtentRecordSize)
      boringfsExtentRecordSize) = true := by
  simp_all [validateExtent, ite_eq_ok]

theorem extentBounds_some {extent : BoringfsExtent} {capacity endBlock newCapacity : Nat}
    (bounds : extentBounds superblock extent capacity = some (endBlock, newCapacity)) :
    superblock.dataStart ≤ extent.startBlock ∧
      extent.startBlock + extent.blockCount ≤ superblock.totalBlocks ∧
      newCapacity = capacity + extent.blockCount * boringfsBlockSize := by
  rw [extentBounds] at bounds
  split at bounds
  · cases bounds
  simp only [checkedAddU32, checkedMulU64, checkedAddU64, Option.bind_eq_bind] at bounds
  split at bounds
  · cases bounds
  simp only [Option.bind_some] at bounds
  split at bounds
  · cases bounds
  split at bounds
  · cases bounds
  grind

/-- A round on a used extent adds its bytes to the capacity, and it lies in the
data region. -/
theorem validateExtent_used {objectId index : Nat}
    {state next : Nat × BlockOwners} (used : index < object.extentCount)
    (accepted : validateExtent source superblock objectId raw object index state = .ok next) :
    superblock.dataStart ≤ (object.extents.getD index ⟨0, 0⟩).startBlock ∧
      (object.extents.getD index ⟨0, 0⟩).startBlock +
        (object.extents.getD index ⟨0, 0⟩).blockCount ≤ superblock.totalBlocks ∧
      next.1 = state.1 + (object.extents.getD index ⟨0, 0⟩).blockCount * boringfsBlockSize := by
  rw [validateExtent, if_neg (Nat.not_le.mpr used)] at accepted
  generalize object.extents.getD index ⟨0, 0⟩ = extent at accepted ⊢
  cases bounds : extentBounds superblock extent state.1 with
  | none =>
    grind
  | some found =>
    simp only [bounds] at accepted
    rcases extentBounds_some bounds with ⟨lower, upper, capacity⟩
    grind

theorem blocks_take_succ {index : Nat}
    (used : index < object.extentCount) (present : index < object.extents.length) :
    ((object.liveExtents.take (index + 1)).flatMap BoringfsExtent.blocks).length =
      ((object.liveExtents.take index).flatMap BoringfsExtent.blocks).length +
        (object.extents.getD index ⟨0, 0⟩).blockCount := by
  have live : object.liveExtents[index]? = some (object.extents.getD index ⟨0, 0⟩) := by
    rw [BoringfsObject.liveExtents, List.getElem?_take, if_pos used, List.getD_eq_getElem?_getD,
      List.getElem?_eq_getElem present]
    rfl
  rw [List.take_add_one, live, List.flatMap_append, List.length_append]
  rw [Option.toList_some, List.flatMap_singleton, BoringfsExtent.blocks, List.length_range']

variable {objectId : Nat}

/-- The loop over the extents of a record ends with the capacity of its blocks. -/
theorem validateExtents_capacity (slots : object.extents.length = boringfsMaxExtents)
    (count : object.extentCount ≤ boringfsMaxExtents) {owners : BlockOwners}
    {last : Nat × BlockOwners}
    (accepted : forRange (validateExtent source superblock objectId raw object)
      boringfsMaxExtents 0 (0, owners) = .ok last) :
    last.1 = object.blocks.length * boringfsBlockSize := by
  have total : last.1 = ((object.liveExtents.take (0 + boringfsMaxExtents)).flatMap
      BoringfsExtent.blocks).length * boringfsBlockSize := by
    refine @forRange_invariant _ _ _ (fun index (state : Nat × BlockOwners) =>
      state.1 = ((object.liveExtents.take index).flatMap BoringfsExtent.blocks).length *
        boringfsBlockSize) boringfsMaxExtents 0 (0, owners) last ?_ ?_ accepted
    · rw [List.take_zero]
      rfl
    · intro index state next _ inSlots before round
      by_cases used : index < object.extentCount
      · rcases validateExtent_used used round with ⟨-, -, added⟩
        grind [blocks_take_succ]
      rcases validateExtent_unused (Nat.le_of_not_lt used) round with ⟨rfl, -⟩
      have short : object.liveExtents.length ≤ index := by
        rw [BoringfsObject.liveExtents, List.length_take]
        omega
      rw [before, List.take_of_length_le short,
        List.take_of_length_le (Nat.le_trans short (Nat.le_succ index))]
  rw [Nat.zero_add, List.take_of_length_le (by
    rw [BoringfsObject.liveExtents, List.length_take, slots]
    exact Nat.min_le_right _ _)] at total
  exact total

variable {owners owners' : BlockOwners}

/-- A successful round on a record that is not free -/
theorem validateObject_checked (reads : source.Reads volume) (regions : Regions superblock)
    (inside : superblock.totalBlocks * boringfsBlockSize ≤ source.size)
    (inTable : 1 ≤ objectId ∧ objectId ≤ superblock.objectCount)
    (accepted : validateObject source superblock objectId owners = .ok owners')
    (live : (contentsOf superblock volume).Live objectId) :
    ObjectChecked superblock ((contentsOf superblock volume).record objectId)
      ((contentsOf superblock volume).object objectId) := by
  have notFree : ¬ bytesAllZero ((contentsOf superblock volume).record objectId) = true := by
    rw [live]
    exact Bool.false_ne_true
  rw [validateObject, readObjectRecord_eq reads regions inside inTable] at accepted
  rw [VolumeContents.object]
  generalize (contentsOf superblock volume).record objectId = raw at accepted notFree ⊢
  simp only [if_neg notFree, ite_eq_ok] at accepted
  rcases accepted with ⟨fields, -, -, -, accepted⟩
  have slots := decodeObject_extents raw
  generalize boringfsDecodeObject raw = object at fields accepted slots ⊢
  rw [Bool.not_eq_true] at fields
  simp only [badObjectFields, Bool.or_eq_false_iff, bne_eq_false_iff_eq, decide_eq_false_iff_not,
    Bool.not_eq_false'] at fields
  rcases fields with ⟨⟨⟨⟨⟨⟨⟨⟨state, -⟩, -⟩, -⟩, -⟩, -⟩, count⟩, reserved⟩, reserved'⟩
  cases rounds : forRange (validateExtent source superblock objectId raw object)
      boringfsMaxExtents 0 (0, owners) with
  | error failure =>
    grind
  | ok last =>
    simp only [rounds, ite_eq_ok] at accepted
    have capacity := validateExtents_capacity slots (Nat.not_lt.mp count) rounds
    have round : ∀ index, index < boringfsMaxExtents → ∃ before after,
        validateExtent source superblock objectId raw object index before = .ok after :=
      fun index below => forRange_round boringfsMaxExtents 0 _ _ rounds index (Nat.zero_le _) (by omega)
    refine ⟨state, Nat.not_lt.mp count, ⟨reserved, reserved'⟩, ?_, ?_, ?_⟩
    · grind [validateExtent_unused]
    · intro extent member
      rcases List.mem_iff_getElem?.mp member with ⟨index, found⟩
      rw [BoringfsObject.liveExtents, List.getElem?_take] at found
      split at found
      · rename_i used
        rcases round index (Nat.lt_of_lt_of_le used (Nat.not_lt.mp count)) with
          ⟨before, after, isRound⟩
        rcases validateExtent_used used isRound with ⟨lower, upper, -⟩
        simp_all
      · cases found
    omega

/-- Whoever passes the second pass has every record checked. -/
theorem validateObjects_checked (reads : source.Reads volume) (regions : Regions superblock)
    (inside : superblock.totalBlocks * boringfsBlockSize ≤ source.size)
    (accepted : validateObjectsAndExtents source superblock owners = .ok owners')
    (inTable : 1 ≤ objectId ∧ objectId ≤ superblock.objectCount)
    (live : (contentsOf superblock volume).Live objectId) :
    ObjectChecked superblock ((contentsOf superblock volume).record objectId)
      ((contentsOf superblock volume).object objectId) := by
  rcases forRange_round superblock.objectCount 1 owners owners' accepted objectId inTable.1
    (by omega) with ⟨before, after, round⟩
  exact validateObject_checked reads regions inside inTable round live

theorem readDirectoryRecord_eq (reads : source.Reads volume) (regions : Regions superblock)
    (inside : superblock.totalBlocks * boringfsBlockSize ≤ source.size) {directoryId slot : Nat}
    (checked : ObjectChecked superblock ((contentsOf superblock volume).record directoryId)
      ((contentsOf superblock volume).object directoryId))
    (inDirectory : slot < ((contentsOf superblock volume).object directoryId).slots) :
    readDirectoryRecord source ((contentsOf superblock volume).object directoryId) slot =
      .ok ((contentsOf superblock volume).entryBytes directoryId slot) := by
  have record : (slot + 1) * boringfsDirectoryRecordSize ≤
      ((contentsOf superblock volume).object directoryId).sizeBytes :=
    (Nat.le_div_iff_mul_le (by decide)).mp inDirectory
  rw [Nat.succ_mul] at record
  have fits := Nat.le_trans record checked.covers
  have sizeSmall : ((contentsOf superblock volume).object directoryId).sizeBytes < 256 ^ 8 :=
    loadLe_slice_lt _ 16 8
  have product : checkedMulU64 slot boringfsDirectoryRecordSize = some (slot * boringfsDirectoryRecordSize) :=
    checkedMulU64_of_le (by unfold uint64Max; omega)
  have read := logicalObjectRead_eq reads regions inside checked.extents fits
  rw [readDirectoryRecord, product]
  simp only [read]
  rfl

/-- A successful round on a used record of a directory -/
theorem validateDirectoryRecord_recoded {directoryId slot : Nat} {directory : BoringfsObject}
    (isRaw : readDirectoryRecord source directory slot = .ok raw)
    (length : raw.length = boringfsDirectoryRecordSize) {counts counts' : Nat → Nat}
    (accepted : validateDirectoryRecord source superblock directoryId directory slot counts =
      .ok counts') :
    boringfsEncodeDirectoryRecord (boringfsDecodeDirectoryRecord raw) = some raw := by
  rw [validateDirectoryRecord, isRaw] at accepted
  by_cases unused : bytesAllZero raw = true
  · have zeros := eq_zeroBytes_of_allZero unused
    rw [length] at zeros
    rw [zeros]
    decide +kernel
  · simp only [if_neg unused, ite_eq_ok] at accepted
    rcases accepted with ⟨fields, padding, -, -⟩
    rw [Bool.not_eq_true] at fields
    simp only [badDirectoryRecordFields, Bool.or_eq_false_iff, beq_eq_false_iff_ne,
      Bool.not_eq_false', Bool.not_eq_false] at fields padding
    simp_all [encodeDirectoryRecord_decodeDirectoryRecord, directoryNameValid]

/-- A free record is encoded to zero bytes, and a checked one to itself. -/
theorem encodeObject_record (reads : source.Reads volume) (regions : Regions superblock)
    (inside : superblock.totalBlocks * boringfsBlockSize ≤ source.size)
    (accepted : validateObjectsAndExtents source superblock owners = .ok owners')
    (inTable : 1 ≤ objectId ∧ objectId ≤ superblock.objectCount) :
    boringfsEncodeObject ((contentsOf superblock volume).object objectId) =
      some ((contentsOf superblock volume).record objectId) := by
  have isRecord : (contentsOf superblock volume).record objectId =
      volume.read (recordOffset superblock objectId) boringfsObjectRecordSize := if_pos inTable
  have length : ((contentsOf superblock volume).record objectId).length =
      boringfsObjectRecordSize := by
    rw [isRecord, ByteVolume.length_read]
  by_cases live : (contentsOf superblock volume).Live objectId
  · have checked := validateObjects_checked reads regions inside accepted inTable live
    exact encodeObject_decodeObject length checked.allocated checked.count checked.reserved checked.unused
  rw [VolumeContents.Live, Bool.not_eq_false] at live
  have zeros := eq_zeroBytes_of_allZero live
  rw [length] at zeros
  rw [VolumeContents.object, zeros]
  decide +kernel

theorem encodeDirectoryRecord_entry (reads : source.Reads volume) (regions : Regions superblock)
    (inside : superblock.totalBlocks * boringfsBlockSize ≤ source.size) {counts counts' : Nat → Nat}
    (objects : validateObjectsAndExtents source superblock owners = .ok owners')
    (directories : validateDirectories source superblock counts = .ok counts')
    {directoryId slot : Nat} (live : (contentsOf superblock volume).LiveDirectory directoryId)
    (inDirectory : slot < ((contentsOf superblock volume).object directoryId).slots) :
    boringfsEncodeDirectoryRecord ((contentsOf superblock volume).entry directoryId slot) =
      some ((contentsOf superblock volume).entryBytes directoryId slot) := by
  have inTable : 1 ≤ directoryId ∧ directoryId ≤ superblock.objectCount := by
    by_contra outside
    have nothing : (contentsOf superblock volume).record directoryId =
        zeroBytes boringfsObjectRecordSize := if_neg outside
    have notLive := live.1
    rw [VolumeContents.Live, nothing] at notLive
    revert notLive
    decide +kernel
  have checked := validateObjects_checked reads regions inside objects inTable live.1
  rcases forRange_round superblock.objectCount 1 counts counts' directories directoryId inTable.1
    (by omega) with ⟨before, after, round⟩
  rw [validateDirectory, decodeObjectId_eq reads regions inside inTable] at round
  have isDirectory : ¬ (((contentsOf superblock volume).object directoryId).state ≠
      boringfsObjectAllocated ∨ ((contentsOf superblock volume).object directoryId).type ≠
        boringfsTypeDirectory) := by
    rintro (free | other)
    · exact free checked.allocated
    · exact other live.2
  simp only [if_neg isDirectory] at round
  rcases forRange_round _ 0 before after round slot (Nat.zero_le _)
    (by rw [Nat.zero_add]; exact inDirectory) with ⟨counts, counts', isRound⟩
  exact validateDirectoryRecord_recoded (readDirectoryRecord_eq reads regions inside checked inDirectory)
    (ByteVolume.length_read _ _ _) isRound

end Passes

theorem accepted_passes {source : ByteSource} {volume : ByteVolume} (reads : source.Reads volume)
    {workspace : ValidationWorkspace} (accepted : boringfsValidateSource source workspace = .ok ()) :
    SuperblockSound (superblockOf volume) ∧ bytesAllZero (volume.read 64 (boringfsBlockSize - 64)) = true ∧
      (superblockOf volume).totalBlocks * boringfsBlockSize ≤ source.size ∧
      (∃ owners owners', validateObjectsAndExtents source (superblockOf volume) owners =
        .ok owners') ∧
      ∃ counts counts', validateDirectories source (superblockOf volume) counts = .ok counts' := by
  rw [boringfsValidateSource] at accepted
  cases first : validateSuperblock source with
  | error failure =>
    grind
  | ok superblock =>
    rcases (validateSuperblock_ok_iff reads superblock).mp first with ⟨rfl, sound, zeros, inside⟩
    simp only [first, ite_eq_ok] at accepted
    have contents := accepted.2
    refine ⟨sound, zeros, inside, ?_⟩
    simp only [validateContents, bind, Except.bind] at contents
    split at contents
    · cases contents
    split at contents
    · cases contents
    · grind

end BoringOS.BoringFs
