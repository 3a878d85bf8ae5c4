import BoringOS.BoringFs.BlockCache
import BoringOS.BoringFs.ValidatorReads

namespace BoringOS.BoringFs

open Library

/-!
# Transfers into the extents of an object

Three loops split a range of an object over its extents: `object_read_exact`
and `object_write_exact` of the kernel, which go through the block cache, and
`logical_object_read` of the library.  An object with its extents one behind
the other has a place on the volume for each of its bytes, and every loop is
compared with these places.
-/

/-! ## The loops of the kernel -/

/-- The checks that `object_read_exact` makes on an extent, and its length in
bytes. -/
def readableBytes (geometry : StoreGeometry) (extent : BoringfsExtent) : Option Nat :=
  if extent.blockCount = 0 ∨ extent.startBlock < geometry.dataStart then none
  else do
    let endBlock ← checkedAddU64 extent.startBlock extent.blockCount
    if geometry.totalBlocks < endBlock then none
    else checkedMulU64 extent.blockCount boringfsBlockSize

/-- The checks that `object_write_exact` makes on an extent. -/
def writableBytes (extent : BoringfsExtent) : Option Nat :=
  if extent.blockCount = 0 then none else checkedMulU64 extent.blockCount boringfsBlockSize

/-- The place of an offset in an extent. -/
def physicalOffset (extent : BoringfsExtent) (offset : Nat) : Option Nat := do
  let physicalBase ← checkedMulU64 extent.startBlock boringfsBlockSize
  checkedAddU64 physicalBase offset

section Loops

variable (io : DeviceAnswers)

/-- The loops of `object_read_exact`.  The inner one takes all that an extent
can give in its first round. -/
def objectReadLoop : List BoringfsExtent → BlockStore → (offset remaining : Nat) →
    Option (List UInt8) × BlockStore
  | [], store, _, remaining => (if remaining = 0 then some [] else none, store)
  | extent :: others, store, offset, remaining =>
    if remaining = 0 then (some [], store)
    else
      match readableBytes store.geometry extent with
      | none => (none, store)
      | some extentBytes =>
        if extentBytes ≤ offset then
          objectReadLoop others store (offset - extentBytes) remaining
        else
          let chunk := min remaining (extentBytes - offset)
          match physicalOffset extent offset with
          | none => (none, store)
          | some physical =>
            match boringfsSourceRead io store physical chunk with
            | (none, store) => (none, store)
            | (some bytes, store) =>
              match objectReadLoop others store 0 (remaining - chunk) with
              | (none, after) => (none, after)
              | (some rest, after) => (some (bytes ++ rest), after)

/-- `object_read_exact` -/
def objectReadExact (store : BlockStore) (object : BoringfsObject) (offset length : Nat) :
    Option (List UInt8) × BlockStore :=
  if boringfsMaxExtents < object.extentCount then (none, store)
  else objectReadLoop io (object.extents.take object.extentCount) store offset length

/-- The loops of `object_write_exact` -/
def objectWriteLoop : List BoringfsExtent → BlockStore → (offset : Nat) → List UInt8 → Bool × BlockStore
  | [], store, _, source => (decide (source.length = 0), store)
  | extent :: others, store, offset, source =>
    if source.length = 0 then (true, store)
    else
      match writableBytes extent with
      | none => (false, store)
      | some extentBytes =>
        if extentBytes ≤ offset then
          objectWriteLoop others store (offset - extentBytes) source
        else
          let chunk := min source.length (extentBytes - offset)
          match physicalOffset extent offset with
          | none => (false, store)
          | some physical =>
            match boringfsSourceWrite io store physical (source.take chunk) with
            | (false, store) => (false, store)
            | (true, store) => objectWriteLoop others store 0 (source.drop chunk)

/-- `object_write_exact` -/
def objectWriteExact (store : BlockStore) (object : BoringfsObject) (offset : Nat)
    (source : List UInt8) : Bool × BlockStore :=
  if boringfsMaxExtents < object.extentCount then (false, store)
  else objectWriteLoop io (object.extents.take object.extentCount) store offset source

end Loops

/-! ## Sound extents -/

/-- The extents of an object that the validator accepts. -/
structure ExtentsSound (geometry : StoreGeometry) (extents : List BoringfsExtent) : Prop where
  used : ∀ extent ∈ extents, extent.blockCount ≠ 0 ∧ geometry.dataStart ≤ extent.startBlock ∧
    extent.startBlock + extent.blockCount ≤ geometry.totalBlocks
  separate : (extents.flatMap BoringfsExtent.blocks).Nodup

/-- The blocks of a mount lie inside its device. -/
structure GeometrySound (geometry : StoreGeometry) : Prop where
  small : geometry.totalBlocks ≤ boringfsMaxBlocks
  inside : geometry.totalBlocks * boringfsBlockSize ≤ geometry.sourceSize

variable {extent : BoringfsExtent} {others extents : List BoringfsExtent}
  {geometry : StoreGeometry}

section

variable (sound : ExtentsSound geometry (extent :: others))
include sound

theorem ExtentsSound.tail : ExtentsSound geometry others where
  used := fun other member => sound.used other (List.mem_cons_of_mem _ member)
  separate := (List.nodup_append.mp sound.separate).2.1

/-- What both loops compute about an extent of a sound object. -/
theorem ExtentsSound.head (isSound : GeometrySound geometry) :
    readableBytes geometry extent = some (extent.blockCount * boringfsBlockSize) ∧
      writableBytes extent = some (extent.blockCount * boringfsBlockSize) ∧
      ∀ offset, offset < extent.blockCount * boringfsBlockSize → physicalOffset extent offset =
          some (extent.startBlock * boringfsBlockSize + offset) := by
  rcases sound.used extent List.mem_cons_self with ⟨used, lower, upper⟩
  have total : geometry.totalBlocks ≤ 1048576 := isSound.small
  have countSmall : extent.blockCount ≤ 1048576 := by omega
  have startSmall : extent.startBlock ≤ 1048576 := by omega
  have bytes := checkedMulU64_small countSmall (by decide : boringfsBlockSize ≤ 4096)
  have base := checkedMulU64_small startSmall (by decide : boringfsBlockSize ≤ 4096)
  have baseSmall := product_small startSmall (by decide : boringfsBlockSize ≤ 4096)
  have bytesSmall := product_small countSmall (by decide : boringfsBlockSize ≤ 4096)
  have stop := checkedAddU64_small (show extent.startBlock ≤ 4294967296 by omega)
    (show extent.blockCount ≤ 4294967296 by omega)
  refine ⟨?_, ?_, fun offset below => ?_⟩
  · rw [readableBytes, if_neg (by omega), stop, Option.bind_eq_bind, Option.bind_some,
      if_neg (Nat.not_lt.mpr upper), bytes]
  · rw [writableBytes, if_neg used, bytes]
  · rw [physicalOffset, base, Option.bind_eq_bind, Option.bind_some]
    exact checkedAddU64_small baseSmall (by omega)

/-- The places of an extent lie in the blocks of the mount. -/
theorem ExtentsSound.stop (isSound : GeometrySound geometry) {offset : Nat}
    (inside : offset ≤ extent.blockCount * boringfsBlockSize) :
    extent.startBlock * boringfsBlockSize + offset ≤ geometry.sourceSize ∧
      InsideBlocks geometry (extent.startBlock * boringfsBlockSize + offset) := by
  have upper := (sound.used extent List.mem_cons_self).2.2
  have bound := Nat.mul_le_mul_right boringfsBlockSize upper
  have small := isSound.small
  have whole := isSound.inside
  rw [Nat.add_mul] at bound
  exact ⟨by omega, by omega, Nat.le_trans small (by decide)⟩

end

/-! ## Reading -/

/-- Where the cache holds a data block, it can be trusted. -/
def TrustedData (store : BlockStore) : Prop :=
  ∀ block, store.geometry.dataStart ≤ block → block < store.geometry.totalBlocks → TrustedAt store block

theorem Coherent.trustedData {store : BlockStore} (coherent : Coherent store) : TrustedData store :=
  fun block _ _ => coherent.trustedAt block

/-- The block in which a transfer into an extent starts can be trusted. -/
theorem TrustedData.inExtent {store : BlockStore} (trusted : TrustedData store)
    (sound : ExtentsSound store.geometry (extent :: others)) {offset : Nat}
    (here : offset < extent.blockCount * boringfsBlockSize) :
    TrustedAt store ((extent.startBlock * boringfsBlockSize + offset) / boringfsBlockSize) := by
  have bounds := sound.used extent List.mem_cons_self
  have below := (Nat.div_lt_iff_lt_mul blockSize_pos).mpr here
  rw [Nat.mul_comm, Nat.mul_add_div blockSize_pos]
  exact trusted _ (Nat.le_trans bounds.2.1 (Nat.le_add_right _ _))
    (Nat.lt_of_lt_of_le (Nat.add_lt_add_left below _) bounds.2.2)

/-- How a read of an object ends.  The range lies in the extents if the read
succeeds, and a read of such a range fails with a transfer. -/
inductive ReadEnds (io : DeviceAnswers) (store : BlockStore) (extents : List BoringfsExtent)
    (offset length : Nat) : Option (List UInt8) × BlockStore → Prop where
  | copied {after : BlockStore} (device : after.device = store.device)
      (inside : InsideExtents extents offset length) (served : Served io store after) :
      ReadEnds io store extents offset length
        (some ((extentVolume store.device extents).read offset length), after)
  | failed {after : BlockStore} (device : after.device = store.device)
      (refused : InsideExtents extents offset length → Refused io store after) :
      ReadEnds io store extents offset length (none, after)

variable (io : DeviceAnswers)

theorem objectReadLoop_ends (isSound : GeometrySound geometry)
    (extents : List BoringfsExtent) : ∀ store offset remaining, store.geometry = geometry →
      ExtentsSound geometry extents → TrustedData store →
      ReadEnds io store extents offset remaining (objectReadLoop io extents store offset remaining) := by
  induction extents with
  | nil =>
    intro store offset remaining _ _ _
    rw [objectReadLoop]
    split
    · rename_i nothing
      subst nothing
      exact .copied rfl (Or.inl rfl) .refl
    · refine .failed rfl fun inside => ?_
      rw [InsideExtents, capacityOf, List.flatMap_nil, List.length_nil, Nat.zero_mul] at inside
      omega
  | cons extent others ih =>
    rintro store offset remaining rfl sound trusted
    rcases sound.head isSound with ⟨readable, -, physical⟩
    rw [objectReadLoop, readable]
    split
    · rename_i nothing
      subst nothing
      exact .copied rfl (Or.inl rfl) .refl
    simp only
    split
    · rename_i skipped
      rcases Nat.exists_eq_add_of_le skipped with ⟨later, rfl⟩
      rw [Nat.add_sub_cancel_left]
      have rest := ih store later remaining rfl sound.tail trusted
      generalize objectReadLoop io others store later remaining = outcome at rest ⊢
      cases rest with
      | copied device inside served =>
        rw [← read_extentVolume_behind]
        exact .copied device (insideExtents_behind.mpr inside) served
      | failed device refused =>
        exact .failed device fun inside => refused (insideExtents_behind.mp inside)
    · rename_i starts
      have here := Nat.not_le.mp starts
      generalize isChunk : min remaining (extent.blockCount * boringfsBlockSize - offset) = chunk
      rcases sound.stop isSound (show offset + chunk ≤ _ by omega) with ⟨source, blocks⟩
      rw [← Nat.add_assoc] at source blocks
      rw [physical offset here]
      rcases boringfsSourceRead_cases io (extent.startBlock * boringfsBlockSize + offset) chunk
        (trusted.inExtent sound here) with
        ⟨read, device, geometry, ⟨result, coherent, served⟩ | ⟨result, refused, -⟩⟩
      · have trusted' : TrustedData read := by
          rcases coherent with coherent | rfl
          · exact coherent.trustedData
          · exact trusted
        have rest := ih read 0 (remaining - chunk) geometry sound.tail trusted'
        simp only [result]
        generalize objectReadLoop io others read 0 (remaining - chunk) = outcome at rest ⊢
        cases rest with
        | copied device' inside served' =>
          simp only
          rw [device, ← read_extentVolume here isChunk]
          exact .copied (device'.trans device)
            ((insideExtents_split here isChunk).mpr inside) (served.trans served')
        | failed device' refused =>
          exact .failed (device'.trans device) fun inside => served.refused
            (refused ((insideExtents_split here isChunk).mp inside))
      · simp only [result]
        exact .failed device fun _ => refused source blocks

/-! ## Writing -/

/-- How a write to an object ends.  Outside of the range of the object no byte
changes, however it ends.  A read-only mount refuses a write by itself. -/
structure WriteEnds (io : DeviceAnswers) (store : BlockStore) (extents : List BoringfsExtent)
    (offset : Nat) (source : List UInt8) (result : Bool × BlockStore) : Prop where
  others : ∀ position, (∀ index < source.length, offset + index < capacityOf extents →
    position ≠ bytePlace extents (offset + index)) →
      result.2.device position = store.device position
  written : result.1 = true → InsideExtents extents offset source.length ∧
    Served io store result.2 ∧ ∀ index < source.length,
      result.2.device (bytePlace extents (offset + index)) = source.getD index 0
  refused : store.geometry.readOnly = false → result.1 = false →
    InsideExtents extents offset source.length → Refused io store result.2

theorem ExtentsSound.apart (sound : ExtentsSound geometry (extent :: others)) {offset other : Nat}
    (here : offset < extent.blockCount * boringfsBlockSize) (inside : other < capacityOf others) :
    extent.startBlock * boringfsBlockSize + offset ≠ bytePlace others other := by
  intro same
  have isOther := bytePlace_block inside
  have below := (Nat.div_lt_iff_lt_mul blockSize_pos).mpr here
  have isHere : (extent.startBlock * boringfsBlockSize + offset) / boringfsBlockSize ∈
      extent.blocks := by
    rw [Nat.mul_comm, Nat.mul_add_div blockSize_pos, BoringfsExtent.blocks, List.mem_range'_1]
    exact ⟨Nat.le_add_right _ _, Nat.add_lt_add_left below _⟩
  rw [same] at isHere
  exact (List.nodup_append.mp sound.separate).2.2 _ isHere _ isOther rfl

theorem WriteEnds.nothing (store : BlockStore) {offset : Nat}
    {source : List UInt8} (empty : source.length = 0) :
    WriteEnds io store extents offset source (true, store) where
  others := fun _ _ => rfl
  written := fun _ => ⟨Or.inl empty, .refl, fun index below => by omega⟩
  refused := fun _ => nofun

/-- The part of a write that goes into one extent changes bytes of the object
only. -/
theorem overwrite_others {volume : ByteVolume} {offset position : Nat} {source part : List UInt8}
    (short : part.length ≤ source.length)
    (inside : offset + part.length ≤ extent.blockCount * boringfsBlockSize)
    (apart : ∀ index < source.length, offset + index < capacityOf (extent :: others) →
      position ≠ bytePlace (extent :: others) (offset + index)) :
    volume.overwrite (extent.startBlock * boringfsBlockSize + offset) part position = volume position := by
  apply ByteVolume.overwrite_outside
  by_contra within
  rcases Nat.exists_eq_add_of_le
    (show extent.startBlock * boringfsBlockSize + offset ≤ position by omega) with ⟨index, rfl⟩
  have below : offset + index < extent.blockCount * boringfsBlockSize := by omega
  refine apart index (by omega) (by rw [capacityOf_cons]; omega) ?_
  rw [bytePlace_here below, Nat.add_assoc]

theorem objectWriteLoop_ends (isSound : GeometrySound geometry)
    (extents : List BoringfsExtent) :
    ∀ store offset source, store.geometry = geometry → ExtentsSound geometry extents →
      TrustedData store →
      WriteEnds io store extents offset source (objectWriteLoop io extents store offset source) := by
  induction extents with
  | nil =>
    intro store offset source _ _ _
    rw [objectWriteLoop]
    by_cases empty : source.length = 0
    · rw [decide_eq_true empty]
      exact .nothing io store empty
    rw [decide_eq_false empty]
    refine ⟨fun _ _ => rfl, nofun, fun _ _ inside => ?_⟩
    rw [InsideExtents, capacityOf, List.flatMap_nil, List.length_nil, Nat.zero_mul] at inside
    omega
  | cons extent others ih =>
    rintro store offset source rfl sound trusted
    rcases sound.head isSound with ⟨-, writes, physical⟩
    rw [objectWriteLoop, writes]
    split
    · rename_i empty
      exact .nothing io store empty
    simp only
    split
    · rename_i skipped
      rcases Nat.exists_eq_add_of_le skipped with ⟨later, rfl⟩
      rw [Nat.add_sub_cancel_left]
      rcases ih store later source rfl sound.tail trusted with ⟨unchanged, written, refused⟩
      refine ⟨fun position apart => unchanged position fun index below inside => ?_,
        fun succeeded => ?_, fun writable failed inside =>
          refused writable failed (insideExtents_behind.mp inside)⟩
      · have other := apart index below (by rw [capacityOf_cons]; omega)
        rw [Nat.add_assoc, bytePlace_behind] at other
        exact other
      · rcases written succeeded with ⟨inside, served, bytes⟩
        refine ⟨insideExtents_behind.mpr inside, served, fun index below => ?_⟩
        rw [Nat.add_assoc, bytePlace_behind]
        exact bytes index below
    · rename_i starts
      have here := Nat.not_le.mp starts
      generalize isChunk : min source.length (extent.blockCount * boringfsBlockSize - offset) = chunk
      have taken : (source.take chunk).length = chunk := by
        rw [List.length_take]
        omega
      have dropped : (source.drop chunk).length = source.length - chunk := List.length_drop
      have split : InsideExtents (extent :: others) offset source.length ↔ _ :=
        insideExtents_split here isChunk
      rcases sound.stop isSound (show offset + chunk ≤ _ by omega) with ⟨stop, blocks⟩
      rw [← Nat.add_assoc, ← taken] at stop blocks
      rw [physical offset here]
      rcases boringfsSourceWrite_cases io (extent.startBlock * boringfsBlockSize + offset)
        (source.take chunk) (trusted.inExtent sound here) with
        ⟨stored, count, geometry, device, ⟨result, all, coherent, served⟩ | ⟨result, refused, -⟩⟩
      · have trusted' : TrustedData stored := by
          rcases coherent with coherent | rfl
          · exact coherent.trustedData
          · exact trusted
        rw [List.take_of_length_le all] at device
        simp only [result]
        rcases ih stored 0 (source.drop chunk) geometry sound.tail trusted' with
          ⟨unchanged, written, refused⟩
        -- Behind the first extent the object goes on where the others begin.
        have behind : ∀ index, index < source.length - chunk →
            bytePlace (extent :: others) (offset + (chunk + index)) =
              bytePlace others (0 + index) := by
          intro index below
          have atEnd : offset + (chunk + index) =
              extent.blockCount * boringfsBlockSize + (0 + index) := by omega
          rw [atEnd, bytePlace_behind]
        rw [dropped] at unchanged written refused
        refine ⟨fun position apart => ?_, fun succeeded => ?_, fun writable failed inside =>
          served.refused (refused (by rw [geometry]; exact writable) failed (split.mp inside))⟩
        · rw [unchanged position, device]
          · exact overwrite_others (by omega) (by omega) apart
          · intro index below inside
            rw [← behind index below]
            exact apart (chunk + index) (by omega) (by rw [capacityOf_cons]; omega)
        · rcases written succeeded with ⟨inside, served', bytes⟩
          refine ⟨split.mpr inside, served.trans served', fun index below => ?_⟩
          by_cases first : index < chunk
          · have inExtent : offset + index < extent.blockCount * boringfsBlockSize := by omega
            rw [bytePlace_here inExtent, unchanged, device, ← Nat.add_assoc,
              ByteVolume.overwrite_inside (by omega), List.getD_eq_getElem?_getD,
              List.getElem?_take_of_lt first, List.getD_eq_getElem?_getD]
            exact fun other _ within => sound.apart inExtent within
          · rcases Nat.exists_eq_add_of_le (Nat.not_lt.mp first) with ⟨rest, rfl⟩
            rw [behind rest (by omega), bytes rest (by omega), List.getD_eq_getElem?_getD,
              List.getElem?_drop, List.getD_eq_getElem?_getD]
      · simp only [result]
        refine ⟨fun position apart => ?_, nofun, fun writable _ _ => refused writable stop blocks⟩
        rw [device]
        have short : ((source.take chunk).take count).length ≤ chunk := by
          rw [List.length_take, taken]
          exact Nat.min_le_right _ _
        exact overwrite_others (by omega) (by omega) apart

/-! ## Exact accesses -/

/-- An object whose extents the validator accepts. -/
structure ObjectFits (geometry : StoreGeometry) (object : BoringfsObject) : Prop where
  extentCount : object.extentCount ≤ boringfsMaxExtents
  extents : ExtentsSound geometry object.liveExtents

/-- The three accesses to an object address the bytes at the places of the
object, and fail only behind its extents or with a transfer. -/
structure AccessExact (io : DeviceAnswers) (store : BlockStore) (object : BoringfsObject) :
    Prop where
  read : ∀ offset length, ReadEnds io store object.liveExtents offset length
    (objectReadExact io store object offset length)
  write : ∀ offset source, WriteEnds io store object.liveExtents offset source
    (objectWriteExact io store object offset source)
  library : ∀ source : ByteSource, source.Honest store.device →
    store.geometry.totalBlocks * boringfsBlockSize ≤ source.size → ∀ offset length,
      LibraryReadEnds source store.device object.liveExtents offset length
        (logicalObjectRead source object offset length)

theorem AccessExact.returned {io : DeviceAnswers} {store : BlockStore} {object : BoringfsObject}
    (exact' : AccessExact io store object) {offset length : Nat} {bytes : List UInt8}
    (returned : (objectReadExact io store object offset length).1 = some bytes) :
    bytes = (extentVolume store.device object.liveExtents).read offset length := by
  have ends := exact'.read offset length
  generalize objectReadExact io store object offset length = outcome at ends returned
  cases ends with
  | copied => exact (Option.some.inj returned).symm
  | failed => cases returned

/-- An object of one data block -/
def oneBlockObject (block : Nat) : BoringfsObject where
  state := boringfsObjectAllocated
  type := boringfsTypeRegular
  flags := 0
  objectId := 2
  parentObjectId := boringfsRootObjectId
  extentCount := 1
  sizeBytes := boringfsBlockSize
  extents := [⟨block, 1⟩]

theorem oneBlockObject_fits {block : Nat} (lower : geometry.dataStart ≤ block)
    (upper : block < geometry.totalBlocks) : ObjectFits geometry (oneBlockObject block) where
  extentCount := Nat.le_of_ble_eq_true rfl
  extents := by
    refine ⟨fun extent member => ?_, ?_⟩
    · rw [List.mem_singleton.mp member]
      exact ⟨Nat.one_ne_zero, lower, upper⟩
    · change [block].Nodup
      exact List.nodup_cons.mpr ⟨List.not_mem_nil, List.nodup_nil⟩

theorem objectReadExact_cached {store : BlockStore} {block index : Nat}
    (isSound : GeometrySound store.geometry) (lower : store.geometry.dataStart ≤ block)
    (upper : block < store.geometry.totalBlocks) (valid : store.cacheValid = true)
    (cached : store.cachedBlock = block) (small : index < boringfsBlockSize) :
    objectReadExact io store (oneBlockObject block) index 1 =
      (some [store.blockCache index], store) := by
  have sound := (oneBlockObject_fits lower upper).extents
  have isList : ExtentsSound _ [⟨block, 1⟩] := sound
  rcases isList.head isSound with ⟨readable, -, physical⟩
  have here : index < 1 * boringfsBlockSize := by rwa [Nat.one_mul]
  rcases isList.stop isSound (show index + 1 ≤ 1 * boringfsBlockSize from here) with ⟨stop, blocks⟩
  have chunk : min 1 (1 * boringfsBlockSize - index) = 1 := by omega
  have position : (block * boringfsBlockSize + index) / boringfsBlockSize = block := by
    rw [Nat.mul_comm, Nat.mul_add_div blockSize_pos, Nat.div_eq_of_lt small, Nat.add_zero]
  have inBlock : (block * boringfsBlockSize + index) % boringfsBlockSize = index := by
    rw [Nat.mul_comm, Nat.mul_add_mod, Nat.mod_eq_of_lt small]
  have admitted := blocks.admitted (Nat.lt_succ_self (block * boringfsBlockSize + index))
  rw [position] at admitted
  have one : min (boringfsBlockSize - index) 1 = 1 := by omega
  have stop : block * boringfsBlockSize + (index + 1) ≤ store.geometry.sourceSize := stop
  have hit : loadIfMissing io store block = (true, store) := by
    rw [loadIfMissing, if_neg (by simp [valid, cached])]
  have source : boringfsSourceRead io store (block * boringfsBlockSize + index) 1 =
      (some [store.blockCache index], store) := by
    rw [boringfsSourceRead, if_neg (by omega), sourceReadLoop, if_neg Nat.one_ne_zero]
    simp only [position, inBlock, one]
    rw [if_neg admitted, hit]
    simp only [sourceReadLoop, ByteVolume.read, List.range'_one, List.map_singleton, List.append_nil]
  change objectReadLoop io [⟨block, 1⟩] store index 1 = _
  rw [objectReadLoop, if_neg Nat.one_ne_zero, readable]
  simp only
  rw [if_neg (Nat.not_le.mpr here), physical index here, chunk]
  simp only [source, Nat.sub_self, objectReadLoop, if_true, List.append_nil]

/-- Every access to every sound object is exact if and only if the cache does
not hold wrong bytes of a data block. -/
theorem objectAccess_exact_iff {store : BlockStore} (isSound : GeometrySound store.geometry) :
    (∀ io object, ObjectFits store.geometry object → AccessExact io store object) ↔
      TrustedData store := by
  constructor
  · rintro accesses block lower upper valid cached index small
    have exact' := accesses (fun _ _ => .completed) (oneBlockObject block) (oneBlockObject_fits lower upper)
    have same := exact'.returned (congrArg Prod.fst
      (objectReadExact_cached _ isSound lower upper valid cached small))
    have place : bytePlace (oneBlockObject block).liveExtents index = block * boringfsBlockSize + index :=
      bytePlace_here (by rwa [Nat.one_mul])
    rw [ByteVolume.read, List.range'_one, List.map_singleton, extentVolume, place] at same
    exact (List.cons.inj same).1
  · intro trusted io object fits
    have admitted : ¬ boringfsMaxExtents < object.extentCount := Nat.not_lt.mpr fits.extentCount
    refine ⟨fun offset length => ?_, fun offset source => ?_, fun source honest inside offset length => ?_⟩
    · rw [objectReadExact, if_neg admitted]
      exact objectReadLoop_ends io isSound _ store offset length rfl fits.extents trusted
    · rw [objectWriteExact, if_neg admitted]
      exact objectWriteLoop_ends io isSound _ store offset source rfl fits.extents trusted
    · exact logicalReadLoop_ends honest isSound.small inside _
        (fun extent member => (fits.extents.used extent member).2.2) offset length

theorem objectAccess_exact_iff_fresh : GeometrySound freshStore.geometry ∧
    ((∀ io object, ObjectFits freshStore.geometry object → AccessExact io freshStore object) ↔
      TrustedData freshStore) :=
  have isSound : GeometrySound freshStore.geometry := ⟨by decide, by decide⟩
  ⟨isSound, objectAccess_exact_iff isSound⟩

/-- A read of block 10 ends short while block 9 is cached, and an object in
block 9 reads the bytes of the short read. -/
theorem shortRead_reaches_objects :
    ¬ ∀ io calls object, ObjectFits freshStore.geometry object →
      AccessExact io (run (cacheStep io) freshStore calls) object := by
  intro claim
  have exact' := claim shortSecondRead
    [.sourceRead (9 * boringfsBlockSize) 1, .sourceRead (10 * boringfsBlockSize) 1]
    (oneBlockObject 9) (oneBlockObject_fits (by decide) (by decide))
  have same := exact'.returned (show (objectReadExact _ _ _ 0 1).1 = some [0xff] by rfl)
  exact absurd (List.cons.inj same).1 (by decide)

end BoringOS.BoringFs
