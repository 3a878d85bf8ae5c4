import BoringOS.BoringFs.BlockStore
import BoringOS.Library.Run

namespace BoringOS.BoringFs

open Library

/-!
# When the block cache can be trusted

The cache is coherent when its valid block is the device's block.  A store
that fails clears the flag, but a load that fails does not: it leaves the
flag and the number of the old block beside whatever the device put into the
buffer.  The runs below are therefore coherent exactly for the devices whose
failed reads do not touch a trusted buffer.  The specifications of reading
and writing that come out of the proof serve every operation above.
-/

/-! ## Whole blocks and stretches -/

theorem position_in_block (position : Nat) :
    position / boringfsBlockSize * boringfsBlockSize + position % boringfsBlockSize = position := by
  rw [Nat.mul_comm]
  exact Nat.div_add_mod position boringfsBlockSize

theorem blockSize_pos : 0 < boringfsBlockSize := by decide

/-- A stretch inside one block, as a stretch of that block. -/
theorem read_blockOf (volume : ByteVolume) {current chunk : Nat} :
    (blockOf volume (current / boringfsBlockSize)).read (current % boringfsBlockSize) chunk =
      volume.read current chunk := by
  apply ByteVolume.read_congr
  intro index _
  rw [blockOf, ← Nat.add_assoc, position_in_block]

/-- Writing back a block with a stretch replaced replaces that stretch of the
device. -/
theorem writeBlock_overwrite {volume buffer : ByteVolume} {current : Nat} {bytes : List UInt8}
    (fits : current % boringfsBlockSize + bytes.length ≤ boringfsBlockSize)
    (holds : ∀ index, index < boringfsBlockSize →
      buffer index = blockOf volume (current / boringfsBlockSize) index) :
    writeBlock volume (current / boringfsBlockSize)
      (buffer.overwrite (current % boringfsBlockSize) bytes) = volume.overwrite current bytes := by
  funext position
  have here := position_in_block position
  have there := position_in_block current
  have small := Nat.mod_lt position blockSize_pos
  rw [writeBlock]
  by_cases same : position / boringfsBlockSize = current / boringfsBlockSize
  · rw [if_pos same]
    rw [same] at here
    by_cases inside : current ≤ position ∧ position < current + bytes.length
    · have offset : position % boringfsBlockSize =
          current % boringfsBlockSize + (position - current) := by omega
      have position' : position = current + (position - current) := by omega
      rw [offset, ByteVolume.overwrite_inside (by omega)]
      conv => rhs; rw [position']
      rw [ByteVolume.overwrite_inside (by omega)]
    · rw [ByteVolume.overwrite_outside (by omega), ByteVolume.overwrite_outside (by omega),
        holds _ small, blockOf, here]
  · rw [if_neg same, ByteVolume.overwrite_outside]
    -- A position in another block is outside of a stretch inside this one.
    rcases Nat.lt_or_gt_of_ne same with below | above
    · have bound := Nat.mul_le_mul_right boringfsBlockSize (Nat.succ_le_of_lt below)
      rw [Nat.succ_mul] at bound
      omega
    · have bound := Nat.mul_le_mul_right boringfsBlockSize (Nat.succ_le_of_lt above)
      rw [Nat.succ_mul] at bound
      omega

/-! ## Coherence -/

variable (store : BlockStore)

/-- A valid cache holds the bytes of its block. -/
def Coherent : Prop :=
  store.cacheValid = true → ∀ index, index < boringfsBlockSize →
    store.blockCache index = blockOf store.device store.cachedBlock index

/-- The cache is valid and holds the block. -/
structure Holds (store : BlockStore) (block : Nat) : Prop where
  valid : store.cacheValid = true
  cached : store.cachedBlock = block
  bytes : ∀ index, index < boringfsBlockSize →
    store.blockCache index = blockOf store.device block index

theorem Holds.coherent {store : BlockStore} {block : Nat} (holds : Holds store block) :
    Coherent store := by
  intro _
  rw [holds.cached]
  exact holds.bytes

/-- A block that the source functions can ask for. -/
structure InVolume (geometry : StoreGeometry) (block : Nat) : Prop where
  exists' : block < geometry.totalBlocks
  small : block ≤ uint32Max
  inSource : block * boringfsBlockSize < geometry.sourceSize

/-- What the cache says about a block is true. -/
def TrustedAt (block : Nat) : Prop :=
  store.cacheValid = true → store.cachedBlock = block → ∀ index, index < boringfsBlockSize →
    store.blockCache index = blockOf store.device block index

theorem Coherent.trustedAt {store : BlockStore} (coherent : Coherent store) (block : Nat) :
    TrustedAt store block := by
  rintro valid rfl
  exact coherent valid

variable (io : DeviceAnswers)

/-- A read of another block that fails while the cache is valid leaves the
bytes of the buffer as they were. -/
def KeepsTrustedBuffer : Prop :=
  ∀ store block buffer, Coherent store → store.cacheValid = true → store.cachedBlock ≠ block →
    InVolume store.geometry block → io store block = .failed buffer →
    ∀ index, index < boringfsBlockSize → buffer index = store.blockCache index

theorem inVolume_of_position {geometry : StoreGeometry} {current : Nat}
    (inside : current < geometry.sourceSize)
    (admitted : ¬ (uint32Max < current / boringfsBlockSize ∨
      geometry.totalBlocks ≤ current / boringfsBlockSize)) :
    InVolume geometry (current / boringfsBlockSize) := by
  refine ⟨by omega, by omega, ?_⟩
  have here := position_in_block current
  omega

/-! ## Transfers -/

/-- A part of a call in which every transfer completes.  Between the transfers
only the buffer changes. -/
inductive Served (io : DeviceAnswers) (before : BlockStore) : BlockStore → Prop where
  | refl : Served io before before
  | loaded {store : BlockStore} {block : Nat} (served : Served io before store)
      (completed : io store block = .completed) :
      Served io before (loadCachedBlock io store block).2
  | edited {store : BlockStore} (served : Served io before store) (buffer : ByteVolume) :
      Served io before { store with blockCache := buffer }
  | stored {store : BlockStore} {block : Nat} (served : Served io before store)
      (completed : io store block = .completed) :
      Served io before (storeCachedBlock io store block).2

theorem Served.trans {io : DeviceAnswers} {before middle after : BlockStore}
    (first : Served io before middle) (second : Served io middle after) :
    Served io before after := by
  induction second with
  | refl => exact first
  | loaded _ completed ih => exact ih.loaded completed
  | edited _ buffer ih => exact ih.edited buffer
  | stored _ completed ih => exact ih.stored completed

/-- A call that ends with a transfer that fails. -/
def Refused (before after : BlockStore) : Prop :=
  ∃ store block buffer, Served io before store ∧ io store block = .failed buffer ∧
    (after = (loadCachedBlock io store block).2 ∨ after = (storeCachedBlock io store block).2)

theorem Served.refused {io : DeviceAnswers} {before middle after : BlockStore}
    (served : Served io before middle) (refused : Refused io middle after) :
    Refused io before after := by
  rcases refused with ⟨store, block, buffer, later, failed, ends⟩
  exact ⟨store, block, buffer, served.trans later, failed, ends⟩

section Device

variable {io : DeviceAnswers}

/-- A load either brings the block into the cache or ends in a transfer that
fails. -/
theorem loadIfMissing_cases (io : DeviceAnswers) {store : BlockStore} {block : Nat}
    (trusted : TrustedAt store block) (inVolume : InVolume store.geometry block) :
    ∃ after, after.device = store.device ∧ after.geometry = store.geometry ∧
      (loadIfMissing io store block = (true, after) ∧ Holds after block ∧ Served io store after ∨
        loadIfMissing io store block = (false, after) ∧ Refused io store after ∧
          (KeepsTrustedBuffer io → Coherent store → Coherent after)) := by
  rw [loadIfMissing]
  split
  · rename_i missing
    have present : ¬ store.geometry.totalBlocks ≤ block := Nat.not_le.mpr inVolume.exists'
    cases answer : io store block with
    | completed =>
      have served := Served.refl.loaded answer
      rw [loadCachedBlock, if_neg present, answer] at served ⊢
      refine ⟨_, ?_, ?_, Or.inl ⟨rfl, ⟨?_, ?_, fun _ _ => ?_⟩, served⟩⟩ <;> rfl
    | failed buffer =>
      have refused : Refused io store (loadCachedBlock io store block).2 :=
        ⟨store, block, buffer, .refl, answer, Or.inl rfl⟩
      rw [loadCachedBlock, if_neg present, answer] at refused ⊢
      refine ⟨_, ?_, ?_, Or.inr ⟨rfl, refused, fun kept coherent valid index small => ?_⟩⟩
      · rfl
      · rfl
      have other : store.cachedBlock ≠ block := missing.resolve_left (by simpa using valid)
      exact (kept store block buffer coherent valid other inVolume answer index small).trans
        (coherent valid index small)
  · rename_i hit
    simp only [not_or, ne_eq, not_not, Bool.not_eq_false] at hit
    exact ⟨store, rfl, rfl, Or.inl ⟨rfl, ⟨hit.1, hit.2, trusted hit.1 hit.2⟩, .refl⟩⟩

/-- A store clears the flag, or writes the buffer and trusts it. -/
theorem storeCachedBlock_cases (io : DeviceAnswers) (store : BlockStore) (block : Nat) :
    ∃ after, after.geometry = store.geometry ∧
      (storeCachedBlock io store block = (true, after) ∧ Holds after block ∧
          after.device = writeBlock store.device block store.blockCache ∧ Served io store after ∨
        storeCachedBlock io store block = (false, after) ∧ Coherent after ∧ after.device = store.device ∧
          (store.geometry.readOnly = false → block < store.geometry.totalBlocks →
            Refused io store after)) := by
  have coherent : ∀ {after : BlockStore}, after.cacheValid = false → Coherent after :=
    fun invalid valid => absurd (invalid.symm.trans valid) Bool.false_ne_true
  by_cases barred : store.geometry.readOnly = true ∨ store.geometry.totalBlocks ≤ block
  · rw [storeCachedBlock, if_pos barred]
    refine ⟨{ store with cacheValid := false }, rfl,
      Or.inr ⟨rfl, coherent rfl, rfl, fun writable present => ?_⟩⟩
    rcases barred with isReadOnly | absent
    · exact absurd (writable.symm.trans isReadOnly) Bool.false_ne_true
    · exact absurd present (Nat.not_lt.mpr absent)
  · cases answer : io store block with
    | completed =>
      have served := Served.refl.stored answer
      rw [storeCachedBlock, if_neg barred, answer] at served ⊢
      refine ⟨_, ?_, Or.inl ⟨rfl, ⟨?_, ?_, ?_⟩, ?_, served⟩⟩
      · rfl
      · rfl
      · rfl
      · intro index small
        have inBlock : (block * boringfsBlockSize + index) / boringfsBlockSize = block := by
          rw [Nat.mul_comm, Nat.mul_add_div blockSize_pos, Nat.div_eq_of_lt small, Nat.add_zero]
        have atIndex : (block * boringfsBlockSize + index) % boringfsBlockSize = index := by
          rw [Nat.mul_comm, Nat.mul_add_mod, Nat.mod_eq_of_lt small]
        simp only [blockOf, writeBlock, inBlock, if_true, atIndex]
      · rfl
    | failed buffer =>
      have refused : Refused io store (storeCachedBlock io store block).2 :=
        ⟨store, block, buffer, .refl, answer, Or.inr rfl⟩
      rw [storeCachedBlock, if_neg barred, answer] at refused ⊢
      refine ⟨_, ?_, Or.inr ⟨rfl, coherent ?_, ?_, fun _ _ => refused⟩⟩ <;> rfl

/-- The blocks up to a position exist. -/
def InsideBlocks (geometry : StoreGeometry) (stop : Nat) : Prop :=
  stop ≤ geometry.totalBlocks * boringfsBlockSize ∧ geometry.totalBlocks ≤ uint32Max

theorem InsideBlocks.admitted {geometry : StoreGeometry} {current stop : Nat}
    (inside : InsideBlocks geometry stop) (before : current < stop) :
    ¬ (uint32Max < current / boringfsBlockSize ∨
      geometry.totalBlocks ≤ current / boringfsBlockSize) := by
  have below := (Nat.div_lt_iff_lt_mul blockSize_pos).mpr (Nat.lt_of_lt_of_le before inside.1)
  have small := inside.2
  omega

/-! ## Reading -/

theorem sourceReadLoop_cases (io : DeviceAnswers) :
    ∀ fuel store current remaining, TrustedAt store (current / boringfsBlockSize) →
      remaining ≤ fuel → current + remaining ≤ store.geometry.sourceSize →
      ∃ after, after.device = store.device ∧ after.geometry = store.geometry ∧
        (sourceReadLoop io fuel store current remaining =
            (some (store.device.read current remaining), after) ∧
            (Coherent after ∨ after = store) ∧ Served io store after ∨
          sourceReadLoop io fuel store current remaining = (none, after) ∧
            (InsideBlocks store.geometry (current + remaining) → Refused io store after) ∧
            (KeepsTrustedBuffer io → Coherent store → Coherent after)) := by
  intro fuel
  induction fuel with
  | zero =>
    intro store current remaining trusted enough inside
    rw [Nat.le_zero.mp enough]
    exact ⟨store, rfl, rfl, Or.inl ⟨rfl, Or.inr rfl, .refl⟩⟩
  | succ fuel ih =>
    intro store current remaining trusted enough inside
    rw [sourceReadLoop]
    split
    · rename_i nothing
      rw [nothing]
      exact ⟨store, rfl, rfl, Or.inl ⟨rfl, Or.inr rfl, .refl⟩⟩
    simp only
    split
    · rename_i refused
      exact ⟨store, rfl, rfl, Or.inr ⟨rfl, fun blocks =>
        absurd refused (blocks.admitted (by omega)), fun _ coherent => coherent⟩⟩
    rename_i admitted
    have inVolume := inVolume_of_position (show current < store.geometry.sourceSize by omega) admitted
    rcases loadIfMissing_cases io trusted inVolume with
      ⟨loaded, device, geometry, ⟨result, holds, served⟩ | ⟨result, refused, kept⟩⟩
    · rw [result]
      have small := Nat.mod_lt current blockSize_pos
      generalize chunkIs : min (boringfsBlockSize - current % boringfsBlockSize) remaining = chunk
      have chunkBounds : 0 < chunk ∧ chunk ≤ remaining ∧
          current % boringfsBlockSize + chunk ≤ boringfsBlockSize := by omega
      have total : remaining = chunk + (remaining - chunk) := by omega
      rcases ih loaded (current + chunk) (remaining - chunk) (holds.coherent.trustedAt _)
        (by omega) (by rw [geometry]; omega) with
        ⟨after, device', geometry', ⟨rest, coherent, served'⟩ | ⟨rest, refused, kept⟩⟩
      · refine ⟨after, device'.trans device, geometry'.trans geometry,
          Or.inl ⟨?_, Or.inl ?_, served.trans served'⟩⟩
        · have copied : loaded.blockCache.read (current % boringfsBlockSize) chunk =
              store.device.read current chunk := by
            rw [← read_blockOf store.device, ← device]
            exact ByteVolume.read_congr fun index below => holds.bytes _ (by omega)
          simp only [rest, copied, device]
          rw [← ByteVolume.read_add, ← total]
        · rcases coherent with coherent | rfl
          · exact coherent
          · exact holds.coherent
      · refine ⟨after, device'.trans device, geometry'.trans geometry,
          Or.inr ⟨by simp only [rest], fun blocks => ?_, fun keeps _ =>
            kept keeps holds.coherent⟩⟩
        rw [geometry, Nat.add_assoc, ← total] at refused
        exact served.refused (refused blocks)
    · exact ⟨loaded, device, geometry, Or.inr ⟨by simp only [result], fun _ => refused, kept⟩⟩

/-- A read that succeeds returns the bytes of the device. -/
theorem boringfsSourceRead_cases (io : DeviceAnswers) {store : BlockStore} (offset length : Nat)
    (trusted : TrustedAt store (offset / boringfsBlockSize)) :
    ∃ after, after.device = store.device ∧ after.geometry = store.geometry ∧
      (boringfsSourceRead io store offset length = (some (store.device.read offset length), after) ∧
          (Coherent after ∨ after = store) ∧ Served io store after ∨
        boringfsSourceRead io store offset length = (none, after) ∧
          (offset + length ≤ store.geometry.sourceSize →
            InsideBlocks store.geometry (offset + length) → Refused io store after) ∧
          (KeepsTrustedBuffer io → Coherent store → Coherent after)) := by
  rw [boringfsSourceRead]
  split
  · exact ⟨store, rfl, rfl, Or.inr ⟨rfl, fun _ _ => by omega, fun _ coherent => coherent⟩⟩
  rcases sourceReadLoop_cases io length store offset length trusted (Nat.le_refl _)
    (by omega) with ⟨after, device, geometry, outcome | ⟨result, refused, kept⟩⟩
  · exact ⟨after, device, geometry, Or.inl outcome⟩
  · exact ⟨after, device, geometry, Or.inr ⟨result, fun _ => refused, kept⟩⟩

/-! ## Writing -/

/-- Some first part of the source reaches the device, and all of it when the
loop succeeds. -/
theorem sourceWriteLoop_cases (io : DeviceAnswers) :
    ∀ fuel store current source, TrustedAt store (current / boringfsBlockSize) →
      source.length ≤ fuel → current + source.length ≤ store.geometry.sourceSize →
      ∃ after written, after.geometry = store.geometry ∧
        after.device = store.device.overwrite current (source.take written) ∧
        (sourceWriteLoop io fuel store current source = (true, after) ∧ source.length ≤ written ∧
            (Coherent after ∨ after = store) ∧ Served io store after ∨
          sourceWriteLoop io fuel store current source = (false, after) ∧
            (store.geometry.readOnly = false →
              InsideBlocks store.geometry (current + source.length) → Refused io store after) ∧
            (KeepsTrustedBuffer io → Coherent store → Coherent after)) := by
  intro fuel
  induction fuel with
  | zero =>
    intro store current source trusted enough inside
    refine ⟨store, 0, rfl, ?_, Or.inl ⟨rfl, enough, Or.inr rfl, .refl⟩⟩
    rw [List.take_zero, ByteVolume.overwrite_nil]
  | succ fuel ih =>
    intro store current source trusted enough inside
    have unchanged : store.device = store.device.overwrite current (source.take 0) := by
      rw [List.take_zero, ByteVolume.overwrite_nil]
    rw [sourceWriteLoop]
    split
    · exact ⟨store, 0, rfl, unchanged, Or.inl ⟨rfl, by omega, Or.inr rfl, .refl⟩⟩
    simp only
    split
    · rename_i refused
      exact ⟨store, 0, rfl, unchanged, Or.inr ⟨rfl, fun _ blocks =>
        absurd refused (blocks.admitted (by omega)), fun _ coherent => coherent⟩⟩
    rename_i admitted
    have inVolume := inVolume_of_position (show current < store.geometry.sourceSize by omega) admitted
    rcases loadIfMissing_cases io trusted inVolume with
      ⟨loaded, device, geometry, ⟨result, holds, served⟩ | ⟨result, refused, kept⟩⟩
    · rw [result]
      have small := Nat.mod_lt current blockSize_pos
      generalize chunkIs : min (boringfsBlockSize - current % boringfsBlockSize) source.length = chunk
      have chunkBounds : 0 < chunk ∧ chunk ≤ source.length ∧
          current % boringfsBlockSize + chunk ≤ boringfsBlockSize := by omega
      have taken : (source.take chunk).length = chunk := by
        rw [List.length_take]
        omega
      have dropped : (source.drop chunk).length = source.length - chunk := List.length_drop
      have served := served.edited
        (loaded.blockCache.overwrite (current % boringfsBlockSize) (source.take chunk))
      simp only
      generalize changedIs : ({ loaded with
        blockCache := loaded.blockCache.overwrite (current % boringfsBlockSize)
          (source.take chunk) } : BlockStore) = changed at served
      have written : writeBlock changed.device (current / boringfsBlockSize)
          changed.blockCache = store.device.overwrite current (source.take chunk) := by
        rw [← changedIs, ← device]
        exact writeBlock_overwrite (by omega) holds.bytes
      have changedGeometry : changed.geometry = store.geometry := by
        rw [← changedIs]
        exact geometry
      have changedDevice : changed.device = store.device := by
        rw [← changedIs]
        exact device
      rcases storeCachedBlock_cases io changed (current / boringfsBlockSize) with
        ⟨stored, geometry', ⟨result', holds', device', served'⟩ | ⟨result', coherent, device', refused⟩⟩
      · have served := served.trans served'
        rcases ih stored (current + chunk) (source.drop chunk) (holds'.coherent.trustedAt _)
          (by omega) (by rw [geometry', changedGeometry]; omega) with
          ⟨after, count, geometry'', reached, outcome⟩
        refine ⟨after, chunk + count, geometry''.trans (geometry'.trans changedGeometry), ?_, ?_⟩
        · have step := ByteVolume.overwrite_overwrite store.device current
            (source.take chunk) ((source.drop chunk).take count)
          grind
        · have stop : current + chunk + (source.length - chunk) = current + source.length := by omega
          rcases outcome with ⟨rest, all, coherent, served'⟩ | ⟨rest, refused, kept⟩
          · refine Or.inl ⟨by simp only [result', rest], by omega, Or.inl ?_, served.trans served'⟩
            rcases coherent with coherent | rfl
            · exact coherent
            · exact holds'.coherent
          · rw [geometry', changedGeometry, dropped, stop] at refused
            exact Or.inr ⟨by simp only [result', rest], fun writable blocks =>
              served.refused (refused writable blocks),
              fun keeps _ => kept keeps holds'.coherent⟩
      · refine ⟨stored, 0, geometry'.trans changedGeometry,
          device'.trans (changedDevice.trans unchanged),
          Or.inr ⟨by simp only [result'], fun writable _ => ?_, fun _ _ => coherent⟩⟩
        rw [changedGeometry] at refused
        exact served.refused (refused writable inVolume.exists')
    · exact ⟨loaded, 0, geometry, device.trans unchanged,
        Or.inr ⟨by simp only [result], fun _ _ => refused, kept⟩⟩

theorem boringfsSourceWrite_cases (io : DeviceAnswers) {store : BlockStore} (offset : Nat)
    (source : List UInt8) (trusted : TrustedAt store (offset / boringfsBlockSize)) :
    ∃ after written, after.geometry = store.geometry ∧
      after.device = store.device.overwrite offset (source.take written) ∧
      (boringfsSourceWrite io store offset source = (true, after) ∧ source.length ≤ written ∧
          (Coherent after ∨ after = store) ∧ Served io store after ∨
        boringfsSourceWrite io store offset source = (false, after) ∧
          (store.geometry.readOnly = false →
            offset + source.length ≤ store.geometry.sourceSize →
            InsideBlocks store.geometry (offset + source.length) → Refused io store after) ∧
          (KeepsTrustedBuffer io → Coherent store → Coherent after)) := by
  rw [boringfsSourceWrite]
  split
  · refine ⟨store, 0, rfl, ?_, Or.inr ⟨rfl, fun writable _ _ => ?_, fun _ coherent => coherent⟩⟩
    · rw [List.take_zero, ByteVolume.overwrite_nil]
    · grind
  · rcases sourceWriteLoop_cases io _ store offset source trusted (Nat.le_refl _) (by omega) with
      ⟨after, written, geometry, device, outcome | ⟨result, refused, kept⟩⟩
    · exact ⟨after, written, geometry, device, Or.inl outcome⟩
    · exact ⟨after, written, geometry, device, Or.inr ⟨result, fun writable _ => refused writable, kept⟩⟩

theorem writeZeroedBlock_coherent {store : BlockStore} (coherent : Coherent store) (block : Nat)
    (start : List UInt8) : Coherent (writeZeroedBlock io store block start).2 := by
  rw [writeZeroedBlock]
  split
  · exact coherent
  rcases storeCachedBlock_cases io
    { store with blockCache := zeroBuffer.overwrite 0 start } block with
    ⟨after, -, ⟨result, holds, -⟩ | ⟨result, stuck, -⟩⟩
  · rw [result]
    exact holds.coherent
  · rw [result]
    exact stuck

end Device

/-! ## Runs -/

/-- The functions that use the cache. -/
inductive CacheCall where
  | sourceRead (offset length : Nat)
  | sourceWrite (offset : Nat) (source : List UInt8)
  | zeroedBlock (block : Nat) (start : List UInt8)

def cacheStep (store : BlockStore) : CacheCall → BlockStore
  | .sourceRead offset length => (boringfsSourceRead io store offset length).2
  | .sourceWrite offset source => (boringfsSourceWrite io store offset source).2
  | .zeroedBlock block start => (writeZeroedBlock io store block start).2

/-- A valid cache equals its block, and a read that succeeds returns the
bytes of the device. -/
def CacheExact (store : BlockStore) : Prop :=
  Coherent store ∧ ∀ offset length bytes, (boringfsSourceRead io store offset length).1 = some bytes →
      bytes = store.device.read offset length

theorem cacheStep_coherent {io : DeviceAnswers} (kept : KeepsTrustedBuffer io) (store : BlockStore)
    (call : CacheCall) (coherent : Coherent store) : Coherent (cacheStep io store call) := by
  cases call with
  | sourceRead offset length =>
    rcases boringfsSourceRead_cases io offset length (coherent.trustedAt _) with
      ⟨after, -, -, ⟨result, coherent' | rfl, -⟩ | ⟨result, -, keeps⟩⟩ <;> rw [cacheStep, result]
    · exact coherent'
    · exact coherent
    · exact keeps kept coherent
  | sourceWrite offset source =>
    rcases boringfsSourceWrite_cases io offset source (coherent.trustedAt _) with
      ⟨after, written, -, -, ⟨result, -, coherent' | rfl, -⟩ | ⟨result, -, keeps⟩⟩ <;>
      rw [cacheStep, result]
    · exact coherent'
    · exact coherent
    · exact keeps kept coherent
  | zeroedBlock block start => exact writeZeroedBlock_coherent coherent block start

/-- A read of one byte of another block, when the device fails it, shows what
is left in the buffer. -/
theorem sourceRead_failed {io : DeviceAnswers} {store : BlockStore} {block : Nat}
    {buffer : ByteVolume} (other : store.cachedBlock ≠ block)
    (inVolume : InVolume store.geometry block) (answer : io store block = .failed buffer) :
    (boringfsSourceRead io store (block * boringfsBlockSize) 1).2 =
      { store with blockCache := buffer, transfers := store.transfers + 1 } := by
  have inside : ¬ (store.geometry.sourceSize < block * boringfsBlockSize ∨
      store.geometry.sourceSize - block * boringfsBlockSize < 1) := by
    have := inVolume.inSource
    omega
  have blockIs : block * boringfsBlockSize / boringfsBlockSize = block :=
    Nat.mul_div_cancel _ blockSize_pos
  have admitted : ¬ (uint32Max < block ∨ store.geometry.totalBlocks ≤ block) := by
    have := inVolume.exists'
    have := inVolume.small
    omega
  have present : ¬ store.geometry.totalBlocks ≤ block := fun absent => admitted (Or.inr absent)
  rw [boringfsSourceRead, if_neg inside, sourceReadLoop, if_neg (Nat.one_ne_zero)]
  simp only [blockIs]
  rw [if_neg admitted, loadIfMissing, if_pos (Or.inr other), loadCachedBlock, if_neg present, answer]

/-- For every device: the cache is exact in every run from a coherent state if
and only if a read that the device fails leaves a trusted buffer alone. -/
theorem cache_exact_iff (io : DeviceAnswers) :
    (∀ start, Coherent start → ∀ calls, CacheExact io (run (cacheStep io) start calls)) ↔
      KeepsTrustedBuffer io := by
  constructor
  · intro exact' store block buffer coherent valid other inVolume answer index small
    have after := (exact' store coherent [.sourceRead (block * boringfsBlockSize) 1]).1
    rw [run_cons, run_nil, cacheStep, sourceRead_failed other inVolume answer] at after
    have garbled := after valid index small
    have trusted := coherent valid index small
    exact garbled.trans trusted.symm
  · intro kept start coherent calls
    have reached := run_invariant (cacheStep_coherent kept) calls start coherent
    refine ⟨reached, fun offset length bytes returned => ?_⟩
    rcases boringfsSourceRead_cases io offset length (reached.trustedAt _) with
      ⟨after, -, -, ⟨result, -⟩ | ⟨result, -⟩⟩
    · simp_all
    · rw [result] at returned
      cases returned

/-! ## A read that ends short -/

/-- The second transfer is a read that ends short, after the device has put
its bytes into the buffer. -/
def shortSecondRead : DeviceAnswers := fun store _ =>
  if store.transfers = 1 then .failed fun _ => 0xff else .completed

/-- A mount of 64 blocks right after its creation, over a device of zeros. -/
def freshStore : BlockStore where
  geometry := ⟨64, 8, 64 * boringfsBlockSize, false⟩
  device := fun _ => 0
  blockCache := fun _ => 0
  cachedBlock := uint32Max
  cacheValid := false
  transfers := 0

/-- Block 9 is read, the read of block 10 ends short, and the next read of
block 9 returns the bytes of the short read. -/
theorem shortRead_poisons_cache :
    ¬ ∀ io start, Coherent start → ∀ calls, CacheExact io (run (cacheStep io) start calls) := by
  intro claim
  have fresh : Coherent freshStore := by
    intro valid
    cases valid
  have returned := (claim shortSecondRead freshStore fresh
    [.sourceRead (9 * boringfsBlockSize) 1, .sourceRead (10 * boringfsBlockSize) 1]).2
    (9 * boringfsBlockSize) 1 [0xff] (by rfl)
  exact absurd returned (by decide)

end BoringOS.BoringFs
