import BoringOS.BoringFs.Format
import BoringOS.Library.ByteVolume

namespace BoringOS.BoringFs

open Library

/-!
# Block input and output under the file system

A transcription of the cache layer of `kernel/fs/boringfs_vfs.c`.  One buffer
of a block is the destination of device reads and the place where writes are
prepared; `cacheValid` says whether it holds the block `cachedBlock`.

The device is asked for one transfer at a time.  Its answers are a function
of the state in which it is asked and of the block, so they may depend on
everything that happened before, and on the number of the transfer.  A
transfer that fails leaves the device as it was; a read that fails may leave
any bytes in the buffer.
-/

/-- The constants of a mount that bound its block accesses. -/
structure StoreGeometry where
  totalBlocks : Nat
  dataStart : Nat
  sourceSize : Nat
  readOnly : Bool
deriving DecidableEq, Repr

/-- The device and the block cache of a mount. -/
structure BlockStore where
  geometry : StoreGeometry
  device : ByteVolume
  blockCache : ByteVolume
  cachedBlock : Nat
  cacheValid : Bool
  transfers : Nat

/-- How a device transfer ends.  The bytes of a failed read are those that
the buffer holds afterwards. -/
inductive TransferOutcome where
  | completed
  | failed (buffer : ByteVolume)

/-- The answers of the device. -/
abbrev DeviceAnswers := BlockStore → Nat → TransferOutcome

/-- The bytes of one block. -/
def blockOf (volume : ByteVolume) (block : Nat) : ByteVolume :=
  fun index => volume (block * boringfsBlockSize + index)

/-- The device after a block has been written. -/
def writeBlock (volume : ByteVolume) (block : Nat) (buffer : ByteVolume) : ByteVolume :=
  fun position =>
    if position / boringfsBlockSize = block then buffer (position % boringfsBlockSize)
    else volume position

/-- `zero_bytes` on the whole buffer. -/
def zeroBuffer : ByteVolume := fun _ => 0

section Transfers

variable (io : DeviceAnswers)

variable (store : BlockStore)

/-- `load_cached_block` -/
def loadCachedBlock (block : Nat) : Bool × BlockStore :=
  if store.geometry.totalBlocks ≤ block then (false, store)
  else
    match io store block with
    | .failed buffer =>
      (false, { store with blockCache := buffer, transfers := store.transfers + 1 })
    | .completed =>
      (true,
        { store with
          blockCache := blockOf store.device block
          cachedBlock := block
          cacheValid := true
          transfers := store.transfers + 1 })

/-- `store_cached_block` -/
def storeCachedBlock (block : Nat) : Bool × BlockStore :=
  if store.geometry.readOnly = true ∨ store.geometry.totalBlocks ≤ block then
    (false, { store with cacheValid := false })
  else
    match io store block with
    | .failed _ => (false, { store with cacheValid := false, transfers := store.transfers + 1 })
    | .completed =>
      (true,
        { store with
          device := writeBlock store.device block store.blockCache
          cachedBlock := block
          cacheValid := true
          transfers := store.transfers + 1 })

/-- The load that both loops make before they touch a block. -/
def loadIfMissing (block : Nat) : Bool × BlockStore :=
  if store.cacheValid = false ∨ store.cachedBlock ≠ block then loadCachedBlock io store block
  else (true, store)

/-- The loop of `boringfs_source_read`. -/
def sourceReadLoop : (fuel : Nat) → BlockStore → (current remaining : Nat) → Option (List UInt8) × BlockStore
  | 0, store, _, _ => (some [], store)
  | fuel + 1, store, current, remaining =>
    if remaining = 0 then (some [], store)
    else
      let block := current / boringfsBlockSize
      let inBlock := current % boringfsBlockSize
      if uint32Max < block ∨ store.geometry.totalBlocks ≤ block then (none, store)
      else
        let chunk := min (boringfsBlockSize - inBlock) remaining
        match loadIfMissing io store block with
        | (false, store) => (none, store)
        | (true, store) =>
          match sourceReadLoop fuel store (current + chunk) (remaining - chunk) with
          | (none, after) => (none, after)
          | (some rest, after) => (some (store.blockCache.read inBlock chunk ++ rest), after)

/-- `boringfs_source_read`, with the bytes that it copies out. -/
def boringfsSourceRead (offset length : Nat) : Option (List UInt8) × BlockStore :=
  if store.geometry.sourceSize < offset ∨ store.geometry.sourceSize - offset < length then
    (none, store)
  else sourceReadLoop io length store offset length

/-- The loop of `boringfs_source_write`. -/
def sourceWriteLoop : (fuel : Nat) → BlockStore → (current : Nat) → List UInt8 → Bool × BlockStore
  | 0, store, _, _ => (true, store)
  | fuel + 1, store, current, source =>
    if source.length = 0 then (true, store)
    else
      let block := current / boringfsBlockSize
      let inBlock := current % boringfsBlockSize
      if uint32Max < block ∨ store.geometry.totalBlocks ≤ block then (false, store)
      else
        let chunk := min (boringfsBlockSize - inBlock) source.length
        match loadIfMissing io store block with
        | (false, store) => (false, store)
        | (true, store) =>
          let changed :=
            { store with blockCache := store.blockCache.overwrite inBlock (source.take chunk) }
          match storeCachedBlock io changed block with
          | (false, store) => (false, store)
          | (true, store) => sourceWriteLoop fuel store (current + chunk) (source.drop chunk)

/-- `boringfs_source_write` -/
def boringfsSourceWrite (offset : Nat) (source : List UInt8) : Bool × BlockStore :=
  if store.geometry.readOnly = true ∨ store.geometry.sourceSize < offset ∨
      store.geometry.sourceSize - offset < source.length then (false, store)
  else sourceWriteLoop io source.length store offset source

/-- `write_zeroed_block` -/
def writeZeroedBlock (block : Nat) (start : List UInt8) : Bool × BlockStore :=
  if block < store.geometry.dataStart ∨ store.geometry.totalBlocks ≤ block ∨
      boringfsBlockSize < start.length then (false, store)
  else storeCachedBlock io { store with blockCache := zeroBuffer.overwrite 0 start } block

end Transfers

end BoringOS.BoringFs
