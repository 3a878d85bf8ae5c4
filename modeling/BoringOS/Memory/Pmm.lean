import BoringOS.Library.WordBitmap

namespace BoringOS.Memory

open Library

/-!
# The physical frame allocator

A transcription of `kernel/core/pmm.c`.  The static variables of that file
are the fields of `Pmm`.  Addresses and counters are natural numbers, and
every overflow test of the source stays where the source has it, against
`uint64Max`.  A memory map entry keeps its fixed-width fields, so an entry
whose end would leave 64 bits is a value that the tests have to reject.

The arrays are bounded by counters in the source.  Here the region array is
the list of its first `pmm_region_count` elements, and the bitmap is a total
function on word numbers.
-/

def uint64Max : Nat := 2 ^ 64 - 1

def pmmPageSize : Nat := 4096
def pmmMaxMemoryMapEntries : Nat := 4096
def pmmMaxRegions : Nat := 64
def pmmMaxFrames : Nat := 8388608
def pmmBitsPerWord : Nat := 64
def pmmBitmapWords : Nat := (pmmMaxFrames + pmmBitsPerWord - 1) / pmmBitsPerWord

/-- `struct boring_limine_memmap_entry`, as the bootloader hands it over. -/
structure MemmapEntry where
  base : UInt64
  length : UInt64
  type : UInt64
deriving DecidableEq, Repr

def memmapUsable : UInt64 := 0
def memmapBootloaderReclaimable : UInt64 := 5

/-- One run of managed frames and the place of its bits in the bitmap. -/
structure PmmRegion where
  base : Nat
  frameCount : Nat
  bitmapBase : Nat
deriving DecidableEq, Repr

/-- The static state of the allocator. -/
structure Pmm where
  regions : List PmmRegion
  bitmap : WordBitmap
  totalFrames : Nat
  freeFrames : Nat
  initialized : Bool
  memoryMapCapped : Bool

/-- `pmm_reset_state` -/
def pmmResetState : Pmm where
  regions := []
  bitmap := fun _ => 0#64
  totalFrames := 0
  freeFrames := 0
  initialized := false
  memoryMapCapped := false

def pmmEntryEnd (entry : MemmapEntry) : Option Nat :=
  if entry.length.toNat = 0 then none
  else if uint64Max - entry.length.toNat < entry.base.toNat then none
  else some (entry.base.toNat + entry.length.toNat)

def pmmRangesOverlap (firstBase firstEnd secondBase secondEnd : Nat) : Bool :=
  decide (firstBase < secondEnd) && decide (secondBase < firstEnd)

def pmmOverlapRequiresRejection (firstType secondType : UInt64) : Bool :=
  firstType == memmapUsable || secondType == memmapUsable ||
    firstType == memmapBootloaderReclaimable || secondType == memmapBootloaderReclaimable

/-- Masking off the low bits of the sum is rounding down to a page. -/
def pmmAlignDown (value : Nat) : Nat := value / pmmPageSize * pmmPageSize

def pmmAlignUp (value : Nat) : Option Nat :=
  if uint64Max - (pmmPageSize - 1) < value then none
  else some (pmmAlignDown (value + (pmmPageSize - 1)))

variable (pmm : Pmm)

variable (frameIndex : Nat)

def pmmBitmapIndexValid : Bool :=
  decide (frameIndex < pmm.totalFrames) && decide (frameIndex < pmmMaxFrames) &&
    decide (frameIndex / pmmBitsPerWord < pmmBitmapWords)

def pmmBitIsSet : Bool := pmmBitmapIndexValid pmm frameIndex && pmm.bitmap.isSet frameIndex

def pmmSetBit : Option Pmm :=
  if pmmBitmapIndexValid pmm frameIndex then
    some { pmm with bitmap := pmm.bitmap.set frameIndex }
  else none

def pmmClearBit : Option Pmm :=
  if pmmBitmapIndexValid pmm frameIndex then
    some { pmm with bitmap := pmm.bitmap.clear frameIndex }
  else none

def pmmRegionEnd (region : PmmRegion) : Option Nat :=
  if uint64Max / pmmPageSize < region.frameCount then none
  else if uint64Max - region.frameCount * pmmPageSize < region.base then none
  else some (region.base + region.frameCount * pmmPageSize)

/-- The region loop of `pmm_find_frame`. -/
def pmmFindInRegions (pmm : Pmm) (physicalAddress : Nat) : List PmmRegion → Option Nat
  | [] => none
  | region :: rest =>
    match pmmRegionEnd region with
    | none => none
    | some regionEnd =>
      if region.base ≤ physicalAddress ∧ physicalAddress < regionEnd then
        let localFrame := (physicalAddress - region.base) / pmmPageSize
        if uint64Max - localFrame < region.bitmapBase then none
        else if pmmBitmapIndexValid pmm (region.bitmapBase + localFrame) then
          some (region.bitmapBase + localFrame)
        else none
      else pmmFindInRegions pmm physicalAddress rest

def pmmFindFrame (physicalAddress : Nat) : Option Nat :=
  if physicalAddress % pmmPageSize ≠ 0 then none
  else pmmFindInRegions pmm physicalAddress pmm.regions

/-- The inner loop over `other_index`: no later entry may be malformed, nor
overlap this one where one of the two types forbids it. -/
def pmmLaterEntriesAccepted (entry : MemmapEntry) (firstEnd : Nat) : List MemmapEntry → Bool
  | [] => true
  | other :: rest =>
    match pmmEntryEnd other with
    | none => false
    | some secondEnd =>
      if pmmRangesOverlap entry.base.toNat firstEnd other.base.toNat secondEnd &&
          pmmOverlapRequiresRejection entry.type other.type then false
      else pmmLaterEntriesAccepted entry firstEnd rest

/-- The first pass of `pmm_init` over the memory map. -/
def pmmEntriesAccepted : List MemmapEntry → Bool
  | [] => true
  | entry :: rest =>
    match pmmEntryEnd entry with
    | none => false
    | some firstEnd => pmmLaterEntriesAccepted entry firstEnd rest && pmmEntriesAccepted rest

/-- The tail of one round of the second pass: record the region, once the
sum of the frame counts has been checked. -/
def pmmRecordRegion (alignedBase frameCount : Nat) : Option Pmm :=
  if uint64Max - frameCount < pmm.totalFrames ∨ pmmMaxFrames < pmm.totalFrames + frameCount then
    none
  else some { pmm with
    regions := pmm.regions ++ [⟨alignedBase, frameCount, pmm.totalFrames⟩]
    totalFrames := pmm.totalFrames + frameCount }

/-- One round of the second pass.  `none` is the early return that resets the
state; an entry that is skipped leaves the state as it was. -/
def pmmAddEntry (entry : MemmapEntry) : Option Pmm :=
  if entry.type ≠ memmapUsable then some pmm
  else
    match pmmEntryEnd entry, pmmAlignUp entry.base.toNat with
    | some rawEnd, some alignedBase =>
      let alignedEnd := pmmAlignDown rawEnd
      if alignedEnd ≤ alignedBase then some pmm
      else
        let frameCount := (alignedEnd - alignedBase) / pmmPageSize
        if frameCount = 0 then some pmm
        else if pmmMaxFrames < pmm.totalFrames then none
        else
          let remainingFrames := pmmMaxFrames - pmm.totalFrames
          if remainingFrames = 0 ∨ pmmMaxRegions ≤ pmm.regions.length then
            some { pmm with memoryMapCapped := true }
          else if remainingFrames < frameCount then
            pmmRecordRegion { pmm with memoryMapCapped := true } alignedBase remainingFrames
          else pmmRecordRegion pmm alignedBase frameCount
    | _, _ => none

/-- The second pass of `pmm_init` over the memory map. -/
def pmmAddEntries (pmm : Pmm) : List MemmapEntry → Option Pmm
  | [] => some pmm
  | entry :: rest =>
    match pmmAddEntry pmm entry with
    | none => none
    | some next => pmmAddEntries next rest

/-- `pmm_init`.  A failed initialization leaves the reset state behind. -/
def pmmInit (memoryMap : List MemmapEntry) : Bool × Pmm :=
  if memoryMap.length = 0 then (false, pmmResetState)
  else if pmmMaxMemoryMapEntries < memoryMap.length then (false, pmmResetState)
  else if pmmEntriesAccepted memoryMap = false then (false, pmmResetState)
  else
    match pmmAddEntries pmmResetState memoryMap with
    | none => (false, pmmResetState)
    | some pmm =>
      if pmm.totalFrames = 0 then (false, pmmResetState)
      else (true, { pmm with freeFrames := pmm.totalFrames, initialized := true })

/-- How the scan of one region ends: the region has nothing to offer, the
whole call fails, or a clear bit was found. -/
inductive RegionSearch where
  | exhausted
  | failed
  | found (frameIndex frameAddress : Nat)
deriving DecidableEq, Repr

/-- The loop over `local_frame`, with the number of frames still to visit. -/
def pmmSearchFrames (pmm : Pmm) (region : PmmRegion) (maximum : Nat) :
    (remaining localFrame : Nat) → RegionSearch
  | 0, _ => .exhausted
  | remaining + 1, localFrame =>
    let frameIndex := region.bitmapBase + localFrame
    let frameAddress := region.base + localFrame * pmmPageSize
    if maximum ≤ frameAddress then .exhausted
    else if pmmBitmapIndexValid pmm frameIndex = false then .failed
    else if pmmBitIsSet pmm frameIndex = false then .found frameIndex frameAddress
    else pmmSearchFrames pmm region maximum remaining (localFrame + 1)

/-- The search in one region. -/
def pmmSearchRegion (alignedMinimum maximum : Nat) (region : PmmRegion) : RegionSearch :=
  match pmmRegionEnd region with
  | none => .failed
  | some regionEnd =>
    let searchBase := if region.base < alignedMinimum then alignedMinimum else region.base
    if regionEnd ≤ searchBase ∨ maximum ≤ searchBase then .exhausted
    else
      let localFrame := (searchBase - region.base) / pmmPageSize
      pmmSearchFrames pmm region maximum (region.frameCount - localFrame) localFrame

def pmmSearchRegions (pmm : Pmm) (alignedMinimum maximum : Nat) :
    List PmmRegion → RegionSearch
  | [] => .exhausted
  | region :: rest =>
    match pmmSearchRegion pmm alignedMinimum maximum region with
    | .exhausted => pmmSearchRegions pmm alignedMinimum maximum rest
    | outcome => outcome

/-- `pmm_alloc_frame_in_range`.  The result is the frame handed out, if any. -/
def pmmAllocFrameInRange (minimumPhysicalAddress maximumPhysicalAddressExclusive : Nat) :
    Option Nat × Pmm :=
  if pmm.initialized = false ∨ pmm.freeFrames = 0 ∨
      maximumPhysicalAddressExclusive ≤ minimumPhysicalAddress then (none, pmm)
  else
    match pmmAlignUp minimumPhysicalAddress with
    | none => (none, pmm)
    | some alignedMinimum =>
      if maximumPhysicalAddressExclusive ≤ alignedMinimum then (none, pmm)
      else
        match pmmSearchRegions pmm alignedMinimum maximumPhysicalAddressExclusive pmm.regions with
        | .found frameIndex frameAddress =>
          match pmmSetBit pmm frameIndex with
          | none => (none, pmm)
          | some marked => (some frameAddress, { marked with freeFrames := marked.freeFrames - 1 })
        | _ => (none, pmm)

/-- `pmm_alloc_frame` -/
def pmmAllocFrame : Option Nat × Pmm := pmmAllocFrameInRange pmm 0 uint64Max

/-- `pmm_free_frame` -/
def pmmFreeFrame (physicalAddress : Nat) : Bool × Pmm :=
  if pmm.initialized = false then (false, pmm)
  else
    match pmmFindFrame pmm physicalAddress with
    | none => (false, pmm)
    | some frameIndex =>
      if pmmBitIsSet pmm frameIndex = false then (false, pmm)
      else
        match pmmClearBit pmm frameIndex with
        | none => (false, pmm)
        | some cleared => (true, { cleared with freeFrames := cleared.freeFrames + 1 })

/-- `pmm_frame_is_usable` -/
def pmmFrameIsUsable (physicalAddress : Nat) : Bool :=
  pmm.initialized && (pmmFindFrame pmm physicalAddress).isSome

end BoringOS.Memory
