import BoringOS.Library.LittleEndian
import BoringOS.Library.Loops
import BoringOS.Memory.AddressSpace

namespace BoringOS.Elf

open Library Memory

/-!
# The validator of program images

A transcription of the first half of `kernel/core/elf_loader.c`, up to
`boring_elf_validate`.  All numbers have 64 bits, and sums and products are
formed behind the checks that the source puts in front of them.  The source of
an image is its size and a read function that may fail.
-/

def boringElfModuleMaxSize : Nat := 65536
def boringElfMaxProgramHeaders : Nat := 8
def boringElfMaxLoadSegments : Nat := 4
def boringElfMaxImagePages : Nat := 16
def boringElfMaxStackPages : Nat := 2
def boringElfPageSize : Nat := 4096
def boringElfPfX : Nat := 0x1
def boringElfPfW : Nat := 0x2
def boringElfPfR : Nat := 0x4
def elfSupportedFlags : Nat := boringElfPfR ||| boringElfPfW ||| boringElfPfX
/-- `~ELF_SUPPORTED_FLAGS`, in 32 bits -/
def elfUnsupportedFlags : Nat := 2 ^ 32 - 1 - elfSupportedFlags
def elfClass64 : UInt8 := 2
def elfData2Lsb : UInt8 := 1
def evCurrent : Nat := 1
def etExec : Nat := 2
def emX8664 : Nat := 62
def ptLoad : Nat := 1
def ptDynamic : Nat := 2
def ptInterp : Nat := 3
def elf64EhdrSize : Nat := 64
def elf64PhdrSize : Nat := 56

/-- `struct boring_elf64_ehdr`, without the fields that nothing reads -/
structure Elf64Ehdr where
  ident : List UInt8
  type : Nat
  machine : Nat
  version : Nat
  entry : Nat
  phoff : Nat
  ehsize : Nat
  phentsize : Nat
  phnum : Nat
deriving DecidableEq, Repr

/-- `struct boring_elf64_phdr`, without the physical address -/
structure Elf64Phdr where
  type : Nat
  flags : Nat
  offset : Nat
  vaddr : Nat
  filesz : Nat
  memsz : Nat
  align : Nat
deriving DecidableEq, Repr

/-- `struct boring_elf_source`.  A read is given an offset and a length. -/
structure ElfSource where
  size : Nat
  read : Nat → Nat → Option (List UInt8)

/-- `struct boring_elf_segment` -/
structure ElfSegment where
  fileOffset : Nat
  virtualAddress : Nat
  fileSize : Nat
  memorySize : Nat
  pageCount : Nat
  flags : Nat
deriving DecidableEq, Repr

/-- `struct boring_elf_validation`.  The list holds the first
`load_segment_count` segments of the array. -/
structure ElfValidation where
  entry : Nat
  programHeaderCount : Nat
  totalImagePages : Nat
  segments : List ElfSegment
deriving DecidableEq, Repr

/-- `range_inside` -/
def rangeInside (total offset length : Nat) : Bool :=
  if total < offset ∨ uint64Max - offset < length then false else decide (offset + length ≤ total)

variable (source : ElfSource)

/-- `source_read_exact` and `read_object` -/
def sourceReadExact (offset length : Nat) : Option (List UInt8) :=
  if rangeInside source.size offset length then source.read offset length else none

variable (bytes : List UInt8)

/-- `boring_elf_memory_source_init`, with `memory_source_read` -/
def boringElfMemorySourceInit : Option ElfSource :=
  if bytes.length = 0 ∨ boringElfModuleMaxSize < bytes.length then none
  else
    some ⟨bytes.length, fun offset length =>
      if rangeInside bytes.length offset length then some (slice bytes offset length) else none⟩

/-- `add_u64` -/
def addU64 (first second : Nat) : Option Nat :=
  if uint64Max - first < second then none else some (first + second)

/-- `mul_u64` -/
def mulU64 (first second : Nat) : Option Nat :=
  if first ≠ 0 ∧ uint64Max / first < second then none else some (first * second)

/-- `page_count_for_size` -/
def pageCountForSize (size : Nat) : Option Nat :=
  if size = 0 ∨ uint64Max - (boringElfPageSize - 1) < size then none
  else
    let pageCount := (size + (boringElfPageSize - 1)) / boringElfPageSize
    if pageCount ≠ 0 then some pageCount else none

/-- `ranges_overlap` -/
def rangesOverlap (firstStart firstEnd secondStart secondEnd : Nat) : Bool :=
  decide (firstStart < secondEnd) && decide (secondStart < firstEnd)

/-- `segment_page_end` -/
def segmentPageEnd (segment : ElfSegment) : Option Nat :=
  match mulU64 segment.pageCount boringElfPageSize with
  | none => none
  | some bytes => addU64 segment.virtualAddress bytes

/-- `ring3_user_range_valid` -/
def ring3UserRangeValid (start length : Nat) : Bool :=
  if length = 0 ∨ canonicalLower start = false ∨ uint64Max - start < length - 1 then false
  else canonicalLower (start + (length - 1))

def decodeEhdr : Elf64Ehdr where
  ident := slice bytes 0 16
  type := loadLe (slice bytes 16 2)
  machine := loadLe (slice bytes 18 2)
  version := loadLe (slice bytes 20 4)
  entry := loadLe (slice bytes 24 8)
  phoff := loadLe (slice bytes 32 8)
  ehsize := loadLe (slice bytes 52 2)
  phentsize := loadLe (slice bytes 54 2)
  phnum := loadLe (slice bytes 56 2)

def decodePhdr : Elf64Phdr where
  type := loadLe (slice bytes 0 4)
  flags := loadLe (slice bytes 4 4)
  offset := loadLe (slice bytes 8 8)
  vaddr := loadLe (slice bytes 16 8)
  filesz := loadLe (slice bytes 32 8)
  memsz := loadLe (slice bytes 40 8)
  align := loadLe (slice bytes 48 8)

def readEhdr : Option Elf64Ehdr := (sourceReadExact source 0 elf64EhdrSize).map decodeEhdr

/-- The read of one program header in the loop of `boring_elf_validate_source` -/
def readPhdr (header : Elf64Ehdr) (index : Nat) : Option Elf64Phdr :=
  match mulU64 index header.phentsize with
  | none => none
  | some delta =>
    match addU64 header.phoff delta with
    | none => none
    | some phdrOffset => (sourceReadExact source phdrOffset elf64PhdrSize).map decodePhdr

/-- The magic, class, encoding and version in `e_ident` -/
def identValid (ident : List UInt8) : Bool :=
  ident.take 7 == [0x7f, 0x45, 0x4c, 0x46, elfClass64, elfData2Lsb, UInt8.ofNat evCurrent]

/-- The checks of `boring_elf_validate_source` on the ELF header -/
def ehdrValid (header : Elf64Ehdr) : Bool :=
  identValid header.ident && header.type == etExec && header.machine == emX8664 &&
    header.version == evCurrent && header.ehsize == elf64EhdrSize &&
    header.phentsize == elf64PhdrSize && header.phnum != 0 &&
    decide (header.phnum ≤ boringElfMaxProgramHeaders) &&
    match mulU64 header.phnum header.phentsize with
    | none => false
    | some tableBytes =>
      match addU64 header.phoff tableBytes with
      | none => false
      | some tableEnd => decide (tableEnd ≤ source.size)

/-- The checks on the fields of a loadable program header -/
def phdrFieldsValid (phdr : Elf64Phdr) : Bool :=
  phdr.memsz != 0 && decide (phdr.filesz ≤ phdr.memsz) &&
    phdr.flags &&& elfUnsupportedFlags == 0 && phdr.flags &&& boringElfPfR != 0 &&
    (phdr.flags &&& boringElfPfW == 0 || phdr.flags &&& boringElfPfX == 0) &&
    phdr.align == boringElfPageSize && phdr.vaddr &&& (boringElfPageSize - 1) == 0 &&
    phdr.offset &&& (boringElfPageSize - 1) == 0 && phdr.vaddr % phdr.align == phdr.offset % phdr.align &&
    rangeInside source.size phdr.offset phdr.filesz && ring3UserRangeValid phdr.vaddr phdr.memsz

/-- No segment so far reaches into the given range. -/
def noSegmentOverlaps (start end' : Nat) (segments : List ElfSegment) : Bool :=
  segments.all fun existing =>
    match segmentPageEnd existing with
    | none => false
    | some existingEnd => !rangesOverlap start end' existing.virtualAddress existingEnd

/-- The checks on a loadable program header that depend on the stack and on the
segments so far.  The segment and the end of its bytes in memory are returned. -/
def loadSegment (stackBase stackEnd : Nat) (validation : ElfValidation)
    (phdr : Elf64Phdr) : Option (ElfSegment × Nat) :=
  if boringElfMaxLoadSegments ≤ validation.segments.length ∨ phdrFieldsValid source phdr = false then none
  else
    match addU64 phdr.vaddr phdr.memsz, pageCountForSize phdr.memsz with
    | some memoryEnd, some pageCount =>
      if boringElfMaxImagePages < pageCount ∨
          boringElfMaxImagePages - pageCount < validation.totalImagePages then none
      else
        match mulU64 pageCount boringElfPageSize with
        | none => none
        | some bytes =>
          match addU64 phdr.vaddr bytes with
          | none => none
          | some pageEnd =>
            if rangesOverlap phdr.vaddr pageEnd (stackBase - boringElfPageSize) stackEnd = true ∨
                noSegmentOverlaps phdr.vaddr pageEnd validation.segments = false then none
            else
              some (⟨phdr.offset, phdr.vaddr, phdr.filesz, phdr.memsz, pageCount, phdr.flags⟩,
                memoryEnd)
    | _, _ => none

/-- One round of the loop over the program headers.  The flag is `entry_ok`. -/
def validatePhdr (header : Elf64Ehdr) (stackBase stackEnd : Nat)
    (index : Nat) (state : ElfValidation × Bool) : Except Unit (ElfValidation × Bool) :=
  match readPhdr source header index with
  | none => .error ()
  | some phdr =>
    if phdr.type = ptInterp ∨ phdr.type = ptDynamic then .error ()
    else if phdr.type ≠ ptLoad then .ok state
    else
      match loadSegment source stackBase stackEnd state.1 phdr with
      | none => .error ()
      | some (segment, memoryEnd) =>
        .ok ({ state.1 with
            totalImagePages := state.1.totalImagePages + segment.pageCount
            segments := state.1.segments ++ [segment] },
          state.2 || (decide (phdr.vaddr ≤ header.entry) && decide (header.entry < memoryEnd) &&
            phdr.flags &&& boringElfPfX != 0 && phdr.flags &&& boringElfPfW == 0))

variable (stackBase stackSize : Nat)

/-- The checks of `boring_elf_validate_source` on its arguments -/
def argumentsValid : Bool :=
  decide (elf64EhdrSize ≤ source.size) && decide (source.size ≤ boringElfModuleMaxSize) &&
    stackBase &&& (boringElfPageSize - 1) == 0 && decide (boringElfPageSize ≤ stackBase) &&
    stackSize != 0 && decide (stackSize ≤ boringElfMaxStackPages * boringElfPageSize) &&
    stackSize &&& (boringElfPageSize - 1) == 0 && ring3UserRangeValid stackBase stackSize

/-- `boring_elf_validate_source` -/
def boringElfValidateSource : Option ElfValidation :=
  if argumentsValid source stackBase stackSize = false then none
  else
    match readEhdr source with
    | none => none
    | some header =>
      if ehdrValid source header = false then none
      else
        match addU64 stackBase stackSize with
        | none => none
        | some stackEnd =>
          match forRange (validatePhdr source header stackBase stackEnd) header.phnum 0
              (⟨header.entry, header.phnum, 0, []⟩, false) with
          | .error () => none
          | .ok (validation, entryOk) =>
            if validation.segments.length ≠ 0 ∧ entryOk = true ∧
                ring3UserRangeValid header.entry 1 = true then some validation
            else none

/-- `boring_elf_validate` -/
def boringElfValidate : Option ElfValidation :=
  match boringElfMemorySourceInit bytes with
  | none => none
  | some source => boringElfValidateSource source stackBase stackSize

end BoringOS.Elf
