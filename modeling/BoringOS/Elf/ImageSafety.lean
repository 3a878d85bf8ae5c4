import Mathlib.Data.List.Pairwise
import BoringOS.Memory.PageTables
import BoringOS.Elf.Validator

namespace BoringOS.Elf

open Library Memory

/-!
# What the validator guarantees

Every field of an image may be chosen by an adversary.  The invariant of the
loop over the program headers says that the segments so far are those of the
file, and that they are sound one by one and apart from each other.  Rounding
up to pages stays inside of the user range, since both the range and the
pages end at a multiple of the page size.
-/

/-- The end of the addresses that a process can use -/
def userEnd : Nat := 2 ^ 47

/-- The page with the given number belongs to the segment. -/
def ElfSegment.Occupies (segment : ElfSegment) (page : Nat) : Prop :=
  segment.virtualAddress ≤ page * boringElfPageSize ∧
    page * boringElfPageSize < segment.virtualAddress + segment.pageCount * boringElfPageSize

def ElfSegment.writable (segment : ElfSegment) : Bool := segment.flags &&& boringElfPfW != 0

def ElfSegment.executable (segment : ElfSegment) : Bool := segment.flags &&& boringElfPfX != 0

/-- The segment that a loadable program header describes -/
def segmentOf (phdr : Elf64Phdr) : ElfSegment :=
  ⟨phdr.offset, phdr.vaddr, phdr.filesz, phdr.memsz,
    (phdr.memsz + (boringElfPageSize - 1)) / boringElfPageSize, phdr.flags⟩

/-- The segment that a program header of the file describes, if it is there
and loadable -/
def loadableSegment (source : ElfSource) (header : Elf64Ehdr) (index : Nat) : Option ElfSegment :=
  match readPhdr source header index with
  | none => none
  | some phdr => if phdr.type = ptLoad then some (segmentOf phdr) else none

/-- A single segment, for an image of the given size -/
structure SegmentSound (size stackBase stackSize : Nat) (segment : ElfSegment) : Prop where
  nonempty : 0 < segment.memorySize
  fileInside : segment.fileOffset + segment.fileSize ≤ size
  fileFits : segment.fileSize ≤ segment.memorySize
  fileAligned : segment.fileOffset % boringElfPageSize = 0
  addressAligned : segment.virtualAddress % boringElfPageSize = 0
  /-- Neither the bytes nor the pages reach behind the user range. -/
  memoryInside : segment.virtualAddress + segment.memorySize ≤ userEnd
  pagesInside : segment.virtualAddress + segment.pageCount * boringElfPageSize ≤ userEnd
  /-- The pages are those that the bytes reach into. -/
  pagesCover : segment.memorySize ≤ segment.pageCount * boringElfPageSize
  pagesNeeded : segment.pageCount * boringElfPageSize < segment.memorySize + boringElfPageSize
  protected' : ¬ (segment.writable = true ∧ segment.executable = true)
  /-- The segment ends below the guard page or starts behind the stack. -/
  stackApart : segment.virtualAddress + segment.pageCount * boringElfPageSize ≤
      stackBase - boringElfPageSize ∨ stackBase + stackSize ≤ segment.virtualAddress

/-- No page belongs to both. -/
def PagesApart (first second : ElfSegment) : Prop :=
  ∀ page, ¬ (first.Occupies page ∧ second.Occupies page)

/-- What is safe about an image that is accepted for a stack -/
structure ImageSafe (source : ElfSource) (stackBase stackSize : Nat) (validation : ElfValidation) :
    Prop where
  /-- The file is read inside of its bounds, and its segments are the
  loadable program headers in their order. -/
  headers : ∃ header, readEhdr source = some header ∧ validation.entry = header.entry ∧
    validation.programHeaderCount = header.phnum ∧
    0 < header.phnum ∧ header.phnum ≤ boringElfMaxProgramHeaders ∧
    header.phoff + header.phnum * elf64PhdrSize ≤ source.size ∧
    (∀ index < header.phnum, ∃ phdr, readPhdr source header index = some phdr ∧
      phdr.type ≠ ptInterp ∧ phdr.type ≠ ptDynamic) ∧
    validation.segments = (List.range header.phnum).filterMap (loadableSegment source header)
  size : source.size ≤ boringElfModuleMaxSize
  /-- The stack lies in the user range, above its guard page. -/
  stack : stackBase % boringElfPageSize = 0 ∧ boringElfPageSize ≤ stackBase ∧
    0 < stackSize ∧ stackSize % boringElfPageSize = 0 ∧
    stackSize ≤ boringElfMaxStackPages * boringElfPageSize ∧ stackBase + stackSize ≤ userEnd
  segments : ∀ segment ∈ validation.segments, SegmentSound source.size stackBase stackSize segment
  apart : validation.segments.Pairwise PagesApart
  /-- No page is mapped for writing by one segment and for execution by another. -/
  writeXorExecute : ∀ page, ¬ ((∃ segment ∈ validation.segments, segment.Occupies page ∧
      segment.writable = true) ∧ ∃ segment ∈ validation.segments, segment.Occupies page ∧
        segment.executable = true)
  entry : ∃ segment ∈ validation.segments, segment.executable = true ∧
    segment.writable = false ∧ segment.virtualAddress ≤ validation.entry ∧
    validation.entry < segment.virtualAddress + segment.memorySize
  count : 0 < validation.segments.length ∧ validation.segments.length ≤ boringElfMaxLoadSegments
  pages : validation.totalImagePages = (validation.segments.map ElfSegment.pageCount).sum ∧
    validation.totalImagePages ≤ boringElfMaxImagePages

theorem rangeInside_iff {total offset length : Nat} (fits : total ≤ uint64Max) :
    rangeInside total offset length = true ↔ offset + length ≤ total := by
  rw [rangeInside]
  split
  · grind
  · rw [decide_eq_true_eq]

theorem addU64_eq_some {first second sum : Nat} (result : addU64 first second = some sum) :
    sum = first + second := by
  rw [addU64] at result
  simp_all

theorem mulU64_eq_some {first second product : Nat} (result : mulU64 first second = some product) :
    product = first * second := by
  rw [mulU64] at result
  simp_all

theorem pageCountForSize_eq_some {size pageCount : Nat} (result : pageCountForSize size = some pageCount) :
    0 < size ∧ pageCount = (size + (boringElfPageSize - 1)) / boringElfPageSize := by
  rw [pageCountForSize] at result
  split at result
  · cases result
  grind

theorem ring3UserRangeValid_iff {start length : Nat} :
    ring3UserRangeValid start length = true ↔ 0 < length ∧ start + length ≤ userEnd := by
  have small : userEnd ≤ uint64Max := by decide
  rw [ring3UserRangeValid]
  split
  · constructor
    · intro impossible
      cases impossible
    · grind [canonicalLower_iff, userEnd]
  grind [canonicalLower_iff, userEnd]

theorem aligned_iff {value : Nat} : value &&& (boringElfPageSize - 1) = 0 ↔
    value % boringElfPageSize = 0 := by
  have mask : value &&& (boringElfPageSize - 1) = value % boringElfPageSize :=
    Nat.and_two_pow_sub_one_eq_mod value 12
  rw [mask]

theorem rangesOverlap_eq_false {firstStart firstEnd secondStart secondEnd : Nat} :
    rangesOverlap firstStart firstEnd secondStart secondEnd = false ↔
      secondEnd ≤ firstStart ∨ firstEnd ≤ secondStart := by
  rw [rangesOverlap, Bool.and_eq_false_iff, decide_eq_false_iff_not, decide_eq_false_iff_not,
    Nat.not_lt, Nat.not_lt]

theorem segmentPageEnd_eq_some {segment : ElfSegment} {pageEnd : Nat}
    (result : segmentPageEnd segment = some pageEnd) :
    pageEnd = segment.virtualAddress + segment.pageCount * boringElfPageSize := by
  grind [segmentPageEnd, addU64_eq_some, mulU64_eq_some]

/-- Ranges of bytes that are apart share no page. -/
theorem pagesApart_of_le {first second : ElfSegment}
    (apart : second.virtualAddress + second.pageCount * boringElfPageSize ≤ first.virtualAddress ∨
      first.virtualAddress + first.pageCount * boringElfPageSize ≤ second.virtualAddress) :
    PagesApart first second := by
  intro page both
  rcases both with ⟨⟨firstLower, firstUpper⟩, secondLower, secondUpper⟩
  omega

theorem noSegmentOverlaps_elim {start stop : Nat} {segments : List ElfSegment}
    (free : noSegmentOverlaps start stop segments = true) :
    ∀ existing ∈ segments,
      existing.virtualAddress + existing.pageCount * boringElfPageSize ≤ start ∨
        stop ≤ existing.virtualAddress := by
  rw [noSegmentOverlaps, List.all_eq_true] at free
  grind [rangesOverlap_eq_false, segmentPageEnd_eq_some]

/-- Rounding up to pages adds less than a page. -/
theorem roundedUp (size : Nat) :
    size ≤ (size + (boringElfPageSize - 1)) / boringElfPageSize * boringElfPageSize ∧
      (size + (boringElfPageSize - 1)) / boringElfPageSize * boringElfPageSize <
        size + boringElfPageSize := by
  unfold boringElfPageSize
  omega

/-- Rounding up does not leave the user range, since that ends with a page. -/
theorem roundedUp_inside {start size : Nat} (aligned : start % boringElfPageSize = 0)
    (inside : start + size ≤ userEnd) :
    start + (size + (boringElfPageSize - 1)) / boringElfPageSize * boringElfPageSize ≤
      userEnd := by
  unfold boringElfPageSize at *
  unfold userEnd at *
  omega

variable {source : ElfSource}

theorem phdrFieldsValid_elim {phdr : Elf64Phdr} (valid : phdrFieldsValid source phdr = true) :
    phdr.filesz ≤ phdr.memsz ∧
      (phdr.flags &&& boringElfPfW = 0 ∨ phdr.flags &&& boringElfPfX = 0) ∧
      phdr.vaddr % boringElfPageSize = 0 ∧ phdr.offset % boringElfPageSize = 0 ∧
      rangeInside source.size phdr.offset phdr.filesz = true ∧
      0 < phdr.memsz ∧ phdr.vaddr + phdr.memsz ≤ userEnd := by
  simp only [phdrFieldsValid, Bool.and_eq_true, Bool.or_eq_true, beq_iff_eq, bne_iff_ne,
    decide_eq_true_eq, aligned_iff, ring3UserRangeValid_iff] at valid
  simp [*]

theorem loadSegment_eq_some {stackBase stackSize memoryEnd : Nat}
    {validation : ElfValidation} {phdr : Elf64Phdr} {segment : ElfSegment}
    (fits : source.size ≤ uint64Max)
    (loaded : loadSegment source stackBase (stackBase + stackSize) validation phdr =
      some (segment, memoryEnd)) :
    segment = segmentOf phdr ∧ memoryEnd = phdr.vaddr + phdr.memsz ∧
      SegmentSound source.size stackBase stackSize segment ∧
      validation.segments.length < boringElfMaxLoadSegments ∧
      validation.totalImagePages + segment.pageCount ≤ boringElfMaxImagePages ∧
      ∀ existing ∈ validation.segments, PagesApart existing segment := by
  rw [loadSegment] at loaded
  split at loaded
  · cases loaded
  rename_i valid
  rw [not_or, Nat.not_le, Bool.not_eq_false] at valid
  rcases phdrFieldsValid_elim valid.2 with
    ⟨fileFits, protected', vaddr, offset, inside, positive, memoryInside⟩
  split at loaded
  · rename_i end' pageCount isEnd isCount
    split at loaded
    · cases loaded
    split at loaded
    · cases loaded
    rename_i bytes isBytes
    split at loaded
    · cases loaded
    rename_i pageEnd isPageEnd
    split at loaded
    · cases loaded
    rename_i free
    rw [not_or, Bool.not_eq_true, Bool.not_eq_false] at free
    cases loaded
    rcases pageCountForSize_eq_some isCount with ⟨-, rfl⟩
    rw [addU64_eq_some isPageEnd, mulU64_eq_some isBytes] at free
    have rounded := roundedUp phdr.memsz
    refine ⟨rfl, addU64_eq_some isEnd, ?_, by omega, by dsimp only; omega, ?_⟩
    · exact {
        nonempty := positive
        fileInside := (rangeInside_iff fits).mp inside
        fileFits := fileFits
        fileAligned := offset
        addressAligned := vaddr
        memoryInside := memoryInside
        pagesInside := roundedUp_inside vaddr memoryInside
        pagesCover := rounded.1
        pagesNeeded := rounded.2
        protected' := by
          simp only [ElfSegment.writable, ElfSegment.executable, bne_iff_ne]
          omega
        stackApart := (rangesOverlap_eq_false.mp free.1).symm }
    grind [pagesApart_of_le, noSegmentOverlaps_elim]
  · cases loaded

/-- What holds after the program headers below the index, for the validation
so far and for the flag `entry_ok` -/
structure HeadersChecked (source : ElfSource) (header : Elf64Ehdr) (stackBase stackSize index : Nat)
    (state : ElfValidation × Bool) : Prop where
  entry : state.1.entry = header.entry
  programHeaderCount : state.1.programHeaderCount = header.phnum
  readable : ∀ earlier < index, ∃ phdr, readPhdr source header earlier = some phdr ∧
    phdr.type ≠ ptInterp ∧ phdr.type ≠ ptDynamic
  ofFile : state.1.segments = (List.range index).filterMap (loadableSegment source header)
  segments : ∀ segment ∈ state.1.segments, SegmentSound source.size stackBase stackSize segment
  apart : state.1.segments.Pairwise PagesApart
  count : state.1.segments.length ≤ boringElfMaxLoadSegments
  pages : state.1.totalImagePages = (state.1.segments.map ElfSegment.pageCount).sum
  fewPages : state.1.totalImagePages ≤ boringElfMaxImagePages
  entryOk : state.2 = true → ∃ segment ∈ state.1.segments, segment.executable = true ∧
    segment.writable = false ∧ segment.virtualAddress ≤ header.entry ∧
    header.entry < segment.virtualAddress + segment.memorySize

theorem headersChecked_zero (source : ElfSource) (header : Elf64Ehdr) (stackBase stackSize : Nat) :
    HeadersChecked source header stackBase stackSize 0
      (⟨header.entry, header.phnum, 0, []⟩, false) where
  entry := rfl
  programHeaderCount := rfl
  readable earlier impossible := absurd impossible (Nat.not_lt_zero earlier)
  ofFile := rfl
  segments segment impossible := absurd impossible List.not_mem_nil
  apart := List.Pairwise.nil
  count := Nat.zero_le _
  pages := rfl
  fewPages := Nat.zero_le _
  entryOk impossible := by cases impossible

theorem readable_succ {header : Elf64Ehdr} {index : Nat} {phdr : Elf64Phdr}
    (readable : ∀ earlier < index, ∃ phdr, readPhdr source header earlier = some phdr ∧
      phdr.type ≠ ptInterp ∧ phdr.type ≠ ptDynamic)
    (isPhdr : readPhdr source header index = some phdr)
    (allowed : ¬ (phdr.type = ptInterp ∨ phdr.type = ptDynamic)) :
    ∀ earlier < index + 1, ∃ phdr, readPhdr source header earlier = some phdr ∧
      phdr.type ≠ ptInterp ∧ phdr.type ≠ ptDynamic := by
  intro earlier before
  rcases Nat.lt_succ_iff_lt_or_eq.mp before with older | rfl
  · exact readable earlier older
  grind

theorem segments_succ (source : ElfSource) (header : Elf64Ehdr) (index : Nat) :
    (List.range (index + 1)).filterMap (loadableSegment source header) =
      (List.range index).filterMap (loadableSegment source header) ++
        (loadableSegment source header index).toList := by
  rw [List.range_succ, List.filterMap_append]
  rfl

/-- One round of the loop -/
theorem validatePhdr_checked {header : Elf64Ehdr}
    {stackBase stackSize index : Nat} {state next : ElfValidation × Bool}
    (fits : source.size ≤ uint64Max)
    (checked : HeadersChecked source header stackBase stackSize index state)
    (result : validatePhdr source header stackBase (stackBase + stackSize) index state = .ok next) :
    HeadersChecked source header stackBase stackSize (index + 1) next := by
  rw [validatePhdr] at result
  split at result
  · cases result
  rename_i phdr isPhdr
  rw [ite_eq_ok] at result
  rcases result with ⟨allowed, result⟩
  have readable := readable_succ checked.readable isPhdr allowed
  split at result
  · rename_i notLoad
    cases result
    have nothing : loadableSegment source header index = none := by
      simp only [loadableSegment, isPhdr, if_neg notLoad]
    exact { checked with
      readable := readable
      ofFile := by rw [segments_succ, nothing, Option.toList_none, List.append_nil, checked.ofFile] }
  · rename_i isLoad
    rw [not_ne_iff] at isLoad
    split at result
    · cases result
    rename_i segment memoryEnd loaded
    cases result
    rcases loadSegment_eq_some fits loaded with
      ⟨isSegment, isEnd, sound, fewer, fewPages, apart⟩
    have described : loadableSegment source header index = some segment := by
      simp only [loadableSegment, isPhdr, if_pos isLoad, isSegment]
    exact {
      entry := checked.entry
      programHeaderCount := checked.programHeaderCount
      readable := readable
      ofFile := by rw [segments_succ, described, Option.toList_some, checked.ofFile]
      segments := by
        intro other isIn
        rcases List.mem_append.mp isIn with older | new
        · exact checked.segments other older
        simp_all
      apart := by
        apply List.pairwise_append.mpr
        refine ⟨checked.apart, List.pairwise_singleton _ _, ?_⟩
        simp_all
      count := by
        grind
      pages := by
        rw [List.map_append, List.sum_append, ← checked.pages]
        simp
      fewPages := fewPages
      entryOk := by
        intro ok
        rcases Bool.or_eq_true _ _ |>.mp ok with older | here
        · rcases checked.entryOk older with ⟨other, isIn, contains⟩
          grind
        simp only [Bool.and_eq_true, decide_eq_true_eq, beq_iff_eq] at here
        refine ⟨segment, List.mem_append_right _ (List.mem_singleton_self _), ?_⟩
        subst isSegment isEnd
        refine ⟨here.1.2, ?_, here.1.1.1, here.1.1.2⟩
        simp only [ElfSegment.writable, segmentOf, here.2, bne_self_eq_false] }

theorem argumentsValid_elim {stackBase stackSize : Nat}
    (valid : argumentsValid source stackBase stackSize = true) :
    source.size ≤ boringElfModuleMaxSize ∧ stackBase % boringElfPageSize = 0 ∧
      boringElfPageSize ≤ stackBase ∧ 0 < stackSize ∧ stackSize % boringElfPageSize = 0 ∧
      stackSize ≤ boringElfMaxStackPages * boringElfPageSize ∧ stackBase + stackSize ≤ userEnd := by
  simp only [argumentsValid, Bool.and_eq_true, beq_iff_eq, bne_iff_ne, decide_eq_true_eq,
    aligned_iff, ring3UserRangeValid_iff] at valid
  omega

theorem ehdrValid_elim {header : Elf64Ehdr} (valid : ehdrValid source header = true) :
    0 < header.phnum ∧ header.phnum ≤ boringElfMaxProgramHeaders ∧
      header.phoff + header.phnum * elf64PhdrSize ≤ source.size := by
  simp only [ehdrValid, Bool.and_eq_true, beq_iff_eq, bne_iff_ne, decide_eq_true_eq] at valid
  rcases valid with ⟨⟨⟨⟨-, phentsize⟩, positive⟩, few⟩, table⟩
  refine ⟨Nat.pos_of_ne_zero positive, few, ?_⟩
  split at table
  · cases table
  rename_i tableBytes isBytes
  split at table
  · cases table
  rename_i tableEnd isEnd
  rw [addU64_eq_some isEnd, mulU64_eq_some isBytes, phentsize] at table
  exact of_decide_eq_true table

instance : Std.Symm PagesApart := ⟨fun _ _ apart page both => apart page both.symm⟩

theorem eq_of_shared_page {segments : List ElfSegment} (apart : segments.Pairwise PagesApart)
    {first second : ElfSegment} (firstIn : first ∈ segments) (secondIn : second ∈ segments)
    {page : Nat} (inFirst : first.Occupies page) (inSecond : second.Occupies page) :
    first = second := by
  by_contra different
  exact apart.forall firstIn secondIn different page ⟨inFirst, inSecond⟩

/-- Every image that the validator accepts is safe, whatever its bytes are. -/
theorem boringElfValidateSource_safe (source : ElfSource) (stackBase stackSize : Nat)
    (validation : ElfValidation)
    (accepted : boringElfValidateSource source stackBase stackSize = some validation) :
    ImageSafe source stackBase stackSize validation := by
  rw [boringElfValidateSource] at accepted
  split at accepted
  · cases accepted
  rename_i arguments
  rw [Bool.not_eq_false] at arguments
  rcases argumentsValid_elim arguments with ⟨size, stack⟩
  have fits : source.size ≤ uint64Max := size.trans (by decide)
  split at accepted
  · cases accepted
  rename_i header isHeader
  split at accepted
  · cases accepted
  rename_i valid
  rw [Bool.not_eq_false] at valid
  rcases ehdrValid_elim valid with ⟨someHeaders, fewHeaders, table⟩
  split at accepted
  · cases accepted
  rename_i stackEnd isStackEnd
  cases addU64_eq_some isStackEnd
  split at accepted
  · cases accepted
  rename_i last entryOk looped
  split at accepted
  · rename_i final
    cases accepted
    have checked := forRange_invariant header.phnum 0 _ _
      (headersChecked_zero source header stackBase stackSize)
      (fun _ _ _ _ _ before round => validatePhdr_checked fits before round) looped
    rw [Nat.zero_add] at checked
    exact {
      headers := ⟨header, isHeader, checked.entry, checked.programHeaderCount,
        someHeaders, fewHeaders, table, checked.readable, checked.ofFile⟩
      size := size
      stack := stack
      segments := checked.segments
      apart := checked.apart
      writeXorExecute := by
        rintro page ⟨⟨writer, writerIn, written, writes⟩, executor, executorIn, executed, executes⟩
        cases eq_of_shared_page checked.apart writerIn executorIn written executed
        exact (checked.segments writer writerIn).protected' ⟨writes, executes⟩
      entry := by
        rw [checked.entry]
        exact checked.entryOk final.2.1
      count := ⟨Nat.pos_of_ne_zero final.1, checked.count⟩
      pages := ⟨checked.pages, checked.fewPages⟩ }
  · cases accepted

/-- A program header, with the alignment of a page -/
def loadHeader (flags offset address fileSize memorySize : Nat) : List UInt8 :=
  storeLe 4 ptLoad ++ storeLe 4 flags ++ storeLe 8 offset ++ storeLe 8 address ++ storeLe 8 0 ++
    storeLe 8 fileSize ++ storeLe 8 memorySize ++ storeLe 8 boringElfPageSize

/-- An image of two segments: an executable one with the headers, and behind it a
writable one of two pages, which begins with the same bytes -/
def twoSegments : List UInt8 :=
  [0x7f, 0x45, 0x4c, 0x46, 2, 1, 1, 0] ++ storeLe 8 0 ++ storeLe 2 etExec ++ storeLe 2 emX8664 ++
    storeLe 4 evCurrent ++ storeLe 8 0x400000 ++ storeLe 8 64 ++ storeLe 12 0 ++
    storeLe 2 elf64EhdrSize ++ storeLe 2 elf64PhdrSize ++ storeLe 2 2 ++ storeLe 6 0 ++
    loadHeader (boringElfPfR ||| boringElfPfX) 0 0x400000 176 176 ++
    loadHeader (boringElfPfR ||| boringElfPfW) 0 0x401000 176 5000

/-- What the validator makes of the image -/
def twoSegmentsValidation : ElfValidation :=
  ⟨0x400000, 2, 3, [⟨0, 0x400000, 176, 176, 1, boringElfPfR ||| boringElfPfX⟩,
    ⟨0, 0x401000, 176, 5000, 2, boringElfPfR ||| boringElfPfW⟩]⟩

def twoSegmentsSource : ElfSource := (boringElfMemorySourceInit twoSegments).get (by decide +kernel)

theorem boringElfValidateSource_safe_twoSegments :
    ImageSafe twoSegmentsSource 0x700000000000 8192 twoSegmentsValidation :=
  boringElfValidateSource_safe twoSegmentsSource 0x700000000000 8192 twoSegmentsValidation (by decide +kernel)

end BoringOS.Elf
