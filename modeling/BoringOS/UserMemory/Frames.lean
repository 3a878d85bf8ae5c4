import BoringOS.Library.Ledger
import BoringOS.Memory.AddressSpaceCalls
import BoringOS.UserMemory.Buffers

namespace BoringOS.UserMemory

open Library Ipc Memory

/-!
# Who owns a frame

A taken frame belongs to a buffer, to a page of an allocation, to another part
of the kernel, or to the call that is being executed and has not yet stored it
anywhere.  It never belongs to two of them.
-/

inductive FrameOwner
  | buffer (index position : Nat)
  | allocation (process slot position : Nat)
  | outside (frame : Nat)
  | pending (position : Nat)

/-- The page is one of an active allocation. -/
def AllocatedPage (state : UserMemoryProcessState) (slot position : Nat) : Prop :=
  slot < userMemoryAllocationMax ∧ (state.allocations slot).active = true ∧
    position < (state.allocations slot).pageCount

/-- The address of a page of an allocation -/
def allocationAddress (state : UserMemoryProcessState) (slot position : Nat) : Nat :=
  pageAddress (state.allocations slot).base position

/-- The owners, where the call that is being executed has the pending frames -/
def Owns (system : System) (pending : List Nat) : FrameOwner → Nat → Prop
  | .buffer index position, frame =>
    (system.objects index).active = true ∧ (system.objects index).frames[position]? = some frame
  | .allocation process slot position, frame =>
    AllocatedPage (system.processes process).userMemory slot position ∧
      ∃ page, (system.processes process).pages
        (allocationAddress (system.processes process).userMemory slot position) = some page ∧
          page.frame = frame
  | .outside held, frame => held = frame ∧ system.foreign frame = true
  | .pending position, frame => pending[position]? = some frame

structure FramesSound (memoryMap : List MemmapEntry) (system : System) (pending : List Nat) :
    Prop where
  pmm : PmmInvariant memoryMap system.pmm
  ledger : Ledger (Owns system pending) fun frame => pmmFrameTaken system.pmm frame = true

/-- What the boot protocol promises about the memory map: its first page is not usable. -/
def FirstPageReserved (memoryMap : List MemmapEntry) : Prop :=
  ∀ entry ∈ memoryMap, entry.type = memmapUsable → pmmPageSize ≤ entry.base.toNat

section

variable {memoryMap : List MemmapEntry} {system next : System} {pending pending' : List Nat}

section

variable (sound : FramesSound memoryMap system pending)
include sound

/-- Owners are renamed, and may drop out. -/
theorem FramesSound.relabel (label : FrameOwner → FrameOwner) (samePmm : next.pmm = system.pmm)
    (owned : ∀ owner frame, Owns next pending' owner frame →
      Owns system pending (label owner) frame)
    (apart : ∀ first second frame, Owns next pending' first frame → Owns next pending' second frame →
      label first = label second → first = second) : FramesSound memoryMap next pending' := by
  constructor
  · rw [samePmm]
    exact sound.pmm
  · rw [samePmm]
    exact sound.ledger.relabel label owned apart

/-- A change of the tables after which nobody owns more. -/
theorem FramesSound.shrink (samePmm : next.pmm = system.pmm)
    (owned : ∀ owner frame, Owns next pending' owner frame → Owns system pending owner frame) :
    FramesSound memoryMap next pending' :=
  sound.relabel id samePmm owned fun _ _ _ _ _ same => same

/-- The pending frames are forgotten, and stay taken. -/
theorem FramesSound.forgetPending : FramesSound memoryMap system [] := by
  apply sound.shrink rfl
  intro owner frame has
  cases owner with
  | pending position => cases has
  | _ => exact has

end

variable {frame : Nat}

/-- The frame at address zero is never owned. -/
theorem FramesSound.nonzero (sound : FramesSound memoryMap system pending)
    (reserved : FirstPageReserved memoryMap) {owner : FrameOwner}
    (has : Owns system pending owner frame) : frame ≠ 0 := by
  intro zero
  subst zero
  have taken := sound.ledger.taken owner 0 has
  rcases (pmmFrameTaken_iff sound.pmm.toPmmLayout).mp taken with ⟨index, at', -⟩
  rcases sound.pmm.toPmmLayout.frame_in_entry at' with ⟨entry, isEntry, usable, lower, -⟩
  have page := reserved entry isEntry usable
  have low := Nat.le_trans page lower
  exact absurd low (by decide)

/-- Another owner's frames stay as they are when one more is pending. -/
theorem owns_pending_append {owner : FrameOwner} {other : Nat}
    (has : Owns system (pending ++ [frame]) owner other) :
    Owns system pending owner other ∨ owner = .pending pending.length ∧ other = frame := by
  cases owner with
  | pending position =>
    change (pending ++ [frame])[position]? = some other at has
    rw [List.getElem?_append] at has
    split at has
    · exact Or.inl has
    rw [List.getElem?_singleton] at has
    split at has
    · grind
    · cases has
  | _ => exact Or.inl has

/-- The bit of the frame that was handed out is set, and no other one. -/
theorem taken_after_alloc {pmm after : Pmm}
    (changed : PmmChanged memoryMap pmm after frame true) (other : Nat) :
    pmmFrameTaken after other = true ↔ pmmFrameTaken pmm other = true ∨ other = frame := by
  rw [changed.taken]
  grind

theorem taken_after_free {pmm after : Pmm}
    (changed : PmmChanged memoryMap pmm after frame false) (other : Nat) :
    pmmFrameTaken after other = true ↔ pmmFrameTaken pmm other = true ∧ other ≠ frame := by
  rw [changed.taken]
  grind

section

variable (sound : FramesSound memoryMap system pending)
include sound

theorem allocFrame_sound (allocated : allocFrame system = (some frame, next)) :
    FramesSound memoryMap next (pending ++ [frame]) := by
  rw [allocFrame, Prod.mk.injEq] at allocated
  rcases allocated with ⟨isFrame, rfl⟩
  rcases pmmAllocFrameInRange_frames sound.pmm 0 uint64Max with
    unchanged | ⟨found, pmm, result, free, -, changed⟩
  · rw [pmmAllocFrame, unchanged] at isFrame
    cases isFrame
  rw [pmmAllocFrame, result] at isFrame ⊢
  cases isFrame
  refine ⟨changed.invariant, ?_⟩
  apply sound.ledger.handOut (.pending pending.length) frame
  · rw [free]
    exact Bool.false_ne_true
  · exact taken_after_alloc changed
  · intro owner other has
    exact owns_pending_append has

theorem allocFrame_none (failed : allocFrame system = (none, next)) : FramesSound memoryMap next pending := by
  rw [allocFrame, Prod.mk.injEq] at failed
  rcases failed with ⟨isNone, rfl⟩
  rcases pmmAllocFrameInRange_frames sound.pmm 0 uint64Max with
    unchanged | ⟨found, pmm, result, -⟩
  · rw [pmmAllocFrame, unchanged]
    exact sound
  · rw [pmmAllocFrame, result] at isNone
    cases isNone

/-- What an owner gives back is free, and nobody else is concerned. -/
theorem freeFrame_sound
    {owner : FrameOwner} (has : Owns system pending owner frame) (label : FrameOwner → FrameOwner)
    (owned : ∀ other another, Owns system pending' other another →
      Owns system pending (label other) another ∧ ¬ (label other = owner ∧ another = frame))
    (apart : ∀ first second another, Owns system pending' first another →
      Owns system pending' second another → label first = label second → first = second) :
    ∃ next, freeFrame system frame = (true, next) ∧ FramesSound memoryMap next pending' ∧
      next = { system with pmm := next.pmm } := by
  rcases pmmFreeFrame_frames sound.pmm frame with ⟨free, -⟩ | ⟨pmm, -, result, changed⟩
  · rw [sound.ledger.taken owner frame has] at free
    cases free
  refine ⟨{ system with pmm := pmm }, ?_, ⟨changed.invariant, ?_⟩, rfl⟩
  · rw [freeFrame, result]
  · have without : Ledger (fun other another => Owns system pending other another ∧
        ¬ (other = owner ∧ another = frame)) fun other => pmmFrameTaken pmm other = true :=
      sound.ledger.giveBack has (taken_after_free changed) fun _ _ both => both
    exact without.relabel label owned apart

end

theorem freeFrame_last (sound : FramesSound memoryMap system (pending ++ [frame])) :
    ∃ next, freeFrame system frame = (true, next) ∧ FramesSound memoryMap next pending ∧
      next = { system with pmm := next.pmm } := by
  have has : Owns system (pending ++ [frame]) (.pending pending.length) frame :=
    List.getElem?_concat_length
  apply freeFrame_sound sound has id
  · intro other another hasOther
    cases other with
    | pending position =>
      have before : position < pending.length := (List.getElem?_eq_some_iff.mp hasOther).1
      constructor
      · exact (List.getElem?_append_left before).trans hasOther
      grind
    | _ => exact ⟨hasOther, fun both => by cases both.1⟩
  · exact fun _ _ _ _ _ same => same

/-- The first pending frame is given back, and the others move up. -/
theorem freeFrame_first (sound : FramesSound memoryMap system (frame :: pending)) :
    ∃ next, freeFrame system frame = (true, next) ∧ FramesSound memoryMap next pending ∧
      next = { system with pmm := next.pmm } := by
  have has : Owns system (frame :: pending) (.pending 0) frame := List.getElem?_cons_zero
  apply freeFrame_sound sound has fun owner =>
    match owner with
    | .pending position => .pending (position + 1)
    | other => other
  · intro other another hasOther
    cases other with
    | pending position => exact ⟨hasOther, fun both => by cases both.1⟩
    | _ => exact ⟨hasOther, fun both => by cases both.1⟩
  grind

/-- The other parts of the kernel only touch their own frames. -/
theorem foreignStep_sound (sound : FramesSound memoryMap system pending) (call : ForeignCall) :
    FramesSound memoryMap (foreignStep system call) pending := by
  cases call with
  | alloc minimum maximum =>
    rw [foreignStep]
    rcases pmmAllocFrameInRange_frames sound.pmm minimum maximum with
      unchanged | ⟨frame, pmm, result, free, -, changed⟩
    · rw [unchanged]
      exact sound
    rw [result]
    refine ⟨changed.invariant, ?_⟩
    apply sound.ledger.handOut (.outside frame) frame
    · rw [free]
      exact Bool.false_ne_true
    · exact taken_after_alloc changed
    · intro owner other has
      cases owner with
      | outside held =>
        rcases has with ⟨rfl, isForeign⟩
        change Function.update system.foreign frame true held = true at isForeign
        by_cases isIt : held = frame
        · simp [*]
        · rw [Function.update_of_ne isIt] at isForeign
          exact Or.inl ⟨rfl, isForeign⟩
      | _ => exact Or.inl has
  | free frame =>
    rw [foreignStep]
    split
    · exact sound
    rename_i isForeign
    rw [Bool.not_eq_false] at isForeign
    have has : Owns system pending (.outside frame) frame := ⟨rfl, isForeign⟩
    rcases pmmFreeFrame_frames sound.pmm frame with ⟨free, -⟩ | ⟨pmm, -, result, changed⟩
    · rw [sound.ledger.taken _ frame has] at free
      cases free
    rw [result]
    refine ⟨changed.invariant, ?_⟩
    apply sound.ledger.giveBack has (taken_after_free changed)
    intro other another hasOther
    cases other with
    | outside held =>
      rcases hasOther with ⟨rfl, stillForeign⟩
      change Function.update system.foreign frame false held = true at stillForeign
      by_cases isIt : held = frame
      · simp_all
      rw [Function.update_of_ne isIt] at stillForeign
      refine ⟨⟨rfl, stillForeign⟩, ?_⟩
      omega
    | _ => exact ⟨hasOther, fun both => by cases both.1⟩

theorem foreignSteps_sound (calls : List ForeignCall) :
    ∀ {system : System}, FramesSound memoryMap system pending →
      FramesSound memoryMap (foreignSteps system calls) pending := by
  induction calls with
  | nil => exact fun sound => sound
  | cons call rest ih => exact fun sound => ih (foreignStep_sound sound call)

end

end BoringOS.UserMemory
