import BoringOS.Library.References
import BoringOS.Ipc.UserBuffers

namespace BoringOS.Ipc

open Library

/-!
# The reference counts of buffers are exact

An object's count is the number of its holders: handles and mappings of
processes, and others that retain a reference.  Who these others are is left
open, so that the calls on buffers need no knowledge of messages.  Every call
adds a holder, drops one or hands a reference on.
-/

/-- Who holds a reference to a buffer object. -/
inductive Holder (Other : Type) where
  | handle (process slot : Nat)
  | mapping (process slot : Nat)
  | other (holder : Other)

section Holders

variable {Other : Type}

variable (buffers : Buffers)

def Holds (others : Other → Nat → Prop) : Holder Other → Nat → Prop
  | .handle process slot, index =>
    slot < userMemoryBufferHandleMax ∧ ((buffers.processes process).userMemory.handles slot).active = true ∧
      ((buffers.processes process).userMemory.handles slot).objectIndex = index
  | .mapping process slot, index =>
    slot < userMemoryBufferMappingMax ∧
      ((buffers.processes process).userMemory.mappings slot).active = true ∧
      ((buffers.processes process).userMemory.mappings slot).objectIndex = index
  | .other holder, index => others holder index

/-- The count of an object, which is zero where there is none. -/
def references (index : Nat) : Nat :=
  match objectAt buffers index with
  | none => 0
  | some object => object.referenceCount

/-- The handle tables hold proper generations, and a process without life has
nothing left. -/
structure ProcessesSound (buffers : Buffers) : Prop where
  generations : ∀ process slot, slot < userMemoryBufferHandleMax →
    0 < ((buffers.processes process).userMemory.handles slot).generation ∧
      ((buffers.processes process).userMemory.handles slot).generation ≤
        userMemoryHandleGenerationMax
  finished : ∀ process, (buffers.processes process).alive = false →
    userMemoryProcessStateEmpty (buffers.processes process).userMemory = true

structure BuffersSound (buffers : Buffers) (others : Other → Nat → Prop) : Prop where
  counted : ∀ index, Counted (fun holder => Holds buffers others holder index)
    (references buffers index)
  processes : ProcessesSound buffers

theorem processes_setObject (index : Nat) (object : BufferObject) :
    (buffers.setObject index object).processes = buffers.processes := rfl

theorem setHandle_handles (process slot other position : Nat) (handle : BufferHandle) :
    ((buffers.setHandle process slot handle).processes other).userMemory.handles position =
      if other = process ∧ position = slot then handle
      else (buffers.processes other).userMemory.handles position := by
  simp only [Buffers.setHandle, Buffers.setProcess, Function.update_apply]
  split
  · grind
  simp [*]

variable (process slot other : Nat)

theorem setHandle_mappings (handle : BufferHandle) :
    ((buffers.setHandle process slot handle).processes other).userMemory.mappings =
      (buffers.processes other).userMemory.mappings := by
  simp only [Buffers.setHandle, Buffers.setProcess, Function.update_apply]
  grind

theorem setHandle_alive (handle : BufferHandle) :
    ((buffers.setHandle process slot handle).processes other).alive =
      (buffers.processes other).alive := by
  simp only [Buffers.setHandle, Buffers.setProcess, Function.update_apply]
  grind

theorem setMapping_mappings (process slot other position : Nat) (mapping : BufferMapping) :
    ((buffers.setMapping process slot mapping).processes other).userMemory.mappings position =
      if other = process ∧ position = slot then mapping
      else (buffers.processes other).userMemory.mappings position := by
  simp only [Buffers.setMapping, Buffers.setProcess, Function.update_apply]
  split
  · grind
  simp [*]

theorem setMapping_handles (mapping : BufferMapping) :
    ((buffers.setMapping process slot mapping).processes other).userMemory.handles =
      (buffers.processes other).userMemory.handles := by
  simp only [Buffers.setMapping, Buffers.setProcess, Function.update_apply]
  grind

theorem setMapping_alive (mapping : BufferMapping) :
    ((buffers.setMapping process slot mapping).processes other).alive =
      (buffers.processes other).alive := by
  simp only [Buffers.setMapping, Buffers.setProcess, Function.update_apply]
  grind

/-- Whose references count depends on the processes and the others. -/
theorem holds_congr {buffers next : Buffers} (same : next.processes = buffers.processes)
    (others : Other → Nat → Prop) (holder : Holder Other) (index : Nat) :
    Holds next others holder index ↔ Holds buffers others holder index := by
  cases holder <;> simp only [Holds, same]

theorem references_congr {buffers next : Buffers} (same : next.objects = buffers.objects)
    (index : Nat) : references next index = references buffers index := by
  simp only [references, objectAt, same]

theorem objectAt_eq_some {buffers : Buffers} {index : Nat} {object : BufferObject} :
    objectAt buffers index = some object ↔
      index < userMemoryBufferObjectMax ∧ (buffers.objects index).active = true ∧
        buffers.objects index = object := by
  rw [objectAt]
  split
  · constructor
    · intro impossible
      cases impossible
    grind
  simp_all

theorem objectAt_of_references {buffers : Buffers} {index : Nat} (positive : 0 < references buffers index) :
    ∃ object, objectAt buffers index = some object ∧
      object.referenceCount = references buffers index := by
  rw [references] at positive ⊢
  grind

theorem references_setObject {buffers : Buffers} {index : Nat}
    (inside : index < userMemoryBufferObjectMax) (count : Nat) (other : Nat) :
    references (buffers.setObject index ⟨count, true⟩) other =
      if other = index then count else references buffers other := by
  simp only [references, objectAt, Buffers.setObject, Function.update_apply]
  grind

theorem references_setObject_clear (index other : Nat) :
    references (buffers.setObject index objectClear) other =
      if other = index then 0 else references buffers other := by
  simp only [references, objectAt, Buffers.setObject, Function.update_apply, objectClear]
  grind

/-- Dropping a reference lowers the count by one. -/
theorem objectUnref_spec {buffers : Buffers} {index : Nat} (positive : 0 < references buffers index) :
    ∃ next, objectUnref buffers index = (true, next) ∧ next.processes = buffers.processes ∧
      ∀ other, references next other =
        if other = index then references buffers index - 1 else references buffers other := by
  rcases objectAt_of_references positive with ⟨object, found, count⟩
  rcases objectAt_eq_some.mp found with ⟨inside, active, isObject⟩
  have nonzero : object.referenceCount ≠ 0 := by omega
  rw [objectUnref, found]
  simp only [if_neg nonzero]
  split
  · refine ⟨_, rfl, rfl, fun other => ?_⟩
    rw [references_setObject_clear]
    split
    · omega
    · rfl
  · refine ⟨_, rfl, rfl, fun other => ?_⟩
    simp_all [references_setObject]

namespace BuffersSound

variable {buffers next : Buffers} {others : Other → Nat → Prop}
  {others' : Other → Nat → Prop}

section

variable (sound : BuffersSound buffers others)
include sound

/-- Somebody who holds a reference shows that the object is there. -/
theorem positive {holder : Holder Other} {index : Nat}
    (holds : Holds buffers others holder index) : 0 < references buffers index := by
  apply Nat.pos_of_ne_zero
  intro zero
  have counted := sound.counted index
  rw [zero] at counted
  exact counted.nobody holder holds

theorem congr (same : ∀ holder index, others' holder index ↔ others holder index) :
    BuffersSound buffers others' := by
  refine ⟨fun index => (sound.counted index).congr fun holder => ?_, sound.processes⟩
  cases holder with
  | handle process slot => rfl
  | mapping process slot => rfl
  | other holder => exact same holder index

theorem add (processes : ProcessesSound next)
    (objects : next.objects = buffers.objects) {fresh : Holder Other} {index : Nat}
    {object : BufferObject} (found : objectAt buffers index = some object)
    (outside : ∀ other, ¬ Holds buffers others fresh other)
    (after : ∀ holder other, Holds next others' holder other ↔
      Holds buffers others holder other ∨ holder = fresh ∧ other = index) :
    BuffersSound (next.setObject index { object with referenceCount := object.referenceCount + 1 })
      others' := by
  rcases objectAt_eq_some.mp found with ⟨inside, active, isObject⟩
  have isActive : object.active = true := by rw [← isObject, active]
  have value : ({ object with referenceCount := object.referenceCount + 1 } : BufferObject) =
      ⟨object.referenceCount + 1, true⟩ := by rw [isActive]
  have count : references buffers index = object.referenceCount := by rw [references, found]
  rw [value]
  refine ⟨fun other => ?_, ⟨processes.generations, processes.finished⟩⟩
  simp only [holds_congr (processes_setObject next index ⟨object.referenceCount + 1, true⟩), after]
  rw [references_setObject inside, references_congr objects]
  split
  · rename_i same
    subst same
    rw [← count]
    refine (sound.counted other).insert (outside other) fun holder => ?_
    simp only [and_true]
  · rename_i different
    refine (sound.counted other).congr fun holder => ?_
    simp only [different, and_false, or_false]

/-- A holder disappears, and the count of its object is lowered. -/
theorem drop (processes : ProcessesSound next)
    (objects : next.objects = buffers.objects) {dropped : Holder Other} {index : Nat}
    (inside : Holds buffers others dropped index)
    (single : ∀ other, Holds buffers others dropped other → other = index)
    (after : ∀ holder other, Holds next others' holder other ↔
      Holds buffers others holder other ∧ holder ≠ dropped) :
    ∃ last, objectUnref next index = (true, last) ∧ last.processes = next.processes ∧
      BuffersSound last others' := by
  have before : references next index = references buffers index := references_congr objects index
  have positive : 0 < references next index := by
    rw [before]
    exact sound.positive inside
  rcases objectUnref_spec positive with ⟨last, result, same, counts⟩
  refine ⟨last, result, same, fun other => ?_, ⟨?_, ?_⟩⟩
  · simp only [holds_congr same, after]
    rw [counts]
    split
    · rename_i isIndex
      subst isIndex
      rw [before]
      exact ((sound.counted other).erase inside fun holder => Iff.rfl).2
    · rw [references_congr objects]
      refine (sound.counted other).congr fun holder => ?_
      grind
  · rw [same]
    exact processes.generations
  · rw [same]
    exact processes.finished

/-- A reference is handed on, and no count changes. -/
theorem handOn (processes : ProcessesSound next)
    (objects : next.objects = buffers.objects) {dropped fresh : Holder Other} {index : Nat}
    (inside : Holds buffers others dropped index)
    (single : ∀ other, Holds buffers others dropped other → other = index)
    (outside : ∀ other, ¬ Holds buffers others fresh other)
    (after : ∀ holder other, Holds next others' holder other ↔
      Holds buffers others holder other ∧ holder ≠ dropped ∨ holder = fresh ∧ other = index) :
    BuffersSound next others' := by
  refine ⟨fun other => ?_, processes⟩
  simp only [after]
  rw [references_congr objects]
  by_cases same : other = index
  · subst same
    refine (sound.counted other).transfer inside (outside other) fun holder => ?_
    simp only [and_true]
  · refine (sound.counted other).congr fun holder => ?_
    grind

end

end BuffersSound

end Holders

end BoringOS.Ipc
