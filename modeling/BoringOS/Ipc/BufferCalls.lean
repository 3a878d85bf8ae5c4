import BoringOS.Ipc.BufferReferences

namespace BoringOS.Ipc

open Library

/-!
# What the calls on buffers do to the references

Each call is a sequence of writes to a handle, a mapping and an object.  The
lemmas about single writes say how the holders change; the lemmas about calls
put them together with the rules for adding, dropping and handing on.
-/

section Writes

variable {Other : Type} {buffers : Buffers} {others : Other → Nat → Prop}

variable {memory : UserMemory}

theorem userMemoryProcessStateEmpty_iff :
    userMemoryProcessStateEmpty memory = true ↔
      (∀ slot < userMemoryBufferHandleMax, (memory.handles slot).active = false) ∧
        ∀ slot < userMemoryBufferMappingMax, (memory.mappings slot).active = false := by
  rw [userMemoryProcessStateEmpty, Bool.and_eq_true, decide_eq_true_eq, decide_eq_true_eq]

theorem processReady_alive {process : Nat} (ready : ¬ processReady buffers process = false) :
    (buffers.processes process).alive = true := by
  simp_all [processReady, processIsAlive]

theorem ProcessesSound.setHandle (sound : ProcessesSound buffers) {process slot : Nat}
    {handle : BufferHandle} (generation : 0 < handle.generation ∧
      handle.generation ≤ userMemoryHandleGenerationMax)
    (alive : handle.active = true → (buffers.processes process).alive = true) :
    ProcessesSound (buffers.setHandle process slot handle) := by
  constructor
  · intro other position inside
    rw [setHandle_handles]
    split
    · exact generation
    · exact sound.generations other position inside
  · intro other dead
    rw [setHandle_alive] at dead
    have empty := userMemoryProcessStateEmpty_iff.mp (sound.finished other dead)
    rw [userMemoryProcessStateEmpty_iff, setHandle_mappings]
    refine ⟨fun position inside => ?_, empty.2⟩
    rw [setHandle_handles]
    split
    · simp_all
    · exact empty.1 position inside

theorem ProcessesSound.setMapping (sound : ProcessesSound buffers) {process slot : Nat}
    {mapping : BufferMapping}
    (alive : mapping.active = true → (buffers.processes process).alive = true) :
    ProcessesSound (buffers.setMapping process slot mapping) := by
  constructor
  · intro other position inside
    rw [setMapping_handles]
    exact sound.generations other position inside
  · intro other dead
    rw [setMapping_alive] at dead
    have empty := userMemoryProcessStateEmpty_iff.mp (sound.finished other dead)
    rw [userMemoryProcessStateEmpty_iff, setMapping_handles]
    refine ⟨empty.1, fun position inside => ?_⟩
    rw [setMapping_mappings]
    split
    · simp_all
    · exact empty.2 position inside

/-- Writing a handle concerns this handle alone. -/
theorem holds_setHandle (process slot : Nat) (handle : BufferHandle) (holder : Holder Other) (index : Nat) :
    Holds (buffers.setHandle process slot handle) others holder index ↔
      Holds buffers others holder index ∧ holder ≠ .handle process slot ∨
        holder = .handle process slot ∧ slot < userMemoryBufferHandleMax ∧ handle.active = true ∧
          handle.objectIndex = index := by
  cases holder with
  | handle other position =>
    simp only [Holds, setHandle_handles, ne_eq, Holder.handle.injEq]
    grind
  | mapping other position =>
    simp only [Holds, setHandle_mappings, ne_eq, reduceCtorEq, not_false_eq_true, and_true,
      false_and, or_false]
  | other holder =>
    simp only [Holds, ne_eq, reduceCtorEq, not_false_eq_true, and_true, false_and, or_false]

theorem holds_setMapping (process slot : Nat) (mapping : BufferMapping) (holder : Holder Other)
    (index : Nat) :
    Holds (buffers.setMapping process slot mapping) others holder index ↔
      Holds buffers others holder index ∧ holder ≠ .mapping process slot ∨
        holder = .mapping process slot ∧ slot < userMemoryBufferMappingMax ∧
          mapping.active = true ∧ mapping.objectIndex = index := by
  cases holder with
  | handle other position =>
    simp only [Holds, setMapping_handles, ne_eq, reduceCtorEq, not_false_eq_true, and_true,
      false_and, or_false]
  | mapping other position =>
    simp only [Holds, setMapping_mappings, ne_eq, Holder.mapping.injEq]
    grind
  | other holder =>
    simp only [Holds, ne_eq, reduceCtorEq, not_false_eq_true, and_true, false_and, or_false]

/-- Whoever does not hold anything stays out when he is left alone. -/
theorem holds_away {holder away : Holder Other} {index : Nat}
    (outside : ∀ other, ¬ Holds buffers others away other) :
    Holds buffers others holder index ∧ holder ≠ away ↔ Holds buffers others holder index := by
  grind

theorem nextBufferGeneration_bounds (generation : Nat) :
    0 < nextBufferGeneration generation ∧
      nextBufferGeneration generation ≤ userMemoryHandleGenerationMax := by
  rw [nextBufferGeneration]
  split
  · decide
  omega

theorem findHandleSlot_eq_some {slot : Nat} (found : findHandleSlot memory = some slot) :
    slot < userMemoryBufferHandleMax ∧ (memory.handles slot).active = false := by
  simp_all [findHandleSlot, List.mem_range]

theorem findMappingSlot_eq_some {slot : Nat} (found : findMappingSlot memory = some slot) :
    slot < userMemoryBufferMappingMax ∧ (memory.mappings slot).active = false := by
  simp_all [findMappingSlot, List.mem_range]

theorem findMappingExact_eq_some {base slot : Nat} (found : findMappingExact memory base = some slot) :
    slot < userMemoryBufferMappingMax ∧ (memory.mappings slot).active = true := by
  simp_all [findMappingExact, List.mem_range, Bool.and_eq_true]

theorem decodeBufferHandle_eq_some {process encoded slot : Nat}
    (decoded : decodeBufferHandle buffers process encoded = some slot) :
    slot < userMemoryBufferHandleMax ∧
      ((buffers.processes process).userMemory.handles slot).active = true := by
  simp only [decodeBufferHandle] at decoded
  split at decoded
  · cases decoded
  · grind

theorem encodeBufferHandle_eq_some {slot generation encoded : Nat}
    (result : encodeBufferHandle slot generation = some encoded) :
    encoded ≠ userMemoryHandleInvalid ∧ encoded &&& userMemoryHandleSlotMask = slot + 1 ∧
      encoded >>> userMemoryHandleSlotBits = generation ∧
      slot < userMemoryBufferHandleMax ∧ generation ≠ 0 := by
  simp only [encodeBufferHandle] at result
  split at result
  · cases result
  rename_i proper
  split at result
  · cases result
  rename_i nonzero
  cases result
  simp only [not_or, Nat.not_le] at proper
  have small : slot + 1 < 2 ^ userMemoryHandleSlotBits := by
    simp only [userMemoryBufferHandleMax] at proper
    simp only [userMemoryHandleSlotBits]
    omega
  have sum := Nat.shiftLeft_add_eq_or_of_lt small generation
  rw [Nat.shiftLeft_eq] at sum
  refine ⟨nonzero, ?_, ?_, proper.1, proper.2.1⟩
  · rw [show userMemoryHandleSlotMask = 2 ^ userMemoryHandleSlotBits - 1 from rfl,
      Nat.and_two_pow_sub_one_eq_mod, Nat.shiftLeft_eq, ← sum, Nat.mul_add_mod_of_lt small]
  · rw [Nat.shiftRight_eq_div_pow, Nat.shiftLeft_eq, ← sum, Nat.mul_comm,
      Nat.mul_add_div (Nat.two_pow_pos _), Nat.div_eq_of_lt small, Nat.add_zero]

theorem encodeBufferHandle_isSome {slot generation : Nat} (inside : slot < userMemoryBufferHandleMax)
    (proper : 0 < generation ∧ generation ≤ userMemoryHandleGenerationMax) :
    ∃ encoded, encodeBufferHandle slot generation = some encoded := by
  have admitted : ¬ (userMemoryBufferHandleMax ≤ slot ∨ generation = 0 ∨
      userMemoryHandleGenerationMax < generation) := by omega
  simp_all [userMemoryHandleSlotBits, userMemoryHandleInvalid, encodeBufferHandle]

/-- The object behind a handle of a process. -/
def bufferOf (buffers : Buffers) (process encoded : Nat) : Option Nat :=
  (decodeBufferHandle buffers process encoded).map fun slot =>
    ((buffers.processes process).userMemory.handles slot).objectIndex

end Writes

section Calls

variable {Other : Type} {buffers : Buffers} {others others' : Other → Nat → Prop}

section

variable (sound : BuffersSound buffers others)
include sound

theorem processCreate_sound (process pid : Nat) :
    BuffersSound (processCreate buffers process pid) others := by
  rw [processCreate]
  split
  · exact sound
  rename_i dead
  have notAlive : (buffers.processes process).alive = false := Bool.eq_false_iff.mpr dead
  have empty := userMemoryProcessStateEmpty_iff.mp (sound.processes.finished process notAlive)
  refine ⟨fun index => ?_, ?_, ?_⟩
  · refine (sound.counted index).congr fun holder => ?_
    cases holder with
    | handle other slot =>
      simp only [Holds, Buffers.setProcess, Function.update_apply]
      by_cases same : other = process
      · subst same
        simp only [if_true, userMemoryProcessStateInit, Bool.false_eq_true, false_and,
          and_false, false_iff]
        simp_all
      · rw [if_neg same]
    | mapping other slot =>
      simp only [Holds, Buffers.setProcess, Function.update_apply]
      by_cases same : other = process
      · subst same
        simp only [if_true, userMemoryProcessStateInit, mappingClear, Bool.false_eq_true,
          false_and, and_false, false_iff]
        simp_all
      · rw [if_neg same]
    | other holder => rfl
  · intro other slot inside
    simp only [Buffers.setProcess, Function.update_apply]
    split
    · exact ⟨Nat.one_pos, (by decide : 1 ≤ userMemoryHandleGenerationMax)⟩
    · exact sound.processes.generations other slot inside
  · intro other isDead
    simp only [Buffers.setProcess, Function.update_apply] at isDead ⊢
    split at isDead
    · cases isDead
    rename_i different
    rw [if_neg different]
    exact sound.processes.finished other isDead

theorem processMarkFinished_sound (process : Nat) :
    BuffersSound (processMarkFinished buffers process) others := by
  simp only [processMarkFinished]
  split
  · exact sound
  rename_i finishes
  simp only [not_or, Bool.not_eq_false] at finishes
  have memory : ∀ other, ((buffers.setProcess process
      { buffers.processes process with alive := false }).processes other).userMemory =
        (buffers.processes other).userMemory := by
    intro other
    simp only [Buffers.setProcess, Function.update_apply]
    split
    · rename_i same
      rw [same]
    · rfl
  refine ⟨fun index => ?_, ?_, ?_⟩
  · refine (sound.counted index).congr fun holder => ?_
    cases holder <;> simp only [Holds, memory]
  · intro other slot inside
    rw [memory]
    exact sound.processes.generations other slot inside
  · intro other isDead
    rw [memory]
    by_cases same : other = process
    · rw [same]
      exact finishes.2
    · simp only [Buffers.setProcess, Function.update_apply, if_neg same] at isDead
      exact sound.processes.finished other isDead

/-- A fresh handle holds the only reference to a fresh object. -/
theorem userBufferCreate_sound (process : Nat)
    (allocated : Bool) : BuffersSound (userBufferCreate buffers process allocated).2 others := by
  rw [userBufferCreate]
  split
  · exact sound
  rename_i ready
  have alive := processReady_alive ready
  simp only
  split
  · rename_i index slot object handle
    split
    · exact sound
    split
    · exact sound
    rw [findObjectSlot, List.find?_range_eq_some, List.mem_range, Bool.not_eq_true'] at object
    rcases findHandleSlot_eq_some handle with ⟨inside, inactive⟩
    have unused : references buffers index = 0 := by
      rw [references, objectAt, if_pos (Or.inr object.1)]
    have nobody : ∀ holder, ¬ Holds buffers others holder index := by
      have counted := sound.counted index
      rw [unused] at counted
      exact counted.nobody
    have outside : ∀ other, ¬ Holds buffers others (.handle process slot) other := by
      rintro other ⟨-, active, -⟩
      rw [inactive] at active
      cases active
    refine ⟨fun other => ?_, ?_⟩
    · have refs : references ((buffers.setObject index ⟨1, true⟩).setHandle process slot
          ⟨index, ((buffers.processes process).userMemory.handles slot).generation, true⟩)
          other = if other = index then 1 else references buffers other := by
        rw [← references_setObject object.2.1]
        exact references_congr rfl other
      simp only [holds_setHandle, holds_congr (processes_setObject buffers index _),
        holds_away outside, inside, true_and]
      rw [refs]
      split
      · rename_i same
        subst same
        refine (Counted.none nobody).insert (outside other) fun holder => ?_
        simp only [and_true]
      · refine (sound.counted other).congr fun holder => ?_
        grind
    · have kept : ProcessesSound (buffers.setObject index ⟨1, true⟩) :=
        ⟨sound.processes.generations, sound.processes.finished⟩
      exact kept.setHandle (sound.processes.generations process slot inside) fun _ => alive
  · exact sound

theorem userBufferMap_sound (process encoded : Nat)
    (mapped : Option Nat) : BuffersSound (userBufferMap buffers process encoded mapped).2 others := by
  rw [userBufferMap]
  split
  · exact sound
  rename_i ready
  have alive := processReady_alive ready
  split
  · exact sound
  rename_i handleSlot decoded
  simp only
  split
  · rename_i object slot found mapping
    split
    · exact sound
    rename_i base
    split
    · exact sound
    rcases findMappingSlot_eq_some mapping with ⟨inside, inactive⟩
    have outside : ∀ other, ¬ Holds buffers others (.mapping process slot) other := by
      rintro other ⟨-, active, -⟩
      rw [inactive] at active
      cases active
    have kept : ProcessesSound (buffers.setMapping process slot
        ⟨base, ((buffers.processes process).userMemory.handles handleSlot).objectIndex,
          true⟩) :=
      sound.processes.setMapping fun _ => alive
    refine sound.add kept rfl found outside fun holder other => ?_
    rw [holds_setMapping, holds_away outside]
    grind
  · exact sound

theorem userBufferUnmap_sound (process base : Nat)
    (unmapped : Bool) : BuffersSound (userBufferUnmap buffers process base unmapped).2 others := by
  rw [userBufferUnmap]
  split
  · exact sound
  simp only
  split
  · exact sound
  rename_i slot found
  split
  · exact sound
  rcases findMappingExact_eq_some found with ⟨inside, active⟩
  have kept : ProcessesSound (buffers.setMapping process slot mappingClear) :=
    sound.processes.setMapping fun impossible => nomatch impossible
  have after : ∀ holder other,
      Holds (buffers.setMapping process slot mappingClear) others holder other ↔
        Holds buffers others holder other ∧ holder ≠ .mapping process slot := by
    intro holder other
    rw [holds_setMapping]
    simp only [mappingClear, Bool.false_eq_true, false_and, and_false, or_false]
  have holds : Holds buffers others (.mapping process slot)
      ((buffers.processes process).userMemory.mappings slot).objectIndex :=
    ⟨inside, active, rfl⟩
  have single : ∀ other, Holds buffers others (.mapping process slot) other →
      other = ((buffers.processes process).userMemory.mappings slot).objectIndex := by
    rintro other ⟨-, -, isObject⟩
    exact isObject.symm
  rcases sound.drop kept rfl holds single after with ⟨last, result, -, dropped⟩
  rw [result]
  exact dropped

theorem userBufferClose_sound (process encoded : Nat) :
    BuffersSound (userBufferClose buffers process encoded).2 others := by
  rw [userBufferClose]
  split
  · exact sound
  split
  · exact sound
  rename_i slot decoded
  rcases decodeBufferHandle_eq_some decoded with ⟨inside, active⟩
  simp only
  generalize isHandle : (buffers.processes process).userMemory.handles slot = handle
  have kept : ProcessesSound (buffers.setHandle process slot (handleReset handle)) :=
    sound.processes.setHandle (nextBufferGeneration_bounds handle.generation)
      fun impossible => nomatch impossible
  have after : ∀ holder other,
      Holds (buffers.setHandle process slot (handleReset handle)) others holder other ↔
        Holds buffers others holder other ∧ holder ≠ .handle process slot := by
    intro holder other
    rw [holds_setHandle]
    simp only [handleReset, Bool.false_eq_true, false_and, and_false, or_false]
  have holds : Holds buffers others (.handle process slot) handle.objectIndex :=
    ⟨inside, active, by rw [isHandle]⟩
  have single : ∀ other, Holds buffers others (.handle process slot) other →
      other = handle.objectIndex := by
    rintro other ⟨-, -, isObject⟩
    rw [← isObject, isHandle]
  rcases sound.drop kept rfl holds single after with ⟨last, result, -, dropped⟩
  rw [result]
  exact dropped

/-- Retaining a buffer adds a reference for whoever asked, and otherwise
changes nothing. -/
theorem userBufferRetain_cases (process encoded : Nat) :
    (∃ error, userBufferRetain buffers process encoded = (.error error, buffers)) ∨
    ∃ index next, userBufferRetain buffers process encoded = (.ok index, next) ∧
      next.processes = buffers.processes ∧ bufferOf buffers process encoded = some index ∧
      ∀ (fresh : Other) (others' : Other → Nat → Prop), (∀ other, ¬ others fresh other) →
        (∀ holder other, others' holder other ↔ others holder other ∨
          holder = fresh ∧ other = index) → BuffersSound next others' := by
  rw [userBufferRetain]
  split
  · exact Or.inl ⟨_, rfl⟩
  split
  · exact Or.inl ⟨_, rfl⟩
  rename_i slot decoded
  simp only
  split
  · exact Or.inl ⟨_, rfl⟩
  rename_i object found
  split
  · exact Or.inl ⟨_, rfl⟩
  refine Or.inr ⟨_, _, rfl, rfl, ?_, fun fresh others' outside after => ?_⟩
  · rw [bufferOf, decoded, Option.map_some]
  · have absent : ∀ other, ¬ Holds buffers others (.other fresh) other := outside
    refine sound.add sound.processes rfl found absent fun holder other => ?_
    cases holder with
    | handle _ _ => simp only [Holds, reduceCtorEq, false_and, or_false]
    | mapping _ _ => simp only [Holds, reduceCtorEq, false_and, or_false]
    | other holder => simp only [Holds, after, Holder.other.injEq]

theorem userBufferReleaseRetained_sound {dropped : Other}
    {index : Nat} (inside : others dropped index)
    (single : ∀ other, others dropped other → other = index)
    (after : ∀ holder other, others' holder other ↔ others holder other ∧ holder ≠ dropped) :
    BuffersSound (userBufferReleaseRetained buffers (some index)) others' ∧
      (userBufferReleaseRetained buffers (some index)).processes = buffers.processes := by
  have holds : Holds buffers others (.other dropped) index := inside
  rcases objectAt_of_references (sound.positive holds) with ⟨object, found, -⟩
  have afterAll : ∀ holder other, Holds buffers others' holder other ↔
      Holds buffers others holder other ∧ holder ≠ .other dropped := by
    intro holder other
    cases holder with
    | handle _ _ => simp only [Holds, ne_eq, reduceCtorEq, not_false_eq_true, and_true]
    | mapping _ _ => simp only [Holds, ne_eq, reduceCtorEq, not_false_eq_true, and_true]
    | other holder => simp only [Holds, after, ne_eq, Holder.other.injEq]
  rcases sound.drop sound.processes rfl holds single afterAll with ⟨last, result, same, kept⟩
  simp_all [userBufferReleaseRetained, Option.isSome_some]

end

end Calls

end BoringOS.Ipc
