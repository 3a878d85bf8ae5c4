import Mathlib.Init

namespace BoringOS.Library

universe u v

variable {Failure : Type u} {State : Type v}

/-!
# Loops that may fail

A counting loop runs its body for one index after another and stops at the
first failure.  Such a loop succeeds if and only if a condition holds of every
index, as soon as this is so of its body wherever the invariant holds.
-/

/-- The loop over `count` indices from `start` on. -/
def forRange (body : Nat → State → Except Failure State) :
    (count start : Nat) → State → Except Failure State
  | 0, _, state => .ok state
  | count + 1, start, state =>
    match body start state with
    | .error failure => .error failure
    | .ok state => forRange body count (start + 1) state

variable {Value : Type v}

/-- The result is a success. -/
def Succeeds (result : Except Failure Value) : Prop := ∃ value, result = .ok value

@[simp] theorem succeeds_ok (value : Value) : Succeeds (.ok value : Except Failure Value) :=
  ⟨value, rfl⟩

@[simp] theorem succeeds_error (failure : Failure) :
    ¬ Succeeds (.error failure : Except Failure Value) := by
  nofun

/-- A check in front of a computation. -/
theorem succeeds_ite {bad : Prop} [Decidable bad] {failure : Failure}
    {rest : Except Failure Value} :
    Succeeds (if bad then .error failure else rest) ↔ ¬ bad ∧ Succeeds rest := by
  by_cases isBad : bad
  · simp [isBad]
  · simp [isBad]

theorem ite_eq_ok {bad : Prop} [Decidable bad] {failure : Failure}
    {rest : Except Failure Value} {value : Value} :
    (if bad then .error failure else rest) = .ok value ↔ ¬ bad ∧ rest = .ok value := by
  grind

variable {body : Nat → State → Except Failure State}

/-- The rule for loops: where the invariant and all earlier conditions hold,
the body succeeds exactly under the condition of its index, and then it keeps
the invariant. -/
theorem forRange_spec (condition : Nat → Prop) (invariant : Nat → State → Prop) (count : Nat) :
    ∀ start state, invariant start state →
      (∀ index state, start ≤ index → index < start + count → invariant index state →
        (∀ earlier, start ≤ earlier → earlier < index → condition earlier) →
        (Succeeds (body index state) ↔ condition index) ∧
          ∀ next, body index state = .ok next → invariant (index + 1) next) →
      (Succeeds (forRange body count start state) ↔
          ∀ index, start ≤ index → index < start + count → condition index) ∧
        ∀ last, forRange body count start state = .ok last → invariant (start + count) last := by
  induction count with
  | zero =>
    intro start state initially _
    refine ⟨⟨fun _ index lower upper => by omega, fun _ => succeeds_ok _⟩, ?_⟩
    intro last result
    cases result
    exact initially
  | succ count ih =>
    intro start state initially each
    rcases each start state (Nat.le_refl _) (by omega) initially
      (fun earlier lower upper => absurd lower (Nat.not_le.mpr upper)) with ⟨here, kept⟩
    rw [forRange]
    cases result : body start state with
    | error failure =>
      grind [succeeds_error]
    | ok next =>
      have holds : condition start := by
        rw [result] at here
        exact here.mp (succeeds_ok _)
      rcases ih (start + 1) next (kept next result) (fun index state lower upper inside earlier =>
        each index state (by omega) (by omega) inside fun other lower' upper' => by
          grind) with ⟨rest, atEnd⟩
      constructor
      · constructor
        · grind
        grind
      grind

/-- What every successful round keeps holds after a successful loop. -/
theorem forRange_invariant {body : Nat → State → Except Failure State}
    {invariant : Nat → State → Prop} (count : Nat) :
    ∀ start state last, invariant start state →
      (∀ index state next, start ≤ index → index < start + count → invariant index state →
        body index state = .ok next → invariant (index + 1) next) →
      forRange body count start state = .ok last → invariant (start + count) last := by
  induction count with
  | zero =>
    intro start state last initially _ result
    cases result
    exact initially
  | succ count ih =>
    intro start state last initially each result
    rw [forRange] at result
    cases here : body start state with
    | error failure =>
      rw [here] at result
      cases result
    | ok next =>
      rw [here] at result
      have kept := each start state next (Nat.le_refl _) (by omega) initially here
      grind

/-- A successful loop went through a successful round for every index. -/
theorem forRange_round (count : Nat) :
    ∀ start state last, forRange body count start state = .ok last →
      ∀ index, start ≤ index → index < start + count → ∃ before after, body index before = .ok after := by
  induction count with
  | zero =>
    omega
  | succ count ih =>
    intro start state last result index lower upper
    rw [forRange] at result
    cases here : body start state with
    | error failure =>
      rw [here] at result
      cases result
    | ok next =>
      rw [here] at result
      rcases Nat.eq_or_lt_of_le lower with rfl | after
      · exact ⟨state, next, here⟩
      grind

/-- A loop whose rounds leave the state alone -/
theorem forRange_still {state : State} (count : Nat) :
    ∀ start, (∀ index, start ≤ index → index < start + count → body index state = .ok state) →
      forRange body count start state = .ok state := by
  induction count with
  | zero => exact fun _ _ => rfl
  | succ count ih =>
    intro start each
    rw [forRange, each start (Nat.le_refl _) (by omega)]
    grind

/-- A loop without a state of its own. -/
theorem forRange_unit {body : Nat → Unit → Except Failure Unit} (condition : Nat → Prop) (count start : Nat)
    (each : ∀ index, start ≤ index → index < start + count →
      (Succeeds (body index ()) ↔ condition index)) :
    Succeeds (forRange body count start ()) ↔
      ∀ index, start ≤ index → index < start + count → condition index :=
  (forRange_spec condition (fun _ _ => True) count start () trivial
    fun index _ lower upper _ _ => ⟨each index lower upper, fun _ _ => trivial⟩).1

end BoringOS.Library
