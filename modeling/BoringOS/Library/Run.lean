namespace BoringOS.Library

universe u v

variable {State : Type u} {Call : Type v}

/-!
# Finite runs of a state machine

A component is a step function over its own state.  A run is a finite
sequence of calls, read from left to right.  The rules below turn a fact
about one step into a fact about every state that a run visits.

Some components rely on their callers, for instance on a caller that only
gives back what it was given.  `Respects` states such a discipline at every
state of the run, and not only at its first one.
-/

variable (step : State → Call → State) (start : State)

/-- The state that a finite sequence of calls leads to. -/
def run (calls : List Call) : State := calls.foldl step start

@[simp] theorem run_nil : run step start [] = start := rfl

@[simp] theorem run_cons (call : Call) (calls : List Call) :
    run step start (call :: calls) = run step (step start call) calls := rfl

theorem run_append (first second : List Call) :
    run step start (first ++ second) = run step (run step start first) second :=
  List.foldl_append

/-- A property of the first state that every step keeps holds after every run. -/
theorem run_invariant {step : State → Call → State} {holds : State → Prop}
    (kept : ∀ state call, holds state → holds (step state call)) (calls : List Call) :
    ∀ start, holds start → holds (run step start calls) := by
  induction calls with
  | nil => exact fun _ atStart => atStart
  | cons call rest ih => simp_all

/-- Every call of the run is one that the discipline admits in the state
in which the call is made. -/
def Respects (step : State → Call → State) (admits : State → Call → Prop) :
    State → List Call → Prop
  | _, [] => True
  | state, call :: rest => admits state call ∧ Respects step admits (step state call) rest

instance Respects.decidable {step : State → Call → State} {admits : State → Call → Prop}
    [∀ state call, Decidable (admits state call)] :
    ∀ start calls, Decidable (Respects step admits start calls)
  | _, [] => inferInstanceAs (Decidable True)
  | state, call :: rest =>
    have : Decidable (Respects step admits (step state call) rest) :=
      Respects.decidable (step state call) rest
    inferInstanceAs (Decidable (admits state call ∧ _))

theorem respects_append {step : State → Call → State} {admits : State → Call → Prop}
    (first second : List Call) :
    ∀ start, Respects step admits start (first ++ second) ↔
      Respects step admits start first ∧ Respects step admits (run step start first) second := by
  induction first with
  | nil => exact fun start => by simp only [List.nil_append, Respects, run_nil, true_and]
  | cons call rest ih =>
    intro start
    simp only [List.cons_append, Respects, run_cons, ih, and_assoc]

/-- The invariant rule for runs that keep to a discipline. -/
theorem run_invariant_of_respects {step : State → Call → State}
    {admits : State → Call → Prop} {holds : State → Prop}
    (kept : ∀ state call, holds state → admits state call → holds (step state call))
    (calls : List Call) :
    ∀ start, holds start → Respects step admits start calls → holds (run step start calls) := by
  induction calls with
  | nil => exact fun _ atStart _ => atStart
  | cons call rest ih =>
    exact fun start atStart respects =>
      ih _ (kept start call atStart respects.1) respects.2

/-- The state that a run visits strictly between its first and its last one -/
def Between (calls : List Call) (state : State) : Prop :=
  ∃ before after, calls = before ++ after ∧ before ≠ [] ∧ after ≠ [] ∧ state = run step start before

theorem between_cons {step : State → Call → State} {start state : State} {call : Call}
    {rest : List Call} :
    Between step start (call :: rest) state ↔
      rest ≠ [] ∧ (state = step start call ∨ Between step (step start call) rest state) := by
  constructor
  · rintro ⟨before, after, isRun, someBefore, someAfter, visited⟩
    cases before with
    | nil => exact absurd rfl someBefore
    | cons head before =>
      cases isRun
      refine ⟨by simp [someAfter], ?_⟩
      cases before with
      | nil => exact Or.inl visited
      | cons next before =>
        exact Or.inr ⟨next :: before, after, rfl, List.cons_ne_nil _ _, someAfter, visited⟩
  · rintro ⟨someRest, first | ⟨before, after, isRest, -, someAfter, visited⟩⟩
    · exact ⟨[call], rest, rfl, List.cons_ne_nil _ _, someRest, first⟩
    · refine ⟨call :: before, after, ?_, List.cons_ne_nil _ _, someAfter, visited⟩
      rw [isRest, List.cons_append]

/-- A property of every call of a run and the calls before it, read from the
front. -/
theorem forall_split_cons {holds : List Call → Call → Prop} {first : Call} {rest : List Call} :
    (∀ before call after, first :: rest = before ++ call :: after → holds before call) ↔
      holds [] first ∧
        ∀ before call after, rest = before ++ call :: after → holds (first :: before) call := by
  constructor
  · simp_all
  · rintro ⟨atFirst, inRest⟩ before call after isList
    cases before with
    | nil =>
      cases isList
      exact atFirst
    | cons head before =>
      simp_all

end BoringOS.Library
