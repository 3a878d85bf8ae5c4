import Mathlib.Data.List.Count

namespace BoringOS.Library

/-!
# The first fit among intervals

Some intervals of a line are taken, and a stretch of a given length has to be
placed.  A base is clear if the stretch there meets none of the intervals.

The search may jump: from a base that is not clear to the farthest end of the
intervals that the stretch meets there.  No clear base is jumped over, because
the interval with the farthest end meets the stretch at every base before that
end.  And the jumps are few, because this interval lies behind the search from
then on.
-/

/-- The stretch at the base has a point in common with the interval. -/
def Meets (length base : Nat) (interval : Nat × Nat) : Prop :=
  base < interval.2 ∧ interval.1 < base + length

instance Meets.decidable (length base : Nat) (interval : Nat × Nat) :
    Decidable (Meets length base interval) :=
  inferInstanceAs (Decidable (_ ∧ _))

/-- The stretch at the base meets none of the intervals. -/
def Clear (length base : Nat) (taken : List (Nat × Nat)) : Prop :=
  ∀ interval ∈ taken, ¬ Meets length base interval

instance Clear.decidable (length base : Nat) (taken : List (Nat × Nat)) :
    Decidable (Clear length base taken) :=
  inferInstanceAs (Decidable (∀ _ ∈ _, _))

/-- The farthest end of the intervals that the stretch meets, and not less than
a given place -/
def farthestEnd (length base : Nat) : List (Nat × Nat) → Nat → Nat
  | [], farthest => farthest
  | interval :: rest, farthest =>
    farthestEnd length base rest (if Meets length base interval then max farthest interval.2 else farthest)

theorem clear_cons {length base : Nat} {interval : Nat × Nat} {taken : List (Nat × Nat)} :
    Clear length base (interval :: taken) ↔ ¬ Meets length base interval ∧ Clear length base taken :=
  List.forall_mem_cons

section Jump

variable {length base : Nat}

theorem le_farthestEnd (taken : List (Nat × Nat)) :
    ∀ farthest, farthest ≤ farthestEnd length base taken farthest := by
  induction taken with
  | nil => exact Nat.le_refl
  | cons interval rest ih =>
    intro farthest
    rw [farthestEnd]
    split
    · exact Nat.le_trans (Nat.le_max_left _ _) (ih _)
    · exact ih farthest

theorem stop_le_farthestEnd (taken : List (Nat × Nat)) :
    ∀ farthest, ∀ interval ∈ taken, Meets length base interval →
      interval.2 ≤ farthestEnd length base taken farthest := by
  induction taken with
  | nil => nofun
  | cons first rest ih =>
    intro farthest interval isIn meets
    rw [farthestEnd]
    rcases List.mem_cons.mp isIn with rfl | isRest
    · rw [if_pos meets]
      exact Nat.le_trans (Nat.le_max_right _ _) (le_farthestEnd rest _)
    · exact ih _ interval isRest meets

/-- The farthest end is the given place, or it is one of the ends. -/
theorem farthestEnd_cases (taken : List (Nat × Nat)) :
    ∀ farthest, farthestEnd length base taken farthest = farthest ∨
      ∃ interval ∈ taken, Meets length base interval ∧
        farthestEnd length base taken farthest = interval.2 := by
  induction taken with
  | nil => exact fun _ => Or.inl rfl
  | cons interval rest ih =>
    intro farthest
    rw [farthestEnd]
    split
    · rename_i meets
      rcases ih (max farthest interval.2) with same | ⟨other, isRest, meetsOther, same⟩
      · rw [same]
        rcases Nat.le_total farthest interval.2 with less | more
        · exact Or.inr ⟨interval, List.mem_cons_self, meets, Nat.max_eq_right less⟩
        · exact Or.inl (Nat.max_eq_left more)
      · exact Or.inr ⟨other, List.mem_cons_of_mem _ isRest, meetsOther, same⟩
    · rcases ih farthest with same | ⟨other, isRest, meetsOther, same⟩
      · exact Or.inl same
      · exact Or.inr ⟨other, List.mem_cons_of_mem _ isRest, meetsOther, same⟩

variable {taken : List (Nat × Nat)}

theorem not_clear_of_lt_farthestEnd {other : Nat}
    (lower : base ≤ other) (upper : other < farthestEnd length base taken base) :
    ¬ Clear length other taken := by
  intro clear
  rcases farthestEnd_cases taken base with same | ⟨interval, isIn, meets, same⟩
  · rw [same] at upper
    exact Nat.not_lt.mpr lower upper
  · rw [same] at upper
    exact clear interval isIn ⟨upper, Nat.lt_of_lt_of_le meets.2 (Nat.add_le_add_right lower length)⟩

/-- The intervals that the search has not left behind -/
def ahead (base : Nat) (taken : List (Nat × Nat)) : Nat :=
  taken.countP fun interval => decide (base < interval.2)

theorem ahead_anti {base later : Nat} (lower : base ≤ later) (taken : List (Nat × Nat)) :
    ahead later taken ≤ ahead base taken := by
  apply List.countP_mono_left
  intro interval _ isAhead
  exact decide_eq_true (Nat.lt_of_le_of_lt lower (of_decide_eq_true isAhead))

/-- An interval between two bases is left behind. -/
theorem ahead_lt {later : Nat} :
    ∀ interval ∈ taken, base < interval.2 → interval.2 ≤ later → ahead later taken < ahead base taken := by
  induction taken with
  | nil => nofun
  | cons first rest ih =>
    intro interval isIn isAhead left
    have lower : base ≤ later := Nat.le_trans (Nat.le_of_lt isAhead) left
    rw [ahead, ahead, List.countP_cons, List.countP_cons]
    rcases List.mem_cons.mp isIn with rfl | isRest
    · rw [if_pos (decide_eq_true isAhead), if_neg]
      · exact Nat.lt_succ_of_le (ahead_anti lower rest)
      · rw [decide_eq_true_eq]
        exact Nat.not_lt.mpr left
    · apply Nat.add_lt_add_of_lt_of_le (ih interval isRest isAhead left)
      split
      · rename_i isLater
        have isAhead' := decide_eq_true (Nat.lt_of_le_of_lt lower (of_decide_eq_true isLater))
        exact Nat.le_of_eq (if_pos isAhead').symm
      · exact Nat.zero_le _

/-- Every jump leaves an interval behind. -/
theorem ahead_farthestEnd (blocked : ¬ Clear length base taken) :
    ahead (farthestEnd length base taken base) taken < ahead base taken := by
  simp only [Clear, not_forall, not_not] at blocked
  rcases blocked with ⟨interval, isIn, meets⟩
  exact ahead_lt interval isIn meets.1 (stop_le_farthestEnd taken base interval isIn meets)

theorem lt_farthestEnd (blocked : ¬ Clear length base taken) :
    base < farthestEnd length base taken base := by
  simp only [Clear, not_forall, not_not] at blocked
  rcases blocked with ⟨interval, isIn, meets⟩
  exact Nat.lt_of_lt_of_le meets.1 (stop_le_farthestEnd taken base interval isIn meets)

end Jump

end BoringOS.Library
