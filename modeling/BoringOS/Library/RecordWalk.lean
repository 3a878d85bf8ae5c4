import Mathlib.Init

namespace BoringOS.Library

universe u v w

/-!
# Walks over records that carry their length

A buffer holds records one behind the other.  The first byte of a record is its length and
the second byte its kind.  A walk visits the records of a range from the first one on and
stops at a record that does not lie in the range, or where a visit fails.

Two walks over the same buffer go from record to record in the same way, whatever they look
for.  So a walk succeeds where another one does, as soon as this is so of a single visit.
-/

variable {Failure : Type u} {State : Type v} {Other : Type u} {View : Type w}

/-- The length that the record at `offset` begins with -/
def recordLength (bytes : List UInt8) (offset : Nat) : Nat := (bytes.getD offset 0).toNat

/-- The walk from `offset` on, with the place it ends at -/
def recordWalk (bytes : List UInt8) (total : Nat) (malformed : Failure)
    (visit : Nat → Nat → UInt8 → State → Except Failure State) :
    (fuel offset : Nat) → State → Except Failure (Nat × State)
  | 0, offset, state => if total ≤ offset then .ok (offset, state) else .error malformed
  | fuel + 1, offset, state =>
    if total ≤ offset then .ok (offset, state)
    else if total - offset < 2 then .error malformed
    else if recordLength bytes offset < 2 ∨ total - offset < recordLength bytes offset then
      .error malformed
    else
      match visit offset (recordLength bytes offset) (bytes.getD (offset + 1) 0) state with
      | .error failure => .error failure
      | .ok next =>
        recordWalk bytes total malformed visit fuel (offset + recordLength bytes offset) next

variable {bytes : List UInt8} {total : Nat} {malformed : Failure} {otherwise : Other}
  {visit : Nat → Nat → UInt8 → State → Except Failure State}
  {look : Nat → Nat → UInt8 → View → Except Other View}

theorem recordWalk_done {fuel offset : Nat} {state : State} (done : total ≤ offset) :
    recordWalk bytes total malformed visit fuel offset state = .ok (offset, state) := by
  cases fuel with
  | zero => rw [recordWalk, if_pos done]
  | succ fuel => rw [recordWalk, if_pos done]

/-- A record that the walk goes past -/
structure GoesPast (bytes : List UInt8) (total : Nat)
    (visit : Nat → Nat → UInt8 → State → Except Failure State) (offset : Nat)
    (state next : State) : Prop where
  more : offset < total
  proper : 2 ≤ recordLength bytes offset
  inside : offset + recordLength bytes offset ≤ total
  visited : visit offset (recordLength bytes offset) (bytes.getD (offset + 1) 0) state = .ok next

theorem recordWalk_goesPast {fuel offset : Nat} {state next : State}
    (past : GoesPast bytes total visit offset state next) :
    recordWalk bytes total malformed visit (fuel + 1) offset state =
      recordWalk bytes total malformed visit fuel (offset + recordLength bytes offset) next := by
  rcases past with ⟨more, proper, inside, visited⟩
  grind [recordWalk]

theorem recordWalk_ok {fuel offset : Nat} {state : State} {last : Nat × State}
    (succeeds : recordWalk bytes total malformed visit fuel offset state = .ok last) :
    (total ≤ offset ∧ last = (offset, state)) ∨
      ∃ rest next, fuel = rest + 1 ∧ GoesPast bytes total visit offset state next ∧
        recordWalk bytes total malformed visit rest (offset + recordLength bytes offset) next =
          .ok last := by
  by_cases done : total ≤ offset
  · simp_all [recordWalk_done]
  refine Or.inr ?_
  cases fuel with
  | zero =>
    grind [recordWalk]
  | succ rest =>
    rw [recordWalk, if_neg done] at succeeds
    split at succeeds
    · cases succeeds
    split at succeeds
    · cases succeeds
    split at succeeds
    · cases succeeds
    · rename_i next visited
      exact ⟨rest, next, rfl, ⟨by omega, by omega, by omega, visited⟩, succeeds⟩

theorem recordWalk_invariant {holds : State → Prop}
    (kept : ∀ {offset length tag state next}, holds state →
      visit offset length tag state = .ok next → holds next) (fuel : Nat) :
    ∀ {offset : Nat} {state : State} {last : Nat × State}, holds state →
      recordWalk bytes total malformed visit fuel offset state = .ok last → holds last.2 := by
  induction fuel with
  | zero =>
    intro offset state last initially succeeds
    rcases recordWalk_ok succeeds with ⟨_, rfl⟩ | ⟨rest, next, isRest, _⟩
    · exact initially
    · cases isRest
  | succ fuel ih =>
    intro offset state last initially succeeds
    rcases recordWalk_ok succeeds with ⟨_, rfl⟩ | ⟨rest, next, isRest, past, later⟩
    · exact initially
    · cases isRest
      exact ih (kept initially past.visited) later

/-- A walk succeeds where another one does, if each of its visits does so, and a relation
between what the two have seen is kept. -/
theorem recordWalk_simulates {relates : State → View → Prop}
    (each : ∀ {offset length tag state view next}, relates state view →
      visit offset length tag state = .ok next →
      ∃ nextView, look offset length tag view = .ok nextView ∧ relates next nextView) (fuel : Nat) :
    ∀ {offset : Nat} {state : State} {view : View} {last : Nat × State}, relates state view →
      recordWalk bytes total malformed visit fuel offset state = .ok last →
      ∃ lastView, recordWalk bytes total otherwise look fuel offset view = .ok (last.1, lastView) ∧
        relates last.2 lastView := by
  induction fuel with
  | zero =>
    grind [recordWalk_ok, recordWalk_done]
  | succ fuel ih =>
    intro offset state view last related succeeds
    rcases recordWalk_ok succeeds with ⟨done, rfl⟩ | ⟨rest, next, isRest, past, later⟩
    · exact ⟨view, recordWalk_done done, related⟩
    cases isRest
    rcases each related past.visited with ⟨nextView, looked, relatedNext⟩
    rcases ih relatedNext later with ⟨lastView, walked, relatedLast⟩
    refine ⟨lastView, ?_, relatedLast⟩
    rw [recordWalk_goesPast ⟨past.more, past.proper, past.inside, looked⟩, walked]

end BoringOS.Library
