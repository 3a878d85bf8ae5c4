import Mathlib.Data.List.Nodup

namespace BoringOS.Library

universe u

variable {Key : Type u}

/-!
# Serving a ring in turn

The members of a list are served in a cycle.  From a member one looks through
those that follow it, around the end and back to the start; from outside of
the ring one looks through all of it.  The first member that is accepted is
served next.

A member that is accepted all the time lies ahead of the one that was served
last, and everything between them is served before the cycle can close.  New
members join at the end and others leave, but neither changes who comes first.
-/

variable {ring : List Key}

theorem ring_split {key : Key} (member : key ∈ ring) :
    ∃ before after, ring = before ++ key :: after ∧ key ∉ before :=
  List.eq_append_cons_of_mem member

variable [DecidableEq Key]

/-- The members behind a key, up to the end of the ring -/
def behind (ring : List Key) (key : Key) : List Key :=
  (ring.dropWhile (fun other => other != key)).tail

/-- The other members, in the order in which they follow a key -/
def following (ring : List Key) (key : Key) : List Key :=
  behind ring key ++ ring.takeWhile (fun other => other != key)

/-- The member behind a key, or else the first one -/
def successor (ring : List Key) (key : Key) : Option Key := (behind ring key).head?.or ring.head?

/-- Looking at a number of members from a candidate on, for the first that is
accepted -/
def scanRing (ring : List Key) (accepts : Key → Bool) : (remaining : Nat) → Option Key → Option Key
  | 0, _ => none
  | _ + 1, none => none
  | remaining + 1, some candidate =>
    if accepts candidate then some candidate
    else scanRing ring accepts remaining (successor ring candidate)

theorem behind_split {before after : List Key} {key : Key} (first : key ∉ before) :
    behind (before ++ key :: after) key = after := by
  have others : ∀ other ∈ before, (other != key) = true := by
    intro other member
    rw [bne_iff_ne]
    rintro rfl
    exact first member
  rw [behind, List.dropWhile_append_of_pos others, List.dropWhile_cons_of_neg (by simp)]
  rfl

theorem following_split {before after : List Key} {key : Key} (first : key ∉ before) :
    following (before ++ key :: after) key = after ++ before := by
  have others : ∀ other ∈ before, (other != key) = true := by
    intro other member
    rw [bne_iff_ne]
    rintro rfl
    exact first member
  rw [following, behind_split first, List.takeWhile_append_of_pos others,
    List.takeWhile_cons_of_neg (by simp), List.append_nil]

theorem following_of_notMem {key : Key} (outside : key ∉ ring) :
    behind ring key = [] ∧ following ring key = ring := by
  have others : ∀ other ∈ ring, (other != key) = true := by
    intro other member
    rw [bne_iff_ne]
    rintro rfl
    exact outside member
  have none' : behind ring key = [] := by
    have dropped := @List.dropWhile_append_of_pos _ _ ring [] others
    rw [List.append_nil, List.dropWhile_nil] at dropped
    rw [behind, dropped]
    rfl
  have all : ring.takeWhile (fun other => other != key) = ring := by
    have taken := @List.takeWhile_append_of_pos _ _ ring [] others
    rw [List.append_nil, List.takeWhile_nil, List.append_nil] at taken
    exact taken
  exact ⟨none', by rw [following, none', all, List.nil_append]⟩

theorem mem_following (nodup : ring.Nodup) {key other : Key} :
    other ∈ following ring key ↔ other ∈ ring ∧ other ≠ key := by
  by_cases member : key ∈ ring
  · rcases ring_split member with ⟨before, after, rfl, first⟩
    rw [following_split first, List.mem_append, List.mem_append, List.mem_cons]
    constructor
    · grind
    grind
  · rw [(following_of_notMem member).2]
    grind

/-- A stretch of the ring is looked through from its first member on. -/
theorem scanRing_stretch (nodup : ring.Nodup) (accepts : Key → Bool) (remaining : Nat) (stretch : List Key) :
    ∀ before after, ring = before ++ stretch ++ after →
      scanRing ring accepts (stretch.length + remaining) ((stretch ++ after).head?.or ring.head?) =
        (stretch.find? accepts).or (scanRing ring accepts remaining (after.head?.or ring.head?)) := by
  induction stretch with
  | nil =>
    simp
  | cons head rest ih =>
    intro before after isRing
    have split : ring = before ++ head :: (rest ++ after) := by
      rw [isRing, List.append_assoc, List.cons_append]
    have first : head ∉ before := by
      rw [split] at nodup
      intro inBefore
      exact (List.nodup_append.mp nodup).2.2 head inBefore head List.mem_cons_self rfl
    have next : successor ring head = (rest ++ after).head?.or ring.head? := by
      rw [successor, split, behind_split first]
    rw [List.length_cons, Nat.add_right_comm, List.cons_append, List.head?_cons, Option.some_or,
      scanRing, List.find?_cons]
    cases accepted : accepts head with
    | true => rfl
    | false =>
      rw [if_neg (by decide), next]
      exact ih (before ++ [head]) after (by rw [isRing]; simp)

/-- As many steps as there are members, from the one that follows a key, find
the first that is accepted; the key itself is looked at last. -/
theorem scanRing_eq_find? (nodup : ring.Nodup) (accepts : Key → Bool)
    {key : Key} (refused : accepts key = false) :
    scanRing ring accepts ring.length (if key ∈ ring then successor ring key else ring.head?) =
      (following ring key).find? accepts := by
  split
  · rename_i member
    rcases ring_split member with ⟨before, after, isRing, first⟩
    have toEnd := scanRing_stretch nodup accepts (before.length + 1) after (before ++ [key]) []
      (by rw [isRing]; simp)
    have toKey := scanRing_stretch nodup accepts 0 (before ++ [key]) [] after (by rw [isRing]; simp)
    have start : successor ring key = after.head?.or ring.head? := by
      rw [successor, isRing, behind_split first]
    have length : ring.length = after.length + (before.length + 1) := by
      rw [isRing, List.length_append, List.length_cons]
      omega
    simp_all [Option.or_none, following_split, scanRing]
  · rename_i outside
    have all := scanRing_stretch nodup accepts 0 ring [] [] (by simp)
    rw [List.append_nil, Nat.add_zero, Option.or_self, scanRing, Option.or_none] at all
    rw [(following_of_notMem outside).2, all]

/-- The first key is in the list, and the second is not in front of it. -/
def ComesFirst (items : List Key) (first second : Key) : Prop :=
  ∃ before after, items = before ++ first :: after ∧ second ∉ before

theorem comesFirst_of_left (nodup : ring.Nodup) {first key : Key}
    (member : first ∈ ring) (different : first ≠ key) :
    ComesFirst (following ring key) first key := by
  have follows := (mem_following nodup).mpr ⟨member, different⟩
  rcases ring_split follows with ⟨before, after, isFollowing, -⟩
  refine ⟨before, after, isFollowing, fun inBefore => ?_⟩
  have inFollowing : key ∈ following ring key := by
    rw [isFollowing]
    exact List.mem_append_left _ inBefore
  exact ((mem_following nodup).mp inFollowing).2 rfl

/-- What follows a served member starts with what was behind it. -/
theorem following_of_served (nodup : ring.Nodup) {key served : Key}
    {before after : List Key} (isFollowing : following ring key = before ++ served :: after) :
    ∃ rest, following ring served = after ++ rest := by
  have inFollowing : served ∈ following ring key := by
    rw [isFollowing]
    exact List.mem_append_right _ List.mem_cons_self
  rcases ring_split ((mem_following nodup).mp inFollowing).1 with ⟨left, right, rfl, first⟩
  have notRight : served ∉ right := (List.nodup_cons.mp nodup.of_append_right).1
  rw [following_split first]
  -- The key lies in front of the served member, behind it, or outside of the ring.
  by_cases member : key ∈ left ++ served :: right
  · have different : served ≠ key := ((mem_following nodup).mp inFollowing).2
    rcases List.mem_append.mp member with inLeft | inRight
    · rcases ring_split inLeft with ⟨start, between, rfl, keyFirst⟩
      rw [List.append_assoc, List.cons_append, following_split keyFirst, List.append_assoc,
        List.cons_append] at isFollowing
      have notBetween : served ∉ between := fun inBetween =>
        first (List.mem_append_right _ (List.mem_cons_of_mem _ inBetween))
      have notRest : served ∉ right ++ start := by
        rw [List.mem_append, not_or]
        exact ⟨notRight, fun inStart => first (List.mem_append_left _ inStart)⟩
      have parts := (List.append_cons_inj_of_notMem notBetween notRest).mp isFollowing
      rw [← parts.2.2]
      simp
    · rcases ring_split ((List.mem_cons.mp inRight).resolve_left different.symm) with
        ⟨middle, tail, rfl, keyFirst⟩
      have keyApart : key ∉ left ++ served :: middle := by
        rw [← List.cons_append, ← List.append_assoc] at nodup
        intro earlier
        exact (List.nodup_append.mp nodup).2.2 key earlier key List.mem_cons_self rfl
      rw [← List.cons_append, ← List.append_assoc, following_split keyApart, ← List.append_assoc]
        at isFollowing
      grind [List.append_cons_inj_of_notMem]
  simp_all [following_of_notMem, List.append_cons_inj_of_notMem]

/-- Serving the first accepted member keeps an accepted one ahead of another,
until it is served itself. -/
theorem ComesFirst.served (nodup : ring.Nodup) {key first second served : Key}
    {accepts : Key → Bool} (ahead : ComesFirst (following ring key) first second)
    (accepted : accepts first = true) (found : (following ring key).find? accepts = some served) :
    served = first ∨ (served ≠ second ∧ ComesFirst (following ring served) first second) := by
  rcases ahead with ⟨before, after, isFollowing, notBefore⟩
  rw [isFollowing, List.find?_append, List.find?_cons, accepted] at found
  cases early : before.find? accepts with
  | none =>
    simp_all
  | some other =>
    rw [early, Option.some_or] at found
    cases found
    have inBefore := List.mem_of_find?_eq_some early
    refine Or.inr ⟨fun same => notBefore (same ▸ inBefore), ?_⟩
    rcases ring_split inBefore with ⟨start, between, rfl, -⟩
    rw [List.append_assoc, List.cons_append] at isFollowing
    rcases following_of_served nodup isFollowing with ⟨rest, isNext⟩
    refine ⟨between, after ++ rest, ?_, fun inBetween => ?_⟩
    · simp [*]
    simp_all

theorem following_append {ring : List Key} {key fresh : Key} (different : fresh ≠ key) :
    following (ring ++ [fresh]) key = behind ring key ++ fresh :: ring.takeWhile (· != key) ∨
      following (ring ++ [fresh]) key = following ring key ++ [fresh] := by
  by_cases member : key ∈ ring
  · rcases ring_split member with ⟨before, after, rfl, first⟩
    refine Or.inl ?_
    have taken : (before ++ key :: after).takeWhile (· != key) = before := by
      have whole := @following_split _ _ before after key first
      rw [following, behind_split first] at whole
      exact List.append_cancel_left whole
    rw [List.append_assoc, List.cons_append, following_split first, behind_split first, taken,
      List.append_assoc, List.singleton_append]
  · have outside : key ∉ ring ++ [fresh] := by
      rw [List.mem_append, List.mem_singleton, not_or]
      exact ⟨member, different.symm⟩
    simp_all [following_of_notMem]

/-- A member that joins at the end does not come between. -/
theorem ComesFirst.append {key first second fresh : Key}
    (ahead : ComesFirst (following ring key) first second) (notKey : fresh ≠ key)
    (notSecond : fresh ≠ second) : ComesFirst (following (ring ++ [fresh]) key) first second := by
  rcases ahead with ⟨before, after, isFollowing, notBefore⟩
  rcases @following_append _ _ ring key fresh notKey with joined | joined
  · rcases List.append_eq_append_iff.mp isFollowing with
      ⟨between, isBefore, isWrapped⟩ | ⟨between, isBehind, isAfter⟩
    · refine ⟨behind ring key ++ fresh :: between, after, ?_, ?_⟩
      · simp [*]
      grind
    cases between with
    | nil =>
      rw [List.append_nil] at isBehind
      rw [List.nil_append] at isAfter
      refine ⟨before ++ [fresh], after, ?_, ?_⟩
      · simp [*]
      grind
    | cons head between =>
      cases isAfter
      refine ⟨before, between ++ fresh :: ring.takeWhile (· != key), ?_, notBefore⟩
      simp [*]
  · exact ⟨before, after ++ [fresh], by simp [*], notBefore⟩

theorem following_filter (ring : List Key) {key : Key} {stays : Key → Bool} (keyStays : stays key = true) :
    following (ring.filter stays) key = (following ring key).filter stays := by
  by_cases member : key ∈ ring
  · rcases ring_split member with ⟨before, -, rfl, first⟩
    simp_all [List.filter_append, List.filter_cons_of_pos, following_split]
  simp_all [following_of_notMem]

omit [DecidableEq Key] in
/-- Members that leave do not change who comes first. -/
theorem ComesFirst.filter {items : List Key} {first second : Key} {stays : Key → Bool}
    (ahead : ComesFirst items first second) (firstStays : stays first = true) :
    ComesFirst (items.filter stays) first second := by
  rcases ahead with ⟨before, after, rfl, notBefore⟩
  refine ⟨before.filter stays, after.filter stays, ?_, fun inBefore => ?_⟩
  · simp [*]
  grind

end BoringOS.Library
