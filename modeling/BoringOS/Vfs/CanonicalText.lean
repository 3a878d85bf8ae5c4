import BoringOS.Vfs.ResolvedNames

namespace BoringOS.Vfs

/-!
# The text of a working directory

`chdir` in `kernel/core/syscall.c` builds the text of the new directory from
the old text and from the path that it is given, without a look at any
directory.  A buffer with a length is the list of its bytes before the
terminating zero.

The text is canonical: a slash before each of its names, or a single slash.
Popping and appending act on such a text as `followComponent` acts on the names.
-/

/-- The loop of `syscall_cwd_pop`, which looks for the last slash. -/
def syscallCwdPopLoop (output : List UInt8) : Nat → Nat
  | 0 => 0
  | 1 => 1
  | length + 2 =>
    if output[length + 1]? ≠ some slash then syscallCwdPopLoop output (length + 1)
    else length + 2

def syscallCwdPop (output : List UInt8) : Option (List UInt8) :=
  if output.length = 0 ∨ output.head? ≠ some slash then none
  else if output.length ≤ 1 then some output
  else
    let length := syscallCwdPopLoop output output.length
    some (output.take (if length > 1 then length - 1 else length))

def syscallCwdAppend (output component : List UInt8) : Option (List UInt8) :=
  if component.length = 0 ∨ component.length > vfsNameMax then none
  else if output.length > 1 ∧ output.length ≥ vfsPathMax then none
  else
    let separated := if output.length > 1 then output ++ [slash] else output
    if component.length > vfsPathMax - separated.length then none
    else some (separated ++ component)

/-- A turn of the loop of `syscall_build_canonical_cwd`. -/
def syscallBuildComponent (output component : List UInt8) : Option (List UInt8) :=
  if component = [dot] then some output
  else if component = [dot, dot] then syscallCwdPop output
  else syscallCwdAppend output component

def syscallBuildComponents : List (List UInt8) → List UInt8 → Option (List UInt8)
  | [], output => some output
  | component :: rest, output =>
    (syscallBuildComponent output component).bind (syscallBuildComponents rest)

/-- `process_get_cwd_text` with a buffer for the longest text -/
def processGetCwdText (process : ProcessDirectory) : Option (List UInt8) :=
  if process.slotUsed = false ∨ process.alive = false ∨ process.cwdTextValid = false then none
  else
    let copied := processCopyText (vfsPathMax + 1) process.cwdText
    if copied.1 = false then none else some copied.2

def syscallBuildCanonicalCwd (process : ProcessDirectory) (path : List UInt8) :
    Option (List UInt8) :=
  if path.head? = some slash then syscallBuildComponents (components path) [slash]
  else
    match processGetCwdText process with
    | none => none
    | some output =>
      if output.length = 0 ∨ output.length > vfsPathMax then none
      else syscallBuildComponents (components path) output

/-- A slash before every name. -/
def joined (names : List (List UInt8)) : List UInt8 := names.flatMap fun name => slash :: name

/-- The canonical text for a sequence of names from the root. -/
def canonicalText (names : List (List UInt8)) : List UInt8 :=
  if names = [] then [slash] else joined names

/-- Names as they stand between slashes. -/
def Separable (names : List (List UInt8)) : Prop := ∀ name, name ∈ names → name ≠ [] ∧ slash ∉ name

theorem joined_concat (names : List (List UInt8)) (name : List UInt8) :
    joined (names ++ [name]) = joined names ++ slash :: name := by
  unfold joined
  simp

theorem canonicalText_concat (names : List (List UInt8)) (name : List UInt8) :
    canonicalText (names ++ [name]) = joined names ++ slash :: name := by
  unfold canonicalText
  rw [if_neg (List.append_ne_nil_of_right_ne_nil _ (List.cons_ne_nil _ _)), joined_concat]

variable {names : List (List UInt8)}

theorem joined_head (some : names ≠ []) : ∃ rest, joined names = slash :: rest := by
  cases names with
  | nil => exact absurd rfl some
  | cons name rest => exact ⟨name ++ joined rest, rfl⟩

theorem canonicalText_head (names : List (List UInt8)) :
    (canonicalText names).head? = some slash := by
  unfold canonicalText
  by_cases isEmpty : names = []
  · rw [if_pos isEmpty]
    rfl
  rw [if_neg isEmpty]
  rcases joined_head isEmpty with ⟨rest, isJoined⟩
  rw [isJoined]
  rfl

/-- A text with names is longer than the text of the root. -/
theorem joined_length (separable : Separable names) (some : names ≠ []) : 1 < (joined names).length := by
  cases names with
  | nil => exact absurd rfl some
  | cons name rest =>
    have nonempty := List.length_pos_of_ne_nil (separable name (List.mem_cons_self ..)).1
    unfold joined
    grind

theorem filter_nonempty {name : List UInt8} (nonempty : name ≠ []) (rest : List (List UInt8)) :
    (name :: rest).filter (fun component => component ≠ []) =
      name :: rest.filter fun component => component ≠ [] :=
  List.filter_cons_of_pos (decide_eq_true nonempty)

theorem components_slash (path : List UInt8) : components (slash :: path) = components path := by
  rfl

section

variable (separable : Separable names)
include separable

theorem components_joined : components (joined names) = names := by
  induction names with
  | nil => rfl
  | cons name rest ih =>
    have first := separable name (List.mem_cons_self ..)
    have tail := ih fun other member => separable other (List.mem_cons_of_mem _ member)
    change components (slash :: (name ++ joined rest)) = name :: rest
    rw [components_slash]
    by_cases isLast : rest = []
    · rw [isLast]
      change components (name ++ []) = [name]
      unfold components
      rw [List.append_nil, List.splitOn_eq_singleton first.2, filter_nonempty first.1, List.filter_nil]
    · rcases joined_head isLast with ⟨after, isJoined⟩
      grind [components_slash, components, List.splitOn_append_cons_self_of_not_mem]

theorem components_canonicalText : components (canonicalText names) = names := by
  unfold canonicalText
  by_cases isEmpty : names = []
  · rw [if_pos isEmpty, isEmpty]
    rfl
  · rw [if_neg isEmpty]
    exact components_joined separable

/-- A path behind a canonical text adds its components to the names. -/
theorem components_joined_slash
    (path : List UInt8) : components (joined names ++ slash :: path) = names ++ components path := by
  induction names with
  | nil => exact components_slash path
  | cons name rest ih =>
    have first := separable name (List.mem_cons_self ..)
    have tail := ih fun other member => separable other (List.mem_cons_of_mem _ member)
    have isText : joined (name :: rest) ++ slash :: path =
        slash :: (name ++ (joined rest ++ slash :: path)) := by
      change slash :: (name ++ joined rest) ++ slash :: path = _
      rw [List.cons_append, List.append_assoc]
    have isBehind : ∃ behind, joined rest ++ slash :: path = slash :: behind := by
      cases rest with
      | nil => exact ⟨path, rfl⟩
      | cons other rest => exact ⟨_, rfl⟩
    rcases isBehind with ⟨behind, isBehind⟩
    rw [isText, isBehind]
    change components (slash :: (name ++ slash :: behind)) = _
    grind [components_slash, components, List.splitOn_append_cons_self_of_not_mem]

theorem components_canonicalText_slash (path : List UInt8) :
    components (canonicalText names ++ slash :: path) = names ++ components path := by
  unfold canonicalText
  by_cases isEmpty : names = []
  · rw [if_pos isEmpty, isEmpty]
    rfl
  grind [components_joined_slash]

end

/-- What stands between the slashes of a path. -/
theorem components_separable (path : List UInt8) : Separable (components path) := by
  intro name member
  rcases List.mem_filter.mp member with ⟨isPart, nonempty⟩
  refine ⟨of_decide_eq_true nonempty, ?_⟩
  clear member nonempty
  induction path generalizing name with
  | nil =>
    simp_all
  | cons byte rest ih =>
    rw [List.splitOn_cons_eq_if_modifyHead] at isPart
    by_cases isSlash : (byte == slash) = true
    · grind
    rw [if_neg isSlash] at isPart
    cases parts : rest.splitOn slash with
    | nil => simp_all
    | cons first others =>
      rw [parts, List.modifyHead_cons, List.mem_cons] at isPart
      grind

/-- The loop goes back over the last name to the slash before it. -/
theorem syscallCwdPopLoop_name {front name : List UInt8} (whole : slash ∉ name) :
    ∀ count, count ≤ name.length →
      syscallCwdPopLoop (front ++ slash :: name) (front.length + 1 + count) = front.length + 1 := by
  intro count
  induction count with
  | zero =>
    intro _
    cases isFront : front.length with
    | zero => rfl
    | succ length =>
      simp_all [syscallCwdPopLoop]
  | succ count ih =>
    intro inName
    have isByte : (front ++ slash :: name)[front.length + 1 + count]? = name[count]? := by
      rw [List.getElem?_append_right (by omega)]
      have index : front.length + 1 + count - front.length = count + 1 := by omega
      rw [index, List.getElem?_cons_succ]
    have inside : count < name.length := inName
    have other : (front ++ slash :: name)[front.length + 1 + count]? ≠ some slash := by
      rw [isByte, List.getElem?_eq_getElem inside]
      intro same
      exact whole (Option.some.inj same ▸ List.getElem_mem inside)
    grind [syscallCwdPopLoop]

/-- Popping removes the last name. -/
theorem syscallCwdPop_canonicalText {name : List UInt8} (separable : Separable (names ++ [name])) :
    syscallCwdPop (canonicalText (names ++ [name])) = some (canonicalText names) := by
  have last := separable name (List.mem_append_right _ (List.mem_singleton_self _))
  have nonempty := List.length_pos_of_ne_nil last.1
  have front : Separable names := fun other member => separable other (List.mem_append_left _ member)
  have head := canonicalText_head (names ++ [name])
  rw [canonicalText_concat] at head ⊢
  have isLength : (joined names ++ slash :: name).length = (joined names).length + 1 + name.length := by
    rw [List.length_append, List.length_cons]
    omega
  unfold syscallCwdPop
  rw [if_neg, if_neg (by omega)]
  · rw [isLength, syscallCwdPopLoop_name last.2 name.length (Nat.le_refl _)]
    unfold canonicalText
    by_cases isEmpty : names = []
    · rw [if_pos isEmpty, isEmpty]
      rfl
    · have long := joined_length front isEmpty
      grind
  simp [*]

theorem syscallCwdAppend_canonicalText {name text : List UInt8} (separable : Separable names)
    (appended : syscallCwdAppend (canonicalText names) name = some text) :
    text = canonicalText (names ++ [name]) := by
  rw [canonicalText_concat]
  have isSeparated : (if (canonicalText names).length > 1 then canonicalText names ++ [slash]
      else canonicalText names) = joined names ++ [slash] := by
    unfold canonicalText
    by_cases isEmpty : names = []
    · rw [if_pos isEmpty, isEmpty]
      rfl
    · grind [joined_length]
  simp_all [syscallCwdAppend]

/-- A turn of the loop acts on the names as the path does. -/
theorem syscallBuildComponent_canonicalText
    {component text : List UInt8} (separable : Separable names)
    (nonempty : component ≠ []) (whole : slash ∉ component)
    (built : syscallBuildComponent (canonicalText names) component = some text) :
    text = canonicalText (followComponent names component) ∧ Separable (followComponent names component) := by
  unfold syscallBuildComponent at built
  unfold followComponent
  by_cases isDot : component = [dot]
  · simp_all
  rw [if_neg isDot] at built ⊢
  by_cases isDots : component = [dot, dot]
  · rw [if_pos isDots] at built ⊢
    rcases List.eq_nil_or_concat' names with rfl | ⟨front, last, rfl⟩
    · exact ⟨(Option.some.inj built).symm, separable⟩
    rw [syscallCwdPop_canonicalText separable] at built
    rw [List.dropLast_concat]
    exact ⟨(Option.some.inj built).symm, fun name member =>
      separable name (List.mem_append_left _ member)⟩
  · rw [if_neg isDots] at built ⊢
    refine ⟨syscallCwdAppend_canonicalText separable built, fun name member => ?_⟩
    rcases List.mem_append.mp member with old | isNew
    · exact separable name old
    simp_all

theorem syscallBuildComponents_canonicalText {path : List (List UInt8)} :
    ∀ {names : List (List UInt8)} {text : List UInt8}, Separable names → Separable path →
      syscallBuildComponents path (canonicalText names) = some text →
      text = canonicalText (path.foldl followComponent names) ∧
        Separable (path.foldl followComponent names) := by
  induction path with
  | nil => exact fun separable _ built => ⟨(Option.some.inj built).symm, separable⟩
  | cons component rest ih =>
    intro names text separable plain built
    unfold syscallBuildComponents at built
    cases first : syscallBuildComponent (canonicalText names) component with
    | none =>
      rw [first] at built
      cases built
    | some middle =>
      rw [first] at built
      have head := plain component (List.mem_cons_self ..)
      rcases syscallBuildComponent_canonicalText separable head.1 head.2 first with
        ⟨rfl, separable'⟩
      exact ih separable' (fun other member => plain other (List.mem_cons_of_mem _ member)) built

end BoringOS.Vfs
