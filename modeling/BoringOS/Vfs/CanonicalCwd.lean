import BoringOS.Vfs.CwdBuffer

namespace BoringOS.Vfs

open Library

/-!
# The canonical text of a new directory

`syscallBuildCanonicalCwd_canonical` says what `syscall_build_canonical_cwd`
leaves in its array, for every canonical text of the current directory and every
path: either the call fails, or the array holds the lexical normal form of the
path joined to the text.  If the text leads to the current directory, a
resolution of the new text from the root ends where the path itself leads.
-/

variable {Context : Type} {backend : Backend Context} {entries : Entries Context}
  {system : System Context}

/-- The path that a path stands for behind the text of a directory. -/
def joinedPath (text path : List UInt8) : List UInt8 :=
  if path.head? = some slash then path else text ++ slash :: path

/-- The text of an absolute path without its special components. -/
def lexicalNormalForm (path : List UInt8) : List UInt8 :=
  canonicalText ((components path).foldl followComponent [])

/-- An absolute path of names between single slashes, which fits into the array
together with a zero. -/
structure CanonicalText (text : List UInt8) : Prop where
  names : ∃ names, Separable names ∧ (∀ name, name ∈ names → Named name) ∧
    text = canonicalText names
  short : text.length ≤ vfsPathMax
  whole : 0 ∉ text

/-- The array holds the canonical text that the call has built. -/
structure BuiltText (backend : Backend Context) (entries : Entries Context)
    (system : System Context) (process : Nat) (path : List UInt8) (after : CwdBuffer)
    (text : List UInt8) : Prop where
  held : HoldsText after text
  canonical : CanonicalText text
  normal : text = lexicalNormalForm (joinedPath (system.processes process).cwdText path)
  resolves : (path.head? ≠ some slash →
      TextLeads entries system.vfs (system.processes process)) →
    (vfsResolveProcess backend system process (some path) VfsPath.empty).result = .ok →
    ResolvesTo backend entries
      (vfsResolveProcess backend system process (some path) VfsPath.empty).vfs text
      (vfsResolveProcess backend system process (some path) VfsPath.empty).path

variable {names : List (List UInt8)}

theorem foldl_named (named : ∀ name, name ∈ names → Named name) :
    ∀ front, names.foldl followComponent front = front ++ names := by
  induction names with
  | nil => simp
  | cons name rest ih =>
    intro front
    have first := named name (List.mem_cons_self ..)
    have followed : followComponent front name = front ++ [name] := by
      unfold followComponent
      rw [if_neg first.1, if_neg first.2]
    simp_all

theorem foldl_mem {path : List (List UInt8)} {name : List UInt8} :
    ∀ {names : List (List UInt8)}, name ∈ path.foldl followComponent names →
      name ∈ names ∨ name ∈ path ∧ Named name := by
  induction path with
  | nil => exact Or.inl
  | cons component rest ih =>
    intro names member
    rcases ih member with followed | ⟨inRest, named⟩
    · unfold followComponent at followed
      by_cases isDot : component = [dot]
      · simp_all
      rw [if_neg isDot] at followed
      by_cases isDots : component = [dot, dot]
      · simp_all [List.mem_of_mem_dropLast]
      rw [if_neg isDots] at followed
      rcases List.mem_append.mp followed with old | isNew
      · exact Or.inl old
      · rw [List.mem_singleton.mp isNew]
        exact Or.inr ⟨List.mem_cons_self .., isDot, isDots⟩
    simp [*]

theorem mem_intercalate {separator part : List UInt8} {byte : UInt8} (isByte : byte ∈ part) :
    ∀ {parts : List (List UInt8)}, part ∈ parts → byte ∈ separator.intercalate parts
  | [only], member => by
      simp_all
  | first :: second :: rest, member => by
      rw [List.intercalate_cons_cons]
      rcases List.mem_cons.mp member with isFirst | later
      · simp_all
      · exact List.mem_append_right _ (mem_intercalate isByte later)

theorem mem_components {path name : List UInt8} {byte : UInt8} (member : name ∈ components path)
    (isByte : byte ∈ name) : byte ∈ path := by
  have isPart : name ∈ path.splitOn slash := (List.mem_filter.mp member).1
  have isIn := @mem_intercalate [slash] name byte isByte _ isPart
  simp_all

theorem mem_canonicalText {byte : UInt8}
    (isByte : byte ∈ canonicalText names) : byte = slash ∨ ∃ name ∈ names, byte ∈ name := by
  unfold canonicalText at isByte
  by_cases isEmpty : names = []
  · simp_all
  rw [if_neg isEmpty] at isByte
  rcases List.mem_flatMap.mp isByte with ⟨name, member, inName⟩
  grind

theorem byte_mem_canonicalText {name : List UInt8} {byte : UInt8}
    (member : name ∈ names) (isByte : byte ∈ name) : byte ∈ canonicalText names := by
  unfold canonicalText
  rw [if_neg (List.ne_nil_of_mem member)]
  exact List.mem_flatMap.mpr ⟨name, member, List.mem_cons_of_mem _ isByte⟩

theorem components_joinedPath (separable : Separable names)
    (named : ∀ name, name ∈ names → Named name) (path : List UInt8) :
    (components (joinedPath (canonicalText names) path)).foldl followComponent [] =
      (components path).foldl followComponent (startingNames path names) := by
  unfold joinedPath startingNames
  by_cases isAbsolute : path.head? = some slash
  · rw [if_pos isAbsolute, if_pos isAbsolute]
  simp_all [components_canonicalText_slash, List.foldl_append, foldl_named, List.nil_append]

theorem startingNames_mem {path name : List UInt8} {names : List (List UInt8)}
    (member : name ∈ startingNames path names) : name ∈ names := by
  unfold startingNames at member
  simp_all

/-- The text that the call builds comes from the names of both texts. -/
theorem syscallBuildCanonicalCwd_text {process : ProcessDirectory} {path text : List UInt8}
    {names : List (List UInt8)} (separable : Separable names)
    (isText : process.cwdText = canonicalText names)
    (built : syscallBuildCanonicalCwd process path = some text) :
    text = canonicalText ((components path).foldl followComponent (startingNames path names)) ∧
      Separable ((components path).foldl followComponent (startingNames path names)) := by
  unfold syscallBuildCanonicalCwd at built
  unfold startingNames
  by_cases isAbsolute : path.head? = some slash
  · rw [if_pos isAbsolute] at built ⊢
    have noNames : Separable [] := nofun
    exact syscallBuildComponents_canonicalText noNames (components_separable path) built
  rw [if_neg isAbsolute] at built ⊢
  cases isOld : processGetCwdText process with
  | none =>
    rw [isOld] at built
    cases built
  | some output =>
    rcases processGetCwdText_some isOld with ⟨-, isOutput⟩
    grind [syscallBuildComponents_canonicalText, components_separable]

/-- In every state that calls can reach, the call never leaves its array, and if
it succeeds the array holds the canonical text of the joined path. -/
theorem syscallBuildCanonicalCwd_canonical (holds : HoldsEntries backend entries)
    (context : Context) (calls : List (Call Context))
    (isSystem : system = run (step backend) (boot context) calls) (process : Nat)
    (canonical : CanonicalText (system.processes process).cwdText) {path : List UInt8}
    (whole : 0 ∉ path) {buffer : CwdBuffer} (size : buffer.output.length = vfsPathMax + 1) :
    ∃ answer after,
      syscallBuildCanonicalCwdInBuffer (system.processes process) path buffer = some (answer, after) ∧
      after.output.length = vfsPathMax + 1 ∧
      (answer = true → ∃ text, BuiltText backend entries system process path after text) := by
  rcases canonical with ⟨⟨names, separable, named, isText⟩, short, unbroken⟩
  rcases (syscallBuildCanonicalCwdInBuffer_leaves short unbroken path size).stays with
    ⟨answer, after, isOutcome, sizeAfter, isAnswer, holdsResult⟩
  refine ⟨answer, after, isOutcome, sizeAfter, fun succeeds => ?_⟩
  rw [isAnswer] at succeeds
  rcases Option.isSome_iff_exists.mp succeeds with ⟨text, built⟩
  rcases syscallBuildCanonicalCwd_text separable isText built with ⟨isBuilt, stillSeparable⟩
  have holdsText := holdsResult text built
  refine ⟨text, holdsText, ⟨⟨_, stillSeparable, fun name member => ?_, isBuilt⟩,
    holdsText.short, fun isZero => ?_⟩, ?_, fun textLeads found => ?_⟩
  · rcases foldl_mem member with old | ⟨-, isNamed⟩
    · exact named name (startingNames_mem old)
    · exact isNamed
  · rw [isBuilt] at isZero
    rcases mem_canonicalText isZero with isSlash | ⟨name, member, inName⟩
    · exact absurd isSlash (by decide)
    rcases foldl_mem member with old | ⟨inPath, -⟩
    · apply unbroken
      rw [isText]
      exact byte_mem_canonicalText (startingNames_mem old) inName
    · exact whole (mem_components inPath inName)
  · grind [lexicalNormalForm, components_joinedPath]
  · have sound := run_invariant (fun system call sound => step_sound backend system call sound)
      calls (boot context) (boot_sound context)
    rw [← isSystem] at sound
    rcases sound.balanced with ⟨live, handles, -, -, balanced⟩
    have kept := vfsResolveProcess_keeps holds system process (some path) VfsPath.empty
    rcases chdir_leads holds textLeads built found with
      ⟨rootValid, found, foundSeparable, isFound, leads⟩
    have sameRoot := rootPath_kept kept rootValid
    have unheld := balanced
    rw [← zero_add live, ← held_empty] at unheld
    refine resolvesTo_of_leads holds
      (vfsResolveProcess_balanced backend process (some path) unheld) ?_ holdsText.short
      ⟨found, foundSeparable, isFound, ?_⟩
    · rw [sameRoot]
      exact kept.pathValid rootValid
    · rw [sameRoot]
      exact leads

/-- A process works in the directory `data`. -/
def processInData : System Unit :=
  run (step dataBackend) (boot ())
    (dataBefore ++ [.resolve none (some (slash :: dataName)) 0, .processCreate 1,
      .processSetCwdText 1 (.slot 0) (slash :: dataName)])

theorem processInData_text : (processInData.processes 1).cwdText = slash :: dataName := by
  decide +kernel

theorem dataName_canonical : CanonicalText (slash :: dataName) where
  names := by
    refine ⟨[dataName], fun name member => ?_, fun name member => ?_, rfl⟩
    · rw [List.mem_singleton.mp member]
      decide
    · rw [List.mem_singleton.mp member]
      exact ⟨by decide, by decide⟩
  short := by decide
  whole := by decide

/-- From there, `../data` gives the same text again. -/
theorem syscallBuildCanonicalCwd_canonical_data :
    ∃ answer after,
      syscallBuildCanonicalCwdInBuffer (processInData.processes 1)
        ([dot, dot, slash] ++ dataName) ⟨List.replicate (vfsPathMax + 1) 0, 0⟩ = some (answer, after) ∧
      after.output.length = vfsPathMax + 1 ∧
      (answer = true → ∃ text, BuiltText dataBackend dataEntries processInData 1
        ([dot, dot, slash] ++ dataName) after text) :=
  @syscallBuildCanonicalCwd_canonical Unit dataBackend dataEntries processInData
    dataBackend_holds () _ rfl 1 (processInData_text ▸ dataName_canonical)
    ([dot, dot, slash] ++ dataName) (by decide) ⟨List.replicate (vfsPathMax + 1) 0, 0⟩ List.length_replicate

end BoringOS.Vfs
