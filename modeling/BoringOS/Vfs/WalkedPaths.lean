import BoringOS.Vfs.Walks

namespace BoringOS.Vfs

open Library

/-!
# Resolutions agree with the walks

`vfsResolve_agrees` compares `vfs_resolve` with the walk through the tree, in
every state that calls of the virtual file system can reach.  A resolution
succeeds where the walk arrives, and it fails with `NOT_DIRECTORY` where the
walk meets a name behind something that is no directory.

Only a name asks for a directory.  A dot, two dots and the slashes at the end of
a path do not: `special_components_pass_files` shows them behind a regular file.
-/

variable {Context : Type} {backend : Backend Context} {entries : Entries Context}
  {vfs before after : VfsState Context} {current next : VfsPath} {component : List UInt8}
  {live : Multiset VfsPath} {handles : Nat}

/-- The walk comes to a name behind something that is no directory. -/
def MeetsFile (entries : Entries Context) (vfs : VfsState Context) (start : VfsPath)
    (names : List (List UInt8)) : Prop :=
  ∃ front file name rest, names = front ++ name :: rest ∧ Walks entries vfs start front file ∧
    (vfs.objects.node file.node).type ≠ some .directory ∧ Named name ∧ name.length ≤ vfsNameMax

/-- A backend does not take a directory for one. -/
def Disowns (backend : Backend Context) (vfs : VfsState Context) (directory : VfsPath)
    (name : List UInt8) : Prop :=
  (vfs.objects.node directory.node).type = some .directory ∧
    lookupResult backend vfs directory name = .notDirectory

/-! ## Failures of other kinds -/

theorem vfsNodeRetain_directory (vfs : VfsState Context) (node : Option Nat) :
    (vfsNodeRetain vfs node).1 ≠ .notDirectory := by
  unfold vfsNodeRetain
  grind

theorem vfsNodeRelease_directory (vfs : VfsState Context) (node : Option Nat) :
    (vfsNodeRelease vfs node).1 ≠ .notDirectory := by
  unfold vfsNodeRelease
  cases node with
  | none => exact nofun
  | some index =>
    grind

theorem vfsPathAcquire_directory (vfs : VfsState Context) (mount node : Option Nat)
    (pathOut : VfsPath) : (vfsPathAcquire vfs mount node pathOut).result ≠ .notDirectory := by
  unfold vfsPathAcquire
  split
  · exact nofun
  grind [vfsNodeRetain_directory]

theorem vfsPathRelease_directory (vfs : VfsState Context) (path : VfsPath) :
    (vfsPathRelease vfs path).result ≠ .notDirectory := by
  unfold vfsPathRelease
  grind [vfsNodeRelease_directory]

theorem vfsPathReplace_directory (vfs : VfsState Context) (path : VfsPath)
    (mount node : Option Nat) : (vfsPathReplace vfs path mount node).result ≠ .notDirectory := by
  unfold vfsPathReplace
  split
  · exact nofun
  grind [vfsPathAcquire_directory, vfsPathRelease_directory]

theorem vfsFollowChildMount_directory (vfs : VfsState Context) (path : VfsPath) :
    (vfsFollowChildMount vfs path).result ≠ .notDirectory := by
  grind [vfsFollowChildMount, vfsPathReplace_directory]

theorem vfsStepParent_directory (vfs : VfsState Context) (path : VfsPath) :
    (vfsStepParent vfs path).result ≠ .notDirectory := by
  unfold vfsStepParent
  simp only
  split
  · exact nofun
  split
  · split
    · exact nofun
    grind [vfsPathReplace_directory]
  grind [vfsPathReplace_directory]

theorem vfsValidateBackendChild_directory (objects : Objects)
    (filesystem directory node : Option Nat) (type : VfsNodeType) (required : Bool) :
    vfsValidateBackendChild objects filesystem directory node type required ≠ .notDirectory := by
  unfold vfsValidateBackendChild
  grind

theorem vfsResolveStart_directory (vfs : VfsState Context) (start : Option VfsPath)
    (path : List UInt8) : (vfsResolveStart vfs start path).result ≠ .notDirectory := by
  unfold vfsResolveStart vfsGetRoot vfsPathClone
  split
  · grind [vfsPathAcquire_directory]
  cases start with
  | none => exact nofun
  | some start =>
    grind [vfsPathAcquire_directory]

/-! ## One component behind a file -/

theorem vfsResolveComponent_file (named : Named component) (short : component.length ≤ vfsNameMax)
    (isFile : (vfs.objects.node current.node).type ≠ some .directory) :
    (vfsResolveComponent backend vfs current component).result = .notDirectory := by
  unfold vfsResolveComponent vfsResolveName
  rw [if_neg (Nat.not_lt.mpr short), if_neg named.1, if_neg named.2, if_pos isFile]
  rfl

/-- Nothing else lets a turn of the loop fail with this result. -/
theorem vfsResolveName_meets
    (refused : (vfsResolveName backend vfs current component).result = .notDirectory) :
    (vfs.objects.node current.node).type ≠ some .directory ∨
      Disowns backend vfs current component := by
  by_cases isFile : (vfs.objects.node current.node).type ≠ some .directory
  · exact Or.inl isFile
  refine Or.inr ⟨not_not.mp isFile, ?_⟩
  unfold vfsResolveName at refused
  simp only at refused
  rw [if_neg isFile] at refused
  split at refused
  · cases refused
  split at refused
  · exact refused
  split at refused
  · exact absurd refused (vfsValidateBackendChild_directory _ _ _ _ _ _)
  split at refused
  · exact absurd refused (vfsPathAcquire_directory _ _ _ _)
  split at refused
  · exact absurd refused (vfsPathRelease_directory _ _)
  split at refused
  · exact absurd refused (vfsFollowChildMount_directory _ _)
  simp_all

theorem vfsResolveComponent_meets
    (refused : (vfsResolveComponent backend vfs current component).result = .notDirectory) :
    ((vfs.objects.node current.node).type ≠ some .directory ∧ Named component ∧
        component.length ≤ vfsNameMax) ∨ Disowns backend vfs current component := by
  unfold vfsResolveComponent at refused
  simp only at refused
  split at refused
  · cases refused
  rename_i short
  split at refused
  · cases refused
  rename_i notDot
  split at refused
  · split at refused
    · exact absurd refused (vfsStepParent_directory vfs current)
    simp_all
  · rename_i notDots
    exact (vfsResolveName_meets refused).imp_left fun isFile =>
      ⟨isFile, ⟨notDot, notDots⟩, Nat.le_of_not_lt short⟩

/-! ## The loop -/

theorem vfsResolveComponents_ok {rest : List (List UInt8)}
    (isOk : (vfsResolveComponent backend vfs current component).result = .ok) :
    vfsResolveComponents backend (component :: rest) vfs current =
      vfsResolveComponents backend rest (vfsResolveComponent backend vfs current component).vfs
        (vfsResolveComponent backend vfs current component).path := by
  simp_all [vfsResolveComponents]

theorem vfsResolveComponents_stuck {rest : List (List UInt8)}
    (failed : (vfsResolveComponent backend vfs current component).result ≠ .ok) :
    vfsResolveComponents backend (component :: rest) vfs current =
      vfsResolveComponent backend vfs current component := by
  conv => lhs; unfold vfsResolveComponents
  exact if_pos failed

section

variable {made : VfsState Context → VfsPath → List UInt8 → Prop} {rest : List (List UInt8)}

theorem LooksUp.first (isMade : made vfs current component) :
    LooksUp backend (component :: rest) vfs current made :=
  ⟨[], component, rest, rfl, rfl, isMade⟩

theorem LooksUp.later (isOk : (vfsResolveComponent backend vfs current component).result = .ok)
    (looksUp : LooksUp backend rest (vfsResolveComponent backend vfs current component).vfs
      (vfsResolveComponent backend vfs current component).path made) :
    LooksUp backend (component :: rest) vfs current made := by
  rcases looksUp with ⟨front, name, rest', rfl, reached, isMade⟩
  refine ⟨component :: front, name, rest', rfl, ?_, ?_⟩
  · rw [vfsResolveComponents_ok isOk]
    exact reached
  · rw [vfsResolveComponents_ok isOk]
    exact isMade

end

/-- The loop stops for one of the two reasons. -/
def Halts (backend : Backend Context) (entries : Entries Context) (names : List (List UInt8))
    (vfs : VfsState Context) (current : VfsPath) (live : Multiset VfsPath) (result : VfsResult) : Prop :=
  OverflowsBeside vfs live result ∨ LooksUp backend names vfs current (Refuses backend entries result)

theorem Halts.later (holds : HoldsEntries backend entries)
    (balanced : Balanced vfs (current ::ₘ live) handles) {rest : List (List UInt8)} {result : VfsResult}
    (isOk : (vfsResolveComponent backend vfs current component).result = .ok)
    (halts : Halts backend entries rest (vfsResolveComponent backend vfs current component).vfs
      (vfsResolveComponent backend vfs current component).path live result) :
    Halts backend entries (component :: rest) vfs current live result :=
  halts.imp (OverflowsBeside.of_kept · (KeepsTree.vfsResolveComponent holds vfs current component)
    balanced) (LooksUp.later isOk)

/-- A turn of the loop goes on from a local path that is balanced and that it has moved to,
or it is the last one. -/
theorem vfsResolveComponents_turn (holds : HoldsEntries backend entries)
    (balanced : Balanced vfs (current ::ₘ live) handles) {rest : List (List UInt8)}
    (separable : Separable (component :: rest)) :
    let turn := vfsResolveComponent backend vfs current component
    let whole := vfsResolveComponents backend (component :: rest) vfs current
    (turn.result = .ok ∧ whole = vfsResolveComponents backend rest turn.vfs turn.path ∧ Separable rest ∧
        Balanced turn.vfs (turn.path ::ₘ live) handles ∧ Moves entries turn.vfs current component turn.path) ∨
      (turn.result ≠ .ok ∧ whole = turn) := by
  intro turn whole
  by_cases isOk : turn.result = .ok
  · have first := separable component (List.mem_cons_self ..)
    have isValid := balanced.valid current (Multiset.mem_cons_self current live)
    have moves := vfsResolveComponent_moves holds balanced isValid first.1 first.2 isOk
    have kept := KeepsTree.vfsResolveComponent holds vfs current component
    have localPath : Balanced vfs (held current + live) handles := by
      rw [held_of_ne (ne_empty_of_valid isValid), Multiset.singleton_add]
      exact balanced
    have turned := vfsResolveComponent_balanced backend localPath component
    rw [held_of_ne (ne_empty_of_valid (moves.valid (kept.pathValid isValid))),
      Multiset.singleton_add] at turned
    exact Or.inl ⟨isOk, vfsResolveComponents_ok isOk, fun name member =>
      separable name (List.mem_cons_of_mem _ member), turned, moves⟩
  · exact Or.inr ⟨isOk, vfsResolveComponents_stuck isOk⟩

theorem vfsResolveComponents_walks (holds : HoldsEntries backend entries) (names : List (List UInt8)) :
    ∀ {vfs : VfsState Context} {current : VfsPath},
      Balanced vfs (current ::ₘ live) handles → Separable names →
      (vfsResolveComponents backend names vfs current).result = .ok →
      Walks entries (vfsResolveComponents backend names vfs current).vfs current names
        (vfsResolveComponents backend names vfs current).path := by
  induction names with
  | nil => exact fun _ _ _ => rfl
  | cons component rest ih =>
    intro vfs current balanced separable isOk
    have isValid := balanced.valid current (Multiset.mem_cons_self current live)
    have kept := KeepsTree.vfsResolveComponent holds vfs current component
    rcases vfsResolveComponents_turn holds balanced separable with
      ⟨-, same, separable, turned, moves⟩ | ⟨failed, same⟩
    · rw [same] at isOk ⊢
      exact ⟨_, moves.kept (KeepsTree.vfsResolveComponents holds rest _ _) turned
        (kept.pathValid isValid), ih turned separable isOk⟩
    · rw [same] at isOk
      exact absurd isOk failed

theorem vfsResolveComponents_follows (holds : HoldsEntries backend entries)
    (names : List (List UInt8)) {last : VfsPath} :
    ∀ {vfs : VfsState Context} {current : VfsPath},
      Balanced vfs (current ::ₘ live) handles → Separable names →
      Walks entries vfs current names last →
      ((vfsResolveComponents backend names vfs current).result = .ok ∧
          (vfsResolveComponents backend names vfs current).path = last) ∨
        Halts backend entries names vfs current live
          (vfsResolveComponents backend names vfs current).result := by
  induction names with
  | nil => exact fun _ _ walks => Or.inl ⟨rfl, walks⟩
  | cons component rest ih =>
    rintro vfs current balanced separable ⟨next, moves, walks⟩
    have isValid := balanced.valid current (Multiset.mem_cons_self current live)
    have kept := KeepsTree.vfsResolveComponent holds vfs current component
    rcases vfsResolveComponents_turn holds balanced separable with
      ⟨isOk, same, separable, turned, made⟩ | ⟨failed, same⟩
    · have isNext := made.unique (moves.kept kept balanced isValid)
      rw [same]
      refine (ih turned separable ?_).imp_right (Halts.later holds balanced isOk)
      rw [isNext]
      exact walks.kept kept balanced (moves.valid isValid)
    · rw [same]
      exact (vfsResolveComponent_follows holds balanced moves).imp (absurd ·.1 failed)
        (Or.imp_right LooksUp.first)

theorem vfsResolveComponents_refuses (holds : HoldsEntries backend entries) (names : List (List UInt8)) :
    ∀ {vfs : VfsState Context} {current : VfsPath},
      Balanced vfs (current ::ₘ live) handles → Separable names →
      MeetsFile entries vfs current names →
      (vfsResolveComponents backend names vfs current).result = .notDirectory ∨
        Halts backend entries names vfs current live
          (vfsResolveComponents backend names vfs current).result := by
  induction names with
  | nil =>
    rintro vfs current - - ⟨front, file, name, rest, parts, -⟩
    cases front <;> cases parts
  | cons component names ih =>
    rintro vfs current balanced separable ⟨front, file, name, rest, parts, walks, isFile, named⟩
    have isValid := balanced.valid current (Multiset.mem_cons_self current live)
    have kept := KeepsTree.vfsResolveComponent holds vfs current component
    cases front with
    | nil =>
      cases walks
      simp_all [vfsResolveComponent_file, vfsResolveComponents_stuck]
    | cons head front =>
      cases parts
      rcases walks with ⟨next, moves, walks⟩
      rcases vfsResolveComponents_turn holds balanced separable with
        ⟨isOk, same, separable, turned, made⟩ | ⟨failed, same⟩
      · have isNext := made.unique (moves.kept kept balanced isValid)
        rw [same]
        refine (ih turned separable ⟨front, file, name, rest, rfl, ?_, ?_, named⟩).imp_right
          (Halts.later holds balanced isOk)
        · rw [isNext]
          exact walks.kept kept balanced (moves.valid isValid)
        · rw [kept.pathType (walks.valid (moves.valid isValid))]
          exact isFile
      · rw [same]
        exact Or.inr (((vfsResolveComponent_follows holds balanced moves).resolve_left
          fun followed => failed followed.1).imp_right LooksUp.first)

theorem vfsResolveComponents_meets (holds : HoldsEntries backend entries) (names : List (List UInt8)) :
    ∀ {vfs : VfsState Context} {current : VfsPath},
      Balanced vfs (current ::ₘ live) handles → Separable names →
      (vfsResolveComponents backend names vfs current).result = .notDirectory →
      MeetsFile entries (vfsResolveComponents backend names vfs current).vfs current names ∨
        LooksUp backend names vfs current (Disowns backend) := by
  induction names with
  | nil =>
    nofun
  | cons component names ih =>
    intro vfs current balanced separable refused
    have isValid := balanced.valid current (Multiset.mem_cons_self current live)
    have kept := KeepsTree.vfsResolveComponent holds vfs current component
    rcases vfsResolveComponents_turn holds balanced separable with
      ⟨isOk, same, separable, turned, moves⟩ | ⟨-, same⟩
    · rw [same] at refused ⊢
      refine (ih turned separable refused).imp ?_ (LooksUp.later isOk)
      rintro ⟨front, file, name, rest, rfl, walks, isFile⟩
      exact ⟨component :: front, file, name, rest, rfl, ⟨_, moves.kept
        (KeepsTree.vfsResolveComponents holds _ _ _) turned (kept.pathValid isValid), walks⟩, isFile⟩
    · rw [same] at refused ⊢
      refine (vfsResolveComponent_meets refused).imp ?_ LooksUp.first
      rintro ⟨isFile, named⟩
      refine ⟨[], current, component, names, rfl, rfl, ?_, named⟩
      rw [kept.pathType isValid]
      exact isFile

/-! ## Whole resolutions -/

/-- Where a resolution begins. -/
def startingPath (vfs : VfsState Context) (start : Option VfsPath) (path : List UInt8) :
    Option VfsPath :=
  if path.head? = some slash then some (rootPath vfs) else start

/-- A resolution may begin. -/
structure Admitted (vfs : VfsState Context) (start : Option VfsPath) (path : List UInt8)
    (first : VfsPath) : Prop where
  nonempty : path ≠ []
  short : path.length ≤ vfsPathMax
  isFirst : startingPath vfs start path = some first
  valid : vfsPathValid vfs first = true

/-- A resolution and the walk come to the same end. -/
structure AgreesWithWalk (backend : Backend Context) (entries : Entries Context)
    (vfs : VfsState Context) (start : Option VfsPath) (path : List UInt8)
    (outcome : PathOutcome Context) : Prop where
  arrives : outcome.result = .ok → ∃ first, Admitted vfs start path first ∧
    Walks entries outcome.vfs first (components path) outcome.path
  follows : ∀ first last, Admitted vfs start path first →
    Walks entries vfs first (components path) last →
    (outcome.result = .ok ∧ outcome.path = last) ∨
      Stops backend entries vfs start path outcome.result
  refuses : ∀ first, Admitted vfs start path first →
    MeetsFile entries vfs first (components path) →
    outcome.result = .notDirectory ∨ Stops backend entries vfs start path outcome.result
  meets : outcome.result = .notDirectory →
    (∃ first, Admitted vfs start path first ∧
      MeetsFile entries outcome.vfs first (components path)) ∨
      LooksUp backend (components path) (vfsResolveStart vfs start path).vfs
        (vfsResolveStart vfs start path).path (Disowns backend)

/-- The first local path is acquired unless a counter is full. -/
theorem vfsResolveStart_result {start : Option VfsPath} {path : List UInt8} {first : VfsPath}
    (admitted : Admitted vfs start path first) :
    ((vfsResolveStart vfs start path).result = .ok ∧
        (vfsResolveStart vfs start path).path = first) ∨
      Overflows vfs (vfsResolveStart vfs start path).result := by
  have isFirst := admitted.isFirst
  have isValid := admitted.valid
  unfold startingPath at isFirst
  unfold vfsResolveStart
  by_cases isAbsolute : path.head? = some slash
  · rw [if_pos isAbsolute] at isFirst ⊢
    cases isFirst
    have on : ¬ vfs.initialized = false := by
      have mountValid : vfsMountValid vfs (some 0) = true := vfsPathValid_mount isValid
      simp only [vfsMountValid, Option.elim, Bool.and_eq_true] at mountValid
      rw [mountValid.1.1.1.1]
      rintro ⟨⟩
    unfold vfsGetRoot
    rw [if_neg on]
    exact (vfsPathAcquire_result isValid).imp_left fun isOk =>
      ⟨isOk, (vfsPathAcquire_ok_path isOk).1⟩
  · rw [if_neg isAbsolute] at isFirst ⊢
    rw [isFirst]
    unfold vfsPathClone
    simp only
    rw [if_neg (ne_false_of_eq_true isValid)]
    exact (vfsPathAcquire_result isValid).imp_left fun isOk =>
      ⟨isOk, (vfsPathAcquire_ok_path isOk).1⟩

theorem empty_isEmpty : ¬ (VfsPath.empty.mount ≠ none ∨ VfsPath.empty.node ≠ none) := by
  rintro (impossible | impossible)
  · exact impossible rfl
  · exact impossible rfl

/-- A resolution that is admitted runs the loop from its first path, unless it
finds a counter full. -/
theorem vfsResolve_begins (holds : HoldsEntries backend entries)
    (balanced : Balanced vfs live handles) {start : Option VfsPath} {path : List UInt8}
    {first : VfsPath} (admitted : Admitted vfs start path first) :
    Overflows vfs (vfsResolve backend vfs start (some path) VfsPath.empty).result ∨
      ∃ begun, vfsResolveStart vfs start path = ⟨.ok, first, begun⟩ ∧ KeepsTree entries vfs begun ∧
        Balanced begun (first ::ₘ live) handles ∧
        (vfsResolve backend vfs start (some path) VfsPath.empty).result =
          (vfsResolveComponents backend (components path) begun first).result ∧
        (vfsResolve backend vfs start (some path) VfsPath.empty).vfs =
          (vfsResolveComponents backend (components path) begun first).vfs ∧
        ((vfsResolveComponents backend (components path) begun first).result = .ok →
          (vfsResolve backend vfs start (some path) VfsPath.empty).path =
            (vfsResolveComponents backend (components path) begun first).path) := by
  have mountValid := vfsPathValid_mount admitted.valid
  have on : ¬ vfs.initialized = false := by
    intro off
    cases isMount : first.mount with
    | none =>
      rw [isMount] at mountValid
      cases mountValid
    | some index =>
      simp_all [vfsMountValid, Option.elim, Bool.false_and, Bool.false_eq_true]
  unfold vfsResolve
  simp only
  rw [if_neg on, if_neg empty_isEmpty, if_neg (Nat.not_lt.mpr admitted.short), if_neg admitted.nonempty]
  rcases vfsResolveStart_result admitted with ⟨started, isFirst⟩ | full
  · have kept := KeepsTree.vfsResolveStart holds vfs start path
    have begun := (vfsResolveStart_balanced balanced start path).1
    rw [isFirst, held_of_ne (ne_empty_of_valid admitted.valid), Multiset.singleton_add] at begun
    refine Or.inr ⟨(vfsResolveStart vfs start path).vfs, ?_, kept, begun, ?_⟩
    · rw [← started, ← isFirst]
    rw [if_neg (not_not.mpr started), isFirst]
    by_cases last : (vfsResolveComponents backend (components path)
        (vfsResolveStart vfs start path).vfs first).result = .ok
    · simp only [last, ne_eq, not_true_eq_false, if_false, and_self, implies_true]
    · simp only [last, ne_eq, not_false_eq_true, if_true, and_self, false_implies]
  · rw [if_pos (by rw [full.1]; decide)]
    exact Or.inl full

/-- A resolution that begins stops where its loop does. -/
theorem Halts.stops (balanced : Balanced vfs live handles) {start : Option VfsPath}
    {path : List UInt8} {first : VfsPath} {begun : VfsState Context} {result : VfsResult}
    (begins : vfsResolveStart vfs start path = ⟨.ok, first, begun⟩) (kept : KeepsTree entries vfs begun)
    (halts : Halts backend entries (components path) begun first live result) :
    Stops backend entries vfs start path result := by
  unfold Stops
  rw [begins]
  exact halts.imp_left fun overflows => balanced.nearlyFull (overflows.of_kept kept balanced)

theorem Overflows.stops {start : Option VfsPath} {path : List UInt8} {result : VfsResult}
    (overflows : Overflows vfs result) : Stops backend entries vfs start path result := by
  refine Or.inl ⟨overflows.1, overflows.2.imp (fun full => ?_) fun ⟨node, full⟩ => ⟨node, ?_⟩⟩
  · omega
  · omega

/-- A resolution that succeeds, or fails for want of a directory, was admitted. -/
theorem vfsResolve_admitted {start : Option VfsPath} {path : List UInt8}
    (walked : (vfsResolve backend vfs start (some path) VfsPath.empty).result = .ok ∨
      (vfsResolve backend vfs start (some path) VfsPath.empty).result = .notDirectory) :
    ∃ first, Admitted vfs start path first := by
  unfold vfsResolve at walked
  simp only at walked
  by_cases off : vfs.initialized = false
  · simp_all
  rw [if_neg off, if_neg empty_isEmpty] at walked
  by_cases isLong : path.length > vfsPathMax
  · simp_all
  by_cases isEmpty : path = []
  · simp_all
  rw [if_neg isLong, if_neg isEmpty] at walked
  have started : (vfsResolveStart vfs start path).result = .ok := by
    by_contra failed
    rw [if_pos failed] at walked
    exact walked.elim failed (vfsResolveStart_directory vfs start path)
  unfold vfsResolveStart at started
  by_cases isAbsolute : path.head? = some slash
  · rw [if_pos isAbsolute] at started
    exact ⟨rootPath vfs, isEmpty, Nat.le_of_not_lt isLong, if_pos isAbsolute, (vfsGetRoot_ok started).2⟩
  rw [if_neg isAbsolute] at started
  cases start with
  | none => cases started
  | some start =>
    refine ⟨start, isEmpty, Nat.le_of_not_lt isLong, if_neg isAbsolute, ?_⟩
    unfold vfsPathClone at started
    grind

theorem vfsResolve_balanced_agrees (holds : HoldsEntries backend entries)
    (balanced : Balanced vfs live handles) (start : Option VfsPath) (path : List UInt8) :
    AgreesWithWalk backend entries vfs start path
      (vfsResolve backend vfs start (some path) VfsPath.empty) := by
  have separable := components_separable path
  constructor
  · intro isOk
    rcases vfsResolve_admitted (Or.inl isOk) with ⟨first, admitted⟩
    rcases vfsResolve_begins holds balanced admitted with
      full | ⟨begun, -, kept, begins, sameResult, sameVfs, samePath⟩
    · rw [isOk] at full
      cases full.1
    grind [vfsResolveComponents_walks]
  · intro first last admitted walks
    rcases vfsResolve_begins holds balanced admitted with
      full | ⟨begun, isStart, kept, begins, sameResult, -, samePath⟩
    · exact Or.inr full.stops
    rw [sameResult]
    rcases vfsResolveComponents_follows holds _ begins separable
      (walks.kept kept balanced admitted.valid) with ⟨isOk, isLast⟩ | halts
    · simp [*]
    · exact Or.inr (halts.stops balanced isStart kept)
  · rintro first admitted ⟨front, file, name, rest, parts, walks, isFile, named⟩
    rcases vfsResolve_begins holds balanced admitted with
      full | ⟨begun, isStart, kept, begins, sameResult, -, -⟩
    · exact Or.inr full.stops
    rw [sameResult]
    refine (vfsResolveComponents_refuses holds _ begins separable
      ⟨front, file, name, rest, parts, walks.kept kept balanced admitted.valid, ?_, named⟩).imp_right
      (Halts.stops balanced isStart kept)
    rw [kept.pathType (walks.valid admitted.valid)]
    exact isFile
  · intro refused
    rcases vfsResolve_admitted (Or.inr refused) with ⟨first, admitted⟩
    rcases vfsResolve_begins holds balanced admitted with
      full | ⟨begun, isStart, kept, begins, sameResult, sameVfs, -⟩
    · rw [refused] at full
      cases full.1
    rw [isStart, sameVfs]
    exact (vfsResolveComponents_meets holds _ begins separable (sameResult.symm.trans refused)).imp_left
      fun meets => ⟨first, admitted, meets⟩

/-- A file system with a root directory. -/
def rootedObjects (filesystem root : Nat) (objects : Objects) : Objects :=
  let prepared := (vfsFilesystemPrepare objects filesystem (filesystem + 1) (some [.lookup])).2
  let directory := (vfsNodePrepare prepared root filesystem 1 (some .directory) none).2
  (vfsFilesystemSetRoot directory filesystem root).2

theorem rootedObjects_keeps {filesystem root : Nat} {objects : Objects}
    (isInvalid : vfsFilesystemValid objects (some filesystem) = false)
    (unused : (objects.nodes root).referenceCount = 0) :
    KeepsReferenced objects (rootedObjects filesystem root objects) := by
  have first := KeepsReferenced.vfsFilesystemPrepare filesystem (filesystem + 1) (some [.lookup]) isInvalid
  have second := first.trans (KeepsReferenced.vfsNodePrepare root filesystem 1 (some .directory)
    none ((first.counts root).trans unused))
  exact second.trans (KeepsReferenced.vfsFilesystemSetRoot filesystem root
    ((second.counts root).trans unused))

/-- A backend that sets up a file system, if it can. -/
def setUpRoot (filesystem root : Nat) (context : Unit) (objects : Objects) :
    BackendReply Unit objects :=
  if isFree : vfsFilesystemValid objects (some filesystem) = false ∧
      (objects.nodes root).referenceCount = 0 then
    { result := .ok
      context := context
      objects := rootedObjects filesystem root objects
      keeps := rootedObjects_keeps isFree.1 isFree.2 }
  else
    { result := .busy
      context := context
      objects := objects
      keeps := KeepsReferenced.refl objects }

/-- A backend that sets up the directory `data` of the first file system. -/
def setUpData (context : Unit) (objects : Objects) : BackendReply Unit objects :=
  if isFree : (objects.nodes 1).referenceCount = 0 then
    { result := .ok
      context := context
      objects := (vfsNodePrepare objects 1 0 2 (some .directory) (some 0)).2
      keeps := KeepsReferenced.vfsNodePrepare 1 0 2 (some .directory) (some 0) isFree }
  else
    { result := .busy
      context := context
      objects := objects
      keeps := KeepsReferenced.refl objects }

/-- The name `data`. -/
def dataName : List UInt8 := [100, 97, 116, 97]

/-- The root of the first file system holds the directory `data`. -/
def dataEntries : Entries Unit := fun _ _ filesystem directory name =>
  if filesystem = some 0 ∧ directory = some 0 ∧ name = dataName then some 1 else none

/-- A backend that answers lookups from these entries. -/
def dataBackend : Backend Unit := fun context objects filesystem request =>
  let answer (result : VfsResult) (node : Option Nat) : BackendReply Unit objects :=
    { result := result
      node := node
      context := context
      objects := objects
      keeps := KeepsReferenced.refl objects }
  match request with
  | .lookup directory name =>
    match dataEntries context objects filesystem directory name with
    | some node => answer .ok (some node)
    | none => answer .notFound none
  | _ => answer .notSupported none

theorem dataBackend_objects (context : Unit) (objects : Objects) (filesystem : Option Nat)
    (request : BackendRequest) :
    (dataBackend context objects filesystem request).objects = objects := by
  unfold dataBackend
  grind

theorem dataBackend_holds : HoldsEntries dataBackend dataEntries where
  uncounted _ _ _ _ := rfl
  nodes _ _ _ _ _ _ _ := by rw [dataBackend_objects]
  filesystems _ _ _ _ _ _ _ := by rw [dataBackend_objects]
  kept _ _ _ _ _ _ _ _ _ held := held
  found context objects filesystem directory name isOk := by
    unfold dataBackend at isOk ⊢
    grind

/-- Two file systems are set up, and the first one is the root. -/
def dataBefore : List (Call Unit) :=
  [.backendActs (setUpRoot 0 0), .backendActs setUpData, .backendActs (setUpRoot 1 2), .init (some 0)]

def dataStart : System Unit := run (step dataBackend) (boot ()) dataBefore

/-- In every state that calls can reach, a resolution agrees with the walk along
the components of its path. -/
theorem vfsResolve_agrees (holds : HoldsEntries backend entries) (context : Context)
    (calls : List (Call Context)) (start : Option VfsPath) (path : List UInt8) :
    AgreesWithWalk backend entries (run (step backend) (boot context) calls).vfs start path
      (vfsResolve backend (run (step backend) (boot context) calls).vfs start (some path) VfsPath.empty) := by
  have sound := run_invariant (fun system call sound => step_sound backend system call sound)
    calls (boot context) (boot_sound context)
  rcases sound.balanced with ⟨live, handles, -, -, balanced⟩
  exact vfsResolve_balanced_agrees holds balanced start path

/-- The directory `data` is found. -/
theorem vfsResolve_agrees_data :
    AgreesWithWalk dataBackend dataEntries dataStart.vfs none (slash :: dataName)
        (vfsResolve dataBackend dataStart.vfs none (some (slash :: dataName)) VfsPath.empty) ∧
      (vfsResolve dataBackend dataStart.vfs none (some (slash :: dataName)) VfsPath.empty).result = .ok ∧
      (vfsResolve dataBackend dataStart.vfs none (some (slash :: dataName)) VfsPath.empty).path =
        ⟨some 0, some 1⟩ :=
  ⟨vfsResolve_agrees dataBackend_holds () dataBefore none (slash :: dataName),
    by decide +kernel, by decide +kernel⟩

/-! ## Behind a regular file -/

/-- A backend that sets up `data` as a regular file. -/
def setUpFile (context : Unit) (objects : Objects) : BackendReply Unit objects :=
  if isFree : (objects.nodes 1).referenceCount = 0 then
    { result := .ok
      context := context
      objects := (vfsNodePrepare objects 1 0 2 (some .regular) (some 0)).2
      keeps := KeepsReferenced.vfsNodePrepare 1 0 2 (some .regular) (some 0) isFree }
  else
    { result := .busy
      context := context
      objects := objects
      keeps := KeepsReferenced.refl objects }

/-- The root file system holds the regular file `data`. -/
def fileStart : System Unit :=
  run (step dataBackend) (boot ()) [.backendActs (setUpRoot 0 0), .backendActs setUpFile, .init (some 0)]

/-- What a resolution from the root finds behind the regular file `data`. -/
def behindFile (ending : List UInt8) : VfsResult × VfsPath :=
  let outcome := vfsResolve dataBackend fileStart.vfs none (some (slash :: dataName ++ ending)) VfsPath.empty
  (outcome.result, outcome.path)

/-- A dot, a slash and two dots are accepted behind a regular file. -/
theorem special_components_pass_files :
    (fileStart.vfs.objects.node (some 1)).type = some .regular ∧
      behindFile [] = (.ok, ⟨some 0, some 1⟩) ∧
      behindFile [slash, dot] = (.ok, ⟨some 0, some 1⟩) ∧
      behindFile [slash] = (.ok, ⟨some 0, some 1⟩) ∧
      behindFile [slash, dot, dot] = (.ok, ⟨some 0, some 0⟩) := by
  decide +kernel

end BoringOS.Vfs
