import BoringOS.Vfs.MountTable
import BoringOS.Vfs.WalkedPaths

namespace BoringOS.Vfs

open Library

/-!
# Paths that end below a mount

A node is covered when an active mount stands on it.  A name never leads to a
covered node, for `vfs_resolve` follows the mount.  Two dots do not follow one,
so they may lead to a directory on which something was mounted after the start
of the resolution had been reached.

`vfsResolve_covered` says exactly when the result is covered: every name of the
path is taken back by two dots, and the directory so many levels above the start
as there are two dots left is covered.  This needs that no mount stands on the
root of another one, as the sound mount table says.
-/

variable {Context : Type} {backend : Backend Context} {entries : Entries Context}
  {vfs before after : VfsState Context} {current next : VfsPath} {component : List UInt8}
  {live : Multiset VfsPath} {handles : Nat} {system : System Context}

/-- An active mount stands on the node of the path. -/
def Covered (vfs : VfsState Context) (path : VfsPath) : Prop :=
  vfsChildMount vfs path.mount path.node ≠ none

/-- The directory so many levels above a path. -/
def ancestor (vfs : VfsState Context) : Nat → VfsPath → VfsPath
  | 0, path => path
  | levels + 1, path => parentPath vfs (ancestor vfs levels path)

/-- What the components of a path come to: the levels that they climb, and the
names that they then go down. -/
structure Route where
  levels : Nat
  names : List (List UInt8)
deriving DecidableEq, Repr

def Route.follow (route : Route) (component : List UInt8) : Route :=
  if component = [dot] then route
  else if component = [dot, dot] then
    if route.names = [] then { route with levels := route.levels + 1 }
    else { route with names := route.names.dropLast }
  else { route with names := route.names ++ [component] }

def routeOf (components : List (List UInt8)) : Route := components.foldl Route.follow ⟨0, []⟩

theorem vfsChildMount_active {parent mountpoint : Option Nat} {child : Nat}
    (found : vfsChildMount vfs parent mountpoint = some child) :
    child < vfsMountMax ∧ (vfs.mounts child).active = true := by
  unfold vfsChildMount at found
  grind

theorem uncovered_root (table : TableSound vfs) {path : VfsPath}
    (isValid : vfsPathValid vfs path = true) (isRoot : path.node = vfs.rootOf path.mount) :
    ¬ Covered vfs path := by
  intro covered
  rcases Option.ne_none_iff_exists'.mp covered with ⟨child, found⟩
  rcases vfsChildMount_active found with ⟨inTable, active⟩
  rcases vfsChildMount_some found with ⟨-, isParent, isMountpoint⟩
  rcases vfsPathValid_node isValid with ⟨node, isNode, -⟩
  rcases table child node inTable active (isMountpoint.trans isNode) with
    ⟨parent, parentIs, -, -, apart⟩
  simp_all

/-- A name never leads to a covered node. -/
theorem Descends.uncovered (table : TableSound vfs) {directory found : VfsPath}
    {name : List UInt8} (descends : Descends entries vfs directory name found) :
    ¬ Covered vfs found := by
  rcases descends with ⟨node, -, isFound, isValid⟩
  unfold crossed at isFound
  cases child : vfsChildMount vfs directory.mount (some node) with
  | none =>
    rw [child, Option.elim] at isFound
    rw [isFound]
    exact not_not.mpr child
  | some index =>
    simp_all [Option.elim, uncovered_root]

theorem routeOf_concat (front : List (List UInt8)) (component : List UInt8) :
    routeOf (front ++ [component]) = (routeOf front).follow component := by
  unfold routeOf
  rw [List.foldl_concat]

/-- A walk climbs from its start, and then it goes down along names. -/
theorem walks_route {first : VfsPath} (names : List (List UInt8)) :
    ∀ {last : VfsPath}, Walks entries vfs first names last →
      Leads entries vfs (ancestor vfs (routeOf names).levels first) (routeOf names).names
        last := by
  induction names using List.reverseRecOn with
  | nil => exact fun walks => walks
  | append_singleton front component ih =>
    intro last walks
    rcases walks_append.mp walks with ⟨middle, toMiddle, next, moves, rfl⟩
    have leads := ih toMiddle
    rw [routeOf_concat]
    generalize routeOf front = route at leads ⊢
    unfold Moves at moves
    unfold Route.follow
    by_cases isDot : component = [dot]
    · simp_all
    rw [if_neg isDot] at moves ⊢
    by_cases isDots : component = [dot, dot]
    · rw [if_pos isDots] at moves ⊢
      rcases List.eq_nil_or_concat' route.names with isEmpty | ⟨names, name, isNames⟩
      · rw [isEmpty] at leads
        cases leads
        rw [moves.isParent, isEmpty]
        rfl
      · rw [isNames, leads_concat] at leads
        rcases leads with ⟨directory, toDirectory, descends⟩
        rw [if_neg (by simp [*]), moves.isParent, parentPath_back descends, isNames, List.dropLast_concat]
        exact toDirectory
    · rw [if_neg isDots] at moves ⊢
      exact leads_concat.mpr ⟨middle, leads, moves⟩

/-- The end of a walk is covered only if no name is left of its route. -/
theorem covered_iff (table : TableSound vfs) {first last : VfsPath}
    {names : List (List UInt8)} (walks : Walks entries vfs first names last) :
    Covered vfs last ↔ (routeOf names).names = [] ∧
      Covered vfs (ancestor vfs (routeOf names).levels first) := by
  have leads := walks_route names walks
  rcases List.eq_nil_or_concat' (routeOf names).names with isEmpty | ⟨front, name, isNames⟩
  · rw [isEmpty] at leads
    cases leads
    simp [*]
  rw [isNames, leads_concat] at leads
  rcases leads with ⟨directory, -, descends⟩
  constructor
  · exact fun covered => absurd covered (descends.uncovered table)
  simp [*]

theorem ancestor_root (vfs : VfsState Context) (levels : Nat) :
    ancestor vfs levels (rootPath vfs) = rootPath vfs := by
  induction levels with
  | zero => rfl
  | succ levels ih =>
    unfold ancestor
    rw [ih, parentPath_root]

/-- A resolution ends at a covered node only above, or at, its start. -/
structure CoveredOnlyAbove (vfs : VfsState Context) (start : Option VfsPath)
    (path : List UInt8) (outcome : PathOutcome Context) : Prop where
  relative : ∀ first, Admitted vfs start path first →
    (Covered outcome.vfs outcome.path ↔ (routeOf (components path)).names = [] ∧
      Covered outcome.vfs (ancestor outcome.vfs (routeOf (components path)).levels first))
  absolute : path.head? = some slash → ¬ Covered outcome.vfs outcome.path
  sameTable : outcome.vfs.mounts = vfs.mounts

theorem Admitted.unique {start : Option VfsPath} {path : List UInt8} {first first' : VfsPath}
    (admitted : Admitted vfs start path first) (admitted' : Admitted vfs start path first') :
    first = first' :=
  Option.some.inj (admitted.isFirst.symm.trans admitted'.isFirst)

/-- In every state that calls can reach, a resolution that succeeds ends at a
covered node if and only if its path comes back to, or above, its start and the
directory there is covered. -/
theorem vfsResolve_covered (holds : HoldsEntries backend entries) (context : Context)
    (calls : List (Call Context)) (start : Option VfsPath) (path : List UInt8)
    (isOk : (vfsResolve backend (run (step backend) (boot context) calls).vfs start (some path)
      VfsPath.empty).result = .ok) :
    CoveredOnlyAbove (run (step backend) (boot context) calls).vfs start path
      (vfsResolve backend (run (step backend) (boot context) calls).vfs start (some path)
        VfsPath.empty) := by
  have keeps : ∀ (system : System Context) (call : Call Context), SystemSound system ∧ TableSound system.vfs →
      SystemSound (step backend system call) ∧ TableSound (step backend system call).vfs :=
    fun system call sound =>
      ⟨step_sound backend system call sound.1, step_table holds sound.1 sound.2 call⟩
  rcases run_invariant keeps calls (boot context)
    ⟨boot_sound context, TableSound.idle fun _ _ => rfl⟩ with ⟨sound, table⟩
  rcases sound.balanced with ⟨live, handles, -, -, balanced⟩
  generalize (run (step backend) (boot context) calls).vfs = vfs at *
  have kept := KeepsTree.vfsResolve holds vfs start (some path) VfsPath.empty
  have tableAfter := table.keptTree balanced kept
  rcases (vfsResolve_balanced_agrees holds balanced start path).arrives isOk with
    ⟨first, admitted, walks⟩
  have iff := covered_iff tableAfter walks
  refine ⟨fun other admitted' => ?_, fun isAbsolute => ?_, kept.mounts⟩
  · rw [admitted'.unique admitted]
    exact iff
  · intro covered
    have isFirst := admitted.isFirst
    have isValid := admitted.valid
    unfold startingPath at isFirst
    rw [if_pos isAbsolute] at isFirst
    cases isFirst
    have above := (iff.mp covered).2
    rw [← rootPath_kept kept isValid, ancestor_root] at above
    refine uncovered_root tableAfter ?_ rfl above
    rw [rootPath_kept kept isValid]
    exact kept.pathValid isValid

/-- A backend that sets up the directory `data` in the directory `data`. -/
def setUpInner (context : Unit) (objects : Objects) : BackendReply Unit objects :=
  if isFree : (objects.nodes 3).referenceCount = 0 then
    { result := .ok
      context := context
      objects := (vfsNodePrepare objects 3 0 3 (some .directory) (some 1)).2
      keeps := KeepsReferenced.vfsNodePrepare 3 0 3 (some .directory) (some 1) isFree }
  else
    { result := .busy
      context := context
      objects := objects
      keeps := KeepsReferenced.refl objects }

/-- The root of the first file system holds `data`, which holds another `data`. -/
def nestedEntries : Entries Unit := fun _ _ filesystem directory name =>
  if filesystem = some 0 ∧ name = dataName then
    if directory = some 0 then some 1 else if directory = some 1 then some 3 else none
  else none

/-- A backend that answers lookups from these entries. -/
def nestedBackend : Backend Unit := fun context objects filesystem request =>
  let answer (result : VfsResult) (node : Option Nat) : BackendReply Unit objects :=
    { result := result
      node := node
      context := context
      objects := objects
      keeps := KeepsReferenced.refl objects }
  match request with
  | .lookup directory name =>
    match nestedEntries context objects filesystem directory name with
    | some node => answer .ok (some node)
    | none => answer .notFound none
  | _ => answer .notSupported none

theorem nestedBackend_objects (context : Unit) (objects : Objects) (filesystem : Option Nat)
    (request : BackendRequest) :
    (nestedBackend context objects filesystem request).objects = objects := by
  unfold nestedBackend
  grind

theorem nestedBackend_holds : HoldsEntries nestedBackend nestedEntries where
  uncounted _ _ _ _ := rfl
  nodes _ _ _ _ _ _ _ := by rw [nestedBackend_objects]
  filesystems _ _ _ _ _ _ _ := by rw [nestedBackend_objects]
  kept _ _ _ _ _ _ _ _ _ held := held
  found context objects filesystem directory name isOk := by
    unfold nestedBackend at isOk ⊢
    grind

/-- Two file systems are set up, the path of `/data/data` is kept in the first
slot, and the second file system is mounted on `/data`. -/
def nestedCalls : List (Call Unit) :=
  [.backendActs (setUpRoot 0 0), .backendActs setUpData, .backendActs setUpInner,
    .backendActs (setUpRoot 1 2), .init (some 0),
    .resolve none (some (slash :: dataName ++ slash :: dataName)) 0,
    .resolve none (some (slash :: dataName)) 1, .mountFilesystem (some 1) (.slot 1)]

def nestedSystem : System Unit := run (step nestedBackend) (boot ()) nestedCalls

def nestedResolve (start : Option VfsPath) (path : List UInt8) : PathOutcome Unit :=
  vfsResolve nestedBackend nestedSystem.vfs start (some path) VfsPath.empty

/-- From the root, the name `data` leads to the mounted file system. -/
theorem vfsResolve_covered_data :
    (nestedResolve none (slash :: dataName)).path = ⟨some 1, some 2⟩ ∧
      CoveredOnlyAbove nestedSystem.vfs none (slash :: dataName) (nestedResolve none (slash :: dataName)) :=
  ⟨by decide +kernel, vfsResolve_covered nestedBackend_holds () nestedCalls none
    (slash :: dataName) (by decide +kernel)⟩

/-- From `/data/data`, which is still in use, two dots lead to the covered
directory `/data`. -/
theorem dots_reach_covered_directory :
    nestedSystem.pathSlots 0 = ⟨some 0, some 3⟩ ∧
      (nestedResolve (some (nestedSystem.pathSlots 0)) [dot, dot]).result = .ok ∧
      (nestedResolve (some (nestedSystem.pathSlots 0)) [dot, dot]).path = ⟨some 0, some 1⟩ ∧
      Covered (nestedResolve (some (nestedSystem.pathSlots 0)) [dot, dot]).vfs
        (nestedResolve (some (nestedSystem.pathSlots 0)) [dot, dot]).path := by
  unfold Covered
  decide +kernel

end BoringOS.Vfs
