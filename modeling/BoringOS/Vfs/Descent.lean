import BoringOS.Vfs.BackendSteps
import BoringOS.Vfs.Entries

namespace BoringOS.Vfs

/-!
# Names that lead from one path to another

The mounts join the trees of all file systems into one.  `Leads` says where a
sequence of names leads in it, without reference counts and without failures.
A resolution that succeeds goes where the names lead.  A resolution along names
that lead somewhere stops before its end only if a reference counter is full or
one of its lookups fails for an entry that the backend holds.

A name that was followed once can be undone: the parent of the path found is
the directory from which the name led, across a mount too.
-/

variable {Context : Type} {backend : Backend Context} {entries : Entries Context}
  {vfs before after : VfsState Context}

/-- The path that stands for a node when a file system may be mounted on it. -/
def crossed (vfs : VfsState Context) (path : VfsPath) : VfsPath :=
  (vfsChildMount vfs path.mount path.node).elim path fun child =>
    { mount := some child, node := vfs.rootOf (some child) }

/-- The root of the first mount. -/
def rootPath (vfs : VfsState Context) : VfsPath :=
  { mount := some 0, node := vfs.rootOf (some 0) }

/-- A directory holds a node under a name, and both are as a lookup wants them. -/
structure HoldsNode (entries : Entries Context) (vfs : VfsState Context) (directory : VfsPath)
    (name : List UInt8) (node : Nat) : Prop where
  plain : vfsValidateName name = .ok
  directoryValid : vfsPathValid vfs directory = true
  isDirectory : (vfs.objects.node directory.node).type = some .directory
  supported : vfs.supports directory .lookup = true
  entry : entries vfs.context vfs.objects (vfs.mount directory.mount).filesystem directory.node
    name = some node
  valid : vfsNodeValidForFilesystem vfs.objects (some node)
    (vfs.mount directory.mount).filesystem = true
  apart : some node ≠ directory.node
  parent : (vfs.objects.nodes node).parent = directory.node

/-- One name leads from a directory to a path. -/
def Descends (entries : Entries Context) (vfs : VfsState Context) (directory : VfsPath)
    (name : List UInt8) (found : VfsPath) : Prop :=
  ∃ node, HoldsNode entries vfs directory name node ∧
    found = crossed vfs { mount := directory.mount, node := some node } ∧ vfsPathValid vfs found = true

/-- A sequence of names leads from one path to another. -/
def Leads (entries : Entries Context) (vfs : VfsState Context) :
    VfsPath → List (List UInt8) → VfsPath → Prop
  | start, [], last => start = last
  | start, name :: rest, last =>
    ∃ next, Descends entries vfs start name next ∧ Leads entries vfs next rest last

/-- The loop of a resolution makes a lookup in the state and the directory that it has reached. -/
def LooksUp (backend : Backend Context) (names : List (List UInt8)) (vfs : VfsState Context)
    (current : VfsPath) (made : VfsState Context → VfsPath → List UInt8 → Prop) : Prop :=
  ∃ front name rest, names = front ++ name :: rest ∧
    (vfsResolveComponents backend front vfs current).result = .ok ∧
    made (vfsResolveComponents backend front vfs current).vfs
      (vfsResolveComponents backend front vfs current).path name

/-- The answer of the backend to the lookup of a name in a directory. -/
def lookupResult (backend : Backend Context) (vfs : VfsState Context) (directory : VfsPath)
    (name : List UInt8) : VfsResult :=
  (vfs.ask backend (vfs.mount directory.mount).filesystem (.lookup directory.node name)).result

/-- A lookup fails with this result although the directory holds the name. -/
def Refuses (backend : Backend Context) (entries : Entries Context) (result : VfsResult)
    (vfs : VfsState Context) (directory : VfsPath) (name : List UInt8) : Prop :=
  result ≠ .ok ∧ (∃ node, HoldsNode entries vfs directory name node) ∧
    lookupResult backend vfs directory name = result

/-- A reference counter is full, or it has one place left.  A resolution counts
its own path too, and so it may find such a counter full on its way. -/
def NearlyFull (vfs : VfsState Context) : Prop :=
  uint64Max ≤ vfs.pathReferenceCount + 1 ∨
    ∃ node, uint32Max ≤ (vfs.objects.nodes node).referenceCount + 1

/-- A resolution may stop before its end for these reasons only. -/
def Stops (backend : Backend Context) (entries : Entries Context) (vfs : VfsState Context)
    (start : Option VfsPath) (path : List UInt8) (result : VfsResult) : Prop :=
  result = .overflow ∧ NearlyFull vfs ∨
    LooksUp backend (components path) (vfsResolveStart vfs start path).vfs
      (vfsResolveStart vfs start path).path (Refuses backend entries result)

variable {name : List UInt8}

theorem vfsValidateName_ok :
    vfsValidateName name = .ok ↔ name.length ≤ vfsNameMax ∧ name ≠ [] ∧
      name ≠ [dot] ∧ name ≠ [dot, dot] ∧ slash ∉ name := by
  unfold vfsValidateName
  constructor
  · intro isOk
    split at isOk
    · cases isOk
    split at isOk
    · cases isOk
    split at isOk
    · cases isOk
    simp_all
  simp_all

theorem Descends.unique {directory found found' : VfsPath} (first : Descends entries vfs directory name found)
    (second : Descends entries vfs directory name found') : found = found' := by
  rcases first with ⟨node, holds, isFound, -⟩
  rcases second with ⟨node', holds', isFound', -⟩
  have same : node = node' := Option.some.inj (holds.entry.symm.trans holds'.entry)
  rw [isFound, isFound', same]

variable {directory found : VfsPath}

theorem Descends.valid
    (descends : Descends entries vfs directory name found) : vfsPathValid vfs found = true := by
  rcases descends with ⟨_, -, -, isValid⟩
  exact isValid

theorem Descends.plain
    (descends : Descends entries vfs directory name found) : vfsValidateName name = .ok := by
  rcases descends with ⟨_, holdsNode, -, -⟩
  exact holdsNode.plain

variable {names : List (List UInt8)}

theorem Leads.unique :
    ∀ {start last last' : VfsPath}, Leads entries vfs start names last →
      Leads entries vfs start names last' → last = last' := by
  induction names with
  | nil => exact fun first second => first.symm.trans second
  | cons name rest ih =>
    rintro start last last' ⟨next, descends, leads⟩ ⟨next', descends', leads'⟩
    cases descends.unique descends'
    exact ih leads leads'

theorem leads_append {first second : List (List UInt8)} :
    ∀ {start last : VfsPath}, Leads entries vfs start (first ++ second) last ↔
      ∃ middle, Leads entries vfs start first middle ∧ Leads entries vfs middle second last := by
  induction first with
  | nil =>
    intro start last
    constructor
    · exact fun leads => ⟨start, rfl, leads⟩
    · rintro ⟨middle, rfl, leads⟩
      exact leads
  | cons name rest ih =>
    intro start last
    constructor
    · rintro ⟨next, descends, leads⟩
      rcases ih.mp leads with ⟨middle, toMiddle, toLast⟩
      exact ⟨middle, ⟨next, descends, toMiddle⟩, toLast⟩
    · rintro ⟨middle, ⟨next, descends, toMiddle⟩, toLast⟩
      exact ⟨next, descends, ih.mpr ⟨middle, toMiddle, toLast⟩⟩

theorem leads_concat {start last : VfsPath} :
    Leads entries vfs start (names ++ [name]) last ↔
      ∃ middle, Leads entries vfs start names middle ∧ Descends entries vfs middle name last := by
  rw [leads_append]
  constructor
  · rintro ⟨middle, toMiddle, last', descends, rfl⟩
    exact ⟨middle, toMiddle, descends⟩
  · rintro ⟨middle, toMiddle, descends⟩
    exact ⟨middle, toMiddle, last, descends, rfl⟩

theorem Leads.valid :
    ∀ {start last : VfsPath}, Leads entries vfs start names last →
      vfsPathValid vfs start = true → vfsPathValid vfs last = true := by
  induction names with
  | nil =>
    rintro start last rfl isValid
    exact isValid
  | cons name rest ih =>
    rintro start last ⟨next, descends, leads⟩ -
    exact ih leads descends.valid

variable {path : VfsPath}

theorem vfsPathValid_mount (isValid : vfsPathValid vfs path = true) :
    vfsMountValid vfs path.mount = true := by
  unfold vfsPathValid at isValid
  grind

theorem crossed_kept (kept : KeepsTree entries before after)
    (isValid : vfsPathValid before (crossed before path) = true) :
    crossed after path = crossed before path := by
  unfold crossed at isValid ⊢
  rw [kept.childMount]
  cases child : vfsChildMount before path.mount path.node with
  | none => rfl
  | some index =>
    rw [child] at isValid
    have mountValid : vfsMountValid before (some index) = true := vfsPathValid_mount isValid
    simp only [Option.elim, kept.rootOf mountValid]

theorem rootPath_kept (kept : KeepsTree entries before after)
    (isValid : vfsPathValid before (rootPath before) = true) :
    rootPath after = rootPath before := by
  have mountValid : vfsMountValid before (some 0) = true := vfsPathValid_mount isValid
  unfold rootPath
  rw [kept.rootOf mountValid]

theorem HoldsNode.kept {directory : VfsPath} {name : List UInt8} {node : Nat}
    (holdsNode : HoldsNode entries before directory name node)
    (kept : KeepsTree entries before after) : HoldsNode entries after directory name node := by
  have mountValid := vfsPathValid_mount holdsNode.directoryValid
  rcases vfsPathValid_node holdsNode.directoryValid with ⟨index, isNode, indexValid⟩
  have valid := holdsNode.valid
  simp only [vfsNodeValidForFilesystem, Bool.and_eq_true] at valid
  rcases kept.nodes node valid.1.1.1.2 with ⟨count, stored⟩
  rcases kept.nodes index indexValid with ⟨count', stored'⟩
  refine ⟨holdsNode.plain, kept.pathValid holdsNode.directoryValid, ?_, ?_, ?_, ?_, holdsNode.apart, ?_⟩
  · have isDirectory := holdsNode.isDirectory
    rw [isNode] at isDirectory ⊢
    change (after.objects.nodes index).type = _
    rw [stored']
    exact isDirectory
  · rw [kept.supports mountValid]
    exact holdsNode.supported
  · rw [kept.mount]
    exact kept.entries _ _ _ _ holdsNode.entry
  · rw [kept.mount]
    exact kept.nodeValid holdsNode.valid
  · rw [stored]
    exact holdsNode.parent

theorem Descends.kept {directory found : VfsPath} {name : List UInt8}
    (descends : Descends entries before directory name found)
    (kept : KeepsTree entries before after) : Descends entries after directory name found := by
  rcases descends with ⟨node, holdsNode, isFound, isValid⟩
  refine ⟨node, holdsNode.kept kept, ?_, kept.pathValid isValid⟩
  grind [crossed_kept]

theorem Leads.kept {names : List (List UInt8)} (kept : KeepsTree entries before after) :
    ∀ {start last : VfsPath}, Leads entries before start names last →
      Leads entries after start names last := by
  induction names with
  | nil => exact id
  | cons name rest ih =>
    rintro start last ⟨next, descends, leads⟩
    exact ⟨next, descends.kept kept, ih leads⟩

theorem vfsPathAcquire_ok_path {mount node : Option Nat} {pathOut : VfsPath}
    (isOk : (vfsPathAcquire vfs mount node pathOut).result = .ok) :
    (vfsPathAcquire vfs mount node pathOut).path = { mount := mount, node := node } ∧
      vfsPathValid vfs { mount := mount, node := node } = true := by
  grind [vfsPathAcquire_cases]

theorem vfsPathReplace_ok_path {mount node : Option Nat}
    (isOk : (vfsPathReplace vfs path mount node).result = .ok) :
    (vfsPathReplace vfs path mount node).path = { mount := mount, node := node } ∧
      vfsPathValid vfs { mount := mount, node := node } = true := by
  unfold vfsPathReplace at isOk ⊢
  split
  · simp_all
  · grind [vfsPathAcquire_ok_path]

theorem root_parent (isValid : vfsPathValid vfs path = true) (isRoot : path.node = vfs.rootOf path.mount) :
    (vfs.objects.node path.node).parent = path.node := by
  have mountValid := vfsPathValid_mount isValid
  cases mount : path.mount with
  | none =>
    rw [mount] at mountValid
    cases mountValid
  | some index =>
    rw [mount] at mountValid isRoot
    simp only [vfsMountValid, vfsFilesystemValid, Option.elim, Bool.and_eq_true, beq_iff_eq] at mountValid
    rw [isRoot]
    exact mountValid.2.2

theorem vfsChildMount_some {parent mountpoint : Option Nat} {child : Nat}
    (found : vfsChildMount vfs parent mountpoint = some child) :
    child ≠ 0 ∧ (vfs.mounts child).parent = parent ∧
      (vfs.mounts child).mountpoint = mountpoint := by
  unfold vfsChildMount at found
  grind

/-- The path to which two dots point. -/
def parentPath (vfs : VfsState Context) (path : VfsPath) : VfsPath :=
  if path.node = vfs.rootOf path.mount then
    if path.mount = some 0 then path
    else
      { mount := (vfs.mount path.mount).parent
        node := (vfs.objects.node (vfs.mount path.mount).mountpoint).parent }
  else { mount := path.mount, node := (vfs.objects.node path.node).parent }

/-- Two dots lead from a path to a directory. -/
structure Ascends (vfs : VfsState Context) (path parent : VfsPath) : Prop where
  isParent : parent = parentPath vfs path
  valid : vfsPathValid vfs parent = true
  isDirectory : (vfs.objects.node parent.node).type = some .directory

theorem Ascends.unique {path parent parent' : VfsPath} (first : Ascends vfs path parent)
    (second : Ascends vfs path parent') : parent = parent' :=
  first.isParent.trans second.isParent.symm

theorem rootPath_isDirectory (isValid : vfsPathValid vfs (rootPath vfs) = true) :
    (vfs.objects.node (rootPath vfs).node).type = some .directory := by
  have mountValid : vfsMountValid vfs (some 0) = true := vfsPathValid_mount isValid
  simp only [vfsMountValid, vfsFilesystemValid, Option.elim, Bool.and_eq_true, beq_iff_eq] at mountValid
  exact mountValid.2.1.2

/-- A step to the parent that succeeds goes where two dots lead. -/
theorem vfsStepParent_ok (isOk : (vfsStepParent vfs path).result = .ok) :
    Ascends vfs path (vfsStepParent vfs path).path := by
  unfold vfsStepParent at isOk ⊢
  simp only at isOk ⊢
  by_cases isInvalid : vfsPathValid vfs path = false
  · rw [if_pos isInvalid] at isOk
    cases isOk
  rw [if_neg isInvalid] at isOk ⊢
  have isValid := Bool.eq_true_of_not_eq_false isInvalid
  by_cases isRoot : path.node = vfs.rootOf path.mount
  · rw [if_pos isRoot] at isOk ⊢
    by_cases isFirst : path.mount = some 0
    · rw [if_pos isFirst]
      have isRootPath : path = rootPath vfs := by
        cases path
        simp only at isFirst isRoot
        rw [isFirst] at isRoot ⊢
        rw [isRoot]
        rfl
      refine ⟨?_, isValid, ?_⟩
      · grind [parentPath]
      grind [rootPath_isDirectory]
    rw [if_neg isFirst] at isOk ⊢
    split at isOk
    · cases isOk
    rename_i mounted
    rw [if_neg mounted]
    split at isOk
    · cases isOk
    rename_i entered
    simp only [not_or, not_not] at entered
    rw [if_neg (not_or.mpr ⟨entered.1, not_not.mpr entered.2⟩)]
    rcases vfsPathReplace_ok_path isOk with ⟨isPath, pathValid⟩
    rw [isPath]
    refine ⟨?_, pathValid, entered.2⟩
    grind [parentPath]
  · rw [if_neg isRoot] at isOk ⊢
    split at isOk
    · cases isOk
    rename_i entered
    simp only [not_or, not_not] at entered
    rw [if_neg (not_or.mpr ⟨entered.1, not_not.mpr entered.2⟩)]
    rcases vfsPathReplace_ok_path isOk with ⟨isPath, pathValid⟩
    rw [isPath]
    refine ⟨?_, pathValid, entered.2⟩
    unfold parentPath
    rw [if_neg isRoot]

/-- Two dots take back a name that was followed. -/
theorem parentPath_back
    (descends : Descends entries vfs directory name found) : parentPath vfs found = directory := by
  rcases descends with ⟨node, holdsNode, isFound, isValid⟩
  have parent : (vfs.objects.node (some node)).parent = directory.node := holdsNode.parent
  unfold crossed at isFound
  unfold parentPath
  cases child : vfsChildMount vfs directory.mount (some node) with
  | none =>
    rw [child, Option.elim] at isFound
    cases isFound
    have isInner : some node ≠ vfs.rootOf directory.mount := by
      intro isRoot
      have own : (vfs.objects.node (some node)).parent = some node := root_parent isValid isRoot
      exact holdsNode.apart (own.symm.trans parent)
    simp [*]
  | some index =>
    rw [child, Option.elim] at isFound
    cases isFound
    rcases vfsChildMount_some child with ⟨isLater, isParent, isMountpoint⟩
    rw [if_pos rfl, if_neg fun same => isLater (Option.some.inj same)]
    change VfsPath.mk (vfs.mounts index).parent
      (vfs.objects.node (vfs.mounts index).mountpoint).parent = directory
    rw [isParent, isMountpoint, parent]

theorem vfsStepParent_back (descends : Descends entries vfs directory name found)
    (isOk : (vfsStepParent vfs found).result = .ok) : (vfsStepParent vfs found).path = directory :=
  (vfsStepParent_ok isOk).isParent.trans (parentPath_back descends)

theorem parentPath_root (vfs : VfsState Context) :
    parentPath vfs (rootPath vfs) = rootPath vfs := by
  simp [parentPath, rootPath]

end BoringOS.Vfs
