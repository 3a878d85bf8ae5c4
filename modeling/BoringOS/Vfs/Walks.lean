import BoringOS.Vfs.ResolvedPaths

namespace BoringOS.Vfs

/-!
# Walks through the tree

A path is read here without the code of `vfs_resolve`.  A dot stays, two dots
lead to the parent directory, across a mount too, and every other component is a
name that leads on from a directory.  `Walks` puts these moves together, again
without reference counts.

A move is decided by the tree alone, and the code follows it.  A step that
succeeds is a move, and a move is followed unless a counter is full or a backend
does not answer for an entry that it holds.
-/

variable {Context : Type} {backend : Backend Context} {entries : Entries Context}
  {vfs before after : VfsState Context} {current next : VfsPath} {component : List UInt8}
  {live : Multiset VfsPath} {handles : Nat}

/-- One component leads from a path to another. -/
def Moves (entries : Entries Context) (vfs : VfsState Context) (current : VfsPath)
    (component : List UInt8) (next : VfsPath) : Prop :=
  if component = [dot] then next = current
  else if component = [dot, dot] then Ascends vfs current next
  else Descends entries vfs current component next

/-- A sequence of components leads from one path to another. -/
def Walks (entries : Entries Context) (vfs : VfsState Context) :
    VfsPath → List (List UInt8) → VfsPath → Prop
  | start, [], last => start = last
  | start, component :: rest, last =>
    ∃ next, Moves entries vfs start component next ∧ Walks entries vfs next rest last

/-- A component that stands for a name. -/
def Named (component : List UInt8) : Prop := component ≠ [dot] ∧ component ≠ [dot, dot]

theorem Moves.unique {next' : VfsPath} (first : Moves entries vfs current component next)
    (second : Moves entries vfs current component next') : next = next' := by
  unfold Moves at first second
  by_cases isDot : component = [dot]
  · simp_all
  rw [if_neg isDot] at first second
  by_cases isDots : component = [dot, dot]
  · rw [if_pos isDots] at first second
    exact first.unique second
  · rw [if_neg isDots] at first second
    exact first.unique second

theorem walks_append {first second : List (List UInt8)} :
    ∀ {start last : VfsPath}, Walks entries vfs start (first ++ second) last ↔
      ∃ middle, Walks entries vfs start first middle ∧ Walks entries vfs middle second last := by
  induction first with
  | nil =>
    intro start last
    constructor
    · exact fun walks => ⟨start, rfl, walks⟩
    · rintro ⟨middle, rfl, walks⟩
      exact walks
  | cons component rest ih =>
    intro start last
    constructor
    · rintro ⟨next, moves, walks⟩
      rcases ih.mp walks with ⟨middle, toMiddle, toLast⟩
      exact ⟨middle, ⟨next, moves, toMiddle⟩, toLast⟩
    · rintro ⟨middle, ⟨next, moves, toMiddle⟩, toLast⟩
      exact ⟨next, moves, ih.mpr ⟨middle, toMiddle, toLast⟩⟩

theorem Moves.valid (moves : Moves entries vfs current component next)
    (isValid : vfsPathValid vfs current = true) : vfsPathValid vfs next = true := by
  unfold Moves at moves
  by_cases isDot : component = [dot]
  · simp_all
  rw [if_neg isDot] at moves
  by_cases isDots : component = [dot, dot]
  · rw [if_pos isDots] at moves
    exact moves.valid
  · rw [if_neg isDots] at moves
    exact Descends.valid moves

theorem Walks.valid {names : List (List UInt8)} :
    ∀ {start last : VfsPath}, Walks entries vfs start names last →
      vfsPathValid vfs start = true → vfsPathValid vfs last = true := by
  induction names with
  | nil =>
    rintro start last rfl isValid
    exact isValid
  | cons component rest ih =>
    rintro start last ⟨next, moves, walks⟩ isValid
    exact ih walks (moves.valid isValid)

theorem Leads.walks {names : List (List UInt8)} :
    ∀ {start last : VfsPath}, Leads entries vfs start names last →
      Walks entries vfs start names last := by
  induction names with
  | nil => exact fun leads => leads
  | cons name rest ih =>
    rintro start last ⟨next, descends, leads⟩
    rcases vfsValidateName_ok.mp descends.plain with ⟨-, -, notDot, notDots, -⟩
    exact ⟨next, by rw [Moves, if_neg notDot, if_neg notDots]; exact descends, ih leads⟩

theorem Balanced.mountpointValid (balanced : Balanced vfs live handles) {mount : Option Nat}
    (isValid : vfsMountValid vfs mount = true) {node : Nat}
    (isMountpoint : (vfs.mount mount).mountpoint = some node) :
    (vfs.objects.nodes node).valid = true := by
  cases mount with
  | none => cases isValid
  | some index =>
    simp only [vfsMountValid, Option.elim, Bool.and_eq_true, decide_eq_true_eq] at isValid
    exact (balanced.mounts index isValid.1.1.1.2 isValid.1.1.2).mountpoint node isMountpoint

theorem parentPath_kept (kept : KeepsTree entries before after)
    (balanced : Balanced before live handles) (isValid : vfsPathValid before current = true) :
    parentPath after current = parentPath before current := by
  have mountValid := vfsPathValid_mount isValid
  unfold parentPath
  rw [kept.rootOf mountValid, kept.mount]
  by_cases isRoot : current.node = before.rootOf current.mount
  · rw [if_pos isRoot, if_pos isRoot]
    by_cases isFirst : current.mount = some 0
    · rw [if_pos isFirst, if_pos isFirst]
    cases isMountpoint : (before.mount current.mount).mountpoint with
    | none => rfl
    | some node =>
      have nodeValid := balanced.mountpointValid mountValid isMountpoint
      rcases kept.nodes node nodeValid with ⟨count, stored⟩
      simp only [Objects.node, Option.elim, stored]
  · rw [if_neg isRoot, if_neg isRoot]
    rcases vfsPathValid_node isValid with ⟨index, isNode, nodeValid⟩
    rcases kept.nodes index nodeValid with ⟨count, stored⟩
    simp only [isNode, Objects.node, Option.elim, stored]

theorem Ascends.kept (ascends : Ascends before current next)
    (kept : KeepsTree entries before after) (balanced : Balanced before live handles)
    (isValid : vfsPathValid before current = true) : Ascends after current next where
  isParent := ascends.isParent.trans (parentPath_kept kept balanced isValid).symm
  valid := kept.pathValid ascends.valid
  isDirectory := (kept.pathType ascends.valid).trans ascends.isDirectory

theorem Moves.kept (moves : Moves entries before current component next)
    (kept : KeepsTree entries before after) (balanced : Balanced before live handles)
    (isValid : vfsPathValid before current = true) :
    Moves entries after current component next := by
  unfold Moves at moves ⊢
  by_cases isDot : component = [dot]
  · grind
  rw [if_neg isDot] at moves ⊢
  by_cases isDots : component = [dot, dot]
  · rw [if_pos isDots] at moves ⊢
    exact moves.kept kept balanced isValid
  grind [Descends.kept]

theorem Walks.kept {names : List (List UInt8)} (kept : KeepsTree entries before after)
    (balanced : Balanced before live handles) :
    ∀ {start last : VfsPath}, vfsPathValid before start = true →
      Walks entries before start names last → Walks entries after start names last := by
  induction names with
  | nil => exact fun _ walks => walks
  | cons component rest ih =>
    rintro start last isValid ⟨next, moves, walks⟩
    exact ⟨next, moves.kept kept balanced isValid, ih (moves.valid isValid) walks⟩

/-- A step to a parent directory stops only if a counter is full. -/
theorem vfsStepParent_result (balanced : Balanced vfs (current ::ₘ live) handles)
    (ascends : Ascends vfs current next) :
    (vfsStepParent vfs current).result = .ok ∨
      OverflowsBeside vfs live (vfsStepParent vfs current).result := by
  have isValid := balanced.valid current (Multiset.mem_cons_self current live)
  rcases ascends with ⟨isParent, parentValid, isDirectory⟩
  unfold parentPath at isParent
  unfold vfsStepParent
  rw [if_neg (by rw [isValid]; exact nofun)]
  have nodeValid : ∀ {mount node : Option Nat}, next = ⟨mount, node⟩ →
      ¬ (vfsNodeValidForFilesystem vfs.objects node (vfs.mount mount).filesystem = false ∨
        (vfs.objects.node node).type ≠ some .directory) := by
    rintro mount node rfl (invalid | other)
    · unfold vfsPathValid at parentValid
      simp_all
    · exact other isDirectory
  by_cases isRoot : current.node = vfs.rootOf current.mount
  · rw [if_pos isRoot] at isParent ⊢
    by_cases isFirst : current.mount = some 0
    · rw [if_pos isFirst]
      exact Or.inl rfl
    rw [if_neg isFirst] at isParent ⊢
    have sound := nodeValid isParent
    rw [if_neg, if_neg sound]
    · grind [vfsPathReplace_result]
    · rintro (noParent | noMountpoint | invalid)
      · rw [isParent] at parentValid
        have mountValid := vfsPathValid_mount parentValid
        rw [noParent] at mountValid
        cases mountValid
      · apply sound
        rw [noMountpoint]
        exact Or.inl rfl
      grind [vfsPathValid_mount]
  grind [vfsPathReplace_result]

/-- A turn of the loop that succeeds makes a move. -/
theorem vfsResolveComponent_moves (holds : HoldsEntries backend entries)
    (balanced : Balanced vfs live handles) (isValid : vfsPathValid vfs current = true)
    (nonempty : component ≠ []) (whole : slash ∉ component)
    (isOk : (vfsResolveComponent backend vfs current component).result = .ok) :
    Moves entries (vfsResolveComponent backend vfs current component).vfs current component
      (vfsResolveComponent backend vfs current component).path := by
  have kept := KeepsTree.vfsResolveComponent holds vfs current component
  unfold vfsResolveComponent at isOk kept ⊢
  unfold Moves
  by_cases isLong : component.length > vfsNameMax
  · rw [if_pos isLong] at isOk
    cases isOk
  rw [if_neg isLong] at isOk kept ⊢
  by_cases isDot : component = [dot]
  · rw [if_pos isDot, if_pos isDot]
  rw [if_neg isDot] at isOk kept ⊢
  rw [if_neg isDot]
  by_cases isDots : component = [dot, dot]
  · rw [if_pos isDots] at isOk kept ⊢
    rw [if_pos isDots]
    by_cases failed : (vfsStepParent vfs current).result ≠ .ok
    · rw [if_pos failed] at isOk
      exact absurd isOk failed
    · rw [if_neg failed] at kept ⊢
      exact (vfsStepParent_ok (not_not.mp failed)).kept kept balanced isValid
  simp_all [vfsValidateName, vfsResolveName_descends]

/-- A move is followed, or the step stops for a good reason. -/
theorem vfsResolveComponent_follows (holds : HoldsEntries backend entries)
    (balanced : Balanced vfs (current ::ₘ live) handles) (moves : Moves entries vfs current component next) :
    ((vfsResolveComponent backend vfs current component).result = .ok ∧
        (vfsResolveComponent backend vfs current component).path = next) ∨
      OverflowsBeside vfs live (vfsResolveComponent backend vfs current component).result ∨
      Refuses backend entries (vfsResolveComponent backend vfs current component).result vfs current
        component := by
  have isValid := balanced.valid current (Multiset.mem_cons_self current live)
  unfold Moves at moves
  unfold vfsResolveComponent
  by_cases isDot : component = [dot]
  · rw [if_pos isDot] at moves
    rw [if_neg (by rw [isDot]; decide), if_pos isDot]
    exact Or.inl ⟨rfl, moves.symm⟩
  rw [if_neg isDot] at moves
  by_cases isDots : component = [dot, dot]
  · rw [if_pos isDots] at moves
    rw [if_neg (by rw [isDots]; decide), if_neg isDot, if_pos isDots]
    rcases vfsStepParent_result balanced moves with isOk | full
    · rw [if_neg (not_not.mpr isOk)]
      exact Or.inl ⟨isOk, (vfsStepParent_ok isOk).unique moves⟩
    · rw [if_pos (by rw [full.1]; exact nofun)]
      exact Or.inr (Or.inl full)
  · rw [if_neg isDots] at moves
    have plain := Descends.plain moves
    have short := (vfsValidateName_ok.mp plain).1
    rw [if_neg (Nat.not_lt.mpr short), if_neg isDot, if_neg isDots]
    rcases vfsResolveName_result holds balanced moves with isOk | stops
    · have arrived := vfsResolveName_descends holds isValid plain isOk
      have kept := KeepsTree.vfsResolveName holds vfs current component
      exact Or.inl ⟨isOk, arrived.unique (Descends.kept moves kept)⟩
    · exact Or.inr stops

end BoringOS.Vfs
