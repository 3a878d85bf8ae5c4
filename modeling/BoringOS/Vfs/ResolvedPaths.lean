import BoringOS.Vfs.CwdTexts

namespace BoringOS.Vfs

/-!
# Resolutions and mounts

Two facts about the virtual file system that the working directories rest on:
a whole resolution goes where its names lead, and a new mount changes the way
of no names but those that pass over its mount point.
-/

variable {Context : Type} {backend : Backend Context} {entries : Entries Context}
  {vfs : VfsState Context} {system : System Context}

theorem vfsResolve_ok {start : Option VfsPath} {path : List UInt8} {pathOut : VfsPath}
    (isOk : (vfsResolve backend vfs start (some path) pathOut).result = .ok) :
    (vfsResolveStart vfs start path).result = .ok ∧
      vfsResolve backend vfs start (some path) pathOut =
        vfsResolveComponents backend (components path) (vfsResolveStart vfs start path).vfs
          (vfsResolveStart vfs start path).path := by
  unfold vfsResolve at isOk ⊢
  simp only at isOk ⊢
  by_cases off : vfs.initialized = false
  · rw [if_pos off] at isOk
    cases isOk
  by_cases inUse : pathOut.mount ≠ none ∨ pathOut.node ≠ none
  · grind
  by_cases isLong : path.length > vfsPathMax
  · simp_all
  by_cases isEmpty : path = []
  · simp_all
  rw [if_neg off, if_neg inUse, if_neg isLong, if_neg isEmpty] at isOk ⊢
  by_cases unstarted : (vfsResolveStart vfs start path).result ≠ .ok
  · simp_all
  grind

theorem vfsGetRoot_ok {pathOut : VfsPath} (isOk : (vfsGetRoot vfs pathOut).result = .ok) :
    (vfsGetRoot vfs pathOut).path = rootPath vfs ∧ vfsPathValid vfs (rootPath vfs) = true := by
  unfold vfsGetRoot at isOk ⊢
  by_cases off : vfs.initialized = false
  · rw [if_pos off] at isOk
    cases isOk
  · rw [if_neg off] at isOk ⊢
    exact vfsPathAcquire_ok_path isOk

theorem vfsPathClone_ok_path {source destination : VfsPath}
    (isOk : (vfsPathClone vfs source destination).result = .ok) :
    (vfsPathClone vfs source destination).path = source := by
  unfold vfsPathClone at isOk ⊢
  by_cases isInvalid : vfsPathValid vfs source = false
  · rw [if_pos isInvalid] at isOk
    cases isOk
  simp_all [vfsPathAcquire_ok_path]

/-- The names from the root at which a resolution begins. -/
def startingNames (path : List UInt8) (names : List (List UInt8)) : List (List UInt8) :=
  if path.head? = some slash then [] else names

/-- A resolution that succeeds goes where the names lead. -/
theorem vfsResolve_leads (holds : HoldsEntries backend entries) {start : Option VfsPath}
    {path : List UInt8} {pathOut : VfsPath} (names : List (List UInt8))
    (starts : path.head? ≠ some slash → ∃ cwd, start = some cwd ∧
      vfsPathValid vfs (rootPath vfs) = true ∧ Leads entries vfs (rootPath vfs) names cwd)
    (isOk : (vfsResolve backend vfs start (some path) pathOut).result = .ok) :
    vfsPathValid vfs (rootPath vfs) = true ∧
      Leads entries (vfsResolve backend vfs start (some path) pathOut).vfs (rootPath vfs)
        ((components path).foldl followComponent (startingNames path names))
        (vfsResolve backend vfs start (some path) pathOut).path := by
  rcases vfsResolve_ok isOk with ⟨started, isLast⟩
  rw [isLast] at isOk ⊢
  have first : vfsPathValid vfs (rootPath vfs) = true ∧
      Leads entries vfs (rootPath vfs) (startingNames path names)
        (vfsResolveStart vfs start path).path := by
    unfold vfsResolveStart at started ⊢
    unfold startingNames
    by_cases isAbsolute : path.head? = some slash
    · rw [if_pos isAbsolute] at started ⊢
      rw [if_pos isAbsolute]
      exact ⟨(vfsGetRoot_ok started).2, (vfsGetRoot_ok started).1.symm⟩
    · grind [vfsPathClone_ok_path]
  have kept := KeepsTree.vfsResolveStart holds vfs start path
  have sameRoot := rootPath_kept kept first.1
  refine ⟨first.1, ?_⟩
  rw [← sameRoot]
  refine vfsResolveComponents_leads holds (components path) ?_ ?_ (components_separable path) isOk
  · rw [sameRoot]
    exact kept.pathValid first.1
  · rw [sameRoot]
    exact first.2.kept kept

/-- The state in which a file system has been entered into a free slot. -/
theorem vfsMountFilesystem_cases (holds : HoldsEntries backend entries)
    (vfs : VfsState Context) (filesystem : Option Nat) (target : VfsPath) :
    KeepsTree entries vfs (vfsMountFilesystem vfs filesystem target).2 ∨
      (vfsMountFilesystem vfs filesystem target).1 = .ok ∧
        vfsChildMount vfs target.mount target.node = none ∧
        ∃ (middle : VfsState Context) (slot : Nat) (mount : VfsMount) (next : Nat),
          KeepsTree entries vfs middle ∧ (middle.mounts slot).active = false ∧
            mount.parent = target.mount ∧ mount.mountpoint = target.node ∧
            (vfsMountFilesystem vfs filesystem target).2 =
              { middle.setMount slot mount with nextMountId := next } := by
  have same : KeepsTree entries vfs vfs := KeepsTree.refl vfs
  unfold vfsMountFilesystem
  by_cases off : vfs.initialized = false
  · rw [if_pos off]
    exact Or.inl same
  by_cases isInvalid : vfsPathValid vfs target = false
  · simp [*]
  by_cases noDirectory : (vfs.objects.node target.node).type ≠ some .directory
  · simp [*]
  by_cases noFilesystem : vfsFilesystemValid vfs.objects filesystem = false
  · simp [*]
  rw [if_neg off, if_neg isInvalid, if_neg noDirectory, if_neg noFilesystem]
  by_cases conflict : target.node = vfs.rootOf target.mount ∨ filesystem = (vfs.mount target.mount).filesystem
  · rw [if_pos conflict]
    exact Or.inl same
  by_cases mounted : vfsFilesystemIsMounted vfs filesystem = true
  · simp [*]
  by_cases covered : vfsChildMount vfs target.mount target.node ≠ none
  · simp [*]
  by_cases full : vfs.nextMountId = uint64Max
  · simp [*]
  rw [if_neg conflict, if_neg mounted, if_neg covered, if_neg full]
  cases isFree : (List.range' 1 (vfsMountMax - 1)).find? fun index =>
      !(vfs.mounts index).active with
  | none => exact Or.inl same
  | some slot =>
    have free := List.find?_some isFree
    rw [Bool.not_eq_true'] at free
    have retained := KeepsTree.vfsNodeRetain holds vfs target.node
    have rooted := retained.trans (KeepsTree.vfsNodeRetain holds _
      ((vfsNodeRetain vfs target.node).2.objects.filesystem filesystem).root)
    unfold vfsEnterMount
    simp only
    split
    · exact Or.inl retained
    split
    · exact Or.inl (rooted.trans (KeepsTree.vfsNodeRelease holds _ _))
    refine Or.inr ⟨rfl, not_not.mp covered, _, slot, _, _, rooted, ?_, ?_, ?_, rfl⟩
    · rw [rooted.mounts]
      exact free
    · rfl
    · rfl

section

variable {slot next : Nat} {mount : VfsMount} {target : VfsPath}

/-- A new mount stands for its mount point only. -/
theorem childMount_mounted (free : (vfs.mounts slot).active = false)
    (isParent : mount.parent = target.mount) (isMountpoint : mount.mountpoint = target.node)
    {path : VfsPath} (different : path ≠ target) :
    vfsChildMount { vfs.setMount slot mount with nextMountId := next } path.mount path.node =
      vfsChildMount vfs path.mount path.node := by
  unfold vfsChildMount
  congr 1
  funext index
  by_cases isSlot : index = slot
  · rw [isSlot, free]
    change (((vfs.setMount slot mount).mounts slot).active &&
      ((vfs.setMount slot mount).mounts slot).parent == path.mount &&
      ((vfs.setMount slot mount).mounts slot).mountpoint == path.node) = false
    by_contra covers
    simp only [Bool.not_eq_false, Bool.and_eq_true, beq_iff_eq] at covers
    apply different
    cases target
    simp_all
  simp_all [setMount_other]

theorem mount_mounted (mount : VfsMount) (next : Nat) (free : (vfs.mounts slot).active = false) {index : Option Nat}
    (isValid : vfsMountValid vfs index = true) :
    ({ vfs.setMount slot mount with nextMountId := next } : VfsState Context).mount index =
        vfs.mount index ∧
      vfsMountValid { vfs.setMount slot mount with nextMountId := next } index = true := by
  cases index with
  | none => cases isValid
  | some index =>
    have different : index ≠ slot := by
      intro same
      simp only [vfsMountValid, Option.elim, same, free, Bool.and_false, Bool.false_and,
        Bool.false_eq_true] at isValid
    have isOther : (vfs.setMount slot mount).mounts index = vfs.mounts index :=
      setMount_other different
    constructor
    · exact isOther
    · simp only [vfsMountValid, Option.elim] at isValid ⊢
      rw [isOther]
      exact isValid

section

variable (free : (vfs.mounts slot).active = false)
include free

theorem pathValid_mounted {path : VfsPath} (isValid : vfsPathValid vfs path = true) :
    vfsPathValid { vfs.setMount slot mount with nextMountId := next } path = true := by
  rcases mount_mounted mount next free (vfsPathValid_mount isValid) with
    ⟨same, mountValid⟩
  unfold vfsPathValid at isValid ⊢
  rw [Bool.and_eq_true] at isValid ⊢
  rw [same]
  exact ⟨mountValid, isValid.2⟩

theorem crossed_mounted
    (isParent : mount.parent = target.mount) (isMountpoint : mount.mountpoint = target.node)
    {path : VfsPath} (different : path ≠ target)
    (isValid : vfsPathValid vfs (crossed vfs path) = true) :
    crossed { vfs.setMount slot mount with nextMountId := next } path = crossed vfs path := by
  unfold crossed at isValid ⊢
  rw [childMount_mounted free isParent isMountpoint different]
  cases child : vfsChildMount vfs path.mount path.node with
  | none => rfl
  | some index =>
    rw [child] at isValid
    have mountValid : vfsMountValid vfs (some index) = true := vfsPathValid_mount isValid
    have same := (mount_mounted mount next free mountValid).1
    simp only [Option.elim, VfsState.rootOf, same]
    rfl

theorem descends_mounted (uncovered : vfsChildMount vfs target.mount target.node = none)
    (isParent : mount.parent = target.mount) (isMountpoint : mount.mountpoint = target.node)
    {directory found : VfsPath} {name : List UInt8}
    (descends : Descends entries vfs directory name found) (other : found ≠ target) :
    Descends entries { vfs.setMount slot mount with nextMountId := next } directory name found := by
  rcases descends with ⟨node, holdsNode, isFound, isValid⟩
  have directoryMount := (mount_mounted mount next free (vfsPathValid_mount holdsNode.directoryValid)).1
  have different : VfsPath.mk directory.mount (some node) ≠ target := by
    intro same
    apply other
    rw [isFound, same]
    unfold crossed
    rw [uncovered]
    rfl
  refine ⟨node, ?_, ?_, pathValid_mounted free isValid⟩
  · refine ⟨holdsNode.plain, pathValid_mounted free holdsNode.directoryValid,
      holdsNode.isDirectory, ?_, ?_, ?_, holdsNode.apart, holdsNode.parent⟩
    · unfold VfsState.supports
      rw [directoryMount]
      exact holdsNode.supported
    · rw [directoryMount]
      exact holdsNode.entry
    · rw [directoryMount]
      exact holdsNode.valid
  grind [crossed_mounted]

/-- Names that do not pass over the mount point lead where they led before. -/
theorem leads_mounted (uncovered : vfsChildMount vfs target.mount target.node = none)
    (isParent : mount.parent = target.mount) (isMountpoint : mount.mountpoint = target.node)
    {names : List (List UInt8)} :
    ∀ {start last : VfsPath}, Leads entries vfs start names last →
      (∀ front, front <+: names → ¬ Leads entries vfs start front target) →
      Leads entries { vfs.setMount slot mount with nextMountId := next } start names last := by
  induction names with
  | nil => exact fun leads _ => leads
  | cons name rest ih =>
    rintro start last ⟨following, descends, leads⟩ passes
    have other : following ≠ target := by
      intro same
      refine passes [name] ⟨rest, rfl⟩ ⟨following, descends, same⟩
    refine ⟨following, descends_mounted free uncovered isParent isMountpoint descends other,
      ih leads fun front isFront toTarget => ?_⟩
    exact passes (name :: front) (List.cons_prefix_cons.mpr ⟨rfl, isFront⟩) ⟨following, descends, toTarget⟩

end

end

end BoringOS.Vfs
