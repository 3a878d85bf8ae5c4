import BoringOS.Vfs.BackendSteps

namespace BoringOS.Vfs

open Library

/-!
# The mount table keeps the balance

A mount refers to its root and to its mount point.  Mounting retains both,
and a shutdown, which goes through only if no path and no handle is in use,
releases them all.
-/

variable {Context : Type} {vfs middle : VfsState Context} {live : Multiset VfsPath}
  {handles index : Nat} {mount : VfsMount}

@[simp] theorem setMount_same : (vfs.setMount index mount).mounts index = mount := by
  exact Function.update_self ..

theorem setMount_other {other : Nat} (different : other ≠ index) :
    (vfs.setMount index mount).mounts other = vfs.mounts other := by
  exact Function.update_of_ne different ..

theorem mountReferences_setMount_other {other : Nat} (different : other ≠ index) :
    mountReferences (vfs.setMount index mount) other = mountReferences vfs other := by
  unfold mountReferences VfsState.rootOf
  simp only [VfsState.mount, Option.elim, setMount_other different]
  rfl

/-- The references of one mount can be told apart from those of the others. -/
theorem tableReferences_split (vfs : VfsState Context) (inTable : index < vfsMountMax) :
    ∃ rest, tableReferences vfs = mountReferences vfs index + rest ∧
      ∀ mount, tableReferences (vfs.setMount index mount) =
        mountReferences (vfs.setMount index mount) index + rest := by
  have member : index ∈ Finset.range vfsMountMax := Finset.mem_range.mpr inTable
  refine ⟨∑ other ∈ (Finset.range vfsMountMax).erase index, mountReferences vfs other,
    (Finset.add_sum_erase _ _ member).symm, fun mount => ?_⟩
  unfold tableReferences
  rw [← Finset.add_sum_erase _ _ member]
  congr 1
  grind [Finset.sum_congr, mountReferences_setMount_other]

theorem vfsPathValid_setMount {path : VfsPath} (unused : path.mount ≠ some index) :
    vfsPathValid (vfs.setMount index mount) path = vfsPathValid vfs path := by
  unfold vfsPathValid vfsMountValid
  cases isMount : path.mount with
  | none => rfl
  | some other =>
    have different : other ≠ index := by
      intro same
      rw [same] at isMount
      exact unused isMount
    simp only [VfsState.mount, Option.elim, setMount_other different]
    rfl

theorem Balanced.unused (balanced : Balanced vfs live handles)
    (inactive : (vfs.mounts index).active = false) {path : VfsPath} (member : path ∈ live) :
    path.mount ≠ some index := by
  intro isMount
  have isValid := balanced.valid path member
  unfold vfsPathValid vfsMountValid at isValid
  simp_all

theorem Balanced.remounted (balanced : Balanced vfs live handles)
    (same : SameButCounts vfs middle) (on : vfs.initialized = true)
    (unused : ∀ path, path ∈ live → path.mount ≠ some index)
    (sound : mount.active = true → MountSound (middle.setMount index mount) index)
    (paths : middle.pathReferenceCount = vfs.pathReferenceCount)
    (opened : middle.openHandleCount = vfs.openHandleCount)
    (tallied : Tallied (fun node => (middle.objects.nodes node).referenceCount)
      (live.filterMap VfsPath.node + tableReferences (middle.setMount index mount))) :
    Balanced (middle.setMount index mount) live handles where
  tallied := tallied
  paths := paths.trans balanced.paths
  opened := opened.trans balanced.opened
  valid path member := by
    rw [vfsPathValid_setMount (unused path member), same.pathValid]
    exact balanced.valid path member
  mounts other inTable active := by
    by_cases isIt : other = index
    · simp_all
    rw [setMount_other isIt, same.mounts] at active
    have before := same.mountSound (balanced.mounts other inTable active)
    have isRoot : (middle.setMount index mount).rootOf (some other) = middle.rootOf (some other) := by
      unfold VfsState.rootOf
      simp only [VfsState.mount, Option.elim, setMount_other isIt]
      rfl
    refine ⟨?_, ?_, fun node isMountpoint => before.mountpoint node ?_, fun node isMountpoint => ?_⟩
    · rw [setMount_other isIt]
      exact before.id
    · rw [setMount_other isIt]
      exact before.filesystem
    · simp_all [setMount_other]
    · rw [setMount_other isIt] at isMountpoint
      rw [isRoot]
      exact before.apart node isMountpoint
  idle off := by
    change middle.initialized = false at off
    rw [same.initialized, on] at off
    cases off
  nextMount _ := by
    change middle.nextMountId ≠ 0
    rw [same.nextMount]
    exact balanced.nextMount on

theorem Balanced.withNextMountId (balanced : Balanced vfs live handles) {next : Nat}
    (nonzero : next ≠ 0) : Balanced { vfs with nextMountId := next } live handles :=
  ⟨balanced.tallied, balanced.paths, balanced.opened, balanced.valid,
    fun index inTable active =>
      let sound := balanced.mounts index inTable active
      { sound with },
    balanced.idle, fun _ => nonzero⟩

theorem mountReferences_active {root : Nat} (active : (vfs.mounts index).active = true)
    (isRoot : vfs.rootOf (some index) = some root) :
    mountReferences vfs index = root ::ₘ ((vfs.mounts index).mountpoint.toList : Multiset Nat) := by
  unfold mountReferences
  simp [*]

theorem mountReferences_inactive (inactive : (vfs.mounts index).active = false) :
    mountReferences vfs index = 0 := by
  unfold mountReferences
  rw [inactive]
  rfl

section

variable (balanced : Balanced vfs live handles)
include balanced

theorem Balanced.undone {node : Nat} (isValid : (vfs.objects.nodes node).valid = true) :
    Balanced (vfsNodeRelease (vfs.recount node ((vfs.objects.nodes node).referenceCount + 1))
      (some node)).2 live handles := by
  have first := SameButCounts.recount vfs node ((vfs.objects.nodes node).referenceCount + 1)
  rcases first.nodes node with ⟨_, stored⟩
  have stillValid : ((vfs.recount node ((vfs.objects.nodes node).referenceCount + 1)).objects.nodes
      node).valid = true := by
    rw [stored]
    exact isValid
  rw [vfsNodeRelease_ok _ stillValid (by rw [recount_same]; exact Nat.succ_pos _)]
  exact balanced.recounted (first.trans (SameButCounts.recount _ node _))
    (tallied_release (tallied_retain balanced.tallied)) balanced.paths balanced.opened
    balanced.valid fun off => (balanced.idle off).2

/-- A mount is entered into a free slot after its nodes are retained. -/
theorem Balanced.mounted (on : vfs.initialized = true)
    (inTable : index < vfsMountMax) (inactive : (vfs.mounts index).active = false)
    (same : SameButCounts vfs middle) (active : mount.active = true) (id : mount.id ≠ 0)
    (isValid : vfsFilesystemValid vfs.objects mount.filesystem = true) {root : Nat}
    (isRoot : (vfs.objects.filesystem mount.filesystem).root = some root)
    (mountpoint : ∀ node, mount.mountpoint = some node →
      (vfs.objects.nodes node).valid = true ∧ node ≠ root)
    (paths : middle.pathReferenceCount = vfs.pathReferenceCount)
    (opened : middle.openHandleCount = vfs.openHandleCount)
    (tallied : Tallied (fun node => (middle.objects.nodes node).referenceCount)
      (root ::ₘ ((mount.mountpoint.toList : Multiset Nat) +
        (live.filterMap VfsPath.node + tableReferences vfs)))) :
    Balanced (middle.setMount index mount) live handles := by
  have rootAfter : (middle.setMount index mount).rootOf (some index) = some root := by
    unfold VfsState.rootOf
    simp only [VfsState.mount, Option.elim, setMount_same]
    exact (congrArg VfsFilesystem.root (same.filesystem mount.filesystem)).trans isRoot
  refine balanced.remounted same on (fun _ member => balanced.unused inactive member)
    (fun _ => ⟨?_, ?_, fun node isMountpoint => ?_, fun node isMountpoint => ?_⟩) paths opened ?_
  · rw [setMount_same]
    exact id
  · rw [setMount_same]
    exact (same.filesystemValid mount.filesystem).trans isValid
  · rw [setMount_same] at isMountpoint
    rcases same.nodes node with ⟨_, stored⟩
    change (middle.objects.nodes node).valid = true
    simp [*]
  · rw [setMount_same] at isMountpoint
    grind
  · rcases tableReferences_split middle inTable with ⟨rest, before, after⟩
    rw [same.tableReferences, same.mountReferences, mountReferences_inactive inactive, zero_add] at before
    rw [after, mountReferences_active (by rw [setMount_same]; exact active) rootAfter,
      setMount_same, ← before, Multiset.cons_add, Multiset.add_cons, add_left_comm]
    exact tallied

theorem vfsEnterMount_balanced (on : vfs.initialized = true) (inTable : index < vfsMountMax)
    (inactive : (vfs.mounts index).active = false) {filesystem : Option Nat} {target : VfsPath}
    (filesystemValid : vfsFilesystemValid vfs.objects filesystem = true)
    (targetValid : vfsPathValid vfs target = true)
    (foreign : filesystem ≠ (vfs.mount target.mount).filesystem) :
    Balanced (vfsEnterMount vfs filesystem target index).2 live handles := by
  rcases vfsPathValid_node targetValid with ⟨node, isNode, nodeValid⟩
  rcases vfsFilesystemValid_root filesystemValid with
    ⟨record, root, isFilesystem, isRoot, -, owner⟩
  have apart : node ≠ root := by
    intro same
    rw [← same, vfsPathValid_owner targetValid isNode] at owner
    exact foreign owner.symm
  unfold vfsEnterMount
  rw [isNode]
  rcases vfsNodeRetain_cases vfs (some node) with ⟨failed, unchanged⟩ | ⟨_, isIndex, retained⟩
  · simp [*]
  cases isIndex
  rw [retained, if_neg (fun notOk => notOk rfl)]
  have same := SameButCounts.recount vfs node ((vfs.objects.nodes node).referenceCount + 1)
  rcases vfsNodeRetain_cases (vfs.recount node ((vfs.objects.nodes node).referenceCount + 1))
    ((vfs.recount node ((vfs.objects.nodes node).referenceCount + 1)).objects.filesystem
      filesystem).root with ⟨failed, unchanged⟩ | ⟨_, isIndex, rooted⟩
  · rw [if_pos failed, unchanged]
    exact balanced.undone nodeValid
  rw [rooted, if_neg (fun notOk => notOk rfl)]
  have rootIs : (vfs.objects.filesystem filesystem).root = some root := by
    rw [isFilesystem]
    exact isRoot
  rw [same.filesystem, rootIs] at isIndex
  cases isIndex
  apply Balanced.withNextMountId
  · exact balanced.mounted on inTable inactive
      (same.trans (SameButCounts.recount _ root _)) rfl (balanced.nextMount on)
      filesystemValid rootIs (fun _ isIt => by cases isIt; exact ⟨nodeValid, apart⟩) rfl rfl
      (tallied_retain (tallied_retain balanced.tallied))
  · exact Nat.succ_ne_zero _

theorem vfsMountFilesystem_balanced (filesystem : Option Nat) (target : VfsPath) :
    Balanced (vfsMountFilesystem vfs filesystem target).2 live handles := by
  unfold vfsMountFilesystem
  split
  · exact balanced
  split
  · exact balanced
  split
  · exact balanced
  split
  · exact balanced
  split
  · exact balanced
  split
  · exact balanced
  split
  · exact balanced
  split
  · exact balanced
  split
  · exact balanced
  rename_i slot found
  have inTable : slot < vfsMountMax := by
    rcases List.mem_range'_1.mp (List.mem_of_find?_eq_some found) with ⟨-, high⟩
    exact high
  simp_all [vfsEnterMount_balanced, Bool.eq_true_of_not_eq_false]

end

theorem tableReferences_idle (inactive : ∀ index, index < vfsMountMax → (vfs.mounts index).active = false) :
    tableReferences vfs = 0 :=
  Finset.sum_eq_zero fun index member =>
    mountReferences_inactive (inactive index (Finset.mem_range.mp member))

theorem Balanced.idle_count (balanced : Balanced vfs live handles)
    (off : vfs.initialized = false) (node : Nat) : (vfs.objects.nodes node).referenceCount = 0 := by
  have tallied := balanced.tallied node
  rw [balanced.idle_live off, tableReferences_idle (balanced.idle off).1,
    Multiset.filterMap_zero, add_zero, Multiset.count_zero] at tallied
  exact tallied

theorem vfsNodeRetain_ok (vfs : VfsState Context) {index : Nat}
    (isValid : (vfs.objects.nodes index).valid = true)
    (below : (vfs.objects.nodes index).referenceCount ≠ uint32Max) :
    vfsNodeRetain vfs (some index) =
      (.ok, vfs.recount index ((vfs.objects.nodes index).referenceCount + 1)) := by
  unfold vfsNodeRetain
  simp [*]

theorem vfsInit_balanced (balanced : Balanced vfs live handles) (rootFilesystem : Option Nat) :
    Balanced (vfsInit vfs rootFilesystem).2 live handles := by
  unfold vfsInit
  split
  · exact balanced
  rename_i isOff
  split
  · exact balanced
  rename_i isValid
  have off : vfs.initialized = false := Bool.eq_false_of_not_eq_true isOff
  have filesystemValid := Bool.eq_true_of_not_eq_false isValid
  rcases vfsFilesystemValid_root filesystemValid with
    ⟨record, root, isFilesystem, isRoot, rootValid, -⟩
  have rootIs : (vfs.objects.filesystem rootFilesystem).root = some root := by
    rw [isFilesystem]
    exact isRoot
  have nothing := balanced.idle_live off
  have nobody := (balanced.idle off).2
  subst nothing
  subst nobody
  -- the table is empty at first, and the root mount enters its first slot
  have inactive : ∀ index, index < vfsMountMax → ((vfsBlank vfs).mounts index).active = false := by
    intro index inTable
    change (if index < vfsMountMax then VfsMount.cleared else vfs.mounts index).active = false
    rw [if_pos inTable]
    rfl
  have empty : Balanced (vfsBlank vfs) 0 0 := by
    refine ⟨?_, rfl, rfl, fun path member => absurd member (Multiset.notMem_zero path),
      fun index inTable active => ?_, fun isOff => (by cases isOff), fun _ => Nat.succ_ne_zero _⟩
    · rw [tableReferences_idle inactive, Multiset.filterMap_zero, add_zero]
      exact Tallied.none (balanced.idle_count off)
    · simp_all
  have retained : Tallied _ (root ::ₘ _) := tallied_retain empty.tallied
  rw [← zero_add (_ + tableReferences (vfsBlank vfs))] at retained
  have entered : Balanced (((vfsBlank vfs).recount root _).setMount 0 (rootMount rootFilesystem)) 0 0 :=
    empty.mounted rfl (Nat.succ_pos _) (inactive 0 (Nat.succ_pos _))
      (SameButCounts.recount (vfsBlank vfs) root _) rfl Nat.one_ne_zero filesystemValid rootIs
      (fun _ isIt => by cases isIt) rfl rfl retained
  have isRetained := vfsNodeRetain_ok ((vfsBlank vfs).setMount 0 (rootMount rootFilesystem))
    rootValid (fun isMax => Nat.zero_ne_add_one _ ((balanced.idle_count off root).symm.trans isMax))
  simp only
  rw [show (((vfsBlank vfs).setMount 0 (rootMount rootFilesystem)).objects.filesystem
    rootFilesystem).root = some root from rootIs, isRetained, if_neg (fun notOk => notOk rfl)]
  exact entered

/-- A slot is emptied after the nodes of its mount are released. -/
theorem Balanced.unmounted (balanced : Balanced vfs 0 0) (on : vfs.initialized = true)
    (inTable : index < vfsMountMax) (same : SameButCounts vfs middle)
    (paths : middle.pathReferenceCount = vfs.pathReferenceCount)
    (opened : middle.openHandleCount = vfs.openHandleCount)
    {rest : Multiset Nat} (others : tableReferences vfs = mountReferences vfs index + rest)
    (tallied : Tallied (fun node => (middle.objects.nodes node).referenceCount) rest) :
    Balanced (middle.setMount index VfsMount.cleared) 0 0 := by
  refine balanced.remounted same on (fun path member => absurd member (Multiset.notMem_zero path))
    (fun active => ?_) paths opened ?_
  · cases active
  · rcases tableReferences_split middle inTable with ⟨rest', before, after⟩
    rw [same.tableReferences, same.mountReferences, others] at before
    rw [after, mountReferences_inactive (by rw [setMount_same]; rfl), zero_add,
      ← add_left_cancel before, Multiset.filterMap_zero, zero_add]
    exact tallied

theorem vfsShutdownMount_balanced (balanced : Balanced vfs 0 0) (on : vfs.initialized = true)
    (inTable : index < vfsMountMax) :
    (vfsShutdownMount vfs index).1 = .ok ∧ Balanced (vfsShutdownMount vfs index).2 0 0 ∧
      (vfsShutdownMount vfs index).2.initialized = true ∧
      ((vfsShutdownMount vfs index).2.mounts index).active = false ∧
      ∀ other, other ≠ index → (vfsShutdownMount vfs index).2.mounts other = vfs.mounts other := by
  unfold vfsShutdownMount
  simp only
  split
  · simp [*]
  rename_i isActive
  have active := Bool.eq_true_of_not_eq_false isActive
  have sound := balanced.mounts index inTable active
  rcases vfsFilesystemValid_root sound.filesystem with
    ⟨filesystem, root, isFilesystem, isRoot, rootValid, -⟩
  have rootIs : vfs.rootOf (some index) = some root := by
    unfold VfsState.rootOf
    simp only [VfsState.mount, Option.elim, isFilesystem, Objects.filesystem, isRoot]
  rcases tableReferences_split vfs inTable with ⟨rest, table, -⟩
  have tallied := balanced.tallied
  rw [Multiset.filterMap_zero, zero_add, table, mountReferences_active active rootIs,
    Multiset.cons_add] at tallied
  rw [rootIs, vfsNodeRelease_ok vfs rootValid
    (tallied.positive (Multiset.mem_cons_self root _)), if_neg (fun notOk => notOk rfl)]
  have first := SameButCounts.recount vfs root ((vfs.objects.nodes root).referenceCount - 1)
  have released := tallied_release tallied
  cases isMountpoint : (vfs.mounts index).mountpoint with
  | none =>
    rw [if_pos rfl]
    refine ⟨rfl, balanced.unmounted on inTable first rfl rfl table ?_, on, ?_,
      fun other different => setMount_other different⟩
    · simp_all
    · rw [setMount_same]
      rfl
  | some node =>
    rw [isMountpoint] at released
    rcases first.nodes node with ⟨_, stored⟩
    have nodeValid : ((vfs.recount root
        ((vfs.objects.nodes root).referenceCount - 1)).objects.nodes node).valid = true := by
      rw [stored]
      exact sound.mountpoint node isMountpoint
    have positive := released.positive (Multiset.mem_add.mpr (Or.inl (Multiset.mem_singleton_self node)))
    rw [if_neg (by simp only [reduceCtorEq, not_false_eq_true]),
      vfsNodeRelease_ok _ nodeValid positive, if_neg (fun notOk => notOk rfl)]
    refine ⟨rfl, balanced.unmounted on inTable
      (first.trans (SameButCounts.recount _ node _)) rfl rfl table ?_, on, ?_,
      fun other different => setMount_other different⟩
    · exact tallied_release released
    · rw [setMount_same]
      rfl

theorem vfsShutdownMounts_balanced (count : Nat) :
    ∀ vfs : VfsState Context, Balanced vfs 0 0 → vfs.initialized = true → count ≤ vfsMountMax →
      (vfsShutdownMounts vfs count).1 = .ok ∧ Balanced (vfsShutdownMounts vfs count).2 0 0 ∧
        ((∀ index, count ≤ index → index < vfsMountMax →
            (vfs.mounts index).active = false) →
          ∀ index, index < vfsMountMax → ((vfsShutdownMounts vfs count).2.mounts index).active = false) := by
  induction count with
  | zero => exact fun vfs balanced _ _ => ⟨rfl, balanced, fun rest index => rest index index.zero_le⟩
  | succ count ih =>
    intro vfs balanced on inTable
    rcases vfsShutdownMount_balanced balanced on inTable with ⟨isOk, after, stillOn, gone, same⟩
    unfold vfsShutdownMounts
    rw [if_neg (not_not.mpr isOk)]
    rcases ih _ after stillOn (Nat.le_of_succ_le inTable) with ⟨-, -, all⟩
    grind

theorem vfsShutdown_balanced (balanced : Balanced vfs live handles) :
    Balanced (vfsShutdown vfs).2 live handles := by
  unfold vfsShutdown
  split
  · exact balanced
  rename_i isOn
  split
  · exact balanced
  rename_i isIdle
  simp only [not_or, not_not] at isIdle
  have nothing : live = 0 := Multiset.card_eq_zero.mp (balanced.paths.symm.trans isIdle.1)
  have nobody : handles = 0 := balanced.opened.symm.trans isIdle.2
  subst nothing
  subst nobody
  rcases vfsShutdownMounts_balanced vfsMountMax vfs balanced
    (Bool.eq_true_of_not_eq_false isOn) (Nat.le_refl _) with ⟨isOk, after, all⟩
  rw [if_neg (not_not.mpr isOk)]
  have inactive := all fun index atLeast below => absurd below (Nat.not_lt.mpr atLeast)
  refine ⟨after.tallied, after.paths, after.opened,
    fun path member => absurd member (Multiset.notMem_zero path), fun index inTable active => ?_,
    fun _ => ⟨inactive, rfl⟩, fun isOn => by cases isOn⟩
  simp_all

end BoringOS.Vfs
