import BoringOS.Vfs.AnchoredCalls

namespace BoringOS.Vfs

/-!
# The mount table

A file system is mounted on a directory of an active mount, and never on its
root.  `TableSound` says so of the whole table.  Mounts are only entered, except
that a shutdown empties the table at once, and a backend keeps the roots that
the table refers to.  So every call keeps the table sound.
-/

variable {Context : Type} {backend : Backend Context} {entries : Entries Context}
  {vfs before after : VfsState Context} {live : Multiset VfsPath} {handles : Nat}
  {system : System Context}

theorem Balanced.mountValid (balanced : Balanced vfs live handles) {index : Nat}
    (inTable : index < vfsMountMax) (active : (vfs.mounts index).active = true) :
    vfsMountValid vfs (some index) = true := by
  have sound := balanced.mounts index inTable active
  have on : vfs.initialized = true := by
    by_contra off
    have inactive := (balanced.idle (Bool.eq_false_of_not_eq_true off)).1 index inTable
    rw [active] at inactive
    cases inactive
  have hasId : ((vfs.mounts index).id != 0) = true := bne_iff_ne.mpr sound.id
  simp only [vfsMountValid, Option.elim, Bool.and_eq_true, decide_eq_true_eq]
  exact ⟨⟨⟨⟨on, inTable⟩, active⟩, hasId⟩, sound.filesystem⟩

/-- A mount stands on a node of an active mount, and not on its root. -/
def TableSound (vfs : VfsState Context) : Prop :=
  ∀ index node, index < vfsMountMax → (vfs.mounts index).active = true →
    (vfs.mounts index).mountpoint = some node →
    ∃ parent, (vfs.mounts index).parent = some parent ∧ parent < vfsMountMax ∧
      (vfs.mounts parent).active = true ∧ vfs.rootOf (some parent) ≠ some node

namespace TableSound

theorem transfer (table : TableSound before) (sameMounts : after.mounts = before.mounts)
    (sameRoots : ∀ index, index < vfsMountMax → (before.mounts index).active = true →
      after.rootOf (some index) = before.rootOf (some index)) : TableSound after := by
  intro index node inTable active isMountpoint
  rw [sameMounts] at active isMountpoint ⊢
  rcases table index node inTable active isMountpoint with
    ⟨parent, isParent, parentIn, parentActive, apart⟩
  simp [*]

theorem idle (inactive : ∀ index, index < vfsMountMax → (vfs.mounts index).active = false) :
    TableSound vfs := by
  intro index node inTable active
  grind

/-- A call that removes nothing keeps the table. -/
theorem keptTree (table : TableSound before) (balanced : Balanced before live handles)
    (kept : KeepsTree entries before after) : TableSound after :=
  table.transfer kept.mounts fun _ inTable active =>
    kept.rootOf (balanced.mountValid inTable active)

theorem answered (table : TableSound vfs) (balanced : Balanced vfs live handles)
    (reply : BackendReply Context vfs.objects) : TableSound (vfs.answered reply) := by
  refine table.transfer rfl fun index inTable active => ?_
  rcases balanced.rootReferenced inTable active with ⟨filesystem, root, isIt, isRoot, counted⟩
  have isValid := (balanced.mounts index inTable active).filesystem
  rw [isIt] at isValid
  have rootAfter := (reply.keeps.filesystemValid isValid isRoot counted).2
  change (reply.objects.filesystem (vfs.mounts index).filesystem).root =
    (vfs.objects.filesystem (vfs.mounts index).filesystem).root
  rw [isIt]
  exact rootAfter.trans isRoot.symm

end TableSound

theorem vfsMountFilesystem_refused {filesystem : Option Nat} {target : VfsPath}
    (unfit : vfsPathValid vfs target = false ∨ target.node = vfs.rootOf target.mount) :
    (vfsMountFilesystem vfs filesystem target).2 = vfs := by
  unfold vfsMountFilesystem
  split
  · rfl
  split
  · rfl
  grind

theorem vfsMountFilesystem_table (holds : HoldsEntries backend entries)
    (table : TableSound vfs) (balanced : Balanced vfs live handles) (filesystem : Option Nat)
    (target : VfsPath) : TableSound (vfsMountFilesystem vfs filesystem target).2 := by
  by_cases unfit : vfsPathValid vfs target = false ∨ target.node = vfs.rootOf target.mount
  · rw [vfsMountFilesystem_refused unfit]
    exact table
  simp only [not_or, Bool.not_eq_false] at unfit
  rcases vfsMountFilesystem_cases holds vfs filesystem target with
    kept | ⟨-, -, middle, slot, mount, following, kept, free, isParent, isMountpoint, isMounted⟩
  · exact table.keptTree balanced kept
  rw [isMounted]
  -- A mount in the table is another one than the slot that was free.
  have apartFromSlot : ∀ {parent}, (vfs.mounts parent).active = true → parent ≠ slot := by
    rintro parent active rfl
    rw [kept.mounts, active] at free
    cases free
  have stays : ∀ {parent}, parent < vfsMountMax → (vfs.mounts parent).active = true →
      ((middle.setMount slot mount).mounts parent).active = true ∧
        (middle.setMount slot mount).rootOf (some parent) = vfs.rootOf (some parent) := by
    intro parent inTable active
    have isOther : (middle.setMount slot mount).mounts parent = middle.mounts parent :=
      setMount_other (apartFromSlot active)
    refine ⟨by rw [isOther, kept.mounts]; exact active, ?_⟩
    rw [← kept.rootOf (balanced.mountValid inTable active)]
    change ((middle.setMount slot mount).objects.filesystem
      ((middle.setMount slot mount).mounts parent).filesystem).root = _
    rw [isOther]
    rfl
  intro index node inTable active onNode
  change ∃ parent, ((middle.setMount slot mount).mounts index).parent = some parent ∧
    parent < vfsMountMax ∧ ((middle.setMount slot mount).mounts parent).active = true ∧
    (middle.setMount slot mount).rootOf (some parent) ≠ some node
  by_cases isSlot : index = slot
  · have isMount : (middle.setMount slot mount).mounts slot = mount := setMount_same
    have mountValid := vfsPathValid_mount unfit.1
    cases targetMount : target.mount with
    | none =>
      rw [targetMount] at mountValid
      cases mountValid
    | some parent =>
      rw [targetMount] at mountValid
      simp only [vfsMountValid, Option.elim, Bool.and_eq_true, decide_eq_true_eq] at mountValid
      grind
  · have isOther : (middle.setMount slot mount).mounts index = vfs.mounts index := by
      rw [setMount_other isSlot, kept.mounts]
    rw [isOther] at active onNode ⊢
    rcases table index node inTable active onNode with
      ⟨parent, parentIs, parentIn, parentActive, apart⟩
    simp [*]

theorem vfsInit_table (table : TableSound vfs) (rootFilesystem : Option Nat) :
    TableSound (vfsInit vfs rootFilesystem).2 := by
  have entered : ∀ (mounted : VfsState Context) (mount : VfsMount),
      mount.mountpoint = none → mounted.mounts = ((vfsBlank vfs).setMount 0 mount).mounts →
      TableSound mounted := by
    intro mounted mount noMountpoint isTable index node inTable active onNode
    rw [isTable] at onNode
    by_cases isFirst : index = 0
    · simp_all
    rw [setMount_other isFirst] at onNode
    change (if index < vfsMountMax then VfsMount.cleared else vfs.mounts index).mountpoint =
      some node at onNode
    rw [if_pos inTable] at onNode
    cases onNode
  have same : ∀ (mounted : VfsState Context) (node : Option Nat),
      (vfsNodeRetain mounted node).2.mounts = mounted.mounts := by
    intro mounted node
    rcases vfsNodeRetain_cases mounted node with ⟨-, kept⟩ | ⟨index, -, kept⟩
    · rw [kept]
    · rw [kept]
      rfl
  unfold vfsInit
  split
  · exact table
  split
  · exact table
  simp only
  split
  · refine entered _ VfsMount.cleared rfl ?_
    change Function.update (vfsNodeRetain _ _).2.mounts 0 VfsMount.cleared = _
    rw [same]
    change Function.update (Function.update _ 0 _) 0 _ = Function.update _ 0 _
    rw [Function.update_idem]
  grind [rootMount]

theorem vfsShutdown_table (table : TableSound vfs) (balanced : Balanced vfs live handles) :
    TableSound (vfsShutdown vfs).2 := by
  unfold vfsShutdown
  split
  · exact table
  rename_i isOn
  split
  · exact table
  rename_i isIdle
  simp only [not_or, not_not] at isIdle
  have nothing : live = 0 := Multiset.card_eq_zero.mp (balanced.paths.symm.trans isIdle.1)
  have nobody : handles = 0 := balanced.opened.symm.trans isIdle.2
  subst nothing
  subst nobody
  rcases vfsShutdownMounts_balanced vfsMountMax vfs balanced
    (Bool.eq_true_of_not_eq_false isOn) (Nat.le_refl _) with ⟨isOk, -, all⟩
  simp_all [TableSound.idle]

theorem vfsRemoveCommon_table (table : TableSound vfs) (balanced : Balanced vfs live handles)
    (directory : VfsPath) (name : List UInt8) (directoryRequested : Bool) :
    TableSound (vfsRemoveCommon backend vfs directory name directoryRequested).2 := by
  unfold vfsRemoveCommon
  simp only
  split
  · exact table
  split
  · exact table
  split
  · exact table
  · exact table.answered balanced _

theorem vfsRenameAt_table (table : TableSound vfs) (balanced : Balanced vfs live handles)
    (oldDirectory : VfsPath) (oldName : List UInt8) (newDirectory : VfsPath) (newName : List UInt8) :
    TableSound (vfsRenameAt backend vfs oldDirectory oldName newDirectory newName).2 := by
  unfold vfsRenameAt
  simp only
  split
  · exact table
  split
  · exact table
  split
  · exact table
  split
  · exact table
  split
  · exact table
  split
  · exact table
  · exact table.answered balanced _

theorem step_table (holds : HoldsEntries backend entries) (sound : SystemSound system)
    (table : TableSound system.vfs) (call : Call Context) :
    TableSound (step backend system call).vfs := by
  rcases sound.balanced with ⟨live, handles, -, -, balanced⟩
  cases call with
  | init filesystem => exact vfsInit_table table filesystem
  | shutdown => exact vfsShutdown_table table balanced
  | getRoot out => exact table.keptTree balanced (KeepsTree.vfsGetRoot holds _ _)
  | pathClone source out => exact table.keptTree balanced (KeepsTree.vfsPathClone holds _ _ _)
  | pathRelease path => exact table.keptTree balanced (KeepsTree.vfsPathRelease holds _ _)
  | resolve start path out => exact table.keptTree balanced (KeepsTree.vfsResolve holds _ _ _ _)
  | resolveProcess process path out =>
    exact table.keptTree balanced (vfsResolveProcess_keeps holds system process path _)
  | mountFilesystem filesystem target =>
    exact vfsMountFilesystem_table holds table balanced filesystem _
  | createAt directory name out =>
    exact table.keptTree balanced (KeepsTree.vfsCreateCommon holds _ _ _ _ _)
  | mkdirAt directory name out =>
    exact table.keptTree balanced (KeepsTree.vfsCreateCommon holds _ _ _ _ _)
  | unlinkAt directory name => exact vfsRemoveCommon_table table balanced _ _ _
  | rmdirAt directory name => exact vfsRemoveCommon_table table balanced _ _ _
  | renameAt oldDirectory oldName newDirectory newName =>
    exact vfsRenameAt_table table balanced _ _ _ _
  | truncatePath path size =>
    exact table.keptTree balanced (KeepsTree.vfsTruncatePath holds _ _ _)
  | readdirPath directory index =>
    exact table.keptTree balanced (KeepsTree.vfsReaddirPath holds _ _ _)
  | handleOpen path access handle =>
    exact table.keptTree balanced (KeepsTree.vfsHandleOpen holds _ _ _ _)
  | handleRead handle length =>
    exact table.keptTree balanced (KeepsTree.vfsHandleTransfer holds _ _ _ _ _ rfl)
  | handleWrite handle buffer =>
    exact table.keptTree balanced (KeepsTree.vfsHandleTransfer holds _ _ _ _ _ rfl)
  | handleClose handle => exact table.keptTree balanced (KeepsTree.vfsHandleClose holds _ _)
  | processCreate process =>
    change TableSound (processCreate system process).vfs
    unfold processCreate
    grind
  | processMarkFinished process =>
    change TableSound (processMarkFinished system process).vfs
    unfold processMarkFinished
    grind
  | processClear process => exact table.keptTree balanced (processClear_keeps holds process)
  | processActivate process => exact table
  | processSetCwd process cwd =>
    change TableSound (processSetCwd system process (system.pathAt cwd)).vfs
    unfold processSetCwd
    simp only
    split
    · exact table
    · exact table.keptTree balanced (KeepsTree.processReplaceCwd holds _ _ _ _)
  | processSetCwdText process cwd text =>
    change TableSound (processSetCwdText system process (system.pathAt cwd) text).vfs
    unfold processSetCwdText
    simp only
    split
    · exact table
    · exact table.keptTree balanced (KeepsTree.processReplaceCwd holds _ _ _ _)
  | processClearCwd process =>
    exact table.keptTree balanced (processClearCwd_keeps holds process)
  | processGetCwd process out =>
    exact table.keptTree balanced (processGetCwd_keeps holds system process _)
  | backendActs action => exact table.answered balanced _

end BoringOS.Vfs
