import BoringOS.Vfs.Descent

namespace BoringOS.Vfs

/-!
# Resolutions go where the names lead

A name that is resolved with success leads to the path that the resolution
returns.  For the other direction the references have to be balanced, so that
no release of a local path fails.
-/

variable {Context : Type} {backend : Backend Context} {entries : Entries Context}
  {vfs after : VfsState Context} {current : VfsPath} {component : List UInt8}

theorem vfsFollowChildMount_ok {path : VfsPath} (isOk : (vfsFollowChildMount vfs path).result = .ok) :
    (vfsFollowChildMount vfs path).path = crossed vfs path ∧
      vfsPathValid vfs (crossed vfs path) = true := by
  unfold vfsFollowChildMount at isOk ⊢
  unfold crossed
  by_cases isInvalid : vfsPathValid vfs path = false
  · rw [if_pos isInvalid] at isOk
    cases isOk
  rw [if_neg isInvalid] at isOk ⊢
  cases child : vfsChildMount vfs path.mount path.node with
  | none => simp [*]
  | some index =>
    simp only [child] at isOk
    exact vfsPathReplace_ok_path isOk

/-- A name is resolved with success only if every stage of its lookup succeeds. -/
theorem vfsResolveName_ok (isOk : (vfsResolveName backend vfs current component).result = .ok) :
    let filesystem := (vfs.mount current.mount).filesystem
    let reply := vfs.ask backend filesystem (.lookup current.node component)
    let next := vfsPathAcquire (vfs.answered reply) current.mount reply.node VfsPath.empty
    let released := vfsPathRelease next.vfs current
    let followed := vfsFollowChildMount released.vfs next.path
    (vfs.objects.node current.node).type = some .directory ∧
      vfs.supports current .lookup = true ∧ reply.result = .ok ∧
      vfsValidateBackendChild reply.objects filesystem current.node reply.node .regular false =
        .ok ∧
      next.result = .ok ∧ released.result = .ok ∧ followed.result = .ok ∧
      vfsResolveName backend vfs current component = followed := by
  unfold vfsResolveName at isOk ⊢
  simp only at isOk ⊢
  split at isOk
  · cases isOk
  rename_i isDirectory
  split at isOk
  · cases isOk
  rename_i supported
  split at isOk
  · rename_i failed
    exact absurd isOk failed
  rename_i answered
  split at isOk
  · rename_i failed
    exact absurd isOk failed
  rename_i checked
  split at isOk
  · rename_i failed
    exact absurd isOk failed
  rename_i acquired
  split at isOk
  · rename_i failed
    exact absurd isOk failed
  rename_i released
  split at isOk
  · rename_i failed
    exact absurd isOk failed
  rename_i followed
  rw [if_neg isDirectory, if_neg supported, if_neg answered, if_neg checked,
    if_neg acquired, if_neg released, if_neg followed]
  exact ⟨not_not.mp isDirectory, Bool.eq_true_of_not_eq_false supported,
    not_not.mp answered, not_not.mp checked, not_not.mp acquired,
    not_not.mp released, not_not.mp followed, rfl⟩

theorem vfsValidateBackendChild_ok {objects : Objects} {filesystem directory node : Option Nat}
    {expectedType : VfsNodeType} {requireType : Bool}
    (isOk : vfsValidateBackendChild objects filesystem directory node expectedType requireType = .ok) :
    vfsNodeValidForFilesystem objects node filesystem = true ∧ node ≠ directory ∧
      (objects.node node).parent = directory := by
  unfold vfsValidateBackendChild at isOk
  grind

/-- What a lookup found in one state still leads to the path that is returned. -/
theorem descends_of_found {found after : VfsState Context} {node : Nat}
    (isValid : vfsPathValid found current = true) (plain : vfsValidateName component = .ok)
    (isDirectory : (found.objects.node current.node).type = some .directory)
    (supported : found.supports current .lookup = true)
    (entry : entries found.context found.objects (found.mount current.mount).filesystem
      current.node component = some node)
    (checked : vfsValidateBackendChild found.objects (found.mount current.mount).filesystem
      current.node (some node) .regular false = .ok) (kept : KeepsTree entries found after)
    (nextValid : vfsPathValid after (crossed after ⟨current.mount, some node⟩) = true) :
    Descends entries after current component (crossed after ⟨current.mount, some node⟩) := by
  rcases vfsValidateBackendChild_ok checked with ⟨nodeValid, apart, parent⟩
  have atFirst : HoldsNode entries found current component node :=
    ⟨plain, isValid, isDirectory, supported, entry, nodeValid, apart, parent⟩
  exact ⟨node, atFirst.kept kept, rfl, nextValid⟩

/-- A name that is resolved with success leads to the path that is returned. -/
theorem vfsResolveName_descends (holds : HoldsEntries backend entries)
    (isValid : vfsPathValid vfs current = true) (plain : vfsValidateName component = .ok)
    (isOk : (vfsResolveName backend vfs current component).result = .ok) :
    Descends entries (vfsResolveName backend vfs current component).vfs current component
      (vfsResolveName backend vfs current component).path := by
  rcases vfsResolveName_ok isOk with
    ⟨isDirectory, supported, answered, checked, acquired, -, followed, isOutcome⟩
  have looked : KeepsTree entries vfs (vfs.answered (vfs.ask backend
      (vfs.mount current.mount).filesystem (.lookup current.node component))) :=
    KeepsTree.answered holds vfs _ _ rfl
  have entry := holds.found vfs.context vfs.objects (vfs.mount current.mount).filesystem
    current.node component answered
  have mountValid := vfsPathValid_mount isValid
  rw [isOutcome]
  generalize isReply : vfs.ask backend (vfs.mount current.mount).filesystem
    (.lookup current.node component) = reply at *
  have isEntry : entries vfs.context vfs.objects (vfs.mount current.mount).filesystem
      current.node component = reply.node := by
    rw [← isReply]
    exact entry
  rcases vfsPathAcquire_ok_path acquired with ⟨isNext, -⟩
  have kept : KeepsTree entries (vfs.answered reply) _ :=
    (KeepsTree.vfsPathAcquire holds (vfs.answered reply) current.mount reply.node
      VfsPath.empty).trans (KeepsTree.vfsPathRelease holds _ current)
  rcases vfsFollowChildMount_ok followed with ⟨isPath, pathValid⟩
  have last := KeepsTree.vfsFollowChildMount holds (vfsPathRelease (vfsPathAcquire
    (vfs.answered reply) current.mount reply.node VfsPath.empty).vfs current).vfs
    (vfsPathAcquire (vfs.answered reply) current.mount reply.node VfsPath.empty).path
  have finallySame := crossed_kept last pathValid
  rw [isPath, ← finallySame]
  rw [← finallySame] at pathValid
  rw [isNext] at pathValid last ⊢
  cases isNode : reply.node with
  | none =>
    rw [isNode] at checked
    cases (vfsValidateBackendChild_ok checked).1
  | some node =>
    rw [isNode] at checked pathValid last kept isEntry
    apply descends_of_found (looked.pathValid isValid) plain _ _ _ checked (kept.trans last)
      (last.pathValid pathValid)
    · rw [looked.pathType isValid]
      exact isDirectory
    · rw [looked.supports mountValid]
      exact supported
    · exact looked.entries _ _ _ _ isEntry

/-- What a component of a path makes of the names from the root. -/
def followComponent (names : List (List UInt8)) (component : List UInt8) : List (List UInt8) :=
  if component = [dot] then names
  else if component = [dot, dot] then names.dropLast
  else names ++ [component]

/-- A turn of the loop that succeeds goes where the names from the root lead. -/
theorem vfsResolveComponent_leads (holds : HoldsEntries backend entries)
    {names : List (List UInt8)} (rootValid : vfsPathValid vfs (rootPath vfs) = true)
    (leads : Leads entries vfs (rootPath vfs) names current)
    (nonempty : component ≠ []) (whole : slash ∉ component)
    (isOk : (vfsResolveComponent backend vfs current component).result = .ok) :
    Leads entries (vfsResolveComponent backend vfs current component).vfs (rootPath vfs)
      (followComponent names component) (vfsResolveComponent backend vfs current component).path := by
  unfold vfsResolveComponent at isOk ⊢
  unfold followComponent
  by_cases isLong : component.length > vfsNameMax
  · rw [if_pos isLong] at isOk
    cases isOk
  rw [if_neg isLong] at isOk ⊢
  by_cases isDot : component = [dot]
  · grind
  rw [if_neg isDot] at isOk ⊢
  rw [if_neg isDot]
  by_cases isDots : component = [dot, dot]
  · rw [if_pos isDots] at isOk ⊢
    rw [if_pos isDots]
    by_cases failed : (vfsStepParent vfs current).result ≠ .ok
    · rw [if_pos failed] at isOk
      exact absurd isOk failed
    rw [if_neg failed]
    have steppedOk := not_not.mp failed
    have kept := KeepsTree.vfsStepParent holds vfs current
    rcases List.eq_nil_or_concat' names with isEmpty | ⟨front, last, isNames⟩
    · rw [isEmpty] at leads ⊢
      cases leads
      rw [(vfsStepParent_ok steppedOk).isParent, parentPath_root]
      exact rfl
    · rw [isNames, leads_concat] at leads
      rcases leads with ⟨directory, toDirectory, descends⟩
      rw [isNames, List.dropLast_concat, vfsStepParent_back descends steppedOk]
      exact toDirectory.kept kept
  · rw [if_neg isDots] at isOk ⊢
    rw [if_neg isDots, leads_concat]
    have plain : vfsValidateName component = .ok :=
      vfsValidateName_ok.mpr ⟨Nat.le_of_not_lt isLong, nonempty, isDot, isDots, whole⟩
    exact ⟨current, leads.kept (KeepsTree.vfsResolveName holds vfs current component),
      vfsResolveName_descends holds (leads.valid rootValid) plain isOk⟩

theorem vfsResolveComponents_leads (holds : HoldsEntries backend entries) (components : List (List UInt8)) :
    ∀ {vfs : VfsState Context} {current : VfsPath} {names : List (List UInt8)},
      vfsPathValid vfs (rootPath vfs) = true →
      Leads entries vfs (rootPath vfs) names current →
      (∀ component, component ∈ components → component ≠ [] ∧ slash ∉ component) →
      (vfsResolveComponents backend components vfs current).result = .ok →
      Leads entries (vfsResolveComponents backend components vfs current).vfs (rootPath vfs)
        (components.foldl followComponent names)
        (vfsResolveComponents backend components vfs current).path := by
  induction components with
  | nil => exact fun _ leads _ _ => leads
  | cons component rest ih =>
    intro vfs current names rootValid leads plain isOk
    have kept := KeepsTree.vfsResolveComponent holds vfs current component
    have first := plain component (List.mem_cons_self ..)
    unfold vfsResolveComponents at isOk ⊢
    by_cases failed : (vfsResolveComponent backend vfs current component).result ≠ .ok
    · simp_all
    rw [if_neg failed] at isOk ⊢
    have stepped := vfsResolveComponent_leads holds rootValid leads first.1 first.2 (not_not.mp failed)
    have sameRoot := rootPath_kept kept rootValid
    rw [← sameRoot] at stepped ⊢
    refine ih ?_ stepped (fun other member => plain other (List.mem_cons_of_mem _ member)) isOk
    rw [sameRoot]
    exact kept.pathValid rootValid

variable {live : Multiset VfsPath} {handles : Nat}

/-! ## Full counters -/

/-- The result of an operation that meets a full counter. -/
def Overflows (vfs : VfsState Context) (result : VfsResult) : Prop :=
  result = .overflow ∧ (vfs.pathReferenceCount = uint64Max ∨
    ∃ node, (vfs.objects.nodes node).referenceCount = uint32Max)

/-- The same beside a local path, with the counters read off the other paths in use. -/
def OverflowsBeside (vfs : VfsState Context) (live : Multiset VfsPath) (result : VfsResult) : Prop :=
  result = .overflow ∧ (uint64Max ≤ live.card + 1 ∨
    ∃ node, uint32Max ≤ (live.filterMap VfsPath.node + tableReferences vfs).count node + 1)

theorem Overflows.beside {result : VfsResult} {path : VfsPath} (overflows : Overflows vfs result)
    (balanced : Balanced vfs (path ::ₘ live) handles) : OverflowsBeside vfs live result := by
  refine ⟨overflows.1, overflows.2.imp (fun full => ?_) fun ⟨node, full⟩ => ⟨node, ?_⟩⟩
  · rw [← full, balanced.paths, Multiset.card_cons]
  · have counted := balanced.tallied node
    simp only at counted
    have isOne : ((path ::ₘ live).filterMap VfsPath.node).count node ≤
        (live.filterMap VfsPath.node).count node + 1 := by
      cases isNode : path.node with
      | none => simp [Multiset.filterMap_cons_none _ _ isNode]
      | some other => simp [Multiset.filterMap_cons_some _ _ _ isNode, Multiset.count_cons]; split <;> omega
    rw [Multiset.count_add] at counted ⊢
    omega

theorem Balanced.nearlyFull {result : VfsResult} (balanced : Balanced vfs live handles)
    (overflows : OverflowsBeside vfs live result) : result = .overflow ∧ NearlyFull vfs := by
  refine ⟨overflows.1, overflows.2.imp (fun full => ?_) fun ⟨node, full⟩ => ⟨node, ?_⟩⟩
  · rw [balanced.paths]
    exact full
  · rw [← balanced.tallied node] at full
    exact full

theorem KeepsTree.tableReferences (kept : KeepsTree entries vfs after)
    (balanced : Balanced vfs live handles) : tableReferences after = tableReferences vfs := by
  apply Finset.sum_congr rfl
  intro index member
  unfold mountReferences
  rw [kept.mounts]
  by_cases active : (vfs.mounts index).active = true
  · have isValid := (balanced.mounts index (Finset.mem_range.mp member) active).filesystem
    simp only [vfsFilesystemValid, Bool.and_eq_true] at isValid
    have same : after.rootOf (some index) = vfs.rootOf (some index) := by
      unfold VfsState.rootOf
      rw [kept.mount]
      exact congrArg VfsFilesystem.root (kept.filesystemRecord isValid.1.1.1.1.1.2)
    rw [same]
  · rw [if_neg active, if_neg active]

theorem OverflowsBeside.of_kept {result : VfsResult} (overflows : OverflowsBeside after live result)
    (kept : KeepsTree entries vfs after) {all : Multiset VfsPath} (balanced : Balanced vfs all handles) :
    OverflowsBeside vfs live result := by
  unfold OverflowsBeside at overflows ⊢
  rw [← kept.tableReferences balanced]
  exact overflows

theorem vfsNodeRetain_result {index : Nat} (nodeValid : (vfs.objects.nodes index).valid = true) :
    (vfsNodeRetain vfs (some index)).1 = .ok ∨
      (vfsNodeRetain vfs (some index)).1 = .overflow ∧
        (vfs.objects.nodes index).referenceCount = uint32Max := by
  unfold vfsNodeRetain
  grind

theorem vfsPathAcquire_result {mount node : Option Nat}
    (isValid : vfsPathValid vfs { mount := mount, node := node } = true) :
    (vfsPathAcquire vfs mount node VfsPath.empty).result = .ok ∨
      Overflows vfs (vfsPathAcquire vfs mount node VfsPath.empty).result := by
  rcases vfsPathValid_node isValid with ⟨index, isNode, nodeValid⟩
  unfold vfsPathValid at isValid
  unfold vfsPathAcquire
  rw [if_neg]
  · by_cases full : vfs.pathReferenceCount = uint64Max
    · rw [if_pos full]
      exact Or.inr ⟨rfl, Or.inl full⟩
    grind [vfsNodeRetain_result, Overflows]
  · rintro (impossible | impossible | invalid | invalid)
    · exact impossible rfl
    · exact impossible rfl
    · grind
    simp_all

/-- A local path is replaced by a valid one unless a counter is full. -/
theorem vfsPathReplace_result {path : VfsPath} {mount node : Option Nat}
    (balanced : Balanced vfs (path ::ₘ live) handles)
    (isValid : vfsPathValid vfs { mount := mount, node := node } = true) :
    (vfsPathReplace vfs path mount node).result = .ok ∨
      OverflowsBeside vfs live (vfsPathReplace vfs path mount node).result := by
  have pathValid := balanced.valid path (Multiset.mem_cons_self path live)
  unfold vfsPathReplace
  rw [if_neg (by rw [pathValid]; exact nofun)]
  rcases (vfsPathAcquire_result isValid).imp_right (Overflows.beside · balanced) with acquired | full
  · rw [if_neg (not_not.mpr acquired)]
    have after := vfsPathAcquire_local balanced mount node
    rw [(vfsPathAcquire_ok_path acquired).1, Multiset.add_cons] at after
    rw [if_neg (not_not.mpr (vfsPathRelease_live after).1)]
    exact Or.inl rfl
  · rw [if_pos (by rw [full.1]; exact nofun)]
    exact Or.inr full

theorem vfsFollowChildMount_result {path : VfsPath} (balanced : Balanced vfs (path ::ₘ live) handles)
    (isValid : vfsPathValid vfs (crossed vfs path) = true) :
    (vfsFollowChildMount vfs path).result = .ok ∨
      OverflowsBeside vfs live (vfsFollowChildMount vfs path).result := by
  have pathValid := balanced.valid path (Multiset.mem_cons_self path live)
  unfold crossed at isValid
  unfold vfsFollowChildMount
  rw [if_neg (by rw [pathValid]; exact nofun)]
  cases child : vfsChildMount vfs path.mount path.node with
  | none => exact Or.inl rfl
  | some index =>
    grind [vfsPathReplace_result]

/-- The lookup of a name that leads somewhere stops only for a good reason. -/
theorem vfsResolveName_result (holds : HoldsEntries backend entries) {found : VfsPath}
    (balanced : Balanced vfs (current ::ₘ live) handles)
    (descends : Descends entries vfs current component found) :
    (vfsResolveName backend vfs current component).result = .ok ∨
      OverflowsBeside vfs live (vfsResolveName backend vfs current component).result ∨
      Refuses backend entries (vfsResolveName backend vfs current component).result vfs current
        component := by
  rcases descends with ⟨node, holdsNode, isFound, foundValid⟩
  rw [isFound] at foundValid
  have looked : KeepsTree entries vfs (vfs.answered (vfs.ask backend
      (vfs.mount current.mount).filesystem (.lookup current.node component))) :=
    KeepsTree.answered holds vfs _ _ rfl
  have entry := holds.found vfs.context vfs.objects (vfs.mount current.mount).filesystem
    current.node component
  unfold vfsResolveName
  rw [if_neg (not_not.mpr holdsNode.isDirectory), if_neg (by rw [holdsNode.supported]; exact nofun)]
  by_cases refused : (vfs.ask backend (vfs.mount current.mount).filesystem
      (.lookup current.node component)).result ≠ .ok
  · rw [if_pos refused]
    exact Or.inr (Or.inr ⟨refused, ⟨node, holdsNode⟩, rfl⟩)
  rw [if_neg refused]
  have isNode : (vfs.ask backend (vfs.mount current.mount).filesystem
      (.lookup current.node component)).node = some node :=
    (entry (not_not.mp refused)).symm.trans holdsNode.entry
  have balancedFound := balanced.answered (vfs.ask backend (vfs.mount current.mount).filesystem
    (.lookup current.node component))
  rw [isNode]
  generalize vfs.ask backend (vfs.mount current.mount).filesystem
    (.lookup current.node component) = reply at *
  have stillHolds := holdsNode.kept looked
  have sameMount : (vfs.answered reply).mount current.mount = vfs.mount current.mount := rfl
  have nodeValid := stillHolds.valid
  rw [sameMount] at nodeValid
  have checked : vfsValidateBackendChild (vfs.answered reply).objects
      (vfs.mount current.mount).filesystem current.node (some node) .regular false = .ok := by
    unfold vfsValidateBackendChild
    rw [if_neg, if_neg (fun impossible => Bool.false_ne_true impossible.1)]
    rintro (invalid | same | other)
    · grind
    · exact stillHolds.apart same
    · exact other stillHolds.parent
  rw [if_neg (not_not.mpr checked)]
  have nextValid : vfsPathValid (vfs.answered reply) ⟨current.mount, some node⟩ = true := by
    unfold vfsPathValid
    rw [vfsPathValid_mount stillHolds.directoryValid, sameMount, nodeValid]
    rfl
  rcases (vfsPathAcquire_result nextValid).imp_right (Overflows.beside · balancedFound) with
    acquired | full
  · have balancedNext := vfsPathAcquire_local balancedFound current.mount (some node)
    rw [(vfsPathAcquire_ok_path acquired).1, held_of_ne (ne_empty_of_valid nextValid),
      Multiset.singleton_add, Multiset.cons_swap] at balancedNext
    have released := vfsPathRelease_live balancedNext
    rw [if_neg (not_not.mpr acquired), if_neg (not_not.mpr released.1), (vfsPathAcquire_ok_path acquired).1]
    have kept := (looked.trans (KeepsTree.vfsPathAcquire holds (vfs.answered reply) current.mount
      (some node) VfsPath.empty)).trans (KeepsTree.vfsPathRelease holds _ current)
    have crossedValid := kept.pathValid foundValid
    rw [← crossed_kept kept foundValid] at crossedValid
    rcases vfsFollowChildMount_result released.2.2 crossedValid with followed | full
    · simp [*]
    · rw [if_pos (by rw [full.1]; exact nofun)]
      exact Or.inr (Or.inl (full.of_kept kept balanced))
  · rw [if_pos (by rw [full.1]; exact nofun)]
    exact Or.inr (Or.inl (full.of_kept looked balanced))

end BoringOS.Vfs
