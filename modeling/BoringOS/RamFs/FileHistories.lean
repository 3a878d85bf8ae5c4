import BoringOS.RamFs.RamfsRuns

namespace BoringOS.RamFs

open Library Vfs

/-!
# Files as lists of bytes

What a file is to its users: a list of bytes that can be read, written at any
offset and resized.  The calls on one file give the results of this list, in
every run of the file system in which the file is not removed.
-/

/-- The effect of a call on a list of bytes, and its reply. -/
def applyToBytes (bytes : List UInt8) : FileCall → List UInt8 × FileReply
  | .read offset length => (bytes, .bytes (readAt bytes offset length))
  | .write offset input => (writeAt bytes offset input, .transferred input.length)
  | .truncate size => (resize bytes size, .done)

/-- The calls with these results lead from the first list to the second.  A call
that fails has no effect. -/
inductive Follows : List UInt8 → List (FileCall × Except VfsResult FileReply) → List UInt8 → Prop
  | nil (bytes : List UInt8) : Follows bytes [] bytes
  | success {bytes last : List UInt8} {call : FileCall} {reply : FileReply}
      {rest : List (FileCall × Except VfsResult FileReply)} :
      (applyToBytes bytes call).2 = reply → Follows (applyToBytes bytes call).1 rest last →
      Follows bytes ((call, .ok reply) :: rest) last
  | failure {bytes last : List UInt8} {call : FileCall} {error : VfsResult}
      {rest : List (FileCall × Except VfsResult FileReply)} :
      Follows bytes rest last → Follows bytes ((call, .error error) :: rest) last

/-- The call on the given file, if it is one -/
def ownCall (index : Fin ramfsMaxNodes) : RamfsCall → Option FileCall
  | .file node call => if node = some index then some call else none
  | _ => none

/-- The calls on the given file with their results, during a run. -/
def history (index : Fin ramfsMaxNodes) :
    Ramfs → List (Heap × RamfsCall) → List (FileCall × Except VfsResult FileReply)
  | _, [] => []
  | ramfs, step :: rest =>
    match ownCall index step.2 with
    | some call => (call, (ramfsFileCall step.1 ramfs (some index) call).2) ::
        history index (ramfsStep ramfs step) rest
    | none => history index (ramfsStep ramfs step) rest

/-- The file is still there after the step. -/
def KeepsFile (index : Fin ramfsMaxNodes) (ramfs : Ramfs) (step : Heap × RamfsCall) : Prop :=
  Live (ramfsStep ramfs step) index

instance (index : Fin ramfsMaxNodes) (ramfs : Ramfs) (step : Heap × RamfsCall) :
    Decidable (KeepsFile index ramfs step) :=
  inferInstanceAs (Decidable (Live (ramfsStep ramfs step) index))

variable {ramfs : Ramfs} {index : Fin ramfsMaxNodes}

theorem ramfsRead_spec (offset length : Nat) :
    (∃ error, ramfsRead ramfs (some index) offset length = .error error) ∨
      ramfsRead ramfs (some index) offset length =
        .ok (readAt (contents (ramfs.nodes index)) offset length) := by
  rw [ramfsRead]
  split
  · exact Or.inl ⟨_, rfl⟩
  rename_i regular isRegular
  rcases ramfsRegularFromVfs_eq_some isRegular with ⟨same, -, -⟩
  cases same
  dsimp only
  split
  · exact Or.inl ⟨_, rfl⟩
  split
  · exact Or.inl ⟨_, rfl⟩
  split
  · rename_i nothing
    right
    rw [contents, readAt_take]
    rcases nothing with behind | noLength
    · simp [*]
    grind
  · split
    · exact Or.inl ⟨_, rfl⟩
    · grind [contents, readAt_take]

/-- A call on the file fails and changes nothing, or it follows the list. -/
theorem ramfsFileCall_spec (invariant : RamfsInvariant ramfs) (heap : Heap) (call : FileCall) :
    (∃ error, ramfsFileCall heap ramfs (some index) call = (ramfs, .error error)) ∨
      ∃ next, ramfsFileCall heap ramfs (some index) call =
          (next, .ok (applyToBytes (contents (ramfs.nodes index)) call).2) ∧
        contents (next.nodes index) = (applyToBytes (contents (ramfs.nodes index)) call).1 := by
  cases call with
  | read offset length =>
    rw [ramfsFileCall]
    rcases ramfsRead_spec offset length with ⟨error, failed⟩ | succeeded
    · rw [failed]
      exact Or.inl ⟨error, rfl⟩
    · rw [succeeded]
      exact Or.inr ⟨ramfs, rfl, rfl⟩
  | write offset input =>
    rw [ramfsFileCall]
    rcases ramfsWrite_spec invariant heap (some index) offset input with
      ⟨error, failed⟩ | ⟨other, changed, same, -, -, succeeded, -, bytes⟩
    · rw [failed]
      exact Or.inl ⟨error, rfl⟩
    cases same
    rw [succeeded]
    refine Or.inr ⟨_, rfl, ?_⟩
    rw [setNode_nodes_self]
    exact bytes
  | truncate size =>
    rw [ramfsFileCall]
    rcases ramfsTruncate_spec invariant heap (some index) size with
      ⟨unchanged, failed⟩ | ⟨other, changed, same, -, -, succeeded, -, bytes⟩
    · simp [*]
    cases same
    rw [succeeded]
    refine Or.inr ⟨_, rfl, ?_⟩
    rw [setNode_nodes_self]
    exact bytes

/-- A change of a node that is another one or keeps its bytes. -/
theorem contents_setNode {other : Fin ramfsMaxNodes} {node : RamfsNode}
    (keeps : other = index → contents node = contents (ramfs.nodes index)) :
    contents ((ramfs.setNode other node).nodes index) = contents (ramfs.nodes index) := by
  by_cases isIt : index = other
  · simp [*]
  · rw [setNode_nodes_of_ne isIt]

theorem contents_createIn (live : Live ramfs index) (type : VfsNodeType)
    (directory : Option (Fin ramfsMaxNodes)) (name : List UInt8) :
    contents ((createIn type ramfs directory name).1.nodes index) =
      contents (ramfs.nodes index) := by
  rw [createIn]
  split
  · rfl
  rw [ramfsCreateNode]
  split
  · rfl
  split
  · rfl
  split
  · rfl
  rename_i slot isFree
  have isOther : slot = index → False := by
    intro isSlot
    exact (ramfsFindFreeNode_eq_some isFree).2 (isSlot ▸ live)
  split
  · rfl
  split
  · exact contents_setNode fun isSlot => (isOther isSlot).elim
  · exact contents_setNode fun isSlot => (isOther isSlot).elim

/-- Nothing happened, or a node was cleared. -/
def AtMostRemoved (ramfs next : Ramfs) : Prop :=
  next = ramfs ∨ ∃ other, next = ramfs.setNode other clearedNode

theorem ramfsRemoveNode_removed (heap : Heap) (ramfs : Ramfs) (other : Fin ramfsMaxNodes) :
    AtMostRemoved ramfs (ramfsRemoveNode heap ramfs other).1 := by
  rw [ramfsRemoveNode]
  split
  · exact Or.inl rfl
  split
  · exact Or.inl rfl
  split
  · exact Or.inl rfl
  · exact Or.inr ⟨other, rfl⟩

theorem ramfsUnlink_removed (heap : Heap) (ramfs : Ramfs)
    (directory : Option (Fin ramfsMaxNodes)) (name : List UInt8) :
    AtMostRemoved ramfs (ramfsUnlink heap ramfs directory name).1 := by
  rw [ramfsUnlink]
  split
  · exact Or.inl rfl
  split
  · exact Or.inl rfl
  split
  · exact Or.inl rfl
  split
  · exact Or.inl rfl
  · exact ramfsRemoveNode_removed heap ramfs _

theorem ramfsRmdir_removed (heap : Heap) (ramfs : Ramfs)
    (directory : Option (Fin ramfsMaxNodes)) (name : List UInt8) :
    AtMostRemoved ramfs (ramfsRmdir heap ramfs directory name).1 := by
  rw [ramfsRmdir]
  split
  · exact Or.inl rfl
  split
  · exact Or.inl rfl
  split
  · exact Or.inl rfl
  split
  · exact Or.inl rfl
  split
  · exact Or.inl rfl
  · exact ramfsRemoveNode_removed heap ramfs _

/-- A file that is still there was not the node that was cleared. -/
theorem contents_of_removed {next : Ramfs} (removed : AtMostRemoved ramfs next)
    (stays : Live next index) : contents (next.nodes index) = contents (ramfs.nodes index) := by
  rcases removed with rfl | ⟨other, rfl⟩
  · rfl
  apply contents_setNode
  intro isIt
  rw [Live, isIt, setNode_nodes_self] at stays
  cases stays

theorem contents_ramfsRename (oldDirectory : Option (Fin ramfsMaxNodes)) (oldName : List UInt8)
    (newDirectory : Option (Fin ramfsMaxNodes)) (newName : List UInt8) :
    contents ((ramfsRename ramfs oldDirectory oldName newDirectory newName).1.nodes index) =
      contents (ramfs.nodes index) := by
  rw [ramfsRename]
  split
  · split
    · rfl
    · split
      · rfl
      · split
        · rfl
        · split
          · split <;> rfl
          · split
            · rfl
            · apply contents_setNode
              rintro rfl
              rfl
  · rfl

theorem contents_ramfsFileCall (invariant : RamfsInvariant ramfs) (heap : Heap)
    {node : Option (Fin ramfsMaxNodes)} (isOther : node ≠ some index) (call : FileCall) :
    contents ((ramfsFileCall heap ramfs node call).1.nodes index) = contents (ramfs.nodes index) := by
  cases call with
  | read offset length => rfl
  | write offset input =>
    rw [ramfsFileCall]
    rcases ramfsWrite_spec invariant heap node offset input with
      ⟨error, failed⟩ | ⟨other, changed, same, -, -, succeeded, -⟩
    · rw [failed]
    simp_all [contents_setNode]
  | truncate size =>
    grind [ramfsFileCall, ramfsTruncate_spec, contents_setNode]

theorem contents_ramfsStep (invariant : RamfsInvariant ramfs) (live : Live ramfs index)
    {step : Heap × RamfsCall} (stays : KeepsFile index ramfs step)
    (notOwn : ownCall index step.2 = none) :
    contents ((ramfsStep ramfs step).nodes index) = contents (ramfs.nodes index) := by
  rcases step with ⟨heap, call⟩
  cases call with
  | create directory name => exact contents_createIn live .regular directory name
  | mkdir directory name => exact contents_createIn live .directory directory name
  | unlink directory name =>
    exact contents_of_removed (ramfsUnlink_removed heap ramfs directory name) stays
  | rmdir directory name =>
    exact contents_of_removed (ramfsRmdir_removed heap ramfs directory name) stays
  | rename oldDirectory oldName newDirectory newName =>
    exact contents_ramfsRename oldDirectory oldName newDirectory newName
  | file node call =>
    apply contents_ramfsFileCall invariant heap _ call
    simp_all [ownCall]
  | references node count =>
    rw [ramfsStep, ramfsCall.eq_def]
    dsimp only
    split
    · rfl
    apply contents_setNode
    rintro rfl
    rfl

theorem ownCall_eq_some {call : RamfsCall} {own : FileCall} (isOwn : ownCall index call = some own) :
    call = .file (some index) own := by
  cases call with
  | file node call =>
    rw [ownCall] at isOwn
    simp_all
  | _ => cases isOwn

theorem history_follows (steps : List (Heap × RamfsCall)) :
    ∀ ramfs, RamfsInvariant ramfs → Live ramfs index →
      Respects ramfsStep (KeepsFile index) ramfs steps →
      Follows (contents (ramfs.nodes index)) (history index ramfs steps)
        (contents ((run ramfsStep ramfs steps).nodes index)) := by
  induction steps with
  | nil => exact fun ramfs _ _ _ => Follows.nil _
  | cons step rest ih =>
    rintro ramfs invariant live ⟨stays, restStays⟩
    have later := ih (ramfsStep ramfs step) (ramfsCall_sound invariant step.1 step.2).invariant
      stays restStays
    rw [run_cons, history]
    cases isOwn : ownCall index step.2 with
    | none =>
      simp_all [contents_ramfsStep]
    | some call =>
      have isStep : ramfsStep ramfs step = (ramfsFileCall step.1 ramfs (some index) call).1 := by
        rw [ramfsStep, ownCall_eq_some isOwn]
        rfl
      dsimp only
      rcases ramfsFileCall_spec invariant step.1 call with
        ⟨error, failed⟩ | ⟨next, succeeded, bytes⟩
      · rw [isStep, failed] at later
        rw [isStep, failed]
        exact Follows.failure later
      simp_all [Follows.success]

/-- When a call on a file succeeds -/
def Succeeds (heap : Heap) (ramfs : Ramfs) (node : RamfsNode) : FileCall → Prop
  | .read _ length => length ≤ vfsIoMax
  | .write offset input =>
    input.length ≤ vfsIoMax ∧ (input = [] ∨ offset + input.length ≤ ramfsFileMax ∧
      GetsBlock heap ramfs node (max node.size (offset + input.length)))
  | .truncate size =>
    size ≤ ramfsFileMax ∧
      if size = 0 then node.data.isSome = true → heap.kfree = true
      else size ≤ node.size ∨ GetsBlock heap ramfs node size

section

variable (invariant : RamfsInvariant ramfs) (live : Live ramfs index)
  (regular : (ramfs.nodes index).type = some .regular)
include invariant live regular

theorem ramfsRegularFromVfs_of_live : ramfsRegularFromVfs ramfs (some index) = some index := by
  have sound := invariant.nodes index live
  have numbered := sound.numbered
  have valid := sound.valid
  rw [Live] at live
  simp [ramfsRegularFromVfs, ramfsNodeFromVfs, *]

theorem ramfsRead_ok_iff (offset length : Nat) :
    (∃ bytes, ramfsRead ramfs (some index) offset length = .ok bytes) ↔ length ≤ vfsIoMax := by
  have sound := invariant.nodes index live
  rw [ramfsRead, ramfsRegularFromVfs_of_live invariant live regular]
  simp only [if_neg (Nat.not_lt.mpr sound.fits)]
  by_cases small : length ≤ vfsIoMax
  · rw [if_neg (Nat.not_lt.mpr small)]
    rcases sound.block with ⟨-, isZero⟩ | ⟨block, isBlock, -⟩
    · have fits := sound.fits
      rw [if_pos (Or.inl (by omega))]
      simp [small]
    · rw [isBlock]
      split <;> simp [small]
  · rw [if_pos (Nat.not_le.mp small)]
    simp [small]

theorem ramfsWrite_ok_iff (heap : Heap) (offset : Nat) (input : List UInt8) :
    (∃ count, (ramfsWrite heap ramfs (some index) offset input).2 = .ok count) ↔
      Succeeds heap ramfs (ramfs.nodes index) (.write offset input) := by
  have sound := invariant.nodes index live
  have isMax : (if (ramfs.nodes index).size < offset + input.length then
      offset + input.length else (ramfs.nodes index).size) =
      max (ramfs.nodes index).size (offset + input.length) := by
    split <;> omega
  rw [Succeeds, ramfsWrite, ramfsRegularFromVfs_of_live invariant live regular]
  simp only [isMax, List.length_eq_zero_iff]
  by_cases fitting : input.length ≤ vfsIoMax
  swap
  · rw [if_pos (Nat.not_le.mp fitting)]
    simp [fitting]
  rw [if_neg (Nat.not_lt.mpr fitting)]
  by_cases nothing : input = []
  · simp [nothing]
  rw [if_neg nothing]
  by_cases small : offset + input.length ≤ ramfsFileMax
  swap
  · rw [if_pos (Nat.not_le.mp small)]
    split <;> simp [nothing, small]
  have positive := List.length_pos_iff.mpr nothing
  have fits := sound.fits
  have inside := sound.small
  have noOverflow : ¬ Memory.uint64Max - offset < input.length := by
    simp only [Memory.uint64Max, ramfsFileMax] at *
    omega
  rw [if_neg noOverflow, if_neg (Nat.not_lt.mpr small), ← changeBlock_iff invariant live (by omega)
    (by omega) fun target => writeInto target (ramfs.nodes index).size offset input]
  cases prepared : ramfsPrepareCapacity heap ramfs (ramfs.nodes index)
      (max (ramfs.nodes index).size (offset + input.length)) with
  | error result => simp [nothing]
  | ok answer =>
    rcases answer with ⟨replacement, capacity⟩
    cases changed : changeBlock heap (ramfs.nodes index) replacement capacity
        fun target => writeInto target (ramfs.nodes index).size offset input with
    | mk node result => cases result <;> simp_all

theorem ramfsTruncate_ok_iff (heap : Heap) (size : Nat) :
    (ramfsTruncate heap ramfs (some index) size).2 = .ok ↔
      Succeeds heap ramfs (ramfs.nodes index) (.truncate size) := by
  rw [Succeeds, ramfsTruncate, ramfsRegularFromVfs_of_live invariant live regular]
  by_cases small : size ≤ ramfsFileMax
  swap
  · simp only [if_pos (Nat.not_le.mp small)]
    simp [small]
  simp only [if_neg (Nat.not_lt.mpr small)]
  by_cases isZero : size = 0
  · simp only [if_pos isZero]
    split <;> simp_all
  simp only [if_neg isZero]
  by_cases shrinks : size ≤ (ramfs.nodes index).size
  · simp [shrinks, small]
  simp only [if_neg shrinks]
  rw [← changeBlock_iff invariant live (Nat.pos_of_ne_zero isZero) small fun target =>
    copyInto target (ramfs.nodes index).size (List.replicate (size - (ramfs.nodes index).size) 0)]
  cases prepared : ramfsPrepareCapacity heap ramfs (ramfs.nodes index) size with
  | error result =>
    have failed := ramfsPrepareCapacity_error invariant prepared
    simp [shrinks, failed]
  | ok answer =>
    rcases answer with ⟨replacement, capacity⟩
    cases changed : changeBlock heap (ramfs.nodes index) replacement capacity fun target =>
        copyInto target (ramfs.nodes index).size
          (List.replicate (size - (ramfs.nodes index).size) 0) with
    | mk node result => cases result <;> simp_all

theorem ramfsFileCall_ok_iff (heap : Heap) (call : FileCall) :
    (∃ reply, (ramfsFileCall heap ramfs (some index) call).2 = .ok reply) ↔
      Succeeds heap ramfs (ramfs.nodes index) call := by
  cases call with
  | read offset length =>
    have iff := ramfsRead_ok_iff invariant live regular offset length
    rw [ramfsFileCall, Succeeds, ← iff]
    cases ramfsRead ramfs (some index) offset length <;> simp [Except.map]
  | write offset input =>
    rw [ramfsFileCall, ← ramfsWrite_ok_iff invariant live regular]
    cases (ramfsWrite heap ramfs (some index) offset input).2 <;> simp [Except.map]
  | truncate size =>
    rw [ramfsFileCall, ← ramfsTruncate_ok_iff invariant live regular]
    cases (ramfsTruncate heap ramfs (some index) size).2 <;> simp

end

/-- The calls on a file behave as on a list of bytes, whatever other calls come
between them.  They succeed as long as there is room, and a call that fails leaves the
list, the size and the budget. -/
theorem ramfs_file_refines (before after : List (Heap × RamfsCall)) (index : Fin ramfsMaxNodes)
    (live : Live (run ramfsStep ramfsCreateFilesystem before) index)
    (stays : Respects ramfsStep (KeepsFile index) (run ramfsStep ramfsCreateFilesystem before)
      after) :
    let first := run ramfsStep ramfsCreateFilesystem before
    let last := run ramfsStep first after
    Follows (contents (first.nodes index)) (history index first after) (contents (last.nodes index)) ∧
      ∀ heap call, ((last.nodes index).type = some .regular →
        ((∃ reply, (ramfsFileCall heap last (some index) call).2 = .ok reply) ↔
          Succeeds heap last (last.nodes index) call)) ∧
      ∀ error, (ramfsFileCall heap last (some index) call).2 = .error error →
        (ramfsFileCall heap last (some index) call).1 = last := by
  intro first last
  have invariant : RamfsInvariant last := by
    have reached := reachable_invariant (before ++ after)
    rwa [run_append] at reached
  have stillLive : Live last index :=
    @run_invariant_of_respects _ _ ramfsStep (KeepsFile index) (Live · index)
      (fun _ _ _ kept => kept) after _ live stays
  refine ⟨history_follows after _ (reachable_invariant before) live stays, fun heap call =>
    ⟨fun regular => ramfsFileCall_ok_iff invariant stillLive regular heap call, fun error failed => ?_⟩⟩
  exact (ramfsFileCall_sound invariant heap (some index) call).unchanged ⟨error, failed⟩

/-- The first entry behind the root -/
def firstChild : Fin ramfsMaxNodes := ⟨1, by decide⟩

/-- A write behind the end, a shorter file, another write behind the end, and a read -/
def gapCalls : List (Heap × RamfsCall) :=
  [FileCall.write 5 [1, 2, 3], .truncate 6, .write 7 [9], .read 0 100].map fun call =>
    (⟨true, true⟩, .file (some firstChild) call)

theorem ramfs_file_refines_gaps :
    Follows [] (history firstChild
        (run ramfsStep ramfsCreateFilesystem [(⟨true, true⟩, .create (some rootIndex) [0x61])])
        gapCalls) [0, 0, 0, 0, 0, 1, 0, 9] :=
  (ramfs_file_refines [(⟨true, true⟩, .create (some rootIndex) [0x61])] gapCalls firstChild
    (by decide +kernel)
    ⟨by decide +kernel, by decide +kernel, by decide +kernel, by decide +kernel, trivial⟩).1

end BoringOS.RamFs
