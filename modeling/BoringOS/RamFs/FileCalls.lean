import Mathlib.Algebra.Order.BigOperators.Group.Finset
import BoringOS.RamFs.DirectoryCalls

namespace BoringOS.RamFs

open Library Vfs

/-!
# Calls on files

A write and a truncation that lets the file grow first look for a block that is
large enough.  Whether this is the block of the node or a new one, it begins
with the bytes of the file, so that the two cases need not be told apart
afterwards.
-/

/-- The bytes of a file -/
def contents (node : RamfsNode) : List UInt8 := (node.data.getD []).take node.size

theorem length_contents {node : RamfsNode} (sound : NodeSound node) :
    (contents node).length = node.size := by
  have fits := sound.fits
  rw [contents, List.length_take]
  rcases sound.block with ⟨-, empty⟩ | ⟨block, isBlock, length, -⟩
  · omega
  · rw [isBlock, Option.getD_some]
    omega

variable {ramfs : Ramfs} {index : Fin ramfsMaxNodes}

/-- A new block is large enough, begins with the bytes of the file and stays in
the budget. -/
structure PreparedBlock (ramfs : Ramfs) (node : RamfsNode) (requiredSize : Nat)
    (block : List UInt8) (capacity : Nat) : Prop where
  length : block.length = capacity
  enough : requiredSize ≤ capacity
  small : capacity ≤ ramfsFileMax
  bytes : block.take node.size = contents node
  budget : capacityTotal ramfs + capacity ≤ ramfsTotalDataMax + node.capacity

theorem take_replacement {requiredSize size : Nat} {data : List UInt8} (fits : size ≤ data.length)
    (grows : size ≤ requiredSize) :
    (copyInto (List.replicate requiredSize 0) 0 (data.take size)).length = requiredSize ∧
      (copyInto (List.replicate requiredSize 0) 0 (data.take size)).take size = data.take size := by
  have lengthTake : (data.take size).length = size := by
    rw [List.length_take]
    omega
  constructor
  · simp_all [length_copyInto, List.length_replicate]
  · exact List.take_left' lengthTake

variable {requiredSize capacity : Nat}

theorem capacity_le_total (live : Live ramfs index) :
    (ramfs.nodes index).capacity ≤ capacityTotal ramfs := by
  have part := Finset.single_le_sum (f := fun other => heldCapacity (ramfs.nodes other))
    (fun _ _ => Nat.zero_le _) (Finset.mem_univ index)
  have held : heldCapacity (ramfs.nodes index) = (ramfs.nodes index).capacity := if_pos live
  rw [← held]
  exact part

theorem ramfsPrepareCapacity_new (invariant : RamfsInvariant ramfs) (live : Live ramfs index)
    {heap : Heap} {block : List UInt8}
    (prepared : ramfsPrepareCapacity heap ramfs (ramfs.nodes index) requiredSize =
      .ok (some block, capacity)) :
    PreparedBlock ramfs (ramfs.nodes index) requiredSize block capacity := by
  have sound := invariant.nodes index live
  have inBudget := invariant.budget
  have own := capacity_le_total live
  rw [ramfsPrepareCapacity,
    ramfsCurrentCapacity_eq fun other isLive => (invariant.nodes other isLive).small] at prepared
  split at prepared
  · cases prepared
  split at prepared
  · cases prepared
  dsimp only at prepared
  rw [if_neg (by omega)] at prepared
  split at prepared
  · cases prepared
  have budget : capacityTotal ramfs + requiredSize ≤
      ramfsTotalDataMax + (ramfs.nodes index).capacity := by
    omega
  split at prepared
  · cases prepared
  split at prepared
  · cases prepared
  split at prepared
  · rename_i data isData
    have dataLength : data.length = (ramfs.nodes index).capacity := by
      rcases sound.block with ⟨absent, -⟩ | ⟨other, isOther, length, -⟩
      · cases absent.symm.trans isData
      · simp_all
    have isContents : contents (ramfs.nodes index) = data.take (ramfs.nodes index).size := by
      rw [contents, isData, Option.getD_some]
    split at prepared
    · cases prepared
      have bytesFit : (ramfs.nodes index).size ≤ data.length := by omega
      have sizeGrows : (ramfs.nodes index).size ≤ requiredSize := by omega
      rcases take_replacement bytesFit sizeGrows with ⟨length, bytes⟩
      exact ⟨length, Nat.le_refl _, by omega, bytes.trans isContents.symm, budget⟩
    · rename_i isEmpty
      rw [not_ne_iff] at isEmpty
      split at prepared
      · cases prepared
      cases prepared
      refine ⟨List.length_replicate, Nat.le_refl _, by omega, ?_, budget⟩
      simp [*]
  · rename_i absent
    have isContents : contents (ramfs.nodes index) = [] := by
      rw [contents, absent, Option.getD_none, List.take_nil]
    split at prepared
    · cases prepared
    cases prepared
    refine ⟨List.length_replicate, Nat.le_refl _, by omega, ?_, budget⟩
    simp_all

theorem ramfsPrepareCapacity_old {heap : Heap} {node : RamfsNode}
    (prepared : ramfsPrepareCapacity heap ramfs node requiredSize = .ok (none, capacity)) :
    requiredSize ≤ node.capacity ∧ capacity = node.capacity := by
  rw [ramfsPrepareCapacity] at prepared
  split at prepared
  · simp_all
  split at prepared
  · cases prepared
  grind

theorem ramfsPrepareCapacity_error (invariant : RamfsInvariant ramfs) {heap : Heap}
    {node : RamfsNode} {requiredSize : Nat} {error : VfsResult}
    (failed : ramfsPrepareCapacity heap ramfs node requiredSize = .error error) : error ≠ .ok := by
  intro isOk
  rw [ramfsPrepareCapacity, ramfsCurrentCapacity_eq fun other isLive => (invariant.nodes other isLive).small,
    isOk] at failed
  grind

/-- The change of a block that is large enough: it fails and changes nothing, or
the node has the changed block. -/
theorem changeBlock_spec (invariant : RamfsInvariant ramfs) (live : Live ramfs index)
    {heap : Heap} {replacement : Option (List UInt8)} (positive : 0 < requiredSize)
    (prepared : ramfsPrepareCapacity heap ramfs (ramfs.nodes index) requiredSize =
      .ok (replacement, capacity)) (change : List UInt8 → List UInt8) :
    (∃ block, PreparedBlock ramfs (ramfs.nodes index) requiredSize block capacity ∧
      changeBlock heap (ramfs.nodes index) replacement capacity change =
        ({ ramfs.nodes index with
          data := some (change block)
          capacity := capacity }, .ok)) ∨
      changeBlock heap (ramfs.nodes index) replacement capacity change = (ramfs.nodes index, .corrupt) := by
  cases replacement with
  | some block =>
    by_cases stuck : (ramfs.nodes index).data.isSome = true ∧ heap.kfree = false
    · right
      rw [changeBlock, ramfsCommitReplacement, if_pos stuck]
    left
    refine ⟨block, ramfsPrepareCapacity_new invariant live prepared, ?_⟩
    rw [changeBlock, ramfsCommitReplacement, if_neg stuck]
  | none =>
    rcases ramfsPrepareCapacity_old prepared with ⟨enough, isCapacity⟩
    have sound := invariant.nodes index live
    rcases sound.block with ⟨-, isEmpty⟩ | ⟨block, isBlock, length, -⟩
    · omega
    left
    refine ⟨block, ?_, ?_⟩
    · exact {
        length := length.trans isCapacity.symm
        enough := isCapacity ▸ enough
        small := isCapacity ▸ sound.small
        bytes := by rw [contents, isBlock, Option.getD_some]
        budget := by
          have inBudget := invariant.budget
          omega }
    · rw [changeBlock.eq_def, isBlock, isCapacity]
      rfl

/-- The file has a block for the size, or it gets one: the budget and the heap have room, and
the old block can be given back. -/
def GetsBlock (heap : Heap) (ramfs : Ramfs) (node : RamfsNode) (requiredSize : Nat) : Prop :=
  requiredSize ≤ node.capacity ∨
    capacityTotal ramfs + requiredSize ≤ ramfsTotalDataMax + node.capacity ∧ heap.kmalloc = true ∧
      (node.data.isSome = true → heap.kfree = true)

theorem changeBlock_iff (invariant : RamfsInvariant ramfs) (live : Live ramfs index) {heap : Heap}
    (positive : 0 < requiredSize) (small : requiredSize ≤ ramfsFileMax)
    (change : List UInt8 → List UInt8) :
    (∃ replacement capacity changed,
      ramfsPrepareCapacity heap ramfs (ramfs.nodes index) requiredSize = .ok (replacement, capacity) ∧
        changeBlock heap (ramfs.nodes index) replacement capacity change = (changed, .ok)) ↔
      GetsBlock heap ramfs (ramfs.nodes index) requiredSize := by
  have sound := invariant.nodes index live
  have inBudget := invariant.budget
  have fits := sound.fits
  have own : (ramfs.nodes index).capacity ≤ capacityTotal ramfs := capacity_le_total live
  rw [GetsBlock, ramfsPrepareCapacity,
    ramfsCurrentCapacity_eq fun other isLive => (invariant.nodes other isLive).small]
  have block := sound.block
  by_cases enough : requiredSize ≤ (ramfs.nodes index).capacity
  · rcases block with ⟨absent, none⟩ | ⟨block, isBlock, length, -⟩
    · omega
    simp [enough, changeBlock, isBlock, ramfsCommitReplacement]
  have budget : (2 ^ 64 + ramfsTotalDataMax - (capacityTotal ramfs - (ramfs.nodes index).capacity)) % 2 ^ 64 <
      requiredSize ↔ ¬ capacityTotal ramfs + requiredSize ≤ ramfsTotalDataMax + (ramfs.nodes index).capacity := by
    unfold ramfsTotalDataMax at *
    omega
  simp only [if_neg (Nat.not_lt.mpr small), if_neg (Nat.not_lt.mpr own), budget,
    if_neg (Nat.not_lt.mpr fits), enough, false_or]
  rcases block with ⟨absent, isZero⟩ | ⟨block, isBlock, length, hasRoom⟩
  · by_cases room : capacityTotal ramfs + requiredSize ≤ ramfsTotalDataMax + (ramfs.nodes index).capacity <;>
      cases isAnswer : heap.kmalloc <;>
      simp_all [changeBlock, ramfsCommitReplacement]
  · by_cases room : capacityTotal ramfs + requiredSize ≤ ramfsTotalDataMax + (ramfs.nodes index).capacity <;>
      cases isAnswer : heap.kmalloc <;> cases frees : heap.kfree <;>
      by_cases empty : (ramfs.nodes index).size = 0 <;>
      simp_all [changeBlock, ramfsCommitReplacement, Nat.ne_of_gt]

/-- The node with another file -/
def withFile (node : RamfsNode) (data : Option (List UInt8)) (capacity size : Nat) : RamfsNode :=
  { node with
    data := data
    capacity := capacity
    size := size }

theorem RamfsInvariant.changeFile (invariant : RamfsInvariant ramfs) (live : Live ramfs index)
    {data : Option (List UInt8)} {capacity size : Nat}
    (sound : NodeSound (withFile (ramfs.nodes index) data capacity size))
    (budget : capacityTotal ramfs + capacity ≤ ramfsTotalDataMax + (ramfs.nodes index).capacity) :
    RamfsInvariant (ramfs.setNode index (withFile (ramfs.nodes index) data capacity size)) := by
  have total := capacityTotal_setNode ramfs index (withFile (ramfs.nodes index) data capacity size)
  have before : heldCapacity (ramfs.nodes index) = (ramfs.nodes index).capacity := if_pos live
  have after : heldCapacity (withFile (ramfs.nodes index) data capacity size) = capacity :=
    if_pos live
  exact invariant.rewrite live sound live rfl rfl rfl (by omega)

theorem RamfsInvariant.grow (invariant : RamfsInvariant ramfs) (live : Live ramfs index)
    (isRegular : (ramfs.nodes index).type = some .regular) {size capacity : Nat}
    {block changed : List UInt8} (positive : 0 < size)
    (prepared : PreparedBlock ramfs (ramfs.nodes index) size block capacity)
    (sameLength : changed.length = block.length) :
    RamfsInvariant (ramfs.setNode index (withFile (ramfs.nodes index) (some changed) capacity size)) := by
  have sound := invariant.nodes index live
  have enough := prepared.enough
  refine invariant.changeFile live ?_ prepared.budget
  exact { sound with
    fits := enough
    small := prepared.small
    block := Or.inr ⟨changed, rfl, sameLength.trans prepared.length, positive.trans_le enough⟩
    directory := fun isDirectory => by cases isRegular.symm.trans isDirectory }

theorem length_writeInto {target input : List UInt8} {size offset : Nat}
    (fits : offset + input.length ≤ target.length) :
    (writeInto target size offset input).length = target.length := by
  have cleared : (if size < offset then copyInto target size (List.replicate (offset - size) 0)
      else target).length = target.length := by
    split
    · rw [length_copyInto]
      rw [List.length_replicate]
      omega
    · rfl
  rw [writeInto, length_copyInto, cleared]
  rw [cleared]
  exact fits

/-- A write fails and changes nothing, or it is the write to the list of bytes. -/
theorem ramfsWrite_spec (invariant : RamfsInvariant ramfs) (heap : Heap)
    (node : Option (Fin ramfsMaxNodes)) (offset : Nat) (input : List UInt8) :
    (∃ error, ramfsWrite heap ramfs node offset input = (ramfs, .error error)) ∨
      ∃ index changed, node = some index ∧ Live ramfs index ∧ (ramfs.nodes index).type = some .regular ∧
        ramfsWrite heap ramfs node offset input = (ramfs.setNode index changed, .ok input.length) ∧
        RamfsInvariant (ramfs.setNode index changed) ∧
        contents changed = writeAt (contents (ramfs.nodes index)) offset input := by
  rw [ramfsWrite]
  split
  · exact Or.inl ⟨_, rfl⟩
  rename_i index isIndex
  rcases ramfsRegularFromVfs_eq_some isIndex with ⟨isNode, live, isRegular⟩
  dsimp only
  split
  · exact Or.inl ⟨_, rfl⟩
  split
  · grind [setNode_same, writeAt]
  split
  · exact Or.inl ⟨_, rfl⟩
  split
  · exact Or.inl ⟨_, rfl⟩
  have isMax : (if (ramfs.nodes index).size < offset + input.length then
      offset + input.length else (ramfs.nodes index).size) =
      max (ramfs.nodes index).size (offset + input.length) := by
    split <;> omega
  rw [isMax]
  split
  · exact Or.inl ⟨_, rfl⟩
  rename_i replacement capacity prepared
  rcases changeBlock_spec invariant live (by omega) prepared
    (fun target => writeInto target (ramfs.nodes index).size offset input) with
    ⟨block, isPrepared, changed⟩ | failed
  · have fits : max (ramfs.nodes index).size (offset + input.length) ≤ block.length :=
      isPrepared.enough.trans isPrepared.length.ge
    rw [changed]
    refine Or.inr ⟨index, withFile (ramfs.nodes index)
      (some (writeInto block (ramfs.nodes index).size offset input)) capacity
      (max (ramfs.nodes index).size (offset + input.length)), isNode, live, isRegular,
      rfl, ?_, ?_⟩
    · exact invariant.grow live isRegular (by omega) isPrepared (length_writeInto (by omega))
    · rw [← isPrepared.bytes]
      apply take_write
      · simp_all
      · omega
      · omega
  simp [*]

theorem ramfsTruncate_spec (invariant : RamfsInvariant ramfs) (heap : Heap)
    (node : Option (Fin ramfsMaxNodes)) (size : Nat) :
    ((ramfsTruncate heap ramfs node size).1 = ramfs ∧
      (ramfsTruncate heap ramfs node size).2 ≠ .ok) ∨
      ∃ index changed, node = some index ∧ Live ramfs index ∧ (ramfs.nodes index).type = some .regular ∧
        ramfsTruncate heap ramfs node size = (ramfs.setNode index changed, .ok) ∧
        RamfsInvariant (ramfs.setNode index changed) ∧
        contents changed = resize (contents (ramfs.nodes index)) size := by
  rw [ramfsTruncate]
  split
  · left
    refine ⟨rfl, ?_⟩
    rw [wrongNode]
    split <;> exact VfsResult.noConfusion
  · rename_i index isIndex
    rcases ramfsRegularFromVfs_eq_some isIndex with ⟨isNode, live, isRegular⟩
    have sound := invariant.nodes index live
    have length := length_contents sound
    dsimp only
    split
    · simp
    split
    · rename_i isZero
      split
      · simp
      -- the block is given back
      refine Or.inr ⟨index, withFile (ramfs.nodes index) none 0 0, isNode, live, isRegular, rfl, ?_, ?_⟩
      · apply invariant.changeFile live
        · exact ⟨sound.valid, sound.numbered, sound.typed, Nat.le_refl 0, Nat.zero_le _,
            Or.inl ⟨rfl, rfl⟩, fun _ => rfl⟩
        · have inBudget := invariant.budget
          omega
      · rw [isZero, resize_of_le (Nat.zero_le _), List.take_zero]
        rfl
    · split
      · rename_i shrinks
        refine Or.inr ⟨index, withFile (ramfs.nodes index) (ramfs.nodes index).data
          (ramfs.nodes index).capacity size, isNode, live, isRegular, rfl, ?_, ?_⟩
        · apply invariant.changeFile live
          · exact { sound with fits := shrinks.trans sound.fits }
          · have inBudget := invariant.budget
            omega
        · rw [resize_of_le (by omega), contents, contents, List.take_take, Nat.min_eq_left shrinks]
          rfl
      · rename_i grows
        split
        · grind [ramfsPrepareCapacity_error]
        rename_i replacement capacity prepared
        rcases changeBlock_spec invariant live (by omega) prepared
          (fun target => copyInto target (ramfs.nodes index).size
            (List.replicate (size - (ramfs.nodes index).size) 0)) with
          ⟨block, isPrepared, changed⟩ | failed
        · have fits : size ≤ block.length := isPrepared.enough.trans isPrepared.length.ge
          rw [changed]
          refine Or.inr ⟨index, withFile (ramfs.nodes index)
            (some (copyInto block (ramfs.nodes index).size
              (List.replicate (size - (ramfs.nodes index).size) 0))) capacity size,
            isNode, live, isRegular, rfl, ?_, ?_⟩
          · apply invariant.grow live isRegular (by omega) isPrepared
            rw [length_copyInto]
            grind
          · rw [← isPrepared.bytes]
            exact take_clear (Nat.le_of_not_le grows) fits
        simp [*]

end BoringOS.RamFs
