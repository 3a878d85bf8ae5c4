import BoringOS.Library.EvenSplit
import BoringOS.WindowManager.Core

namespace BoringOS.WindowManager

open Library

/-!
# The layout tiles the screen

`wm_layout` only writes the rectangles of the clients.  It puts the windows of
the order into tiles that lie on the screen and do not overlap: one column, or
a master beside a column.  `SplitExact` lists the differences that it takes,
none of which may wrap in the 32 bits of the source.
-/

/-- The rectangle that `rectangle` stores. -/
def framed (x y width height : Nat) : WmRect :=
  ⟨x, y, width, height,
    if min width height = 0 then 0 else min boringWmBorder ((min width height - 1) / 2)⟩

/-- A pixel of a rectangle -/
def WmRect.Inside (rect : WmRect) (x y : Nat) : Prop :=
  rect.x ≤ x ∧ x < rect.x + rect.width ∧ rect.y ≤ y ∧ y < rect.y + rect.height

/-- Two rectangles without a common pixel -/
def WmRect.Apart (first second : WmRect) : Prop := ∀ x y, ¬ (first.Inside x y ∧ second.Inside x y)

/-- The rectangle of a position in the order of the windows -/
def WmCore.rectAt (wm : WmCore) (position : Nat) : WmRect := (wm.clients (wm.order position)).rect

/-- What the rectangles on the screen have to satisfy. -/
structure Tiled (wm : WmCore) : Prop where
  onScreen : ∀ position, position < wm.count →
    (wm.rectAt position).x + (wm.rectAt position).width ≤ wm.width ∧
      (wm.rectAt position).y + (wm.rectAt position).height ≤ wm.height
  border : ∀ position, position < wm.count →
    2 * (wm.rectAt position).border ≤ (wm.rectAt position).width ∧
      2 * (wm.rectAt position).border ≤ (wm.rectAt position).height
  apart : ∀ position other, position < wm.count → other < wm.count → position ≠ other →
    (wm.rectAt position).Apart (wm.rectAt other)

/-- Two states that differ in the rectangles of clients only. -/
structure SameButRects (wm after : WmCore) : Prop where
  width : after.width = wm.width
  height : after.height = wm.height
  count : after.count = wm.count
  focus : after.focus = wm.focus
  order : after.order = wm.order
  clients : ∀ slot, ∃ rect, after.clients slot = { wm.clients slot with rect := rect }

variable {wm after middle : WmCore}

theorem SameButRects.refl (wm : WmCore) : SameButRects wm wm :=
  ⟨rfl, rfl, rfl, rfl, rfl, fun slot => ⟨(wm.clients slot).rect, rfl⟩⟩

theorem SameButRects.trans (first : SameButRects wm middle) (second : SameButRects middle after) :
    SameButRects wm after where
  width := second.width.trans first.width
  height := second.height.trans first.height
  count := second.count.trans first.count
  focus := second.focus.trans first.focus
  order := second.order.trans first.order
  clients slot := by
    rcases first.clients slot with ⟨_, stored⟩
    rcases second.clients slot with ⟨rect, stored'⟩
    grind

theorem SameButRects.setRect (wm : WmCore) (slot x y width height : Nat) :
    SameButRects wm (wm.setClient slot (rectangle (wm.clients slot) x y width height)) where
  width := rfl
  height := rfl
  count := rfl
  focus := rfl
  order := rfl
  clients other := by
    by_cases same : other = slot
    · refine ⟨framed x y width height, ?_⟩
      rw [same]
      exact Function.update_self ..
    · refine ⟨(wm.clients other).rect, ?_⟩
      exact Function.update_of_ne same ..

/-- A tile of a column -/
def columnTile (x y width span count gap index : Nat) : WmRect :=
  framed x (y + tileStart span count gap index) width (tileLength span count index)

/-- The tiles of a column are stored from an index on, and nothing else. -/
structure ColumnStored (wm after : WmCore) (first index count : Nat) (tile : Nat → WmRect) :
    Prop where
  same : SameButRects wm after
  stored : ∀ i, index ≤ i → i < count → (after.clients (wm.order (first + i))).rect = tile i
  others : ∀ slot, (∀ i, index ≤ i → i < count → wm.order (first + i) ≠ slot) →
    after.clients slot = wm.clients slot

theorem columnFrom_stored {first count x y width span gap : Nat} :
    ∀ (left index start : Nat) (wm : WmCore), index + left = count →
      (left ≠ 0 → start = y + tileStart span count gap index) →
      (∀ i j, i < count → j < count → wm.order (first + i) = wm.order (first + j) → i = j) →
      ColumnStored wm (columnFrom wm first count x width span gap index start left) first index
        count (columnTile x y width span count gap) := by
  intro left
  induction left with
  | zero =>
    intro index start wm isCount _ _
    refine ⟨SameButRects.refl wm, fun i lower upper => ?_, fun slot _ => rfl⟩
    omega
  | succ left ih =>
    intro index start wm isCount isStart injective
    have isStart := isStart (Nat.succ_ne_zero left)
    have inside : index < count := by omega
    unfold columnFrom
    have first' := SameButRects.setRect wm (wm.order (first + index)) x start width
      (tileLength span count index)
    have isStored : (wm.setClient (wm.order (first + index))
        (rectangle (wm.clients (wm.order (first + index))) x start width
          (tileLength span count index))).clients (wm.order (first + index)) = _ :=
      Function.update_self ..
    have untouched : ∀ slot, slot ≠ wm.order (first + index) →
        (wm.setClient (wm.order (first + index))
          (rectangle (wm.clients (wm.order (first + index))) x start width
            (tileLength span count index))).clients slot = wm.clients slot :=
      fun slot different => Function.update_of_ne different ..
    have rest := ih (index + 1) (start + tileLength span count index + if index + 1 < count then gap else 0)
      (wm.setClient (wm.order (first + index))
        (rectangle (wm.clients (wm.order (first + index))) x start width
          (tileLength span count index))) (by omega)
      (by grind [tileStart_succ])
      injective
    refine ⟨first'.trans rest.same, fun i lower upper => ?_, fun slot apart => ?_⟩
    · rcases Nat.eq_or_lt_of_le lower with rfl | later
      · have kept := rest.others (wm.order (first + index)) fun i lower upper same =>
          absurd (injective i index upper inside same) (Nat.ne_of_gt lower)
        unfold tileLength at kept isStored
        rw [kept, isStored, isStart]
        rfl
      · exact rest.stored i later upper
    · have kept := rest.others slot fun i lower upper =>
        apart i (Nat.le_of_succ_le lower) upper
      unfold tileLength at kept untouched
      grind

/-- The gap between the tiles of a column -/
def columnGap (count height : Nat) : Nat :=
  if 1 < count ∧ count ≤ height then min boringWmInner ((height - count) / (count - 1)) else 0

variable (x y width height count index : Nat)

/-- A tile of the column that fills a rectangle -/
def columnPart : WmRect :=
  columnTile x y width (height - columnGap count height * (count - 1)) count (columnGap count height) index

/-- All gaps together fit into the column. -/
theorem columnGap_fits (count height : Nat) : columnGap count height * (count - 1) ≤ height := by
  unfold columnGap
  by_cases wide : 1 < count ∧ count ≤ height
  · rw [if_pos wide]
    calc min boringWmInner ((height - count) / (count - 1)) * (count - 1)
        ≤ (height - count) / (count - 1) * (count - 1) :=
          Nat.mul_le_mul_right _ (Nat.min_le_right ..)
      _ ≤ height - count := Nat.div_mul_le_self ..
      _ ≤ height := Nat.sub_le ..
  simp [*]

theorem column_stored {first count x y width height : Nat} (wm : WmCore) (some : 0 < count)
    (injective : ∀ i j, i < count → j < count →
      wm.order (first + i) = wm.order (first + j) → i = j) :
    ColumnStored wm (column wm first count x y width height) first 0 count
      (columnPart x y width height count) := by
  unfold column
  rw [if_neg (Nat.ne_of_gt some)]
  refine columnFrom_stored count 0 y wm (Nat.zero_add count) (fun _ => ?_) injective
  rw [tileStart_zero]
  rfl

theorem columnPart_y :
    (columnPart x y width height count index).y =
      y + tileStart (height - columnGap count height * (count - 1)) count
        (columnGap count height) index := rfl

theorem columnPart_height :
    (columnPart x y width height count index).height =
      tileLength (height - columnGap count height * (count - 1)) count index := rfl

/-- The parts of a column lie in it, one above the other. -/
theorem columnPart_inside {x y width height count index : Nat} (isTile : index < count) :
    y ≤ (columnPart x y width height count index).y ∧
      (columnPart x y width height count index).y +
        (columnPart x y width height count index).height ≤ y + height := by
  have inside := @tile_inside (height - columnGap count height * (count - 1)) count
    (columnGap count height) index isTile
  have fits := columnGap_fits count height
  rw [columnPart_y, columnPart_height]
  omega

theorem columnPart_apart {x y width height count index other : Nat} (earlier : index < other) :
    (columnPart x y width height count index).Apart (columnPart x y width height count other) := by
  rintro pixelX pixelY ⟨⟨-, -, -, above⟩, ⟨-, -, below, -⟩⟩
  have before := @tile_before (height - columnGap count height * (count - 1)) count
    (columnGap count height) index other earlier
  grind [columnPart_y, columnPart_height]

theorem WmRect.Apart.symm {first second : WmRect} (apart : first.Apart second) :
    second.Apart first :=
  fun x y common => apart x y ⟨common.2, common.1⟩

/-- The border takes at most half of each side. -/
theorem framed_border (x y width height : Nat) :
    2 * (framed x y width height).border ≤ width ∧
      2 * (framed x y width height).border ≤ height := by
  grind [framed]

def outerOf (wm : WmCore) : Nat := min boringWmOuter ((min wm.width wm.height - 1) / 2)
def innerWidth (wm : WmCore) : Nat := wm.width - 2 * outerOf wm
def innerHeight (wm : WmCore) : Nat := wm.height - 2 * outerOf wm
def masterGap (wm : WmCore) : Nat := min boringWmInner (innerWidth wm - 2)

def masterWidth (wm : WmCore) : Nat :=
  if (innerWidth wm - masterGap wm) * 3 / 5 = 0 then 1 else (innerWidth wm - masterGap wm) * 3 / 5

/-- Whether the windows share a single column -/
def SingleColumn (wm : WmCore) : Prop :=
  wm.count = 1 ∨ innerWidth wm < 2 ∨ innerHeight wm < wm.count - 1

instance (wm : WmCore) : Decidable (SingleColumn wm) := inferInstanceAs (Decidable (_ ∨ _))

/-- The rectangle of a position in the order of the windows -/
def layoutRect (wm : WmCore) (position : Nat) : WmRect :=
  if SingleColumn wm then
    columnPart (outerOf wm) (outerOf wm) (innerWidth wm) (innerHeight wm) wm.count position
  else if position = 0 then
    framed (outerOf wm) (outerOf wm) (masterWidth wm) (innerHeight wm)
  else
    columnPart (outerOf wm + masterWidth wm + masterGap wm) (outerOf wm)
      (innerWidth wm - masterWidth wm - masterGap wm) (innerHeight wm) (wm.count - 1) (position - 1)

/-- The master, which stands beside the column of the others -/
def withMaster (wm : WmCore) : WmCore :=
  wm.setClient (wm.order 0) (rectangle (wm.clients (wm.order 0)) (outerOf wm) (outerOf wm)
    (masterWidth wm) (innerHeight wm))

theorem wmLayout_eq (some : 0 < wm.count) (room : wm.count ≤ boringWmClientMax) :
    wmLayout wm =
      if SingleColumn wm then
        column wm 0 wm.count (outerOf wm) (outerOf wm) (innerWidth wm) (innerHeight wm)
      else
        column (withMaster wm) 1 (wm.count - 1) (outerOf wm + masterWidth wm + masterGap wm)
          (outerOf wm) (innerWidth wm - masterWidth wm - masterGap wm) (innerHeight wm) := by
  unfold wmLayout
  rw [if_neg]
  · rfl
  omega

/-- The windows of an order that repeats no slot get their rectangles. -/
theorem wmLayout_stored (some : 0 < wm.count) (room : wm.count ≤ boringWmClientMax)
    (injective : ∀ i j, i < wm.count → j < wm.count → wm.order i = wm.order j → i = j) :
    SameButRects wm (wmLayout wm) ∧
      ∀ position, position < wm.count → (wmLayout wm).rectAt position = layoutRect wm position := by
  rw [wmLayout_eq some room]
  unfold layoutRect
  by_cases single : SingleColumn wm
  · rw [if_pos single]
    have stored : ColumnStored wm (column wm 0 wm.count (outerOf wm) (outerOf wm) (innerWidth wm)
        (innerHeight wm)) 0 0 wm.count _ := column_stored wm some (by
      grind)
    refine ⟨stored.same, fun position isPosition => ?_⟩
    have isRect := stored.stored position (Nat.zero_le _) isPosition
    rw [Nat.zero_add] at isRect
    unfold WmCore.rectAt
    rw [if_pos single, stored.same.order]
    exact isRect
  · rw [if_neg single]
    have others : 0 < wm.count - 1 := by
      have notOne : wm.count ≠ 1 := fun one => single (Or.inl one)
      omega
    have master : SameButRects wm (withMaster wm) := SameButRects.setRect wm ..
    have isMaster : (withMaster wm).clients (wm.order 0) = _ := Function.update_self ..
    have stored : ColumnStored (withMaster wm) (column (withMaster wm) 1 (wm.count - 1)
        (outerOf wm + masterWidth wm + masterGap wm) (outerOf wm)
        (innerWidth wm - masterWidth wm - masterGap wm) (innerHeight wm)) 1 0 (wm.count - 1) _ :=
      column_stored (withMaster wm) others (by
        intro i j isPosition isPosition' same
        have equal := injective (1 + i) (1 + j) (by omega) (by omega) same
        omega)
    refine ⟨master.trans stored.same, fun position isPosition => ?_⟩
    unfold WmCore.rectAt
    rw [if_neg single, (master.trans stored.same).order]
    cases position with
    | zero =>
      have kept := stored.others (wm.order 0) fun i _ upper same =>
        absurd (injective (1 + i) 0 (by omega) some same) (by omega)
      rw [if_pos rfl, kept, isMaster]
      rfl
    | succ position =>
      have isRect := stored.stored position (Nat.zero_le _) (by omega)
      rw [Nat.add_comm 1 position] at isRect
      assumption

/-- The outer margin leaves at least one pixel. -/
theorem outerOf_fits (width : 0 < wm.width) (height : 0 < wm.height) :
    2 * outerOf wm + 1 ≤ wm.width ∧ 2 * outerOf wm + 1 ≤ wm.height := by
  unfold outerOf
  omega

/-- The master and the gap leave room for the column. -/
theorem masterWidth_fits (wide : 2 ≤ innerWidth wm) :
    masterWidth wm + masterGap wm ≤ innerWidth wm := by
  unfold masterWidth masterGap
  split
  · omega
  · omega

theorem layoutRect_border (wm : WmCore) (position : Nat) :
    2 * (layoutRect wm position).border ≤ (layoutRect wm position).width ∧
      2 * (layoutRect wm position).border ≤ (layoutRect wm position).height := by
  unfold layoutRect
  split
  · exact framed_border ..
  split
  · exact framed_border ..
  · exact framed_border ..

theorem layoutRect_onScreen (width : 0 < wm.width) (height : 0 < wm.height) {position : Nat}
    (isPosition : position < wm.count) :
    (layoutRect wm position).x + (layoutRect wm position).width ≤ wm.width ∧
      (layoutRect wm position).y + (layoutRect wm position).height ≤ wm.height := by
  have margin := outerOf_fits width height
  have isWidth : innerWidth wm = wm.width - 2 * outerOf wm := rfl
  have isHeight : innerHeight wm = wm.height - 2 * outerOf wm := rfl
  unfold layoutRect
  by_cases single : SingleColumn wm
  · rw [if_pos single]
    have inside := @columnPart_inside (outerOf wm) (outerOf wm) (innerWidth wm) (innerHeight wm)
      wm.count position isPosition
    refine ⟨?_, by omega⟩
    change outerOf wm + innerWidth wm ≤ wm.width
    omega
  · rw [if_neg single]
    have wide : 2 ≤ innerWidth wm := by
      by_contra narrow
      exact single (Or.inr (Or.inl (Nat.lt_of_not_le narrow)))
    have fits := masterWidth_fits wide
    by_cases isMaster : position = 0
    · rw [if_pos isMaster]
      change outerOf wm + masterWidth wm ≤ wm.width ∧ outerOf wm + innerHeight wm ≤ wm.height
      omega
    rw [if_neg isMaster]
    have inside := @columnPart_inside (outerOf wm + masterWidth wm + masterGap wm) (outerOf wm)
      (innerWidth wm - masterWidth wm - masterGap wm) (innerHeight wm) (wm.count - 1)
      (position - 1) (by omega)
    refine ⟨?_, by omega⟩
    change outerOf wm + masterWidth wm + masterGap wm +
      (innerWidth wm - masterWidth wm - masterGap wm) ≤ wm.width
    omega

theorem layoutRect_apart {position other : Nat} (earlier : position < other) :
    (layoutRect wm position).Apart (layoutRect wm other) := by
  unfold layoutRect
  by_cases single : SingleColumn wm
  · simp_all [columnPart_apart]
  rw [if_neg single, if_neg single, if_neg (Nat.ne_of_gt (Nat.zero_lt_of_lt earlier))]
  by_cases isMaster : position = 0
  · rw [if_pos isMaster]
    rintro x y ⟨⟨-, left, -, -⟩, ⟨right, -, -, -⟩⟩
    change x < outerOf wm + masterWidth wm at left
    change outerOf wm + masterWidth wm + masterGap wm ≤ x at right
    omega
  · rw [if_neg isMaster]
    exact columnPart_apart (by omega)

/-- The layout puts the windows of an order that repeats no slot into tiles. -/
theorem wmLayout_tiled (width : 0 < wm.width) (height : 0 < wm.height) (room : wm.count ≤ boringWmClientMax)
    (injective : ∀ i j, i < wm.count → j < wm.count → wm.order i = wm.order j → i = j) :
    SameButRects wm (wmLayout wm) ∧ Tiled (wmLayout wm) := by
  by_cases none : wm.count = 0
  · have unchanged : wmLayout wm = wm := by
      exact if_pos (Or.inl none)
    rw [unchanged]
    refine ⟨SameButRects.refl wm, fun position isPosition => ?_, fun position isPosition => ?_,
      fun position _ isPosition => ?_⟩
    all_goals
      omega
  · rcases wmLayout_stored (Nat.pos_of_ne_zero none) room injective with ⟨same, isRect⟩
    refine ⟨same, fun position isPosition => ?_, fun position isPosition => ?_,
      fun position other isPosition isOther different => ?_⟩
    all_goals rw [same.count] at isPosition
    · rw [isRect position isPosition, same.width, same.height]
      exact layoutRect_onScreen width height isPosition
    · simp_all [layoutRect_border]
    · rw [same.count] at isOther
      rw [isRect position isPosition, isRect other isOther]
      rcases Nat.lt_or_gt_of_ne different with earlier | later
      · exact layoutRect_apart earlier
      · exact (layoutRect_apart later).symm

/-- No difference that the split of the screen takes would wrap. -/
structure SplitExact (wm : WmCore) : Prop where
  outer : 1 ≤ min wm.width wm.height
  inner : 2 * outerOf wm ≤ wm.width ∧ 2 * outerOf wm ≤ wm.height
  count : 1 ≤ wm.count
  beside : ¬ SingleColumn wm →
    2 ≤ innerWidth wm ∧ masterGap wm ≤ innerWidth wm ∧ masterWidth wm ≤ innerWidth wm ∧
      masterGap wm ≤ innerWidth wm - masterWidth wm
  gaps : ∀ count height, columnGap count height * (count - 1) ≤ height

theorem splitExact (width : 0 < wm.width) (height : 0 < wm.height) (some : 0 < wm.count) :
    SplitExact wm where
  outer := by omega
  inner := by
    have fits := outerOf_fits width height
    omega
  count := some
  beside single := by
    have wide : 2 ≤ innerWidth wm := by
      by_contra narrow
      exact single (Or.inr (Or.inl (Nat.lt_of_not_le narrow)))
    have fits := masterWidth_fits wide
    omega
  gaps := columnGap_fits

end BoringOS.WindowManager
