import BoringOS.Terminal.View
import BoringOS.WindowManager.CoreRuns
import BoringOS.WindowManager.Process

namespace BoringOS.WindowManager

open Library Terminal

/-!
# Windows that their applications can use

The window manager divides the screen among its clients, and each application ends where
its window is too small for its grid.  So the smallest tile of the layout decides whether
the applications live on.
-/

/-- Every window has the rectangle that the layout gives its position. -/
def Placed (wm : WmCore) : Prop :=
  ∀ position, position < wm.count → wm.rectAt position = layoutRect wm position

variable {wm after : WmCore}

theorem layoutRect_congr (width : after.width = wm.width) (height : after.height = wm.height)
    (count : after.count = wm.count) (position : Nat) :
    layoutRect after position = layoutRect wm position := by
  cases wm
  cases width
  cases height
  cases count
  rfl

theorem placed_of_same (placed : Placed wm) (width : after.width = wm.width)
    (height : after.height = wm.height) (count : after.count = wm.count)
    (rects : ∀ position, after.rectAt position = wm.rectAt position) : Placed after := by
  intro position isPosition
  rw [rects, layoutRect_congr width height count]
  exact placed position (count ▸ isPosition)

theorem Clients.placed (table : Clients wm) : Placed (BoringOS.WindowManager.wmLayout wm) := by
  intro position isPosition
  by_cases none : wm.count = 0
  · simp_all [BoringOS.WindowManager.wmLayout]
  rcases wmLayout_stored (Nat.pos_of_ne_zero none) table.room table.injective with
    ⟨same, isRect⟩
  rw [layoutRect_congr same.width same.height same.count]
  exact isRect position (same.count ▸ isPosition)

theorem WmChange.placed (change : WmChange wm after) (laid : LaidOut wm) (placed : Placed wm) :
    Placed after := by
  cases change with
  | nothing => exact placed
  | added free => exact (laid.table.placedLast free).placed
  | removed found => exact (laid.table.withoutClient found).placed
  | focused _ => assumption
  | exchanged isFirst isSecond => exact (laid.table.exchange isFirst isSecond).placed
  | closing slot =>
    refine placed_of_same placed rfl rfl rfl fun position => ?_
    unfold WmCore.rectAt WmCore.setClient
    grind

theorem run_placed {width height : Nat} {start : WmCore}
    (init : wmInit width height = some start) (calls : List CoreCall) :
    LaidOut (run coreStep start calls) ∧ Placed (run coreStep start calls) := by
  have kept : ∀ wm call, LaidOut wm ∧ Placed wm →
      LaidOut (coreStep wm call) ∧ Placed (coreStep wm call) := fun wm call holds =>
    ⟨(coreStep_laidOut holds.1 call).1, (coreStep_change wm call).placed holds.1 holds.2⟩
  refine run_invariant kept calls start ⟨wmInit_laidOut init, fun position isPosition => ?_⟩
  unfold wmInit at init
  grind

/-- The layout keeps the size of the screen and the number of windows. -/
theorem Clients.wmLayout_same (table : Clients wm) :
    SameButRects wm (BoringOS.WindowManager.wmLayout wm) :=
  (wmLayout_tiled table.width.1 table.height.1 table.room table.injective).1

theorem WmChange.screen (change : WmChange wm after) (laid : LaidOut wm) :
    after.width = wm.width ∧ after.height = wm.height := by
  cases change with
  | nothing => exact ⟨rfl, rfl⟩
  | @added slot endpoint pid surface free =>
    have placed : Clients (placedLast wm slot endpoint pid surface) := laid.table.placedLast free
    exact ⟨placed.wmLayout_same.width, placed.wmLayout_same.height⟩
  | removed found =>
    have same := (laid.table.withoutClient found).wmLayout_same
    exact ⟨same.width, same.height⟩
  | focused _ => exact ⟨rfl, rfl⟩
  | exchanged isFirst isSecond =>
    have same := (laid.table.exchange isFirst isSecond).wmLayout_same
    exact ⟨same.width, same.height⟩
  | closing slot => exact ⟨rfl, rfl⟩

theorem run_screen {width height : Nat} {start : WmCore}
    (init : wmInit width height = some start) (calls : List CoreCall) :
    (run coreStep start calls).width = width ∧ (run coreStep start calls).height = height := by
  have kept : ∀ wm call, LaidOut wm ∧ wm.width = width ∧ wm.height = height →
      LaidOut (coreStep wm call) ∧ (coreStep wm call).width = width ∧
        (coreStep wm call).height = height := by
    intro wm call holds
    have same := (coreStep_change wm call).screen holds.1
    exact ⟨(coreStep_laidOut holds.1 call).1, same.1.trans holds.2.1, same.2.trans holds.2.2⟩
  have laid := wmInit_laidOut init
  unfold wmInit at init
  rw [Option.ite_none_left_eq_some] at init
  cases init.2
  exact (run_invariant kept calls _ ⟨laid, rfl, rfl⟩).2

variable (width height : Nat)

/-- Every application, whatever its window was and showed before, takes a rectangle of a
screen. -/
def Accepted (rect : WmRect) : Prop :=
  ∀ (application : Application) (contents : Contents) (view : ManagedView), view.OfDisplay width height →
      Succeeds (application.configure contents view rect.width rect.height rect.border)

/-- A view of the smallest grid, which is drawn into a surface of the display -/
def displayView : ManagedView where
  terminal :=
    { cells := fun _ _ => blank
      cols := 1
      rows := 1
      cursorCol := 0
      cursorRow := 0
      csiValue := 0
      parserState := .text
      csiHasValue := false
      touched := [] }
  surfaceWidth := width
  surfaceHeight := height
  stride := width * 4
  viewWidth := 0
  viewHeight := 0
  dimensions := by decide

theorem displayView_ofDisplay : (displayView width height).OfDisplay width height := ⟨rfl, rfl, rfl⟩

/-- What the editor needs: eight pixels of margin and four rows inside the border -/
theorem accepted_framed {width height x y tileWidth tileHeight : Nat}
    (inside : tileWidth ≤ width ∧ tileHeight ≤ height) :
    Accepted width height (framed x y tileWidth tileHeight) ↔ 20 ≤ tileWidth ∧ 46 ≤ tileHeight := by
  have frame := framed_border x y tileWidth tileHeight
  have isBorder : (framed x y tileWidth tileHeight).border =
      if min tileWidth tileHeight = 0 then 0
      else min boringWmBorder ((min tileWidth tileHeight - 1) / 2) := rfl
  have exact' : ∀ minimumRows contents view, ManagedView.OfDisplay view width height →
      minimumRows ≤ boringTerminalMaxRows → _ := fun minimumRows contents view ofDisplay few =>
    @configureView_ok minimumRows width height tileWidth tileHeight
      (framed x y tileWidth tileHeight).border contents view ofDisplay frame inside few
  constructor
  · intro accepted
    have editor := (exact' 4 ⟨id⟩ (displayView width height) (displayView_ofDisplay width height)
      (by decide)).mp (accepted .editor ⟨id⟩ _ (displayView_ofDisplay width height))
    grind [boringWmBorder]
  · rintro ⟨wide, high⟩ application contents view ofDisplay
    have border : (framed x y tileWidth tileHeight).border = 3 := by
      rw [isBorder, if_neg (by omega)]
      unfold boringWmBorder
      omega
    cases application with
    | terminal =>
      refine (exact' 0 ⟨id⟩ view ofDisplay (by decide)).mpr ?_
      rw [border]
      omega
    | editor =>
      refine (exact' 4 contents view ofDisplay (by decide)).mpr ?_
      rw [border]
      omega
    | files =>
      refine (exact' 4 contents view ofDisplay (by decide)).mpr ?_
      rw [border]
      omega

/-- Every tile of a column is at least as high as the last one. -/
theorem tileLength_all {span count least : Nat} (some : 0 < count) :
    (∀ index, index < count → least ≤ tileLength span count index) ↔ least * count ≤ span := by
  rw [← Nat.le_div_iff_mul_le some]
  constructor
  · intro all
    have last := all (count - 1) (Nat.sub_lt some Nat.one_pos)
    unfold tileLength at last
    have remainder := Nat.mod_lt span some
    grind
  · intro enough index _
    exact Nat.le_trans enough (Nat.le_add_right ..)

/-- All tiles of a column are high enough for the editor. -/
theorem columnPart_high {x y width height count : Nat} (some : 0 < count) :
    (∀ index, index < count → 46 ≤ (columnPart x y width height count index).height) ↔
      54 * count ≤ height + 8 := by
  simp only [columnPart_height]
  rw [tileLength_all some]
  have gaps := columnGap_fits count height
  rcases Nat.lt_or_ge 1 count with several | single
  · have atMost : columnGap count height ≤ 8 := by
      unfold columnGap boringWmInner
      split
      · exact Nat.min_le_left ..
      · exact Nat.zero_le _
    have bound : columnGap count height * (count - 1) ≤ 8 * (count - 1) :=
      Nat.mul_le_mul_right _ atMost
    constructor
    · intro enough
      by_contra low
      have within : 1 < count ∧ count ≤ height := by omega
      have narrow : (height - count) / (count - 1) < 8 := by
        by_contra wide
        have isGap : columnGap count height = 8 := by
          unfold columnGap boringWmInner
          rw [if_pos within, Nat.min_eq_left]
          rw [Nat.le_div_iff_mul_le (by omega)]
          omega
        rw [isGap] at enough
        omega
      have isGap : columnGap count height = (height - count) / (count - 1) := by
        unfold columnGap boringWmInner
        rw [if_pos within, Nat.min_eq_right (Nat.le_of_lt narrow)]
      have rest := Nat.lt_mul_div_succ (height - count) (show 0 < count - 1 by omega)
      rw [Nat.mul_comm, Nat.add_mul, Nat.one_mul, ← isGap] at rest
      omega
    · omega
  grind

/-- The screen is large enough for a single editor window. -/
def HoldsOne : Prop := 28 ≤ width ∧ 54 ≤ height

instance (width height : Nat) : Decidable (HoldsOne width height) :=
  inferInstanceAs (Decidable (_ ∧ _))

/-- The screen is large enough for a number of editor windows. -/
def HoldsAll (width height count : Nat) : Prop :=
  count ≤ 1 ∨ (64 ≤ width ∧ 54 * (count - 1) ≤ height)

instance (width height count : Nat) : Decidable (HoldsAll width height count) :=
  inferInstanceAs (Decidable (_ ∨ _))

/-- A screen for one editor window has all its margins. -/
structure Roomy (wm : WmCore) : Prop where
  outer : outerOf wm = 4
  innerWidth : innerWidth wm = wm.width - 8
  innerHeight : innerHeight wm = wm.height - 8

theorem roomy_of_holdsOne (holds : HoldsOne wm.width wm.height) : Roomy wm := by
  rcases holds with ⟨wide, high⟩
  have outer : outerOf wm = 4 := by
    unfold outerOf boringWmOuter
    omega
  refine ⟨outer, ?_, ?_⟩
  · rw [WindowManager.innerWidth, outer]
  · rw [WindowManager.innerHeight, outer]

/-- A window that has the screen for itself -/
theorem accepted_single (one : wm.count = 1) :
    Accepted wm.width wm.height (layoutRect wm 0) ↔ HoldsOne wm.width wm.height := by
  have single : SingleColumn wm := Or.inl one
  have isRect : layoutRect wm 0 = framed (outerOf wm) (outerOf wm) (innerWidth wm) (innerHeight wm) := by
    unfold layoutRect columnPart columnTile columnGap tileLength
    rw [if_pos single, one, tileStart_zero, Nat.sub_self, Nat.mul_zero, Nat.sub_zero, Nat.div_one,
      Nat.mod_one, if_neg (Nat.not_lt_zero 0)]
    rfl
  have inside : innerWidth wm ≤ wm.width ∧ innerHeight wm ≤ wm.height :=
    ⟨Nat.sub_le .., Nat.sub_le ..⟩
  rw [isRect, accepted_framed inside]
  unfold HoldsOne innerWidth innerHeight outerOf boringWmOuter
  omega

/-- The rectangles beside and below each other -/
theorem accepted_several (holds : HoldsOne wm.width wm.height) (several : 1 < wm.count)
    (room : wm.count ≤ boringWmClientMax) :
    (∀ position, position < wm.count →
      Accepted wm.width wm.height (layoutRect wm position)) ↔
      64 ≤ wm.width ∧ 54 * (wm.count - 1) ≤ wm.height := by
  have roomy := roomy_of_holdsOne holds
  unfold HoldsOne at holds
  unfold boringWmClientMax at room
  have notSingle : ¬SingleColumn wm := by
    unfold SingleColumn
    rw [roomy.innerWidth, roomy.innerHeight]
    omega
  have gap : masterGap wm = 8 := by
    unfold masterGap boringWmInner
    rw [roomy.innerWidth]
    omega
  have master : masterWidth wm = (wm.width - 16) * 3 / 5 := by
    unfold masterWidth
    rw [gap, roomy.innerWidth, if_neg (by omega)]
    omega
  have first : layoutRect wm 0 = framed 4 4 ((wm.width - 16) * 3 / 5) (wm.height - 8) := by
    unfold layoutRect
    rw [if_neg notSingle, if_pos rfl, roomy.outer, master, roomy.innerHeight]
  have others : ∀ position, layoutRect wm (position + 1) = columnPart (4 + (wm.width - 16) * 3 / 5 + 8) 4
        (wm.width - 8 - (wm.width - 16) * 3 / 5 - 8) (wm.height - 8) (wm.count - 1)
        position := by
    intro position
    unfold layoutRect
    rw [if_neg notSingle, if_neg (Nat.succ_ne_zero position), roomy.outer, master, gap,
      roomy.innerWidth, roomy.innerHeight, Nat.add_sub_cancel]
  have stacked : ∀ position, position < wm.count - 1 →
      (Accepted wm.width wm.height (layoutRect wm (position + 1)) ↔
        20 ≤ wm.width - 8 - (wm.width - 16) * 3 / 5 - 8 ∧
          46 ≤ (columnPart (4 + (wm.width - 16) * 3 / 5 + 8) 4
            (wm.width - 8 - (wm.width - 16) * 3 / 5 - 8) (wm.height - 8) (wm.count - 1)
            position).height) := by
    intro position isPosition
    have inside := @columnPart_inside (4 + (wm.width - 16) * 3 / 5 + 8) 4
      (wm.width - 8 - (wm.width - 16) * 3 / 5 - 8) (wm.height - 8) (wm.count - 1) position isPosition
    rw [others position]
    exact accepted_framed ⟨by omega, by
      change (columnPart (4 + (wm.width - 16) * 3 / 5 + 8) 4
        (wm.width - 8 - (wm.width - 16) * 3 / 5 - 8) (wm.height - 8) (wm.count - 1) position).height ≤ _
      omega⟩
  have column := @columnPart_high (4 + (wm.width - 16) * 3 / 5 + 8) 4
    (wm.width - 8 - (wm.width - 16) * 3 / 5 - 8) (wm.height - 8) (wm.count - 1) (by omega)
  constructor
  · grind
  · rintro ⟨wide, high⟩ position isPosition
    cases position with
    | zero =>
      grind [accepted_framed]
    | succ position =>
      grind

/-- The applications of all windows take the rectangles that `sync_layout` sends them. -/
def AllAccepted (wm : WmCore) : Prop :=
  ∀ position, position < wm.count → ∀ (application : Application) (contents : Contents)
    (view : ManagedView), view.OfDisplay wm.width wm.height →
      Succeeds (application.configure contents view (configuration wm position).width
        (configuration wm position).height (configuration wm position).border)

theorem allAccepted_rects (placed : Placed wm) :
    AllAccepted wm ↔ ∀ position, position < wm.count →
      Accepted wm.width wm.height (layoutRect wm position) := by
  refine forall₂_congr fun position isPosition => ?_
  rw [← placed position isPosition]
  rfl

/-- The rectangles of the layout are accepted exactly where the screen holds them. -/
theorem layoutRects_accepted (holds : HoldsOne wm.width wm.height) (room : wm.count ≤ boringWmClientMax) :
    (∀ position, position < wm.count →
      Accepted wm.width wm.height (layoutRect wm position)) ↔
      HoldsAll wm.width wm.height wm.count := by
  unfold HoldsAll
  rcases Nat.lt_or_ge 1 wm.count with several | few
  · rw [accepted_several holds several room]
    omega
  · refine iff_of_true (fun position isPosition => ?_) (Or.inl few)
    grind [accepted_single]

theorem layout_accepted {width height : Nat} {start : WmCore}
    (init : wmInit width height = some start) (calls : List CoreCall) (holds : HoldsOne width height) :
    AllAccepted (run coreStep start calls) ↔
      HoldsAll width height (run coreStep start calls).count := by
  rcases run_placed init calls with ⟨laid, placed⟩
  rcases run_screen init calls with ⟨isWidth, isHeight⟩
  have here : HoldsOne (run coreStep start calls).width (run coreStep start calls).height := by
    rwa [isWidth, isHeight]
  rw [allAccepted_rects placed, layoutRects_accepted here laid.table.room, isWidth, isHeight]

def smallScreen : WmCore where
  width := 640
  height := 480
  count := 0
  focus := 0
  order := fun _ => 0
  clients := fun _ => { clearClient with generation := 1 }

theorem smallScreen_init : wmInit 640 480 = some smallScreen := rfl

theorem layout_accepted_two : AllAccepted (run coreStep smallScreen [.add 7 2 3, .add 8 3 4]) := by
  refine (layout_accepted smallScreen_init [.add 7 2 3, .add 8 3 4] (by decide)).mpr ?_
  rw [show (run coreStep smallScreen [.add 7 2 3, .add 8 3 4]).count = 2 from by decide +kernel]
  decide

/-- Ten clients register. -/
def tenClients : List CoreCall :=
  (List.range 10).map fun index => .add (index + 1) (index + 1) (index + 1)

/-- Ten windows are too many for this screen. -/
theorem tenClients_notAccepted :
    ¬∀ (width height : Nat) (start : WmCore) (calls : List CoreCall),
      wmInit width height = some start → HoldsOne width height →
      AllAccepted (run coreStep start calls) := by
  intro always
  have accepted := always 640 480 smallScreen tenClients smallScreen_init (by decide)
  rcases run_placed smallScreen_init tenClients with ⟨laid, placed⟩
  rcases run_screen smallScreen_init tenClients with ⟨isWidth, isHeight⟩
  have holdsOne : HoldsOne (run coreStep smallScreen tenClients).width
      (run coreStep smallScreen tenClients).height := by
    rw [isWidth, isHeight]
    decide
  rw [allAccepted_rects placed, layoutRects_accepted holdsOne laid.table.room, isWidth, isHeight,
    show (run coreStep smallScreen tenClients).count = 10 from by decide +kernel] at accepted
  revert accepted
  decide

end BoringOS.WindowManager
