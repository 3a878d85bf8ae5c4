import BoringOS.Library.Loops
import BoringOS.Terminal.TerminalRuns

namespace BoringOS.Terminal

open Library BoringTerminal

/-!
# Resizing a managed view

The size of the grid in a view (`boring_terminal_geometry`), the bounds that
`boring_terminal_render` checks before it draws, and the `configure` functions of
`user/boring-terminal/main.c`, `user/boring-edit/main.c` and `user/boring-files/main.c`.
Drawing into the buffer is left out.
-/

def boringTerminalMarginX : Nat := 4
def boringTerminalMarginY : Nat := 4
def boringTerminalCellWidth : Nat := 6
def boringTerminalCellHeight : Nat := 8

/-- `boring_terminal_geometry`: the columns and rows of a view -/
def boringTerminalGeometry (width height : Nat) : Option (Nat × Nat) :=
  if width ≤ 2 * boringTerminalMarginX ∨ height ≤ 2 * boringTerminalMarginY then none
  else
    let cols := (width - 2 * boringTerminalMarginX) / boringTerminalCellWidth
    let rows := (height - 2 * boringTerminalMarginY) / boringTerminalCellHeight
    if cols = 0 ∨ rows = 0 then none
    else some (min cols boringTerminalMaxCols, min rows boringTerminalMaxRows)

theorem boringTerminalGeometry_valid {width height : Nat} {size : Nat × Nat}
    (isSize : boringTerminalGeometry width height = some size) : dimensionsValid size.1 size.2 := by
  unfold boringTerminalGeometry at isSize
  simp only [Option.ite_none_left_eq_some, Option.some.injEq, not_or] at isSize
  rcases isSize with ⟨_, ⟨someCols, someRows⟩, rfl⟩
  refine ⟨?_, ?_, Nat.min_le_right .., Nat.min_le_right ..⟩
  · exact Nat.ne_of_gt (Nat.lt_min.mpr ⟨Nat.pos_of_ne_zero someCols, by decide⟩)
  · exact Nat.ne_of_gt (Nat.lt_min.mpr ⟨Nat.pos_of_ne_zero someRows, by decide⟩)

/-- What the applications keep of their window: the grid, and the surface that it is drawn
into, which has the size of the display -/
structure ManagedView where
  terminal : BoringTerminal
  surfaceWidth : Nat
  surfaceHeight : Nat
  stride : Nat
  viewWidth : Nat
  viewHeight : Nat
  dimensions : dimensionsValid terminal.cols terminal.rows

/-- The check of `boring_terminal_render`, for a buffer that is mapped -/
def renderBounds (terminal : BoringTerminal)
    (surfaceWidth surfaceHeight stride viewWidth viewHeight : Nat) : Bool :=
  surfaceWidth != 0 && surfaceHeight != 0 && decide (surfaceWidth * 4 ≤ stride) &&
    decide (viewWidth ≤ surfaceWidth) && decide (viewHeight ≤ surfaceHeight) &&
    boringTerminalGeometry viewWidth viewHeight == some (terminal.cols, terminal.rows)

/-- What an application puts into the cells before the grid is drawn.  The terminal shows
its cells as they are, while the editor and the file browser write their view.  The size of
the grid stays. -/
structure Contents where
  write : BoringTerminal → BoringTerminal

def Contents.shown (contents : Contents) (terminal : BoringTerminal) : BoringTerminal :=
  { contents.write terminal with
    cols := terminal.cols
    rows := terminal.rows }

/-- The reasons that an application ends with -/
inductive ViewFailure where
  | configureGeometry
  | terminalResize
  | renderBounds
deriving DecidableEq, Repr

theorem boringTerminalResize_valid {terminal : BoringTerminal} {cols rows : Nat}
    (dimensions : dimensionsValid terminal.cols terminal.rows) (valid : dimensionsValid cols rows) :
    (terminal.boringTerminalResize cols rows).1 = true ∧
      (terminal.boringTerminalResize cols rows).2.cols = cols ∧
      (terminal.boringTerminalResize cols rows).2.rows = rows := by
  rcases heightened_same terminal cols rows with ⟨_, _, isSame⟩
  have allowed : ¬(¬dimensionsValid cols rows ∨ ¬dimensionsValid terminal.cols terminal.rows) :=
    not_or.mpr ⟨not_not_intro valid, not_not_intro dimensions⟩
  rw [boringTerminalResize, if_neg allowed]
  refine ⟨rfl, ?_, ?_⟩
  · change (heightened terminal cols rows).cols = cols
    rw [isSame]
    rfl
  · change (heightened terminal cols rows).rows = rows
    rw [isSame]
    rfl

/-- A resize that is refused changes nothing. -/
theorem boringTerminalResize_dimensions {terminal : BoringTerminal} (cols rows : Nat)
    (dimensions : dimensionsValid terminal.cols terminal.rows) :
    dimensionsValid (terminal.boringTerminalResize cols rows).2.cols
      (terminal.boringTerminalResize cols rows).2.rows := by
  grind [boringTerminalResize_valid, boringTerminalResize]

/-- `configure`, for an application that needs a number of rows: the view with its new size -/
def configureView (minimumRows : Nat) (contents : Contents) (view : ManagedView)
    (width height border : Nat) : Except ViewFailure ManagedView :=
  if width < 2 * border ∨ height < 2 * border then .error .configureGeometry
  else
    match boringTerminalGeometry (width - 2 * border) (height - 2 * border) with
    | none => .error .terminalResize
    | some (cols, rows) =>
      if rows < minimumRows ∨ (view.terminal.boringTerminalResize cols rows).1 = false then
        .error .terminalResize
      else if renderBounds
          (contents.shown (view.terminal.boringTerminalResize cols rows).2) view.surfaceWidth
          view.surfaceHeight view.stride (width - 2 * border) (height - 2 * border) = false then
        .error .renderBounds
      else
        .ok
          { view with
            terminal := contents.shown (view.terminal.boringTerminalResize cols rows).2
            viewWidth := width - 2 * border
            viewHeight := height - 2 * border
            dimensions := boringTerminalResize_dimensions cols rows view.dimensions }

/-- The applications that the window manager manages -/
inductive Application where
  | terminal
  | editor
  | files
deriving DecidableEq, Repr

/-- `configure` of each application -/
def Application.configure (application : Application) (contents : Contents) (view : ManagedView)
    (width height border : Nat) : Except ViewFailure ManagedView :=
  match application with
  | .terminal => configureView 0 ⟨id⟩ view width height border
  | .editor => configureView 4 contents view width height border
  | .files => configureView 4 contents view width height border

/-- A view of a display of some size -/
structure ManagedView.OfDisplay (view : ManagedView) (width height : Nat) : Prop where
  isWidth : view.surfaceWidth = width
  isHeight : view.surfaceHeight = height
  isStride : view.stride = width * 4

theorem boringTerminalGeometry_eq {width height : Nat} (cols : 14 ≤ width) (rows : 16 ≤ height) :
    boringTerminalGeometry width height =
      some (min ((width - 8) / 6) boringTerminalMaxCols, min ((height - 8) / 8) boringTerminalMaxRows) := by
  unfold boringTerminalGeometry boringTerminalMarginX boringTerminalMarginY
    boringTerminalCellWidth boringTerminalCellHeight
  grind

theorem boringTerminalGeometry_none {width height : Nat} (small : width < 14 ∨ height < 16) :
    boringTerminalGeometry width height = none := by
  unfold boringTerminalGeometry boringTerminalMarginX boringTerminalMarginY
    boringTerminalCellWidth boringTerminalCellHeight
  grind

/-- A view inside the display is accepted exactly where the grid is large enough. -/
theorem configureView_ok {minimumRows displayWidth displayHeight width height border : Nat}
    (contents : Contents) {view : ManagedView} (ofDisplay : view.OfDisplay displayWidth displayHeight)
    (frame : 2 * border ≤ width ∧ 2 * border ≤ height)
    (inside : width ≤ displayWidth ∧ height ≤ displayHeight) (few : minimumRows ≤ boringTerminalMaxRows) :
    Succeeds (configureView minimumRows contents view width height border) ↔
      14 ≤ width - 2 * border ∧ 16 ≤ height - 2 * border ∧ minimumRows ≤ (height - 2 * border - 8) / 8 := by
  unfold configureView
  rw [if_neg (by omega)]
  by_cases large : 14 ≤ width - 2 * border ∧ 16 ≤ height - 2 * border
  · have isSize := boringTerminalGeometry_eq large.1 large.2
    have valid := boringTerminalGeometry_valid isSize
    rcases boringTerminalResize_valid view.dimensions valid with ⟨taken, takenCols, takenRows⟩
    simp only [isSize]
    by_cases enough : minimumRows ≤ (height - 2 * border - 8) / 8
    · have accepted : ¬(min ((height - 2 * border - 8) / 8) boringTerminalMaxRows < minimumRows ∨
          (view.terminal.boringTerminalResize
            (min ((width - 2 * border - 8) / 6) boringTerminalMaxCols)
            (min ((height - 2 * border - 8) / 8) boringTerminalMaxRows)).1 = false) := by
        rw [taken, not_or, Nat.not_lt]
        exact ⟨Nat.le_min.mpr ⟨enough, few⟩, (by decide)⟩
      have bounds : renderBounds
          (contents.shown (view.terminal.boringTerminalResize
            (min ((width - 2 * border - 8) / 6) boringTerminalMaxCols)
            (min ((height - 2 * border - 8) / 8) boringTerminalMaxRows)).2) view.surfaceWidth
          view.surfaceHeight view.stride (width - 2 * border) (height - 2 * border) = true := by
        have sameCols : (contents.shown (view.terminal.boringTerminalResize
            (min ((width - 2 * border - 8) / 6) boringTerminalMaxCols)
            (min ((height - 2 * border - 8) / 8) boringTerminalMaxRows)).2).cols = _ := takenCols
        have sameRows : (contents.shown (view.terminal.boringTerminalResize
            (min ((width - 2 * border - 8) / 6) boringTerminalMaxCols)
            (min ((height - 2 * border - 8) / 8) boringTerminalMaxRows)).2).rows = _ := takenRows
        rw [renderBounds, sameCols, sameRows, isSize, ofDisplay.isWidth, ofDisplay.isHeight,
          ofDisplay.isStride]
        simp only [Bool.and_eq_true, bne_iff_ne, ne_eq, decide_eq_true_eq, beq_self_eq_true, and_true]
        omega
      rw [if_neg accepted, if_neg (by rw [bounds]; decide)]
      simp [*]
    · have refused : min ((height - 2 * border - 8) / 8) boringTerminalMaxRows < minimumRows :=
        Nat.lt_of_le_of_lt (Nat.min_le_left ..) (Nat.lt_of_not_le enough)
      simp [*]
  · rw [boringTerminalGeometry_none (by omega)]
    exact iff_of_false (succeeds_error _) fun all => large ⟨all.1, all.2.1⟩

end BoringOS.Terminal
