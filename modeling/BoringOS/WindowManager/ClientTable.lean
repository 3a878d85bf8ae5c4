import BoringOS.WindowManager.Layout

namespace BoringOS.WindowManager

/-!
# The table of the clients

`Clients` says what the table, the order of the windows and the focus have to
satisfy before the windows are laid out.  The layout stores rectangles only, so
it keeps all of this and puts the windows into tiles.
-/

/-- The token that `wm_add` gives to a slot -/
def tokenOf (generation slot : Nat) : Nat := generation <<< 8 ||| (slot + 1)

theorem tokenOf_eq (generation : Nat) {slot : Nat} (isSlot : slot < boringWmClientMax) :
    tokenOf generation slot = generation * 256 + (slot + 1) := by
  grind [boringWmClientMax, tokenOf, Nat.shiftLeft_add_eq_or_of_lt, Nat.shiftLeft_eq]

theorem tokenOf_low (generation : Nat) {slot : Nat} (isSlot : slot < boringWmClientMax) :
    tokenOf generation slot &&& 255 = slot + 1 := by
  rw [tokenOf_eq generation isSlot, Nat.and_two_pow_sub_one_eq_mod _ 8]
  unfold boringWmClientMax at isSlot
  omega

theorem tokenOf_high (generation : Nat) {slot : Nat} (isSlot : slot < boringWmClientMax) :
    tokenOf generation slot / 256 = generation := by
  grind [tokenOf_eq, boringWmClientMax]

/-- The table of the clients, the order of their windows and the focus -/
structure Clients (wm : WmCore) : Prop where
  width : 0 < wm.width ∧ wm.width ≤ boringDisplayMaxWidth
  height : 0 < wm.height ∧ wm.height ≤ boringDisplayMaxHeight
  room : wm.count ≤ boringWmClientMax
  isSlot : ∀ position, position < wm.count → wm.order position < boringWmClientMax
  isActive : ∀ position, position < wm.count → (wm.clients (wm.order position)).active = true
  injective : ∀ i j, i < wm.count → j < wm.count → wm.order i = wm.order j → i = j
  covered : ∀ slot, slot < boringWmClientMax → (wm.clients slot).active = true →
    ∃ position, position < wm.count ∧ wm.order position = slot
  token : ∀ slot, slot < boringWmClientMax → (wm.clients slot).active = true →
    (wm.clients slot).token = tokenOf (wm.clients slot).generation slot
  live : ∀ slot, slot < boringWmClientMax → (wm.clients slot).active = true →
    (wm.clients slot).generation ≠ 0
  generation : ∀ slot, slot < boringWmClientMax → (wm.clients slot).generation ≤ wmGenerationMax
  endpoint : ∀ slot other, slot < boringWmClientMax → other < boringWmClientMax →
    (wm.clients slot).active = true → (wm.clients other).active = true →
    (wm.clients slot).endpoint = (wm.clients other).endpoint → slot = other
  surface : ∀ slot other, slot < boringWmClientMax → other < boringWmClientMax →
    (wm.clients slot).active = true → (wm.clients other).active = true →
    (wm.clients slot).surface = (wm.clients other).surface → slot = other
  noFocus : wm.count = 0 → wm.focus = 0
  focus : wm.count ≠ 0 →
    ∃ position, position < wm.count ∧ wm.focus = (wm.clients (wm.order position)).token

variable {wm after : WmCore}

/-- Two states with the same table, whatever else their clients hold. -/
structure SameTable (wm after : WmCore) : Prop where
  width : after.width = wm.width
  height : after.height = wm.height
  count : after.count = wm.count
  focus : after.focus = wm.focus
  order : after.order = wm.order
  active : ∀ slot, (after.clients slot).active = (wm.clients slot).active
  token : ∀ slot, (after.clients slot).token = (wm.clients slot).token
  generation : ∀ slot, (after.clients slot).generation = (wm.clients slot).generation
  endpoint : ∀ slot, (after.clients slot).endpoint = (wm.clients slot).endpoint
  surface : ∀ slot, (after.clients slot).surface = (wm.clients slot).surface

theorem SameButRects.sameTable (same : SameButRects wm after) : SameTable wm after := by
  refine ⟨same.width, same.height, same.count, same.focus, same.order, ?_, ?_, ?_, ?_, ?_⟩
  all_goals
    intro slot
    rcases same.clients slot with ⟨rect, stored⟩
    rw [stored]

/-- A client that is asked to close keeps its place and its names. -/
theorem sameTable_closing (wm : WmCore) (slot : Nat) :
    SameTable wm (wm.setClient slot { wm.clients slot with closing := true }) := by
  have kept : ∀ other, ∃ closing, (wm.setClient slot { wm.clients slot with closing := true }).clients other =
        { wm.clients other with closing := closing } := by
    intro other
    by_cases same : other = slot
    · rw [same]
      exact ⟨true, Function.update_self ..⟩
    · exact ⟨(wm.clients other).closing, Function.update_of_ne same ..⟩
  refine ⟨rfl, rfl, rfl, rfl, rfl, ?_, ?_, ?_, ?_, ?_⟩
  all_goals
    intro other
    rcases kept other with ⟨closing, stored⟩
    rw [stored]

theorem Clients.sameTable (table : Clients wm) (same : SameTable wm after) : Clients after := by
  constructor
  all_goals simp only [same.width, same.height, same.count, same.focus, same.order, same.active,
    same.token, same.generation, same.endpoint, same.surface]
  · exact table.width
  · exact table.height
  · exact table.room
  · exact table.isSlot
  · exact table.isActive
  · exact table.injective
  · exact table.covered
  · exact table.token
  · exact table.live
  · exact table.generation
  · exact table.endpoint
  · exact table.surface
  · exact table.noFocus
  · exact table.focus

/-- The layout keeps the table and puts the windows into tiles. -/
theorem Clients.wmLayout (table : Clients wm) : Clients (wmLayout wm) ∧ Tiled (wmLayout wm) := by
  rcases wmLayout_tiled table.width.1 table.height.1 table.room table.injective with ⟨same, tiled⟩
  exact ⟨table.sameTable same.sameTable, tiled⟩

theorem wmLookup_some {token slot : Nat} (found : wmLookup wm token = some slot) :
    slot = (token &&& 255) - 1 ∧ slot < boringWmClientMax ∧ (wm.clients slot).active = true ∧
      (wm.clients slot).token = token := by
  unfold wmLookup at found
  by_cases outside : token &&& 255 = 0 ∨ boringWmClientMax < token &&& 255
  · rw [if_pos outside] at found
    cases found
  rw [if_neg outside] at found
  by_cases carried : (wm.clients ((token &&& 255) - 1)).active = true ∧
      (wm.clients ((token &&& 255) - 1)).token = token
  · grind
  simp_all

theorem Clients.token_unique (table : Clients wm) {slot other : Nat}
    (isSlot : slot < boringWmClientMax) (isOther : other < boringWmClientMax)
    (active : (wm.clients slot).active = true) (active' : (wm.clients other).active = true)
    (same : (wm.clients slot).token = (wm.clients other).token) : slot = other := by
  rw [table.token slot isSlot active, table.token other isOther active'] at same
  grind [tokenOf_low]

/-- The search for a token ends at a position that carries it, if there is one. -/
theorem positionOf_found {token position : Nat} (isPosition : position < wm.count)
    (carries : (wm.clients (wm.order position)).token = token) :
    positionOf wm token < wm.count ∧
      (wm.clients (wm.order (positionOf wm token))).token = token := by
  unfold positionOf
  cases search : (List.range wm.count).find? fun index =>
      (wm.clients (wm.order index)).token == token with
  | none =>
    simp_all
  | some index =>
    simp_all

/-- The focus moves to a window of the order. -/
theorem Clients.focusOn (table : Clients wm) {position : Nat} (isPosition : position < wm.count) :
    Clients { wm with focus := (wm.clients (wm.order position)).token } :=
  { table with
    noFocus := fun none => absurd none (Nat.ne_of_gt (Nat.zero_lt_of_lt isPosition))
    focus := fun _ => ⟨position, isPosition, rfl⟩ }

theorem wmFocusStep_some {direction : Direction} (stepped : wmFocusStep wm direction = some after) :
    ∃ position, position < wm.count ∧
      after = { wm with focus := (wm.clients (wm.order position)).token } := by
  unfold wmFocusStep at stepped
  by_cases none : wm.count = 0 ∨ wm.count ≤ focusedPosition wm
  · grind
  rw [if_neg none] at stepped
  have some : 0 < wm.count := by omega
  cases stepped
  cases direction with
  | forward => exact ⟨_, Nat.mod_lt _ some, rfl⟩
  | backward => exact ⟨_, Nat.mod_lt _ some, rfl⟩

theorem wmPointer_some {x y : Nat} (moved : wmPointer wm x y = some after) :
    ∃ position, position < wm.count ∧
      after = { wm with focus := (wm.clients (wm.order position)).token } := by
  rcases Option.map_eq_some_iff.mp moved with ⟨position, search, isAfter⟩
  grind

/-- Two positions exchanged -/
def swapped (first second position : Nat) : Nat :=
  if position = second then first else if position = first then second else position

theorem swapped_involutive (first second position : Nat) :
    swapped first second (swapped first second position) = position := by
  unfold swapped
  split
  · simp [*]
  simp_all

theorem swapped_lt {first second position count : Nat} (isFirst : first < count)
    (isSecond : second < count) (isPosition : position < count) :
    swapped first second position < count := by
  unfold swapped
  grind

theorem Clients.exchange (table : Clients wm) {first second : Nat} (isFirst : first < wm.count)
    (isSecond : second < wm.count) :
    Clients { wm with order := fun position => wm.order (swapped first second position) } :=
  { table with
    isSlot := fun position isPosition => table.isSlot _ (swapped_lt isFirst isSecond isPosition)
    isActive := fun position isPosition => table.isActive _ (swapped_lt isFirst isSecond isPosition)
    injective := by
      intro i j isI isJ same
      have equal := table.injective _ _ (swapped_lt isFirst isSecond isI) (swapped_lt isFirst isSecond isJ) same
      grind [swapped_involutive]
    covered := by
      intro slot isSlot active
      rcases table.covered slot isSlot active with ⟨position, isPosition, placed⟩
      refine ⟨swapped first second position, swapped_lt isFirst isSecond isPosition, ?_⟩
      grind [swapped_involutive]
    focus := by
      intro some
      rcases table.focus some with ⟨position, isPosition, focused⟩
      refine ⟨swapped first second position, swapped_lt isFirst isSecond isPosition, ?_⟩
      grind [swapped_involutive] }

/-- The stores of `wm_reorder` exchange two windows. -/
theorem order_exchanged (order : Nat → Nat) (first second : Nat) :
    Function.update (Function.update order first (order second)) second (order first) =
      fun position => order (swapped first second position) := by
  funext position
  unfold swapped
  grind

theorem wmReorder_some {direction : Direction} (reordered : wmReorder wm direction = some after) :
    ∃ first second, first < wm.count ∧ second < wm.count ∧
      after = wmLayout
        { wm with order := fun position => wm.order (swapped first second position) } := by
  unfold wmReorder at reordered
  simp only at reordered
  by_cases refused : wm.count < 2 ∨ wm.count ≤ focusedPosition wm ∨
      (direction = .backward ∧ focusedPosition wm = 0) ∨
        (direction = .forward ∧ focusedPosition wm + 1 = wm.count)
  · grind
  rw [if_neg refused, order_exchanged] at reordered
  cases reordered
  grind

end BoringOS.WindowManager
