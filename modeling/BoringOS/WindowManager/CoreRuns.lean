import Mathlib.Data.List.Dedup
import BoringOS.Library.Run
import BoringOS.WindowManager.ClientSteps

namespace BoringOS.WindowManager

open Library

/-!
# Runs of the window manager's policy

Every call keeps the invariant of the table and leaves the windows in tiles.
The generation of a slot only grows until it is spent, so a token that has been
removed is not valid again.
-/

/-- The calls that the window manager makes on its policy -/
inductive CoreCall where
  | add (endpoint pid surface : Nat)
  | remove (endpoint token : Nat)
  | focusStep (direction : Direction)
  | reorder (direction : Direction)
  | pointer (x y : Nat)
  | key (event : InputEvent)
deriving Repr

def coreStep (wm : WmCore) : CoreCall → WmCore
  | .add endpoint pid surface => (wmAdd wm endpoint pid surface).2.1
  | .remove endpoint token => (wmRemove wm endpoint token).2
  | .focusStep direction => (wmFocusStep wm direction).getD wm
  | .reorder direction => (wmReorder wm direction).getD wm
  | .pointer x y => (wmPointer wm x y).getD wm
  | .key event => (wmKey wm event).2

variable {wm after middle : WmCore}

/-- The ways in which a call changes the policy -/
inductive WmChange (wm : WmCore) : WmCore → Prop where
  | nothing : WmChange wm wm
  | added {slot endpoint pid surface : Nat} (free : FreeFor wm slot endpoint surface) :
      WmChange wm (wmLayout (placedLast wm slot endpoint pid surface))
  | removed {slot token : Nat} (found : wmLookup wm token = some slot) :
      WmChange wm (wmLayout (withoutClient wm slot token))
  | focused {position : Nat} (isPosition : position < wm.count) :
      WmChange wm { wm with focus := (wm.clients (wm.order position)).token }
  | exchanged {first second : Nat} (isFirst : first < wm.count) (isSecond : second < wm.count) :
      WmChange wm
        (wmLayout { wm with order := fun position => wm.order (swapped first second position) })
  | closing (slot : Nat) : WmChange wm (wm.setClient slot { wm.clients slot with closing := true })

theorem wmFocusStep_change (wm : WmCore) (direction : Direction) :
    WmChange wm ((wmFocusStep wm direction).getD wm) := by
  cases stepped : wmFocusStep wm direction with
  | none => exact WmChange.nothing
  | some after =>
    grind [wmFocusStep_some, WmChange.focused]

theorem wmReorder_change (wm : WmCore) (direction : Direction) :
    WmChange wm ((wmReorder wm direction).getD wm) := by
  cases reordered : wmReorder wm direction with
  | none => exact WmChange.nothing
  | some after =>
    grind [wmReorder_some, WmChange.exchanged]

theorem wmPointer_change (wm : WmCore) (x y : Nat) : WmChange wm ((wmPointer wm x y).getD wm) := by
  cases moved : wmPointer wm x y with
  | none => exact WmChange.nothing
  | some after =>
    grind [wmPointer_some, WmChange.focused]

theorem actionOf_snd (wm : WmCore) (action : WmAction) (changed : Option WmCore) :
    (actionOf wm action changed).2 = changed.getD wm := by
  cases changed with
  | none => rfl
  | some after => rfl

theorem wmKey_change (wm : WmCore) (event : InputEvent) : WmChange wm (wmKey wm event).2 := by
  unfold wmKey
  split
  · exact WmChange.nothing
  split
  · grind [actionOf_snd, wmReorder_change, wmFocusStep_change]
  split
  · exact WmChange.nothing
  split
  · exact WmChange.nothing
  split
  · grind [WmChange.nothing, WmChange.closing]
  · exact WmChange.nothing

theorem coreStep_change (wm : WmCore) (call : CoreCall) : WmChange wm (coreStep wm call) := by
  cases call with
  | add endpoint pid surface =>
    rcases wmAdd_cases wm endpoint pid surface with ⟨status, same⟩ | ⟨slot, free, added⟩
    · simp only [coreStep, same]
      exact WmChange.nothing
    · simp only [coreStep, added]
      exact WmChange.added free
  | remove endpoint token =>
    grind [wmRemove_cases, coreStep, WmChange.nothing, WmChange.removed]
  | focusStep direction => exact wmFocusStep_change wm direction
  | reorder direction => exact wmReorder_change wm direction
  | pointer x y => exact wmPointer_change wm x y
  | key event => exact wmKey_change wm event

/-- The table of the clients, with the windows in tiles -/
structure LaidOut (wm : WmCore) : Prop where
  table : Clients wm
  tiled : Tiled wm

/-- A generation that is neither younger nor given back -/
def Older (wm after : WmCore) : Prop :=
  ∀ slot, (after.clients slot).generation = 0 ∨
    ((wm.clients slot).generation ≠ 0 ∧
      (wm.clients slot).generation ≤ (after.clients slot).generation)

theorem Older.trans (first : Older wm middle) (second : Older middle after) : Older wm after := by
  intro slot
  have first := first slot
  have second := second slot
  omega

theorem older_of_same (same : ∀ slot, (after.clients slot).generation = (wm.clients slot).generation) :
    Older wm after := by
  intro slot
  have same := same slot
  omega

theorem generation_wmLayout (table : Clients wm) (slot : Nat) :
    ((wmLayout wm).clients slot).generation = (wm.clients slot).generation := by
  rcases wmLayout_tiled table.width.1 table.height.1 table.room table.injective with ⟨same, -⟩
  exact same.sameTable.generation slot

theorem older_placedLast (wm : WmCore) (slot endpoint pid surface : Nat) :
    Older wm (placedLast wm slot endpoint pid surface) := by
  apply older_of_same
  intro other
  by_cases same : other = slot
  · rw [same, placedLast_client]
    rfl
  · rw [placedLast_other same]

/-- The slot that loses its client gets the next generation, or none any more. -/
theorem older_withoutClient (table : Clients wm) {slot token : Nat}
    (found : wmLookup wm token = some slot) : Older wm (withoutClient wm slot token) := by
  intro other
  by_cases same : other = slot
  · rcases wmLookup_some found with ⟨-, isSlot, active, -⟩
    have live := table.live slot isSlot active
    grind [withoutClient_client, nextGeneration]
  · rw [withoutClient_other same]
    omega

theorem older_wmLayout (table : Clients after) (older : Older wm after) :
    Older wm (wmLayout after) :=
  older.trans (older_of_same (generation_wmLayout table))

/-- A client that is asked to close keeps its rectangle. -/
theorem tiled_closing (tiled : Tiled wm) (slot : Nat) :
    Tiled (wm.setClient slot { wm.clients slot with closing := true }) := by
  have rect : ∀ position, (wm.setClient slot { wm.clients slot with closing := true }).rectAt position =
        wm.rectAt position := by
    intro position
    unfold WmCore.rectAt WmCore.setClient
    by_cases same : wm.order position = slot
    · simp only [same, Function.update_self]
    · simp only [Function.update_of_ne same]
  constructor
  all_goals simp only [rect]
  · exact tiled.onScreen
  · exact tiled.border
  · exact tiled.apart

/-- A change keeps the invariant, and no slot gets a generation again. -/
theorem WmChange.laidOut (change : WmChange wm after) (laid : LaidOut wm) :
    LaidOut after ∧ Older wm after := by
  have table := laid.table
  cases change with
  | nothing => exact ⟨laid, older_of_same fun _ => rfl⟩
  | @added slot endpoint pid surface free =>
    have placed : Clients (placedLast wm slot endpoint pid surface) := table.placedLast free
    exact ⟨⟨placed.wmLayout.1, placed.wmLayout.2⟩,
      older_wmLayout placed (older_placedLast wm slot endpoint pid surface)⟩
  | removed found =>
    have left := table.withoutClient found
    exact ⟨⟨left.wmLayout.1, left.wmLayout.2⟩, older_wmLayout left (older_withoutClient table found)⟩
  | focused isPosition =>
    refine ⟨⟨table.focusOn isPosition, ?_⟩, older_of_same fun _ => rfl⟩
    exact ⟨laid.tiled.onScreen, laid.tiled.border, laid.tiled.apart⟩
  | exchanged isFirst isSecond =>
    have swapped := table.exchange isFirst isSecond
    exact ⟨⟨swapped.wmLayout.1, swapped.wmLayout.2⟩, older_wmLayout swapped (older_of_same fun _ => rfl)⟩
  | closing slot =>
    have same := sameTable_closing wm slot
    exact ⟨⟨table.sameTable same, tiled_closing laid.tiled slot⟩, older_of_same same.generation⟩

theorem coreStep_laidOut (laid : LaidOut wm) (call : CoreCall) :
    LaidOut (coreStep wm call) ∧ Older wm (coreStep wm call) :=
  (coreStep_change wm call).laidOut laid

theorem run_laidOut (laid : LaidOut wm) (calls : List CoreCall) :
    LaidOut (run coreStep wm calls) ∧ Older wm (run coreStep wm calls) := by
  have kept : ∀ state call, LaidOut state ∧ Older wm state →
      LaidOut (coreStep state call) ∧ Older wm (coreStep state call) := by
    rintro state call ⟨laid, older⟩
    have stepped := coreStep_laidOut laid call
    exact ⟨stepped.1, older.trans stepped.2⟩
  exact run_invariant kept calls wm ⟨laid, older_of_same fun _ => rfl⟩

/-- A table without clients -/
theorem laidOut_of_none (width : 0 < wm.width ∧ wm.width ≤ boringDisplayMaxWidth)
    (height : 0 < wm.height ∧ wm.height ≤ boringDisplayMaxHeight) (count : wm.count = 0)
    (focus : wm.focus = 0) (inactive : ∀ slot, (wm.clients slot).active = false)
    (generation : ∀ slot, (wm.clients slot).generation = 1) : LaidOut wm := by
  have noPosition : ∀ position, ¬ position < wm.count := by
    intro position isPosition
    rw [count] at isPosition
    exact Nat.not_lt_zero _ isPosition
  have noClient : ∀ slot, (wm.clients slot).active ≠ true := by
    intro slot active
    rw [inactive slot] at active
    exact Bool.false_ne_true active
  have bound : ∀ slot, (wm.clients slot).generation ≤ wmGenerationMax := by
    intro slot
    rw [generation slot]
    exact Nat.succ_le_of_lt (by decide)
  constructor
  · exact
      { width := width
        height := height
        room := by
          rw [count]
          exact Nat.zero_le _
        isSlot := fun position isPosition => absurd isPosition (noPosition position)
        isActive := fun position isPosition => absurd isPosition (noPosition position)
        injective := fun position _ isPosition => absurd isPosition (noPosition position)
        covered := fun slot _ active => absurd active (noClient slot)
        token := fun slot _ active => absurd active (noClient slot)
        live := fun slot _ active => absurd active (noClient slot)
        generation := fun slot _ => bound slot
        endpoint := fun slot _ _ _ active => absurd active (noClient slot)
        surface := fun slot _ _ _ active => absurd active (noClient slot)
        noFocus := fun _ => focus
        focus := fun some => absurd count some }
  · exact
      { onScreen := fun position isPosition => absurd isPosition (noPosition position)
        border := fun position isPosition => absurd isPosition (noPosition position)
        apart := fun position _ isPosition => absurd isPosition (noPosition position) }

/-- A policy that has just been set up has no clients. -/
theorem wmInit_laidOut {width height : Nat} (init : wmInit width height = some wm) :
    LaidOut wm := by
  unfold wmInit at init
  by_cases refused : width = 0 ∨ height = 0 ∨ boringDisplayMaxWidth < width ∨ boringDisplayMaxHeight < height
  · rw [if_pos refused] at init
    cases init
  rw [if_neg refused] at init
  have isWidth : 0 < width ∧ width ≤ boringDisplayMaxWidth := by omega
  have isHeight : 0 < height ∧ height ≤ boringDisplayMaxHeight := by omega
  cases init
  exact laidOut_of_none isWidth isHeight rfl rfl (fun _ => rfl) (fun _ => rfl)

/-- What holds of the policy after every call -/
structure WmSound (wm : WmCore) : Prop where
  order : ((List.range wm.count).map wm.order).Perm
    ((List.range boringWmClientMax).filter fun slot => (wm.clients slot).active)
  token : ∀ slot other, slot < boringWmClientMax → other < boringWmClientMax →
    (wm.clients slot).active = true → (wm.clients other).active = true →
    (wm.clients slot).token = (wm.clients other).token → slot = other
  endpoint : ∀ slot other, slot < boringWmClientMax → other < boringWmClientMax →
    (wm.clients slot).active = true → (wm.clients other).active = true →
    (wm.clients slot).endpoint = (wm.clients other).endpoint → slot = other
  surface : ∀ slot other, slot < boringWmClientMax → other < boringWmClientMax →
    (wm.clients slot).active = true → (wm.clients other).active = true →
    (wm.clients slot).surface = (wm.clients other).surface → slot = other
  noFocus : wm.focus = 0 ↔ ∀ slot, slot < boringWmClientMax → (wm.clients slot).active = false
  focus : wm.focus ≠ 0 → ∃ slot, wmLookup wm wm.focus = some slot
  tiled : Tiled wm
  noWrap : wm.count ≠ 0 → SplitExact wm

theorem Clients.order_perm (table : Clients wm) :
    ((List.range wm.count).map wm.order).Perm
      ((List.range boringWmClientMax).filter fun slot => (wm.clients slot).active) := by
  apply (List.perm_ext_iff_of_nodup ?_ (List.nodup_range.filter _)).mpr
  · intro slot
    rw [List.mem_map, List.mem_filter, List.mem_range]
    constructor
    · rintro ⟨position, isPosition, rfl⟩
      rw [List.mem_range] at isPosition
      exact ⟨table.isSlot position isPosition, table.isActive position isPosition⟩
    · rintro ⟨isSlot, active⟩
      rcases table.covered slot isSlot active with ⟨position, isPosition, placed⟩
      grind
  · apply List.Nodup.map_on ?_ List.nodup_range
    intro i isI j isJ same
    exact table.injective i j (List.mem_range.mp isI) (List.mem_range.mp isJ) same

theorem Clients.wmLookup_token (table : Clients wm) {slot : Nat}
    (isSlot : slot < boringWmClientMax) (active : (wm.clients slot).active = true) :
    wmLookup wm (wm.clients slot).token = some slot := by
  have low : (wm.clients slot).token &&& 255 = slot + 1 := by
    rw [table.token slot isSlot active]
    exact tokenOf_low _ isSlot
  unfold wmLookup
  grind

theorem Clients.token_ne_zero (table : Clients wm) {slot : Nat}
    (isSlot : slot < boringWmClientMax) (active : (wm.clients slot).active = true) :
    (wm.clients slot).token ≠ 0 := by
  rw [table.token slot isSlot active, tokenOf_eq _ isSlot]
  omega

theorem LaidOut.sound (laid : LaidOut wm) : WmSound wm where
  order := laid.table.order_perm
  token _ _ isSlot isOther active active' same :=
    laid.table.token_unique isSlot isOther active active' same
  endpoint := laid.table.endpoint
  surface := laid.table.surface
  noFocus := by
    constructor
    · intro none slot isSlot
      rw [Bool.eq_false_iff]
      intro active
      rcases laid.table.covered slot isSlot active with ⟨position, isPosition, -⟩
      rcases laid.table.focus (Nat.ne_of_gt (Nat.zero_lt_of_lt isPosition)) with
        ⟨focused, isFocused, names⟩
      exact laid.table.token_ne_zero (laid.table.isSlot focused isFocused)
        (laid.table.isActive focused isFocused) (names.symm.trans none)
    · intro inactive
      apply laid.table.noFocus
      by_contra some
      have isFirst := Nat.pos_of_ne_zero some
      have active := laid.table.isActive 0 isFirst
      rw [inactive _ (laid.table.isSlot 0 isFirst)] at active
      exact Bool.false_ne_true active
  focus isFocus := by
    have some : wm.count ≠ 0 := fun none => isFocus (laid.table.noFocus none)
    rcases laid.table.focus some with ⟨position, isPosition, names⟩
    refine ⟨wm.order position, ?_⟩
    rw [names]
    exact laid.table.wmLookup_token (laid.table.isSlot position isPosition)
      (laid.table.isActive position isPosition)
  tiled := laid.tiled
  noWrap some := splitExact laid.table.width.1 laid.table.height.1 (Nat.pos_of_ne_zero some)

theorem wmLookup_passed (table : Clients wm) (table' : Clients after) {slot token : Nat}
    (found : wmLookup wm token = some slot) (passed : (after.clients slot).generation = 0 ∨
      (wm.clients slot).generation < (after.clients slot).generation) :
    wmLookup after token = none := by
  rcases wmLookup_some found with ⟨isLow, isSlot, active, carries⟩
  cases found' : wmLookup after token with
  | none => rfl
  | some slot' =>
    rcases wmLookup_some found' with ⟨isLow', isSlot', active', carries'⟩
    have same : slot' = slot := isLow'.trans isLow.symm
    rw [same] at isSlot' active' carries'
    have live := table'.live slot isSlot' active'
    have equal : tokenOf (wm.clients slot).generation slot =
        tokenOf (after.clients slot).generation slot := by
      rw [← table.token slot isSlot active, ← table'.token slot isSlot' active', carries, carries']
    grind [tokenOf_high]

theorem removed_invalid (laid : LaidOut wm) {endpoint token : Nat}
    (removed : (wmRemove wm endpoint token).1 = .ok) (calls : List CoreCall) :
    wmLookup (run coreStep (coreStep wm (.remove endpoint token)) calls) token = none := by
  rcases wmRemove_cases wm endpoint token with ⟨refused, -⟩ | ⟨slot, found, isAfter⟩
  · exact absurd removed refused
  have left := laid.table.withoutClient found
  have stepped := (coreStep_laidOut laid (.remove endpoint token)).1
  have ran := run_laidOut stepped calls
  apply wmLookup_passed laid.table ran.1.table found
  have older := ran.2 slot
  have next : ((coreStep wm (.remove endpoint token)).clients slot).generation =
      nextGeneration (wm.clients slot).generation := by
    simp only [coreStep, isAfter]
    rw [generation_wmLayout left, withoutClient_client]
  grind [nextGeneration]

/-- From every screen on, every run of the policy keeps its guarantees, and a
token that has been removed is invalid from then on. -/
theorem wmCore_sound {width height : Nat} {start : WmCore}
    (init : wmInit width height = some start) (calls : List CoreCall) :
    WmSound (run coreStep start calls) ∧
      ∀ before endpoint token later, calls = before ++ .remove endpoint token :: later →
        (wmRemove (run coreStep start before) endpoint token).1 = .ok →
        wmLookup (run coreStep start calls) token = none := by
  have atStart := wmInit_laidOut init
  refine ⟨(run_laidOut atStart calls).1.sound, ?_⟩
  simp_all [run_append, run_cons, removed_invalid, run_laidOut]

theorem wmCore_sound_two :
    ∃ start, wmInit 640 480 = some start ∧
      WmSound (run coreStep start [.add 7 2 3, .add 8 3 4, .remove 7 257, .add 7 2 3]) ∧
      wmLookup (run coreStep start [.add 7 2 3, .add 8 3 4, .remove 7 257, .add 7 2 3]) 257 = none := by
  have sound := wmCore_sound (rfl : wmInit 640 480 = some _) [.add 7 2 3, .add 8 3 4, .remove 7 257, .add 7 2 3]
  exact ⟨_, rfl, sound.1, sound.2 [.add 7 2 3, .add 8 3 4] 7 257 [.add 7 2 3] rfl (by decide +kernel)⟩

end BoringOS.WindowManager
