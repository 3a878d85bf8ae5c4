import BoringOS.WindowManager.ClientTable

namespace BoringOS.WindowManager

/-!
# Clients that come and go

`wm_add` puts a client into a free slot and its window at the end of the order;
`wm_remove` closes the gap in the order and retires the generation of the slot.
Both keep the invariant of the table.
-/

variable {wm : WmCore}

/-- A client that has just registered in a free slot -/
def addedClient (wm : WmCore) (slot endpoint pid surface : Nat) : WmClient :=
  { wm.clients slot with
    endpoint := endpoint
    peerPid := pid
    surface := surface
    token := tokenOf (wm.clients slot).generation slot
    active := true
    closing := false }

/-- The table with a new client, whose window comes last and has the focus -/
def placedLast (wm : WmCore) (slot endpoint pid surface : Nat) : WmCore :=
  { wm.setClient slot (addedClient wm slot endpoint pid surface) with
    order := Function.update wm.order wm.count slot
    count := wm.count + 1
    focus := tokenOf (wm.clients slot).generation slot }

/-- A slot that `wm_add` may take -/
structure FreeFor (wm : WmCore) (slot endpoint surface : Nat) : Prop where
  room : wm.count < boringWmClientMax
  isSlot : slot < boringWmClientMax
  free : (wm.clients slot).active = false
  live : (wm.clients slot).generation ≠ 0
  endpoint : ∀ other, other < boringWmClientMax → (wm.clients other).active = true →
    (wm.clients other).endpoint ≠ endpoint
  surface : ∀ other, other < boringWmClientMax → (wm.clients other).active = true →
    (wm.clients other).surface ≠ surface

theorem wmAdd_cases (wm : WmCore) (endpoint pid surface : Nat) :
    (∃ status, wmAdd wm endpoint pid surface = (status, wm, 0)) ∨
      ∃ slot, FreeFor wm slot endpoint surface ∧ wmAdd wm endpoint pid surface =
          (.ok, wmLayout (placedLast wm slot endpoint pid surface),
            tokenOf (wm.clients slot).generation slot) := by
  unfold wmAdd
  by_cases invalid : endpoint = 0 ∨ pid = 0 ∨ surface = 0
  · simp [*]
  rw [if_neg invalid]
  cases taken : (List.range boringWmClientMax).any fun index =>
      (wm.clients index).active &&
        ((wm.clients index).endpoint == endpoint || (wm.clients index).surface == surface) with
  | true =>
    simp
  | false =>
    have unused : ∀ other, other < boringWmClientMax → (wm.clients other).active = true →
        (wm.clients other).endpoint ≠ endpoint ∧ (wm.clients other).surface ≠ surface := by
      intro other isSlot active
      have notTaken := List.any_eq_false.mp taken other (List.mem_range.mpr isSlot)
      simpa only [active, Bool.true_and, Bool.or_eq_true, beq_iff_eq, not_or] using notTaken
    by_cases full : boringWmClientMax ≤ wm.count
    · simp [*]
    rw [if_neg full]
    cases search : (List.range boringWmClientMax).find? fun index =>
        !(wm.clients index).active && (wm.clients index).generation != 0 with
    | none => exact Or.inl ⟨_, rfl⟩
    | some slot =>
      have usable := List.find?_some search
      simp only [Bool.and_eq_true, Bool.not_eq_true', bne_iff_ne] at usable
      refine Or.inr ⟨slot, ?_, rfl⟩
      exact
        { room := Nat.lt_of_not_le full
          isSlot := List.mem_range.mp (List.mem_of_find?_eq_some search)
          free := usable.1
          live := usable.2
          endpoint := fun other isSlot active => (unused other isSlot active).1
          surface := fun other isSlot active => (unused other isSlot active).2 }

theorem placedLast_client (wm : WmCore) (slot endpoint pid surface : Nat) :
    (placedLast wm slot endpoint pid surface).clients slot =
      addedClient wm slot endpoint pid surface := Function.update_self ..

theorem placedLast_other {slot endpoint pid surface other : Nat} (different : other ≠ slot) :
    (placedLast wm slot endpoint pid surface).clients other = wm.clients other :=
  Function.update_of_ne different ..

theorem placedLast_last (wm : WmCore) (slot endpoint pid surface : Nat) :
    (placedLast wm slot endpoint pid surface).order wm.count = slot := Function.update_self ..

theorem placedLast_earlier {slot endpoint pid surface position : Nat} (earlier : position < wm.count) :
    (placedLast wm slot endpoint pid surface).order position = wm.order position :=
  Function.update_of_ne (Nat.ne_of_lt earlier) ..

section Add

variable {slot endpoint pid surface : Nat} (table : Clients wm) (free : FreeFor wm slot endpoint surface)

include table free

theorem free_notPlaced {position : Nat} (isPosition : position < wm.count) :
    wm.order position ≠ slot := by
  intro placed
  have active := table.isActive position isPosition
  rw [placed, free.free] at active
  exact Bool.false_ne_true active

/-- A new window keeps the table. -/
theorem Clients.placedLast : Clients (placedLast wm slot endpoint pid surface) where
  width := table.width
  height := table.height
  room := free.room
  isSlot position isPosition := by
    rcases Nat.eq_or_lt_of_le (Nat.le_of_lt_succ isPosition) with last | earlier
    · rw [last, placedLast_last]
      exact free.isSlot
    · rw [placedLast_earlier earlier]
      exact table.isSlot position earlier
  isActive position isPosition := by
    rcases Nat.eq_or_lt_of_le (Nat.le_of_lt_succ isPosition) with last | earlier
    · rw [last, placedLast_last, placedLast_client]
      rfl
    · rw [placedLast_earlier earlier, placedLast_other (free_notPlaced table free earlier)]
      exact table.isActive position earlier
  injective i j isI isJ same := by
    rcases Nat.eq_or_lt_of_le (Nat.le_of_lt_succ isI) with lastI | earlierI
    · rcases Nat.eq_or_lt_of_le (Nat.le_of_lt_succ isJ) with lastJ | earlierJ
      · exact lastI.trans lastJ.symm
      grind [placedLast_last, placedLast_earlier, free_notPlaced]
    · rcases Nat.eq_or_lt_of_le (Nat.le_of_lt_succ isJ) with lastJ | earlierJ
      · grind [placedLast_last, placedLast_earlier, free_notPlaced]
      · rw [placedLast_earlier earlierI, placedLast_earlier earlierJ] at same
        exact table.injective i j earlierI earlierJ same
  covered other isOther active := by
    by_cases same : other = slot
    · refine ⟨wm.count, Nat.lt_succ_self _, ?_⟩
      rw [same]
      exact placedLast_last ..
    rw [placedLast_other same] at active
    rcases table.covered other isOther active with ⟨position, isPosition, placed⟩
    refine ⟨position, Nat.lt_succ_of_lt isPosition, ?_⟩
    rw [placedLast_earlier isPosition]
    exact placed
  token other isOther active := by
    by_cases same : other = slot
    · rw [same, placedLast_client]
      rfl
    · rw [placedLast_other same] at active ⊢
      exact table.token other isOther active
  live other isOther active := by
    by_cases same : other = slot
    · rw [same, placedLast_client]
      exact free.live
    · rw [placedLast_other same] at active ⊢
      exact table.live other isOther active
  generation other isOther := by
    by_cases same : other = slot
    · rw [same, placedLast_client]
      exact table.generation slot free.isSlot
    · rw [placedLast_other same]
      exact table.generation other isOther
  endpoint first second isFirst isSecond active active' equal := by
    by_cases newFirst : first = slot
    · by_cases newSecond : second = slot
      · exact newFirst.trans newSecond.symm
      · rw [placedLast_other newSecond] at active' equal
        rw [newFirst, placedLast_client] at equal
        exact absurd equal.symm (free.endpoint second isSecond active')
    · rw [placedLast_other newFirst] at active equal
      by_cases newSecond : second = slot
      · rw [newSecond, placedLast_client] at equal
        exact absurd equal (free.endpoint first isFirst active)
      · rw [placedLast_other newSecond] at active' equal
        exact table.endpoint first second isFirst isSecond active active' equal
  surface first second isFirst isSecond active active' equal := by
    by_cases newFirst : first = slot
    · by_cases newSecond : second = slot
      · exact newFirst.trans newSecond.symm
      · rw [placedLast_other newSecond] at active' equal
        rw [newFirst, placedLast_client] at equal
        exact absurd equal.symm (free.surface second isSecond active')
    · rw [placedLast_other newFirst] at active equal
      by_cases newSecond : second = slot
      · rw [newSecond, placedLast_client] at equal
        exact absurd equal (free.surface first isFirst active)
      · rw [placedLast_other newSecond] at active' equal
        exact table.surface first second isFirst isSecond active active' equal
  noFocus none := absurd none (Nat.succ_ne_zero _)
  focus _ := by
    refine ⟨wm.count, Nat.lt_succ_self _, ?_⟩
    rw [placedLast_last, placedLast_client]
    rfl

end Add

/-- The positions without one of them -/
def skip (position index : Nat) : Nat := if position ≤ index then index + 1 else index

theorem skip_lt {position index count : Nat} (isPosition : position < count)
    (isIndex : index < count - 1) : skip position index < count := by
  unfold skip
  split
  · omega
  · omega

theorem skip_ne (position index : Nat) : skip position index ≠ position := by
  unfold skip
  split
  · omega
  · omega

theorem skip_injective {position i j : Nat} (same : skip position i = skip position j) : i = j := by
  unfold skip at same
  split at same
  · split at same
    · omega
    · omega
  · split at same
    · omega
    · omega

theorem exists_skip {position other count : Nat} (isOther : other < count)
    (different : other ≠ position) (isPosition : position < count) :
    ∃ index, index < count - 1 ∧ skip position index = other := by
  unfold skip
  rcases Nat.lt_or_gt_of_ne different with earlier | later
  · refine ⟨other, by omega, ?_⟩
    rw [if_neg (by omega)]
  refine ⟨other - 1, by omega, ?_⟩
  rw [if_pos (by omega)]
  omega

/-- The order of the windows that `wm_remove` leaves -/
def orderWithout (wm : WmCore) (position : Nat) : Nat → Nat :=
  Function.update
    (fun index =>
      if position ≤ index ∧ index + 1 < wm.count then wm.order (index + 1) else wm.order index)
    (wm.count - 1) 0

theorem orderWithout_eq {position index : Nat} (isIndex : index < wm.count - 1) :
    orderWithout wm position index = wm.order (skip position index) := by
  unfold orderWithout skip
  grind

/-- The generation of a slot that loses its client -/
def nextGeneration (generation : Nat) : Nat :=
  if generation = wmGenerationMax then 0 else generation + 1

/-- The focus after a window has been removed -/
def focusWithout (wm : WmCore) (token : Nat) : Nat :=
  if wm.focus = token then
    if wm.count - 1 = 0 then 0
    else (wm.clients (orderWithout wm (positionOf wm token) (positionOf wm token % (wm.count - 1)))).token
  else wm.focus

/-- The table without the client of a slot -/
def withoutClient (wm : WmCore) (slot token : Nat) : WmCore :=
  { wm.setClient slot
      { clearClient with generation := nextGeneration (wm.clients slot).generation } with
    order := orderWithout wm (positionOf wm token)
    count := wm.count - 1
    focus := focusWithout wm token }

/-- `wm_remove` either changes nothing or retires the slot of the token. -/
theorem wmRemove_cases (wm : WmCore) (endpoint token : Nat) :
    ((wmRemove wm endpoint token).1 ≠ .ok ∧ (wmRemove wm endpoint token).2 = wm) ∨
      ∃ slot, wmLookup wm token = some slot ∧
        wmRemove wm endpoint token = (.ok, wmLayout (withoutClient wm slot token)) := by
  unfold wmRemove wmAuthority
  cases found : wmLookup wm token with
  | none => simp
  | some slot =>
    simp only
    by_cases owned : (wm.clients slot).endpoint = endpoint
    · rw [if_pos owned]
      refine Or.inr ⟨slot, rfl, ?_⟩
      rw [(wmLookup_some found).1]
      rfl
    simp [*]

theorem withoutClient_client (wm : WmCore) (slot token : Nat) :
    (withoutClient wm slot token).clients slot =
      { clearClient with generation := nextGeneration (wm.clients slot).generation } :=
  Function.update_self ..

theorem withoutClient_other {slot token other : Nat} (different : other ≠ slot) :
    (withoutClient wm slot token).clients other = wm.clients other :=
  Function.update_of_ne different ..

theorem withoutClient_active {slot token other : Nat}
    (active : ((withoutClient wm slot token).clients other).active = true) :
    other ≠ slot ∧ (wm.clients other).active = true := by
  have different : other ≠ slot := by
    rintro rfl
    rw [withoutClient_client] at active
    exact Bool.false_ne_true active
  simp_all [withoutClient_other]

section Remove

variable {slot token : Nat} (table : Clients wm) (found : wmLookup wm token = some slot)

include table found

/-- The removed client stands where the search for its token ends. -/
theorem removed_position :
    positionOf wm token < wm.count ∧ wm.order (positionOf wm token) = slot := by
  rcases wmLookup_some found with ⟨-, isSlot, active, carries⟩
  rcases table.covered slot isSlot active with ⟨position, isPosition, placed⟩
  have search : positionOf wm token < wm.count ∧ _ := positionOf_found isPosition (by
    rw [placed]
    exact carries)
  refine ⟨search.1, table.token_unique (table.isSlot _ search.1) isSlot (table.isActive _ search.1) active ?_⟩
  exact search.2.trans carries.symm

/-- The other positions lead to other slots. -/
theorem kept_ne_removed {index : Nat} (isIndex : index < wm.count - 1) :
    wm.order (skip (positionOf wm token) index) ≠ slot := by
  rcases removed_position table found with ⟨isPosition, placed⟩
  intro same
  exact skip_ne (positionOf wm token) index
    (table.injective _ _ (skip_lt isPosition isIndex) isPosition (same.trans placed.symm))

theorem focusWithout_names (some : wm.count - 1 ≠ 0) :
    ∃ index, index < wm.count - 1 ∧
      focusWithout wm token = (wm.clients (wm.order (skip (positionOf wm token) index))).token := by
  rcases removed_position table found with ⟨isPosition, placed⟩
  unfold focusWithout
  by_cases focused : wm.focus = token
  · have isIndex : positionOf wm token % (wm.count - 1) < wm.count - 1 :=
      Nat.mod_lt _ (Nat.pos_of_ne_zero some)
    rw [if_pos focused, if_neg some, orderWithout_eq isIndex]
    exact ⟨_, isIndex, rfl⟩
  · rw [if_neg focused]
    rcases table.focus (by omega) with ⟨position, isFocus, names⟩
    have different : position ≠ positionOf wm token := by
      rintro rfl
      rw [placed, (wmLookup_some found).2.2.2] at names
      exact focused names
    grind [exists_skip]

/-- A table that loses a client keeps the invariant. -/
theorem Clients.withoutClient : Clients (withoutClient wm slot token) where
  width := table.width
  height := table.height
  room := Nat.le_trans (Nat.sub_le ..) table.room
  isSlot index isIndex := by
    rcases removed_position table found with ⟨isPosition, -⟩
    change orderWithout wm (positionOf wm token) index < boringWmClientMax
    rw [orderWithout_eq isIndex]
    exact table.isSlot _ (skip_lt isPosition isIndex)
  isActive index isIndex := by
    rcases removed_position table found with ⟨isPosition, -⟩
    change ((WindowManager.withoutClient wm slot token).clients
      (orderWithout wm (positionOf wm token) index)).active = true
    rw [orderWithout_eq isIndex, withoutClient_other (kept_ne_removed table found isIndex)]
    exact table.isActive _ (skip_lt isPosition isIndex)
  injective i j isI isJ same := by
    rcases removed_position table found with ⟨isPosition, -⟩
    change orderWithout wm (positionOf wm token) i = orderWithout wm (positionOf wm token) j at same
    rw [orderWithout_eq isI, orderWithout_eq isJ] at same
    exact skip_injective (table.injective _ _ (skip_lt isPosition isI) (skip_lt isPosition isJ) same)
  covered other isOther active := by
    rcases removed_position table found with ⟨isPosition, placed⟩
    rcases withoutClient_active active with ⟨different, active⟩
    rcases table.covered other isOther active with ⟨position, isPosition', placed'⟩
    have notRemoved : position ≠ positionOf wm token := by
      rintro rfl
      exact different (placed'.symm.trans placed)
    rcases exists_skip isPosition' notRemoved isPosition with ⟨index, isIndex, isSkip⟩
    refine ⟨index, isIndex, ?_⟩
    change orderWithout wm (positionOf wm token) index = other
    rw [orderWithout_eq isIndex, isSkip]
    exact placed'
  token other isOther active := by
    rcases withoutClient_active active with ⟨different, active⟩
    rw [withoutClient_other different]
    exact table.token other isOther active
  live other isOther active := by
    rcases withoutClient_active active with ⟨different, active⟩
    rw [withoutClient_other different]
    exact table.live other isOther active
  generation other isOther := by
    by_cases same : other = slot
    · have bound := table.generation other isOther
      rw [same, withoutClient_client]
      unfold nextGeneration
      grind
    · rw [withoutClient_other same]
      exact table.generation other isOther
  endpoint first second isFirst isSecond active active' equal := by
    rcases withoutClient_active active with ⟨different, active⟩
    rcases withoutClient_active active' with ⟨different', active'⟩
    rw [withoutClient_other different, withoutClient_other different'] at equal
    exact table.endpoint first second isFirst isSecond active active' equal
  surface first second isFirst isSecond active active' equal := by
    rcases withoutClient_active active with ⟨different, active⟩
    rcases withoutClient_active active' with ⟨different', active'⟩
    rw [withoutClient_other different, withoutClient_other different'] at equal
    exact table.surface first second isFirst isSecond active active' equal
  noFocus none := by
    rcases removed_position table found with ⟨isPosition, placed⟩
    change wm.count - 1 = 0 at none
    change focusWithout wm token = 0
    have focused : wm.focus = token := by
      rcases table.focus (by omega) with ⟨position, isFocus, names⟩
      have only : position = positionOf wm token := by omega
      rw [names, only, placed]
      exact (wmLookup_some found).2.2.2
    unfold focusWithout
    rw [if_pos focused, if_pos none]
  focus some := by
    rcases focusWithout_names table found some with ⟨index, isIndex, names⟩
    refine ⟨index, isIndex, ?_⟩
    change focusWithout wm token = ((WindowManager.withoutClient wm slot token).clients
      (orderWithout wm (positionOf wm token) index)).token
    grind [orderWithout_eq, withoutClient_other, kept_ne_removed]

end Remove

end BoringOS.WindowManager
