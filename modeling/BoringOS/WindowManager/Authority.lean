import BoringOS.WindowManager.ClientSteps
import BoringOS.WindowManager.Process

namespace BoringOS.WindowManager

/-!
# Authority over windows

Which endpoint a window belongs to is decided by the slots of the policy's
table alone.  The layout, the focus and the order leave every slot under the
same names, a new window takes a free slot, and a window is only removed in the
name of its own endpoint.
-/

variable {wm after middle : WmCore}

/-- Two states whose slots go by the same names -/
structure SameNames (wm after : WmCore) : Prop where
  endpoint : ∀ slot, (after.clients slot).endpoint = (wm.clients slot).endpoint
  active : ∀ slot, (after.clients slot).active = (wm.clients slot).active
  token : ∀ slot, (after.clients slot).token = (wm.clients slot).token

theorem SameNames.refl (wm : WmCore) : SameNames wm wm := ⟨fun _ => rfl, fun _ => rfl, fun _ => rfl⟩

theorem SameNames.trans (first : SameNames wm middle) (second : SameNames middle after) :
    SameNames wm after where
  endpoint slot := (second.endpoint slot).trans (first.endpoint slot)
  active slot := (second.active slot).trans (first.active slot)
  token slot := (second.token slot).trans (first.token slot)

theorem SameNames.setClient {slot : Nat} {client : WmClient}
    (endpoint : client.endpoint = (wm.clients slot).endpoint)
    (active : client.active = (wm.clients slot).active)
    (token : client.token = (wm.clients slot).token) : SameNames wm (wm.setClient slot client) := by
  have stored : (wm.setClient slot client).clients slot = client := Function.update_self ..
  have others : ∀ other, other ≠ slot → (wm.setClient slot client).clients other =
      wm.clients other := fun other different => Function.update_of_ne different ..
  refine ⟨fun other => ?_, fun other => ?_, fun other => ?_⟩
  all_goals
    grind

theorem SameNames.rectangle (wm : WmCore) (slot x y width height : Nat) :
    SameNames wm (wm.setClient slot (rectangle (wm.clients slot) x y width height)) :=
  SameNames.setClient rfl rfl rfl

theorem columnFrom_sameNames (first count x width span gap : Nat) :
    ∀ (left index y : Nat) (wm : WmCore),
      SameNames wm (columnFrom wm first count x width span gap index y left) := by
  intro left
  induction left with
  | zero => exact fun _ _ wm => SameNames.refl wm
  | succ left ih =>
    intro index y wm
    unfold columnFrom
    exact (SameNames.rectangle wm ..).trans (ih ..)

theorem column_sameNames (wm : WmCore) (first count x y width height : Nat) :
    SameNames wm (column wm first count x y width height) := by
  unfold column
  split
  · exact SameNames.refl wm
  · exact columnFrom_sameNames ..

theorem wmLayout_sameNames (wm : WmCore) : SameNames wm (wmLayout wm) := by
  unfold wmLayout
  split
  · exact SameNames.refl wm
  simp only
  split
  · exact column_sameNames ..
  · exact (SameNames.rectangle wm ..).trans (column_sameNames ..)

theorem wmFocusStep_sameNames (wm : WmCore) (direction : Direction) :
    SameNames wm ((wmFocusStep wm direction).getD wm) := by
  cases stepped : wmFocusStep wm direction with
  | none => exact SameNames.refl wm
  | some after =>
    rcases wmFocusStep_some stepped with ⟨-, -, rfl⟩
    exact ⟨fun _ => rfl, fun _ => rfl, fun _ => rfl⟩

theorem wmReorder_sameNames (wm : WmCore) (direction : Direction) :
    SameNames wm ((wmReorder wm direction).getD wm) := by
  cases reordered : wmReorder wm direction with
  | none => exact SameNames.refl wm
  | some after =>
    grind [wmReorder_some, SameNames, wmLayout_sameNames]

theorem wmKey_sameNames (wm : WmCore) (event : InputEvent) : SameNames wm (wmKey wm event).2 := by
  have acted : ∀ (action : WmAction) (changed : Option WmCore),
      (actionOf wm action changed).2 = changed.getD wm := by
    intro action changed
    cases changed with
    | none => rfl
    | some after => rfl
  unfold wmKey
  split
  · exact SameNames.refl wm
  split
  · grind [wmReorder_sameNames, wmFocusStep_sameNames]
  split
  · exact SameNames.refl wm
  split
  · exact SameNames.refl wm
  split
  · grind [SameNames.refl, SameNames.setClient]
  · exact SameNames.refl wm

theorem handleInput_sameNames (wm : WmCore) (message : Display.DisplayInput) :
    SameNames wm (handleInput wm message).1 := by
  have chosen : (handleInput wm message).1 = (inputAction wm message).2 := by
    unfold handleInput
    simp only
    split <;> rfl
  rw [chosen]
  unfold inputAction
  simp only
  split
  · split
    · next focused moved =>
        rcases wmPointer_some moved with ⟨position, -, isFocused⟩
        rw [isFocused]
        exact (wmKey_sameNames wm message.event).trans ⟨fun _ => rfl, fun _ => rfl, fun _ => rfl⟩
    · exact wmKey_sameNames wm message.event
  · exact wmKey_sameNames wm message.event

/-- Some slot is under the name of the endpoint. -/
def Names (wm : WmCore) (endpoint : Nat) : Prop := ∃ slot, (wm.clients slot).endpoint = endpoint

theorem SameNames.names {endpoint : Nat} (same : SameNames wm after) (named : Names after endpoint) :
    Names wm endpoint := by
  rcases named with ⟨slot, isEndpoint⟩
  exact ⟨slot, (same.endpoint slot).symm.trans isEndpoint⟩

theorem wmLookup_of_slot {slot token : Nat} (isSlot : slot < boringWmClientMax)
    (named : token &&& 255 = slot + 1) (active : (wm.clients slot).active = true)
    (carries : (wm.clients slot).token = token) : wmLookup wm token = some slot := by
  unfold wmLookup
  grind

/-- The endpoint has authority over the window of a slot exactly when the
slot is active under both names. -/
theorem wmAuthority_ok {endpoint token : Nat} :
    wmAuthority wm endpoint token = .ok ↔
      ∃ slot, slot < boringWmClientMax ∧ token &&& 255 = slot + 1 ∧
        (wm.clients slot).active = true ∧ (wm.clients slot).token = token ∧
          (wm.clients slot).endpoint = endpoint := by
  unfold wmAuthority
  constructor
  · cases found : wmLookup wm token with
    | none => nofun
    | some slot =>
      intro authorized
      by_cases owned : (wm.clients slot).endpoint = endpoint
      · have looked := wmLookup_some found
        refine ⟨slot, looked.2.1, ?_, looked.2.2.1, looked.2.2.2, owned⟩
        by_cases isZero : token &&& 255 = 0
        · unfold wmLookup at found
          simp_all
        · omega
      simp_all
  · rintro ⟨slot, isSlot, named, active, carries, owned⟩
    rw [wmLookup_of_slot isSlot named active carries]
    simp only
    rw [if_pos owned]

theorem SameNames.authority {endpoint token : Nat} (same : SameNames wm after)
    (authorized : wmAuthority wm endpoint token = .ok) : wmAuthority after endpoint token = .ok := by
  rcases wmAuthority_ok.mp authorized with ⟨slot, isSlot, named, active, carries, owned⟩
  exact wmAuthority_ok.mpr ⟨slot, isSlot, named, (same.active slot).trans active,
    (same.token slot).trans carries, (same.endpoint slot).trans owned⟩

theorem wmAuthority_of_inactive (inactive : ∀ slot, (wm.clients slot).active = false)
    (endpoint token : Nat) : wmAuthority wm endpoint token ≠ .ok := by
  intro authorized
  rcases wmAuthority_ok.mp authorized with ⟨slot, -, -, active, -⟩
  simp_all

/-- A window that is there stays when another one is added. -/
theorem wmAdd_authority {other pid surface endpoint token : Nat}
    (authorized : wmAuthority wm endpoint token = .ok) :
    wmAuthority (wmAdd wm other pid surface).2.1 endpoint token = .ok := by
  rcases wmAdd_cases wm other pid surface with ⟨status, same⟩ | ⟨slot, free, added⟩
  · rw [same]
    exact authorized
  rw [added]
  refine (wmLayout_sameNames _).authority ?_
  rcases wmAuthority_ok.mp authorized with ⟨place, isSlot, named, active, carries, owned⟩
  have different : place ≠ slot := by
    rintro rfl
    rw [free.free] at active
    exact Bool.false_ne_true active
  refine wmAuthority_ok.mpr ⟨place, isSlot, named, ?_, ?_, ?_⟩
  all_goals
    rw [placedLast_other different]
    assumption

theorem wmAdd_names {other pid surface endpoint : Nat}
    (named : Names (wmAdd wm other pid surface).2.1 endpoint) :
    Names wm endpoint ∨ endpoint = other := by
  rcases wmAdd_cases wm other pid surface with ⟨status, same⟩ | ⟨slot, -, added⟩
  · rw [same] at named
    exact Or.inl named
  rw [added] at named
  rcases (wmLayout_sameNames _).names named with ⟨place, isEndpoint⟩
  by_cases same : place = slot
  · rw [same, placedLast_client] at isEndpoint
    exact Or.inr isEndpoint.symm
  · rw [placedLast_other same] at isEndpoint
    exact Or.inl ⟨place, isEndpoint⟩

/-- An endpoint has one window at most. -/
theorem wmAdd_once {endpoint pid surface token : Nat} (authorized : wmAuthority wm endpoint token = .ok) :
    (wmAdd wm endpoint pid surface).1 ≠ .ok := by
  rcases wmAuthority_ok.mp authorized with ⟨place, isSlot, -, active, -, owned⟩
  have taken : ((List.range boringWmClientMax).any fun index =>
      (wm.clients index).active &&
        ((wm.clients index).endpoint == endpoint || (wm.clients index).surface == surface)) =
      true := by
    refine List.any_eq_true.mpr ⟨place, List.mem_range.mpr isSlot, ?_⟩
    rw [active, owned, beq_self_eq_true, Bool.true_or, Bool.true_and]
  unfold wmAdd
  grind

/-- A window that is there stays when a window of another endpoint is removed. -/
theorem wmRemove_authority {other removed endpoint token : Nat} (different : endpoint ≠ other)
    (authorized : wmAuthority wm endpoint token = .ok) :
    wmAuthority (wmRemove wm other removed).2 endpoint token = .ok := by
  rcases wmRemove_cases wm other removed with ⟨-, same⟩ | ⟨slot, found, done⟩
  · rw [same]
    exact authorized
  have owner : (wm.clients slot).endpoint = other := by
    by_contra foreign
    have refused : wmRemove wm other removed = (.access, wm) := by
      unfold wmRemove wmAuthority
      rw [found]
      simp only
      rw [if_neg foreign]
    rw [done] at refused
    exact WmStatus.noConfusion (congrArg Prod.fst refused)
  rw [done]
  refine (wmLayout_sameNames _).authority ?_
  rcases wmAuthority_ok.mp authorized with ⟨place, isSlot, named, active, carries, owned⟩
  have elsewhere : place ≠ slot := by
    rintro rfl
    exact different (owned.symm.trans owner)
  refine wmAuthority_ok.mpr ⟨place, isSlot, named, ?_, ?_, ?_⟩
  all_goals
    rw [withoutClient_other elsewhere]
    assumption

theorem wmRemove_names {other removed endpoint : Nat} (isEndpoint : endpoint ≠ 0)
    (named : Names (wmRemove wm other removed).2 endpoint) : Names wm endpoint := by
  rcases wmRemove_cases wm other removed with ⟨-, same⟩ | ⟨slot, -, done⟩
  · rw [same] at named
    exact named
  rw [done] at named
  rcases (wmLayout_sameNames _).names named with ⟨place, owned⟩
  by_cases same : place = slot
  · rw [same, withoutClient_client] at owned
    exact absurd owned.symm isEndpoint
  · rw [withoutClient_other same] at owned
    exact ⟨place, owned⟩

end BoringOS.WindowManager
