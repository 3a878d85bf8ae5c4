import Mathlib.Data.Nat.Count

namespace BoringOS.Library

universe u v

variable {Channel : Type u} {Item : Type v} [DecidableEq Channel]

/-!
# Streams through a component

A component passes items through channels.  Beside its state one notes, for
each channel, what entered it and what left it.  As long as a channel is in
use, what entered is what left followed by what the component still holds.
What is held may be dropped with the channel, but what left stays the
beginning of what entered.
-/

/-- What entered and what left each channel so far. -/
structure Streams (Channel : Type u) (Item : Type v) where
  entered : Channel → List Item
  left : Channel → List Item

namespace Streams

/-- Nothing has passed yet. -/
def empty : Streams Channel Item := ⟨fun _ => [], fun _ => []⟩

def enter (streams : Streams Channel Item) (channel : Channel) (items : List Item) :
    Streams Channel Item :=
  { streams with
    entered := Function.update streams.entered channel (streams.entered channel ++ items) }

def leave (streams : Streams Channel Item) (channel : Channel) (items : List Item) :
    Streams Channel Item :=
  { streams with left := Function.update streams.left channel (streams.left channel ++ items) }

/-- What entered the channel left it or is held. -/
def Accounts (streams : Streams Channel Item) (channel : Channel) (held : List Item) : Prop :=
  streams.entered channel = streams.left channel ++ held

/-- On every channel the items come out in the order in which they went in. -/
def Ordered (streams : Streams Channel Item) : Prop :=
  ∀ channel, streams.left channel <+: streams.entered channel

variable {streams : Streams Channel Item} {channel other : Channel} {items held : List Item}

@[simp] theorem enter_left : (streams.enter channel items).left = streams.left := rfl

@[simp] theorem leave_entered : (streams.leave channel items).entered = streams.entered := rfl

theorem enter_entered : (streams.enter channel items).entered other =
    if other = channel then streams.entered channel ++ items else streams.entered other :=
  Function.update_apply _ _ _ _

theorem leave_left : (streams.leave channel items).left other =
    if other = channel then streams.left channel ++ items else streams.left other :=
  Function.update_apply _ _ _ _

@[simp] theorem leave_nil : streams.leave channel [] = streams := by
  rw [leave, List.append_nil, Function.update_eq_self]

@[simp] theorem enter_nil : streams.enter channel [] = streams := by
  rw [enter, List.append_nil, Function.update_eq_self]

theorem entered_prefix_enter : streams.entered other <+: (streams.enter channel items).entered other := by
  rw [enter_entered]
  grind

theorem left_prefix_leave : streams.left other <+: (streams.leave channel items).left other := by
  rw [leave_left]
  grind

theorem Accounts.enter (accounts : streams.Accounts channel held) :
    (streams.enter channel items).Accounts channel (held ++ items) := by
  rw [Accounts, enter_left, enter_entered, if_pos rfl, accounts, List.append_assoc]

theorem Accounts.leave (accounts : streams.Accounts channel (items ++ held)) :
    (streams.leave channel items).Accounts channel held := by
  rw [Accounts, leave_entered, leave_left, if_pos rfl, accounts, List.append_assoc]

theorem Accounts.enter_other (accounts : streams.Accounts other held) (different : other ≠ channel) :
    (streams.enter channel items).Accounts other held := by
  rw [Accounts, enter_left, enter_entered, if_neg different]
  exact accounts

theorem Accounts.leave_other (accounts : streams.Accounts other held) (different : other ≠ channel) :
    (streams.leave channel items).Accounts other held := by
  rw [Accounts, leave_entered, leave_left, if_neg different]
  exact accounts

theorem Ordered.enter (ordered : streams.Ordered) : (streams.enter channel items).Ordered :=
  fun other => (ordered other).trans entered_prefix_enter

theorem Ordered.leave (ordered : streams.Ordered)
    (accounts : streams.Accounts channel (items ++ held)) : (streams.leave channel items).Ordered := by
  intro other
  rw [leave_entered, leave_left]
  split
  · rename_i same
    rw [same, accounts, ← List.append_assoc]
    exact List.prefix_append _ _
  · exact ordered other

end Streams

end BoringOS.Library
