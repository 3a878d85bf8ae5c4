import Mathlib.Logic.Function.Basic
import Mathlib.Tactic.ByContra

namespace BoringOS.Library

universe u

variable {Block : Type u}

/-!
# A volatile cache in front of stable storage

A plain write only reaches the cache.  A forced write and a synchronization
reach the stable storage, and the device may write back a block whenever it
likes.  What matters to a caller is which blocks are still only cached.
-/

structure WriteCache (Block : Type u) where
  cached : Nat → Option Block
  stable : Nat → Block

/-- The block that a write puts to a place, if it puts one there -/
def placed (first : Nat) (blocks : List Block) (place : Nat) : Option Block :=
  if place < first then none else blocks[place - first]?

namespace WriteCache

variable (cache : WriteCache Block) (first : Nat) (blocks : List Block)

def put : WriteCache Block :=
  { cache with cached := fun place => (placed first blocks place).or (cache.cached place) }

def force : WriteCache Block where
  cached := fun place => if (placed first blocks place).isSome then none else cache.cached place
  stable := fun place => (placed first blocks place).getD (cache.stable place)

def sync : WriteCache Block where
  cached := fun _ => none
  stable := fun place => (cache.cached place).getD (cache.stable place)

def writeBack (block : Nat) : WriteCache Block where
  cached := fun place => if place = block then none else cache.cached place
  stable := fun place =>
    if place = block then (cache.cached place).getD (cache.stable place) else cache.stable place

/-- The block that a read finds at a place -/
def content (place : Nat) : Block := (cache.cached place).getD (cache.stable place)

/-- Nothing is only cached. -/
def Clean : Prop := ∀ place, cache.cached place = none

/-- The blocks are on the stable storage. -/
def Stored : Prop :=
  ∀ place block, placed first blocks place = some block →
    cache.cached place = none ∧ cache.stable place = block

/-- The write covers everything that is only cached. -/
def CoveredBy : Prop :=
  ∀ place, cache.cached place ≠ none → (placed first blocks place).isSome = true

theorem sync_clean : cache.sync.Clean := fun _ => rfl

theorem force_stored : (cache.force first blocks).Stored first blocks := by
  intro place block isPlaced
  simp only [force, isPlaced, Option.isSome_some, if_true, Option.getD_some, and_self]

/-- A synchronization after a write stores it. -/
theorem sync_put_stored : (cache.put first blocks).sync.Stored first blocks := by
  intro place block isPlaced
  simp only [sync, put, isPlaced, Option.some_or, Option.getD_some, and_self]

/-- A plain write leaves something in the cache. -/
theorem put_not_clean {blocks : List Block} (some' : blocks ≠ []) : ¬(cache.put first blocks).Clean := by
  intro clean
  cases blocks with
  | nil => exact some' rfl
  | cons block rest =>
    have left := clean first
    have isPlaced : placed first (block :: rest) first = some block := by
      rw [placed, if_neg (Nat.lt_irrefl first), Nat.sub_self]
      rfl
    simp only [put, isPlaced, Option.some_or] at left
    cases left

/-- A forced write leaves nothing in the cache exactly if it covers the cache. -/
theorem force_clean_iff : (cache.force first blocks).Clean ↔ cache.CoveredBy first blocks := by
  constructor
  · intro clean place isCached
    by_contra outside
    have left := clean place
    simp_all [force]
  · intro covered place
    simp only [force]
    by_cases isPlaced : (placed first blocks place).isSome = true
    · rw [if_pos isPlaced]
    rw [if_neg isPlaced]
    by_contra isCached
    exact isPlaced (covered place isCached)

theorem content_sync : cache.sync.content = cache.content := rfl

theorem content_writeBack (block : Nat) : (cache.writeBack block).content = cache.content := by
  funext place
  by_cases isBlock : place = block
  · simp only [content, writeBack, if_pos isBlock, Option.getD_none]
  · simp only [content, writeBack, if_neg isBlock]

theorem placed_one (block : Block) (place : Nat) :
    placed first [block] place = if place = first then some block else none := by
  rw [placed]
  grind

theorem content_put (block : Block) :
    (cache.put first [block]).content = Function.update cache.content first block := by
  funext place
  simp only [content, put, placed_one, Function.update_apply]
  grind

theorem content_force (block : Block) :
    (cache.force first [block]).content = Function.update cache.content first block := by
  funext place
  simp only [content, force, placed_one, Function.update_apply]
  grind

theorem force_clean {cache : WriteCache Block} (clean : cache.Clean) (first : Nat)
    (blocks : List Block) : (cache.force first blocks).Clean := by
  intro place
  simp only [force, clean place, ite_self]

theorem writeBack_clean {cache : WriteCache Block} (clean : cache.Clean) (block : Nat) :
    (cache.writeBack block).Clean := by
  intro place
  simp only [writeBack, clean place, ite_self]

end WriteCache

end BoringOS.Library
