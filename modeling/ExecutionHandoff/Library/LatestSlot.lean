import Mathlib.Data.List.Perm.Basic
import Mathlib.Logic.Relation

/-!
# A single sender with a slot for the latest item

Items are pushed faster than one sender, which carries one item at a time, can
hand them on.  An item pushed while the sender cannot take it waits in a slot
for one, and replaces the item that waited there.  A timer wakes the sender up
when an item waits and nothing is under way.  The lists are histories with the
newest item first.
-/

namespace ExecutionHandoff.Library

open Option (toList_some map_none toList_none map_some)
open List

structure LatestSlot (α : Type*) where
  /-- The item under way, and whether it has been handed on. -/
  flight : Option (α × Bool)
  waiting : Option α
  armed : Bool
  pushed : List α
  handed : List α
  sent : List α
  dropped : List α

namespace LatestSlot

variable {α : Type*}

def empty : LatestSlot α := ⟨none, none, false, [], [], [], []⟩

/-- The item under way. -/
def flying (slot : LatestSlot α) : List α := (slot.flight.map Prod.fst).toList

/-- The item under way, while it has not been handed on. -/
def held (slot : LatestSlot α) : List α :=
  match slot.flight with
  | some (item, false) => [item]
  | _ => []

/-- The item under way, once it has been handed on. -/
def carried (slot : LatestSlot α) : List α :=
  match slot.flight with
  | some (item, true) => [item]
  | _ => []

inductive Move : LatestSlot α → LatestSlot α → Prop where
  /-- A pushed item has to wait, and the timer is armed. -/
  | park (slot : LatestSlot α) (item : α) :
      Move slot
        { slot with
          waiting := some item
          armed := true
          pushed := item :: slot.pushed
          dropped := slot.waiting.toList ++ slot.dropped }
  /-- A pushed item is taken at once. -/
  | launch (slot : LatestSlot α) (item : α) (idle : slot.flight = none) :
      Move slot
        { slot with
          flight := some (item, false)
          waiting := none
          pushed := item :: slot.pushed
          dropped := slot.waiting.toList ++ slot.dropped }
  | hand (slot : LatestSlot α) (item : α) (flight : slot.flight = some (item, false)) :
      Move slot { slot with flight := some (item, true), handed := item :: slot.handed }
  /-- The item under way arrives, and what waits is left to the timer. -/
  | land (slot : LatestSlot α) (item : α) (armed : Bool) (flight : slot.flight = some (item, true))
      (covered : slot.waiting.isSome → armed = true) :
      Move slot { slot with flight := none, armed, sent := item :: slot.sent }
  /-- The item under way arrives, and the waiting one is taken. -/
  | advance (slot : LatestSlot α) (item next : α) (flight : slot.flight = some (item, true))
      (waiting : slot.waiting = some next) :
      Move slot
        { slot with flight := some (next, false), waiting := none, sent := item :: slot.sent }
  /-- The timer is armed, or runs out while nothing depends on it. -/
  | arm (slot : LatestSlot α) (armed : Bool)
      (covered : slot.waiting.isSome → slot.flight.isSome ∨ armed = true) :
      Move slot { slot with armed }
  /-- The timer runs out and the waiting item is taken. -/
  | wake (slot : LatestSlot α) (item : α) (idle : slot.flight = none)
      (waiting : slot.waiting = some item) :
      Move slot { slot with flight := some (item, false), waiting := none, armed := false }

abbrev Reachable (slot : LatestSlot α) : Prop := Relation.ReflTransGen Move empty slot

/-- What the slot promises about every item pushed into it. -/
structure Sound (slot : LatestSlot α) : Prop where
  /-- What waits, is held and was handed on stands in the order of the pushes. -/
  order : (slot.waiting.toList ++ (slot.held ++ slot.handed)).Sublist slot.pushed
  /-- Every pushed item has exactly one fate. -/
  account : slot.pushed.Perm
    (slot.sent ++ (slot.dropped ++ (slot.flying ++ slot.waiting.toList)))
  /-- What was handed on has been sent, but for the item under way. -/
  single : slot.handed = slot.carried ++ slot.sent
  /-- What waits is not forgotten. -/
  covered : slot.waiting.isSome → slot.flight.isSome ∨ slot.armed = true

theorem sound_empty : Sound (empty : LatestSlot α) where
  order := List.Sublist.refl _
  account := List.Perm.refl _
  single := rfl
  covered := by simp [empty]

/-- Items are handed on in the order of the pushes. -/
theorem Sound.inOrder {slot : LatestSlot α} (sound : Sound slot) :
    slot.handed.Sublist slot.pushed :=
  have held : slot.handed.Sublist (slot.held ++ slot.handed) := sublist_append_right _ _
  (held.trans (sublist_append_right _ _)).trans sound.order

/-- What has been handed on and not sent is under way. -/
theorem carried_sublist_flying (slot : LatestSlot α) : slot.carried.Sublist slot.flying := by
  unfold carried flying
  split
  · rename_i item flight
    rw [flight]
    exact List.Sublist.refl _
  · exact nil_sublist _

/-- At most one item is under way. -/
theorem flying_length_le (slot : LatestSlot α) : slot.flying.length ≤ 1 := by
  unfold flying
  cases slot.flight <;> simp

section Moves

variable {slot : LatestSlot α} (sound : Sound slot)
include sound

theorem Sound.park (item : α) :
    Sound
      { slot with
        waiting := some item
        armed := true
        pushed := item :: slot.pushed
        dropped := slot.waiting.toList ++ slot.dropped } where
  order := by
    have older := (sublist_append_right slot.waiting.toList _).trans sound.order
    exact older.cons_cons item
  account := by
    classical
    refine perm_iff_count.mpr fun other => ?_
    have fates := perm_iff_count.mp sound.account other
    simp only [flying, toList_some, count_append, count_cons, count_nil]
      at fates ⊢
    omega
  single := sound.single
  covered := fun _ => .inr rfl

theorem Sound.launch (item : α) (idle : slot.flight = none) :
    Sound
      { slot with
        flight := some (item, false)
        waiting := none
        pushed := item :: slot.pushed
        dropped := slot.waiting.toList ++ slot.dropped } where
  order := by
    have older := (sublist_append_right slot.waiting.toList _).trans sound.order
    simp only [held, idle, nil_append] at older
    exact older.cons_cons item
  account := by
    classical
    refine perm_iff_count.mpr fun other => ?_
    have fates := perm_iff_count.mp sound.account other
    simp only [flying, idle, map_none, toList_none, map_some,
      toList_some, count_append, count_cons, count_nil] at fates ⊢
    omega
  single := by
    have same := sound.single
    simp only [carried, idle] at same
    exact same
  covered := fun waits => by cases waits

theorem Sound.hand (item : α) (flight : slot.flight = some (item, false)) :
    Sound { slot with flight := some (item, true), handed := item :: slot.handed } where
  order := by
    have order := sound.order
    simp only [held, flight, singleton_append] at order
    simpa only [held, nil_append] using order
  account := by
    have account := sound.account
    simp only [flying, flight] at account
    exact account
  single := by
    have same := sound.single
    simp only [carried, flight, nil_append] at same
    simp only [carried, singleton_append, same]
  covered := fun _ => .inl rfl

theorem Sound.land (item : α) (armed : Bool) (flight : slot.flight = some (item, true))
    (covered : slot.waiting.isSome → armed = true) :
    Sound { slot with flight := none, armed, sent := item :: slot.sent } where
  order := by
    have order := sound.order
    simp only [held, flight] at order
    exact order
  account := by
    classical
    refine perm_iff_count.mpr fun other => ?_
    have fates := perm_iff_count.mp sound.account other
    simp only [flying, flight, map_some, toList_some, map_none,
      toList_none, count_append, count_cons, count_nil] at fates ⊢
    omega
  single := by
    have same := sound.single
    simp only [carried, flight] at same
    exact same
  covered := fun waits => .inr (covered waits)

theorem Sound.advance (item next : α) (flight : slot.flight = some (item, true))
    (waiting : slot.waiting = some next) :
    Sound
      { slot with flight := some (next, false), waiting := none, sent := item :: slot.sent } where
  order := by
    have order := sound.order
    simp only [held, flight, waiting] at order
    exact order
  account := by
    classical
    refine perm_iff_count.mpr fun other => ?_
    have fates := perm_iff_count.mp sound.account other
    simp only [flying, flight, waiting, map_some, toList_some, toList_none,
      count_append, count_cons, count_nil] at fates ⊢
    omega
  single := by
    have same := sound.single
    simp only [carried, flight] at same
    exact same
  covered := fun waits => by cases waits

theorem Sound.arm (armed : Bool)
    (covered : slot.waiting.isSome → slot.flight.isSome ∨ armed = true) :
    Sound { slot with armed } where
  order := sound.order
  account := sound.account
  single := sound.single
  covered := covered

theorem Sound.wake (item : α) (idle : slot.flight = none) (waiting : slot.waiting = some item) :
    Sound { slot with flight := some (item, false), waiting := none, armed := false } where
  order := by
    have order := sound.order
    simp only [held, idle, waiting, nil_append] at order
    exact order
  account := by
    have account := sound.account
    simp only [flying, idle, waiting] at account
    exact account
  single := by
    have same := sound.single
    simp only [carried, idle] at same
    exact same
  covered := fun waits => by cases waits

end Moves

/-- One move keeps the promises. -/
theorem Move.sound {before after : LatestSlot α} (move : Move before after)
    (sound : Sound before) : Sound after := by
  cases move with
  | park item => exact sound.park item
  | launch item idle => exact sound.launch item idle
  | hand item flight => exact sound.hand item flight
  | land item armed flight covered => exact sound.land item armed flight covered
  | advance item next flight waiting => exact sound.advance item next flight waiting
  | arm armed covered => exact sound.arm armed covered
  | wake item idle waiting => exact sound.wake item idle waiting

theorem Reachable.sound {slot : LatestSlot α} (reachable : Reachable slot) : Sound slot := by
  induction reachable with
  | refl => exact sound_empty
  | tail _ move sound => exact move.sound sound

end LatestSlot

end ExecutionHandoff.Library
