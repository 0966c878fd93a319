import Mathlib.Data.List.Pairwise
import Mathlib.Logic.Function.Basic

/-!
# A slot for the latest item of each kind

Items of several kinds are submitted to one sink.  An item is written at once or
waits in the slot of its kind, where a later item of the kind replaces it.  The
histories have the oldest item first.
-/

namespace ExecutionHandoff.Library

open List

/-- An item with its place among the submissions. -/
structure Submission (κ α : Type*) where
  number : Nat
  kind : κ
  item : α
  deriving DecidableEq

structure KeyedSlots (κ α : Type*) where
  waiting : κ → Option (Submission κ α)
  submitted : List (Submission κ α)
  written : List (Submission κ α)

namespace KeyedSlots

variable {κ α : Type*}

def empty : KeyedSlots κ α := ⟨fun _ => none, [], []⟩

/-- A later item of the same kind has been submitted. -/
def Superseded (slots : KeyedSlots κ α) (one : Submission κ α) : Prop :=
  ∃ later ∈ slots.submitted, later.kind = one.kind ∧ one.number < later.number

/-- What waits is the latest of its kind, and the written items of a kind are in order. -/
structure Placed (slots : KeyedSlots κ α) : Prop where
  numbered : ∀ one ∈ slots.submitted, one.number < slots.submitted.length
  genuine : ∀ one ∈ slots.written, one ∈ slots.submitted
  ordered : slots.written.Pairwise fun one later => one.kind = later.kind → one.number < later.number
  latest : ∀ kind one, slots.waiting kind = some one → one.kind = kind ∧ one ∈ slots.submitted ∧
    ∀ other ∈ slots.submitted, other.kind = kind → other.number ≤ one.number
  unwritten : ∀ kind one, slots.waiting kind = some one →
    ∀ other ∈ slots.written, other.kind = kind → other.number < one.number
  accounted : ∀ one ∈ slots.submitted, one ∈ slots.written ∨ slots.Superseded one ∨
    slots.waiting one.kind = some one

theorem placed_empty : Placed (empty : KeyedSlots κ α) where
  numbered := fun _ no => (not_mem_nil no).elim
  genuine := fun _ no => (not_mem_nil no).elim
  ordered := .nil
  latest := fun _ _ no => nomatch no
  unwritten := fun _ _ no => nomatch no
  accounted := fun _ no => (not_mem_nil no).elim

section Moves

variable (slots : KeyedSlots κ α)

/-- The next submission. -/
def stamp (kind : κ) (item : α) : Submission κ α := ⟨slots.submitted.length, kind, item⟩

variable [DecidableEq κ]

/-- The item has to wait. -/
def park (kind : κ) (item : α) : KeyedSlots κ α where
  waiting := Function.update slots.waiting kind (some (slots.stamp kind item))
  submitted := slots.submitted ++ [slots.stamp kind item]
  written := slots.written

/-- The item is written at once. -/
def pass (kind : κ) (item : α) : KeyedSlots κ α where
  waiting := slots.waiting
  submitted := slots.submitted ++ [slots.stamp kind item]
  written := slots.written ++ [slots.stamp kind item]

/-- What waits in a slot is written. -/
def serve (one : Submission κ α) : KeyedSlots κ α where
  waiting := Function.update slots.waiting one.kind none
  submitted := slots.submitted
  written := slots.written ++ [one]

variable {slots} {kind other : κ} {item : α} {one : Submission κ α}

theorem park_waiting_self :
    (slots.park kind item).waiting kind = some (slots.stamp kind item) :=
  Function.update_self _ _ _

theorem park_waiting_of_ne (apart : other ≠ kind) :
    (slots.park kind item).waiting other = slots.waiting other :=
  Function.update_of_ne apart _ _

theorem serve_waiting_self : (slots.serve one).waiting one.kind = none :=
  Function.update_self _ _ _

theorem serve_waiting_of_ne (apart : other ≠ one.kind) :
    (slots.serve one).waiting other = slots.waiting other :=
  Function.update_of_ne apart _ _

end Moves

namespace Placed

variable {slots : KeyedSlots κ α} (placed : slots.Placed)
include placed

/-- Every item is written at most once. -/
theorem once : slots.written.Nodup := by
  refine placed.ordered.imp fun {one later} less same => ?_
  have before := less (congrArg Submission.kind same)
  rw [same] at before
  exact Nat.lt_irrefl _ before

/-- The written items of one kind are in the order of their submission. -/
theorem inOrder [DecidableEq κ] (kind : κ) :
    (slots.written.filter fun one => one.kind = kind).Pairwise
      fun one later => one.number < later.number := by
  refine (placed.ordered.filter _).imp_of_mem ?_
  intro one later first second less
  have one_kind := of_decide_eq_true (mem_filter.mp first).2
  have later_kind := of_decide_eq_true (mem_filter.mp second).2
  exact less (one_kind.trans later_kind.symm)

/-- What waits has not been written. -/
theorem waiting_notMem {kind : κ} {one : Submission κ α} (waits : slots.waiting kind = some one) :
    one ∉ slots.written := fun mem =>
  Nat.lt_irrefl _ (placed.unwritten kind one waits one mem (placed.latest kind one waits).1)

/-- What waits has not been superseded. -/
theorem waiting_not_superseded {kind : κ} {one : Submission κ α}
    (waits : slots.waiting kind = some one) : ¬ slots.Superseded one := by
  rintro ⟨later, mem, same, newer⟩
  obtain ⟨kinded, _, top⟩ := placed.latest kind one waits
  exact Nat.not_le_of_lt newer (top later mem (same.trans kinded))

theorem numbered_stamp (kind : κ) (item : α) :
    ∀ one ∈ slots.submitted ++ [slots.stamp kind item],
      one.number < (slots.submitted ++ [slots.stamp kind item]).length := by
  intro one mem
  rw [length_append, length_singleton]
  rcases mem_append.mp mem with old | new
  · exact Nat.lt_succ_of_lt (placed.numbered one old)
  · rw [mem_singleton.mp new]
    exact Nat.lt_succ_self _

/-- While nothing waits, an item can be written at once. -/
theorem pass (idle : ∀ kind, slots.waiting kind = none) (kind : κ) (item : α) :
    (slots.pass kind item).Placed where
  numbered := placed.numbered_stamp kind item
  genuine one mem := by
    rcases mem_append.mp mem with old | new
    · exact mem_append_left _ (placed.genuine one old)
    · exact mem_append_right _ new
  ordered := by
    refine pairwise_append.mpr ⟨placed.ordered, pairwise_singleton _ _, ?_⟩
    intro one mem later new _
    rw [mem_singleton.mp new]
    exact placed.numbered one (placed.genuine one mem)
  latest other one waits := nomatch (idle other).symm.trans waits
  unwritten other one waits := nomatch (idle other).symm.trans waits
  accounted one mem := by
    rcases mem_append.mp mem with old | new
    · rcases placed.accounted one old with written | ⟨later, found, newer⟩ | waits
      · exact .inl (mem_append_left _ written)
      · exact .inr (.inl ⟨later, mem_append_left _ found, newer⟩)
      · exact nomatch (idle _).symm.trans waits
    · exact .inl (mem_append_right _ new)

variable [DecidableEq κ]

theorem park (kind : κ) (item : α) : (slots.park kind item).Placed where
  numbered := placed.numbered_stamp kind item
  genuine one mem := mem_append_left _ (placed.genuine one mem)
  ordered := placed.ordered
  latest other one waits := by
    by_cases same : other = kind
    · subst same
      rw [park_waiting_self] at waits
      cases waits
      refine ⟨rfl, mem_append_right _ (mem_singleton_self _), ?_⟩
      intro submitted mem _
      have bound := placed.numbered_stamp other item submitted mem
      rw [length_append, length_singleton] at bound
      exact Nat.le_of_lt_succ bound
    · rw [park_waiting_of_ne same] at waits
      obtain ⟨kinded, mem, top⟩ := placed.latest other one waits
      refine ⟨kinded, mem_append_left _ mem, fun submitted found kinded => ?_⟩
      rcases mem_append.mp found with old | new
      · exact top submitted old kinded
      · rw [mem_singleton.mp new] at kinded
        exact absurd kinded.symm same
  unwritten other one waits := by
    by_cases same : other = kind
    · subst same
      rw [park_waiting_self] at waits
      cases waits
      exact fun submitted mem _ => placed.numbered submitted (placed.genuine submitted mem)
    · rw [park_waiting_of_ne same] at waits
      exact placed.unwritten other one waits
  accounted one mem := by
    rcases mem_append.mp mem with old | new
    · by_cases same : one.kind = kind
      · exact .inr (.inl ⟨slots.stamp kind item,
          mem_append_right _ (mem_singleton_self _), same.symm, placed.numbered one old⟩)
      · rcases placed.accounted one old with written | ⟨later, found, newer⟩ | waits
        · exact .inl written
        · exact .inr (.inl ⟨later, mem_append_left _ found, newer⟩)
        · exact .inr (.inr ((park_waiting_of_ne same).trans waits))
    · rw [mem_singleton.mp new]
      exact .inr (.inr park_waiting_self)

/-- What waits can be written. -/
theorem serve {kind : κ} {one : Submission κ α} (waits : slots.waiting kind = some one) :
    (slots.serve one).Placed where
  numbered := placed.numbered
  genuine other mem := by
    rcases mem_append.mp mem with old | new
    · exact placed.genuine other old
    · rw [mem_singleton.mp new]
      exact (placed.latest kind one waits).2.1
  ordered := by
    refine pairwise_append.mpr ⟨placed.ordered, pairwise_singleton _ _, ?_⟩
    intro other mem later new same
    rw [mem_singleton.mp new] at same ⊢
    exact placed.unwritten kind one waits other mem (same.trans (placed.latest kind one waits).1)
  latest other waiting found := by
    by_cases same : other = one.kind
    · rw [same, serve_waiting_self] at found
      cases found
    · rw [serve_waiting_of_ne same] at found
      exact placed.latest other waiting found
  unwritten other waiting found := by
    by_cases same : other = one.kind
    · rw [same, serve_waiting_self] at found
      cases found
    · rw [serve_waiting_of_ne same] at found
      intro written mem kinded
      rcases mem_append.mp mem with old | new
      · exact placed.unwritten other waiting found written old kinded
      · rw [mem_singleton.mp new] at kinded
        exact absurd kinded.symm same
  accounted other mem := by
    rcases placed.accounted other mem with written | superseded | waiting
    · exact .inl (mem_append_left _ written)
    · exact .inr (.inl superseded)
    · by_cases same : other.kind = one.kind
      · rw [same, (placed.latest kind one waits).1, waits] at waiting
        cases waiting
        exact .inl (mem_append_right _ (mem_singleton_self _))
      · exact .inr (.inr ((serve_waiting_of_ne same).trans waiting))

end Placed

end KeyedSlots

end ExecutionHandoff.Library
