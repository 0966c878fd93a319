import Mathlib.Algebra.BigOperators.Group.List.Basic
import Mathlib.Algebra.GroupWithZero.Nat
import Mathlib.Data.List.Forall2

/-!
# Putting a message together from its parts

A message is cut into parts, which come in any order and any number of times.
The places of the parts are filled as they come; once none is empty the parts
one after another are the message.
-/

namespace ExecutionHandoff.Library

open List

variable {α : Type*}

/-- Every place is empty or holds the part that belongs there. -/
def Agrees (pieces : List (Option (List α))) (parts : List (List α)) : Prop :=
  List.Forall₂ (fun piece part => piece = none ∨ piece = some part) pieces parts

/-- How many places are filled. -/
def present (pieces : List (Option (List α))) : Nat := pieces.countP Option.isSome

/-- How much the places hold. -/
def held (pieces : List (Option (List α))) : Nat :=
  (pieces.map fun piece => (piece.getD []).length).sum

/-- What the places hold one after another, if none is empty. -/
def joined : List (Option (List α)) → Option (List α)
  | [] => some []
  | none :: _ => none
  | some piece :: rest => (joined rest).map (piece ++ ·)

theorem present_none (rest : List (Option (List α))) : present (none :: rest) = present rest :=
  countP_cons_of_neg (by intro no; cases no)

theorem present_some (part : List α) (rest : List (Option (List α))) :
    present (some part :: rest) = present rest + 1 := countP_cons_of_pos rfl

theorem present_replicate (count : Nat) :
    present (List.replicate count (none : Option (List α))) = 0 := by
  unfold present
  rw [countP_replicate]
  rfl

theorem held_replicate (count : Nat) :
    held (List.replicate count (none : Option (List α))) = 0 := by
  unfold held
  rw [map_replicate, sum_replicate]
  exact Nat.mul_zero count

variable {pieces : List (Option (List α))}

theorem present_set {index : Nat} (part : List α) (vacant : pieces[index]? = some none) :
    present (pieces.set index (some part)) = present pieces + 1 := by
  induction pieces generalizing index with
  | nil => cases vacant
  | cons piece rest ih =>
      cases index with
      | zero =>
          cases Option.some.inj vacant
          rw [set_cons_zero, present_some, present_none]
      | succ index =>
          have step : present (rest.set index (some part)) = present rest + 1 := ih vacant
          rw [set_cons_succ]
          cases piece with
          | none => rw [present_none, present_none, step]
          | some piece => rw [present_some, present_some, step]

theorem held_set {index : Nat} (part : List α) (vacant : pieces[index]? = some none) :
    held (pieces.set index (some part)) = held pieces + part.length := by
  induction pieces generalizing index with
  | nil => cases vacant
  | cons piece rest ih =>
      cases index with
      | zero =>
          cases Option.some.inj vacant
          change part.length + held rest = 0 + held rest + part.length
          omega
      | succ index =>
          have step : held (rest.set index (some part)) = held rest + part.length := ih vacant
          change (piece.getD []).length + held (rest.set index (some part)) =
            (piece.getD []).length + held rest + part.length
          omega

theorem present_le (pieces : List (Option (List α))) : present pieces ≤ pieces.length :=
  countP_le_length

/-- Unless every place is filled some place is empty. -/
theorem exists_vacant (short : present pieces < pieces.length) :
    ∃ index : Nat, pieces[index]? = some none := by
  induction pieces with
  | nil => cases short
  | cons piece rest ih =>
      cases piece with
      | none => exact ⟨0, rfl⟩
      | some part =>
          rw [present_some] at short
          obtain ⟨index, vacant⟩ := ih (Nat.lt_of_succ_lt_succ short)
          exact ⟨index + 1, vacant⟩

theorem joined_eq_some {parts : List (List α)}
    (agrees : Agrees pieces parts) (full : present pieces = pieces.length) :
    joined pieces = some parts.flatten := by
  induction agrees with
  | nil => rfl
  | @cons piece part pieces parts here _ ih =>
      cases piece with
      | none =>
          have bound := present_le pieces
          rw [present_none, length_cons] at full
          omega
      | some piece =>
          rw [present_some] at full
          have rest := ih (Nat.succ.inj full)
          have same : piece = part := Option.some.inj (here.resolve_left (by intro no; cases no))
          subst same
          change (joined pieces).map _ = _
          rw [rest]
          rfl

namespace Agrees

variable {pieces : List (Option (List α))} {parts : List (List α)}

theorem replicate {count : Nat} (whole : parts.length = count) :
    Agrees (List.replicate count none) parts := by
  subst whole
  induction parts with
  | nil => exact .nil
  | cons part parts ih => exact .cons (.inl rfl) ih

theorem length_eq (agrees : Agrees pieces parts) : pieces.length = parts.length :=
  List.Forall₂.length_eq agrees

theorem set {index : Nat} {part : List α} (agrees : Agrees pieces parts)
    (own : parts[index]? = some part) : Agrees (pieces.set index (some part)) parts := by
  induction agrees generalizing index with
  | nil => exact .nil
  | cons here rest ih =>
      cases index with
      | zero =>
          cases Option.some.inj own
          exact .cons (.inr rfl) rest
      | succ index => exact .cons here (ih own)

/-- The places hold no more than the message. -/
theorem held_le (agrees : Agrees pieces parts) : held pieces ≤ parts.flatten.length := by
  induction agrees with
  | nil => exact Nat.le_refl 0
  | @cons piece part pieces parts here _ ih =>
      have first : (piece.getD []).length ≤ part.length := by
        rcases here with rfl | rfl
        · exact Nat.zero_le _
        · exact Nat.le_refl _
      rw [flatten_cons, length_append]
      change (piece.getD []).length + held pieces ≤ _
      omega

end Agrees

end ExecutionHandoff.Library
