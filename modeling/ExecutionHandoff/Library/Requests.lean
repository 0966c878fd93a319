import Mathlib.Data.List.Nodup

/-!
# Requests handled in order

Requests are numbered in the order they are made.  Each waits, is written out,
and is then handled, first come first served, or is given up on the way.
-/

namespace ExecutionHandoff.Library

open List.Sublist (refl append)
/-- The handled requests, newest first, the written ones and the waiting ones are among the
requests made so far, in the order they were made. -/
def InOrder (handled written waiting : List Nat) (made : Nat) : Prop :=
  (handled.reverse ++ (written ++ waiting)).Sublist (List.range made)

namespace InOrder

variable {handled written waiting : List Nat} {made request : Nat}

theorem start : InOrder [] [] [] 0 :=
  refl []

theorem make (inOrder : InOrder handled written waiting made) :
    InOrder handled written (waiting ++ [made]) (made + 1) := by
  unfold InOrder
  rw [List.range_succ, ← List.append_assoc written, ← List.append_assoc]
  exact append inOrder (refl _)

theorem write (inOrder : InOrder handled written (request :: waiting) made) :
    InOrder handled (written ++ [request]) waiting made := by
  unfold InOrder
  rw [List.append_assoc written]
  exact inOrder

theorem forget (inOrder : InOrder handled written (request :: waiting) made) :
    InOrder handled written waiting made := by
  have fewer : (written ++ waiting).Sublist (written ++ request :: waiting) :=
    (refl written).append (List.sublist_cons_self request waiting)
  exact ((refl handled.reverse).append fewer).trans inOrder

theorem handle (inOrder : InOrder handled (request :: written) waiting made) :
    InOrder (request :: handled) written waiting made := by
  unfold InOrder
  rw [List.reverse_cons, List.append_assoc]
  exact inOrder

/-- No request is handled twice. -/
theorem once (inOrder : InOrder handled written waiting made) : handled.Nodup := by
  have distinct : handled.reverse.Nodup :=
    ((List.sublist_append_left _ _).trans inOrder).nodup List.nodup_range
  exact List.nodup_reverse.mp distinct

/-- What a request was handled with is unique. -/
theorem unique {α : Type*} {records : List (Nat × α)}
    (inOrder : InOrder (records.map Prod.fst) written waiting made) {one other : α}
    (first : (request, one) ∈ records) (second : (request, other) ∈ records) : one = other :=
  congrArg Prod.snd (List.inj_on_of_nodup_map inOrder.once first second rfl)

end InOrder

end ExecutionHandoff.Library
