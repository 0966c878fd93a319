import Mathlib.Data.List.Basic

/-!
# Marks in a stream

The first place at which a mark stands in a stream.  A reader that has not found
it yet need only keep the last symbols, fewer than the mark has.
-/

namespace ExecutionHandoff.Library

open List Option

section Marks

variable {α : Type*} [DecidableEq α] (mark : List α)

/-- What stands before the first mark, and the rest from it on. -/
def cutAt : List α → Option (List α × List α)
  | [] => if mark = [] then some ([], []) else none
  | symbol :: symbols =>
      if mark.isPrefixOf (symbol :: symbols) then some ([], symbol :: symbols)
      else (cutAt symbols).map fun cut => (symbol :: cut.1, cut.2)

variable {mark} {symbols front back : List α}

theorem cutAt_spec (cut : cutAt mark symbols = some (front, back)) :
    symbols = front ++ back ∧ mark <+: back := by
  induction symbols generalizing front with
  | nil =>
      unfold cutAt at cut
      split at cut
      · rename_i empty
        cases cut
        exact ⟨rfl, empty ▸ nil_prefix⟩
      · cases cut
  | cons symbol symbols ih =>
      unfold cutAt at cut
      split at cut
      · rename_i here
        cases cut
        exact ⟨rfl, List.isPrefixOf_iff_prefix.mp here⟩
      · obtain ⟨⟨front', back'⟩, cut', same⟩ := map_eq_some_iff.mp cut
        cases same
        obtain ⟨rfl, here⟩ := ih cut'
        exact ⟨rfl, here⟩

theorem cutAt_prefix (some' : mark ≠ []) (here : mark <+: symbols) :
    cutAt mark symbols = some ([], symbols) := by
  cases symbols with
  | nil => exact absurd (prefix_nil.mp here) some'
  | cons symbol symbols => exact if_pos (List.isPrefixOf_iff_prefix.mpr here)

/-- Symbols with which no mark begins stand before the first mark. -/
theorem cutAt_skip {first : α} {tail : List α} (others : ∀ symbol ∈ front, symbol ≠ first)
    (here : first :: tail <+: back) : cutAt (first :: tail) (front ++ back) = some (front, back) := by
  induction front with
  | nil => exact cutAt_prefix (cons_ne_nil _ _) here
  | cons symbol front ih =>
      have other : (first :: tail).isPrefixOf (symbol :: (front ++ back)) = false := by
        have differs := others symbol mem_cons_self
        simp [isPrefixOf, differs.symm]
      rw [cons_append, cutAt, other, if_neg Bool.false_ne_true,
        ih fun symbol mem => others symbol (mem_cons_of_mem _ mem)]
      rfl

omit [DecidableEq α] in
/-- Symbols behind do not matter where there are as many as the mark has. -/
theorem prefix_append_iff (long : mark.length ≤ symbols.length) (more : List α) :
    mark <+: symbols ++ more ↔ mark <+: symbols :=
  ⟨fun here => prefix_of_prefix_length_le here (prefix_append _ _) long,
    fun here => here.trans (prefix_append _ _)⟩

/-- A mark once found stays the first one. -/
theorem cutAt_append (cut : cutAt mark symbols = some (front, back)) (more : List α) :
    cutAt mark (symbols ++ more) = some (front, back ++ more) := by
  induction symbols generalizing front with
  | nil =>
      unfold cutAt at cut
      split at cut
      · rename_i empty
        cases cut
        subst empty
        cases more <;> rfl
      · cases cut
  | cons symbol symbols ih =>
      have long : mark.length ≤ (symbol :: symbols).length := by
        obtain ⟨whole, here⟩ := cutAt_spec cut
        rw [whole, length_append]
        exact Nat.le_add_left_of_le here.length_le
      unfold cutAt at cut
      rw [cons_append, cutAt]
      split at cut
      · rename_i here
        cases cut
        rw [if_pos]
        · rfl
        · exact List.isPrefixOf_iff_prefix.mpr ((prefix_append_iff long more).mpr
            (List.isPrefixOf_iff_prefix.mp here))
      · rename_i other
        obtain ⟨⟨front', back'⟩, cut', same⟩ := map_eq_some_iff.mp cut
        cases same
        rw [if_neg, ih cut']
        · rfl
        · intro here
          exact other (List.isPrefixOf_iff_prefix.mpr ((prefix_append_iff long more).mp
            (List.isPrefixOf_iff_prefix.mp here)))

/-- A mark that comes with more symbols is not within those before. -/
theorem cutAt_beyond (none' : cutAt mark symbols = none) {more : List α}
    (cut : cutAt mark (symbols ++ more) = some (front, back)) :
    symbols.length < front.length + mark.length := by
  induction symbols generalizing front with
  | nil =>
      refine Nat.lt_of_lt_of_le (length_pos_iff.mpr ?_) (Nat.le_add_left _ _)
      rintro rfl
      cases none'
  | cons symbol symbols ih =>
      by_contra within
      rw [Nat.not_lt, length_cons] at within
      unfold cutAt at none'
      rw [cons_append, cutAt] at cut
      split at none'
      · cases none'
      · rename_i other
        have rest : cutAt mark symbols = none := map_eq_none_iff.mp none'
        split at cut
        · rename_i here
          cases cut
          rw [length_nil, Nat.zero_add] at within
          exact other (List.isPrefixOf_iff_prefix.mpr ((prefix_append_iff within more).mp
            (List.isPrefixOf_iff_prefix.mp here)))
        · obtain ⟨⟨front', back'⟩, cut', same⟩ := map_eq_some_iff.mp cut
          cases same
          have beyond : symbols.length < front'.length + mark.length := ih rest cut'
          simp only [length_cons] at within
          omega

/-- Of symbols without a mark the last ones are enough to find the next one. -/
theorem cutAt_keep (none' : cutAt mark symbols = none) (more : List α) :
    (cutAt mark (symbols.drop (symbols.length - (mark.length - 1)) ++ more)).map Prod.snd =
      (cutAt mark (symbols ++ more)).map Prod.snd := by
  induction symbols with
  | nil => rw [drop_nil]
  | cons symbol symbols ih =>
      rcases Nat.lt_or_ge symbols.length (mark.length - 1) with few | many
      · have all : (symbol :: symbols).length - (mark.length - 1) = 0 := by
          rw [length_cons]
          omega
        rw [all, drop_zero]
      · have kept : (symbol :: symbols).length - (mark.length - 1) =
            (symbols.length - (mark.length - 1)) + 1 := by
          rw [length_cons]
          omega
        unfold cutAt at none'
        split at none'
        · cases none'
        · rename_i other
          have rest : cutAt mark symbols = none := map_eq_none_iff.mp none'
          have long : mark.length ≤ (symbol :: symbols).length := by
            rw [length_cons]
            omega
          have absent : ¬ mark.isPrefixOf (symbol :: (symbols ++ more)) = true := fun here =>
            other (List.isPrefixOf_iff_prefix.mpr ((prefix_append_iff long more).mp
              (List.isPrefixOf_iff_prefix.mp here)))
          rw [kept, drop_succ_cons, ih rest, cons_append]
          conv_rhs => rw [cutAt, if_neg absent, Option.map_map]
          rfl

end Marks

end ExecutionHandoff.Library
