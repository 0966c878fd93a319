import Mathlib.Data.List.Basic

/-!
# Chains of dependent items

Items that are submitted one after another and queued, where the last item of
the queue may still be replaced.  An item that is not a key is of use only
behind the item it follows.
-/

namespace ExecutionHandoff.Library

open List

variable {α : Type*} {key : α → Prop} {follows : α → α → Prop} {submitted queue line : List α}

/-- Every item is a key, or stands directly behind the one it follows, both as submitted. -/
def Chained (key : α → Prop) (follows : α → α → Prop) (submitted line : List α) : Prop :=
  ∀ front item, front ++ [item] <+: line → key item ∨
    ∃ before last, front = before ++ [last] ∧ follows last item ∧ [last, item] <:+: submitted

theorem Chained.mono {more : List α} (chained : Chained key follows submitted line) :
    Chained key follows (submitted ++ more) line := by
  intro front item within
  refine (chained front item within).imp_right fun ⟨before, last, same, next, adjacent⟩ => ?_
  exact ⟨before, last, same, next, adjacent.trans (prefix_append _ _).isInfix⟩

/-- What stands at the front of a chained line is chained as well. -/
theorem Chained.front (chained : Chained key follows submitted queue) (part : line <+: queue) :
    Chained key follows submitted line :=
  fun before item within => chained before item (within.trans part)

/-- A chained line takes a key, or what follows its last item. -/
theorem Chained.concat {item : α} (chained : Chained key follows submitted line)
    (fits : key item ∨ ∃ before last, line = before ++ [last] ∧ follows last item ∧
      [last, item] <:+: submitted) : Chained key follows submitted (line ++ [item]) := by
  intro front other within
  rcases prefix_concat_iff.mp within with whole | part
  · obtain ⟨rfl, same⟩ := append_inj' whole rfl
    cases same
    exact fits
  · exact chained front other part

/-- The queue is chained, and ends with the item submitted last. -/
structure Kept (key : α → Prop) (follows : α → α → Prop) (submitted queue : List α) : Prop where
  chained : Chained key follows submitted queue
  recent : queue.getLast? = submitted.getLast?
  among : queue ⊆ submitted

/-- An item submitted behind the last one stands directly behind it. -/
theorem adjacent_concat {last item : α} (recent : submitted.getLast? = some last) :
    [last, item] <:+: submitted ++ [item] := by
  obtain ⟨before, rfl⟩ := getLast?_eq_some_iff.mp recent
  exact ⟨before, [], by simp⟩

namespace Kept

theorem empty : Kept key follows [] [] where
  chained := fun _ _ part => absurd (prefix_nil.mp part) (concat_ne_nil _ _)
  recent := rfl
  among := List.Subset.refl _

/-- What has left the queue at its front is chained as well. -/
theorem line_chained (kept : Kept key follows submitted queue) (part : line <+: queue) :
    Chained key follows submitted line :=
  kept.chained.front part

/-- An item is a key, or follows the one submitted last. -/
theorem add {item : α} (kept : Kept key follows submitted queue)
    (fits : key item ∨ ∃ last, submitted.getLast? = some last ∧ follows last item) :
    Kept key follows (submitted ++ [item]) (queue ++ [item]) := by
  refine ⟨kept.chained.mono.concat (fits.imp_right ?_),
    by rw [getLast?_concat, getLast?_concat],
    append_subset.mpr ⟨subset_append_of_subset_left _ kept.among,
      subset_append_right _ _⟩⟩
  intro ⟨last, recent, next⟩
  obtain ⟨before, same⟩ := getLast?_eq_some_iff.mp (kept.recent.trans recent)
  exact ⟨before, last, same, next, adjacent_concat recent⟩

/-- A key takes the place of the last item of the queue. -/
theorem replace {item last : α} (kept : Kept key follows submitted (line ++ [last]))
    (fresh : key item) : Kept key follows (submitted ++ [item]) (line ++ [item]) := by
  have chained : Chained key follows submitted line := kept.line_chained (prefix_append _ _)
  refine ⟨chained.mono.concat (.inl fresh), by rw [getLast?_concat, getLast?_concat],
    append_subset.mpr ⟨subset_append_of_subset_left _ ?_, subset_append_right _ _⟩⟩
  exact fun other mem => kept.among (mem_append_left _ mem)

end Kept

end ExecutionHandoff.Library
