import Mathlib.Data.List.Basic

/-!
# Lines that a mark ends

A sender ends each of its lines with a mark.  A reader splits what has arrived
at the marks: what stands behind the last one is a line under way.
-/

namespace ExecutionHandoff.Library

open List

section Lines

variable {α : Type*} (mark : α)

/-- What a list of lines is sent as. -/
def terminate (lines : List (List α)) : List α := lines.flatMap fun line => line ++ [mark]

variable {mark} in
theorem terminate_cons (line : List α) (lines : List (List α)) :
    terminate mark (line :: lines) = line ++ mark :: terminate mark lines := by
  unfold terminate
  rw [flatMap_cons, append_assoc, singleton_append]

variable {mark} in
theorem intercalate_concat (lines : List (List α)) (rest : List α) :
    [mark].intercalate (lines ++ [rest]) = terminate mark lines ++ rest := by
  induction lines with
  | nil => simp [terminate]
  | cons line lines ih =>
      rw [cons_append, intercalate_cons_of_ne_nil (by simp), ih, terminate_cons]
      simp

variable [DecidableEq α]

/-- The lines of a text that a mark ends. -/
def completeLines (text : List α) : List (List α) := (text.splitOn mark).dropLast

/-- The line under way. -/
def unfinishedLine (text : List α) : List α := (text.splitOn mark).getLastD []

variable {mark} {lines : List (List α)} {text more : List α}

theorem splitOn_terminate (clean : ∀ line ∈ lines, mark ∉ line) (rest : List α) :
    (terminate mark lines ++ rest).splitOn mark = lines ++ rest.splitOn mark := by
  induction lines with
  | nil => rfl
  | cons line lines ih =>
      have further := ih fun other mem => clean other (mem_cons_of_mem _ mem)
      rw [terminate_cons, append_assoc, cons_append,
        splitOn_append_cons_self_of_not_mem (clean line mem_cons_self), further]
      rfl

theorem splitOn_eq (mark : α) (text : List α) :
    text.splitOn mark = completeLines mark text ++ [unfinishedLine mark text] := by
  have some' : text.splitOn mark ≠ [] := splitOn_ne_nil mark text
  unfold completeLines unfinishedLine
  rw [getLastD_eq_getLast?, getLast?_eq_some_getLast some', Option.getD_some,
    dropLast_append_getLast]

/-- A text is its complete lines and the line under way. -/
theorem terminate_completeLines (mark : α) (text : List α) :
    terminate mark (completeLines mark text) ++ unfinishedLine mark text = text := by
  rw [← intercalate_concat, ← splitOn_eq]
  exact intercalate_splitOn mark

theorem mem_splitOn_clean (mark : α) (text : List α) :
    ∀ line ∈ text.splitOn mark, mark ∉ line := by
  induction text with
  | nil => simp
  | cons first text ih =>
      rw [splitOn_cons_eq_if_modifyHead]
      split
      · intro line mem
        rcases mem_cons.mp mem with rfl | mem
        · exact not_mem_nil
        · exact ih line mem
      · rename_i other
        cases split : text.splitOn mark with
        | nil => exact absurd split (splitOn_ne_nil mark text)
        | cons line lines =>
            rw [split] at ih
            intro line' mem
            rcases mem_cons.mp mem with rfl | mem
            · refine not_mem_cons_of_ne_of_not_mem ?_ (ih line mem_cons_self)
              rintro rfl
              exact other (beq_self_eq_true mark)
            · exact ih line' (mem_cons_of_mem _ mem)

theorem completeLines_clean (text : List α) : ∀ line ∈ completeLines mark text, mark ∉ line :=
  fun line mem => mem_splitOn_clean mark text line (dropLast_subset _ mem)

theorem unfinishedLine_clean (text : List α) : mark ∉ unfinishedLine mark text :=
  mem_splitOn_clean mark text _ (by rw [splitOn_eq]; exact mem_concat_self)

theorem count_terminate (clean : ∀ line ∈ lines, mark ∉ line) :
    (terminate mark lines).count mark = lines.length := by
  induction lines with
  | nil => rfl
  | cons line lines ih =>
      have none := count_eq_zero.mpr (clean line mem_cons_self)
      rw [terminate_cons, count_append, none, count_cons_self,
        ih fun other mem => clean other (mem_cons_of_mem _ mem), Nat.zero_add, length_cons]

theorem length_completeLines (text : List α) :
    (completeLines mark text).length = text.count mark := by
  conv_rhs => rw [← terminate_completeLines mark text]
  rw [count_append, count_terminate (completeLines_clean text),
    count_eq_zero.mpr (unfinishedLine_clean text), Nat.add_zero]

/-- More text goes on where the line under way was left. -/
theorem splitOn_append (text more : List α) :
    completeLines mark (text ++ more) =
        completeLines mark text ++ completeLines mark (unfinishedLine mark text ++ more) ∧
      unfinishedLine mark (text ++ more) =
        unfinishedLine mark (unfinishedLine mark text ++ more) := by
  have whole : (text ++ more).splitOn mark =
      completeLines mark text ++ (unfinishedLine mark text ++ more).splitOn mark := by
    conv_lhs => rw [← terminate_completeLines mark text, append_assoc]
    exact splitOn_terminate (completeLines_clean text) _
  rw [splitOn_eq, splitOn_eq, ← append_assoc] at whole
  obtain ⟨complete, last⟩ := append_inj' whole rfl
  exact ⟨complete, singleton_inj.mp last⟩

/-- Sent lines are read as they were sent. -/
theorem completeLines_terminate (clean : ∀ line ∈ lines, mark ∉ line) :
    completeLines mark (terminate mark lines) = lines := by
  have whole := splitOn_terminate clean ([] : List α)
  rw [append_nil, splitOn_eq, splitOn_nil] at whole
  exact (append_inj' whole rfl).1

/-- What has arrived of the sent lines: the first ones, and a part of the next. -/
theorem completeLines_arrived (clean : ∀ line ∈ lines, mark ∉ line)
    (whole : text ++ more = terminate mark lines) :
    ∃ rest, lines = completeLines mark text ++ rest ∧
      unfinishedLine mark text ++ more = terminate mark rest := by
  have complete := (@splitOn_append _ mark _ text more).1
  rw [whole, completeLines_terminate clean] at complete
  refine ⟨_, complete, ?_⟩
  have sent := terminate_completeLines mark text
  have same : terminate mark (completeLines mark text) ++ (unfinishedLine mark text ++ more) =
      terminate mark (completeLines mark text) ++
        terminate mark (completeLines mark (unfinishedLine mark text ++ more)) := by
    rw [← append_assoc, sent, whole]
    conv_lhs => rw [complete]
    exact flatMap_append
  exact append_cancel_left same

/-- The line under way is no longer than the sent one. -/
theorem length_unfinishedLine_le {most : Nat} (clean : ∀ line ∈ lines, mark ∉ line)
    (short : ∀ line ∈ lines, line.length ≤ most) (whole : text ++ more = terminate mark lines) :
    (unfinishedLine mark text).length ≤ most := by
  obtain ⟨rest, split, left⟩ := completeLines_arrived clean whole
  cases rest with
  | nil =>
      have none' : unfinishedLine mark text = [] := (append_eq_nil_iff.mp left).1
      rw [none']
      exact Nat.zero_le _
  | cons line rest =>
      have within : line.length ≤ most := short line (by simp [split])
      rw [terminate_cons] at left
      rcases append_eq_append_iff.mp left with ⟨gone, same, _⟩ | ⟨beyond, same, same'⟩
      · rw [same, length_append] at within
        exact Nat.le_of_add_right_le within
      · cases beyond with
        | nil => rwa [same, append_nil]
        | cons first beyond =>
            cases (List.cons.inj same').1
            refine absurd ?_ (@unfinishedLine_clean _ mark _ text)
            rw [same]
            exact mem_append_right _ mem_cons_self

end Lines

end ExecutionHandoff.Library
