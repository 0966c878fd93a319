import Mathlib.Data.List.Basic

/-!
# Lines in a stream of characters

A sender writes whole lines; what it has written arrives in chunks cut
anywhere.  A receiver keeps what is left after the last line break and takes
the complete lines off what has arrived.
-/

namespace ExecutionHandoff.Library

open List

/-- The text that a list of lines is written as. -/
def writeLines : List (List Char) → List Char
  | [] => []
  | line :: lines => line ++ '\n' :: writeLines lines

/-- The complete lines of a text, and what is left. -/
def readLines : List Char → List (List Char) × List Char
  | [] => ([], [])
  | c :: text =>
      if c = '\n' then
        ([] :: (readLines text).1, (readLines text).2)
      else
        match readLines text with
        | ([], rest) => ([], c :: rest)
        | (line :: lines, rest) => ((c :: line) :: lines, rest)

/-- No line break is within a line. -/
def Unbroken (lines : List (List Char)) : Prop :=
  ∀ line ∈ lines, '\n' ∉ line

theorem writeLines_append (before after : List (List Char)) :
    writeLines (before ++ after) = writeLines before ++ writeLines after := by
  induction before with
  | nil => rfl
  | cons line lines ih =>
      change line ++ '\n' :: writeLines (lines ++ after) = _
      rw [ih]
      exact (append_assoc line ('\n' :: writeLines lines) (writeLines after)).symm

theorem writeLines_readLines (text : List Char) :
    writeLines (readLines text).1 ++ (readLines text).2 = text := by
  induction text with
  | nil => rfl
  | cons c text ih =>
      unfold readLines
      split
      · rename_i same
        subst same
        exact congrArg (List.cons '\n') ih
      · split
        · rename_i rest outcome
          rw [outcome] at ih
          exact congrArg (List.cons c) ih
        · rename_i line lines rest outcome
          rw [outcome] at ih
          exact congrArg (List.cons c) ih

theorem readLines_unbroken (text : List Char) :
    Unbroken (readLines text).1 ∧ '\n' ∉ (readLines text).2 := by
  induction text with
  | nil => exact ⟨fun _ no => (by cases no), not_mem_nil⟩
  | cons c text ih =>
      obtain ⟨lines, rest⟩ := ih
      unfold readLines
      split
      · refine ⟨fun line mem => ?_, rest⟩
        rcases mem_cons.mp mem with rfl | mem
        · exact not_mem_nil
        · exact lines line mem
      · rename_i other
        split
        · rename_i outcome
          rw [outcome] at rest
          exact ⟨fun _ no => (by cases no), not_mem_cons_of_ne_of_not_mem (Ne.symm other) rest⟩
        · rename_i outcome
          rw [outcome] at lines rest
          refine ⟨fun line' mem => ?_, rest⟩
          rcases mem_cons.mp mem with rfl | mem
          · exact not_mem_cons_of_ne_of_not_mem (Ne.symm other) (lines _ mem_cons_self)
          · exact lines line' (mem_cons_of_mem _ mem)

/-- The first line break of a text says what its first line is. -/
theorem first_line {line line' text text' : List Char} (clean : '\n' ∉ line)
    (clean' : '\n' ∉ line') (same : line ++ '\n' :: text = line' ++ '\n' :: text') :
    line = line' ∧ text = text' := by
  induction line generalizing line' with
  | nil =>
      cases line' with
      | nil => exact ⟨rfl, tail_eq_of_cons_eq same⟩
      | cons c line' => exact absurd (head_eq_of_cons_eq same ▸ mem_cons_self) clean'
  | cons c line ih =>
      cases line' with
      | nil => exact absurd (head_eq_of_cons_eq same ▸ mem_cons_self) clean
      | cons c' line' =>
          obtain ⟨rfl, tails⟩ := List.cons.inj same
          obtain ⟨rfl, left⟩ := ih (not_mem_of_not_mem_cons clean)
            (not_mem_of_not_mem_cons clean') tails
          exact ⟨rfl, left⟩

/-- Lines can be told apart in the text they are written as. -/
theorem writeLines_prefix {lines front : List (List Char)} {tail : List Char}
    (unbroken : Unbroken lines) (whole : Unbroken front)
    (same : writeLines lines = writeLines front ++ tail) :
    ∃ rest, lines = front ++ rest ∧ tail = writeLines rest := by
  induction front generalizing lines with
  | nil => exact ⟨lines, rfl, same.symm⟩
  | cons line front ih =>
      have cut : writeLines (line :: front) ++ tail = line ++ '\n' :: (writeLines front ++ tail) :=
        append_assoc line ('\n' :: writeLines front) tail
      rw [cut] at same
      cases lines with
      | nil => exact absurd same.symm (by simp [writeLines])
      | cons line' lines =>
          have clean : '\n' ∉ line := whole line mem_cons_self
          have clean' : '\n' ∉ line' := unbroken line' mem_cons_self
          change line' ++ '\n' :: writeLines lines = _ at same
          obtain ⟨rfl, tails⟩ := first_line clean' clean same
          obtain ⟨rest, rfl, left⟩ := ih
            (fun other mem => unbroken other (mem_cons_of_mem _ mem))
            (fun other mem => whole other (mem_cons_of_mem _ mem)) tails
          exact ⟨rest, rfl, left⟩

/-- What has arrived of a written text: some of its lines are complete, and what is left continues
with the text under way to the other lines. -/
theorem readLines_arrived {lines : List (List Char)} {arrived under : List Char}
    (unbroken : Unbroken lines) (same : arrived ++ under = writeLines lines) :
    ∃ rest, lines = (readLines arrived).1 ++ rest ∧
      (readLines arrived).2 ++ under = writeLines rest := by
  obtain ⟨clean, _⟩ := readLines_unbroken arrived
  have cut := writeLines_readLines arrived
  rw [← cut, append_assoc] at same
  exact writeLines_prefix unbroken clean same.symm

theorem readLines_writeLines {lines : List (List Char)} (unbroken : Unbroken lines) :
    (readLines (writeLines lines)).1 = lines := by
  obtain ⟨rest, cut, left⟩ := readLines_arrived unbroken (append_nil (writeLines lines))
  rw [append_nil] at left
  have clean := (readLines_unbroken (writeLines lines)).2
  cases rest with
  | nil =>
      rw [append_nil] at cut
      exact cut.symm
  | cons line rest =>
      rw [left] at clean
      exact absurd (mem_append_right line mem_cons_self) clean

theorem readLines_rest {rest : List Char} (clean : '\n' ∉ rest) : readLines rest = ([], rest) := by
  induction rest with
  | nil => rfl
  | cons c rest ih =>
      have other : c ≠ '\n' := fun same => clean (same ▸ mem_cons_self)
      rw [readLines, if_neg other, ih (not_mem_of_not_mem_cons clean)]

theorem readLines_line {line : List Char} (clean : '\n' ∉ line) (text : List Char) :
    readLines (line ++ '\n' :: text) = (line :: (readLines text).1, (readLines text).2) := by
  induction line with
  | nil => rfl
  | cons c line ih =>
      have other : c ≠ '\n' := fun same => clean (same ▸ mem_cons_self)
      rw [cons_append, readLines, if_neg other, ih (not_mem_of_not_mem_cons clean)]

/-- Lines and what stands behind them are read as they were written. -/
theorem readLines_eq {lines : List (List Char)} {rest : List Char} (unbroken : Unbroken lines)
    (clean : '\n' ∉ rest) : readLines (writeLines lines ++ rest) = (lines, rest) := by
  induction lines with
  | nil => exact readLines_rest clean
  | cons line lines ih =>
      have cut : writeLines (line :: lines) ++ rest = line ++ '\n' :: (writeLines lines ++ rest) :=
        append_assoc line ('\n' :: writeLines lines) rest
      rw [cut, readLines_line (unbroken line mem_cons_self),
        ih fun other mem => unbroken other (mem_cons_of_mem _ mem)]

/-- More text goes on where the last line was left. -/
theorem readLines_append (text more : List Char) :
    readLines (text ++ more) =
      ((readLines text).1 ++ (readLines ((readLines text).2 ++ more)).1,
        (readLines ((readLines text).2 ++ more)).2) := by
  obtain ⟨unbroken, _⟩ := readLines_unbroken text
  obtain ⟨unbroken', clean⟩ := readLines_unbroken ((readLines text).2 ++ more)
  have whole : text ++ more = writeLines ((readLines text).1 ++
      (readLines ((readLines text).2 ++ more)).1) ++ (readLines ((readLines text).2 ++ more)).2 := by
    rw [writeLines_append, append_assoc, writeLines_readLines, ← append_assoc,
      writeLines_readLines]
  exact (congrArg readLines whole).trans (readLines_eq (fun line mem =>
    (mem_append.mp mem).elim (unbroken line) (unbroken' line)) clean)

/-- Nothing is left behind a line break. -/
theorem readLines_lineBreak (text : List Char) : (readLines (text ++ ['\n'])).2 = [] := by
  rw [readLines_append]
  exact congrArg Prod.snd (readLines_line (readLines_unbroken text).2 [])

theorem count_writeLines {lines : List (List Char)} (unbroken : Unbroken lines) :
    (writeLines lines).count '\n' = lines.length := by
  induction lines with
  | nil => rfl
  | cons line lines ih =>
      have none := count_eq_zero.mpr (unbroken line mem_cons_self)
      have rest := ih fun other mem => unbroken other (mem_cons_of_mem _ mem)
      change (line ++ '\n' :: writeLines lines).count '\n' = _
      rw [count_append, count_cons_self, none, rest, length_cons, Nat.zero_add]

/-- A text has as many lines as line breaks. -/
theorem length_readLines (text : List Char) : (readLines text).1.length = text.count '\n' := by
  obtain ⟨unbroken, clean⟩ := readLines_unbroken text
  have whole := congrArg (List.count '\n') (writeLines_readLines text)
  rw [count_append, count_writeLines unbroken, count_eq_zero.mpr clean] at whole
  exact whole

end ExecutionHandoff.Library
