import Mathlib.Data.List.Basic
import Mathlib.Logic.Function.Basic

/-!
# Separated text fields

A signed text strings its fields together with a separator.  A field in which
the separator does not occur can be read back off such a text, and so can
whatever stands before a common rest.
-/

namespace ExecutionHandoff.Library

open List

/-- The separator does not occur in the text. -/
def FreeOf (separator : Char) (text : String) : Prop := separator ∉ text.toList

theorem append_separator_injective {α : Type*} {separator : α} {left right rest rest' : List α}
    (leftFree : separator ∉ left) (rightFree : separator ∉ right)
    (equal : left ++ separator :: rest = right ++ separator :: rest') :
    left = right ∧ rest = rest' := by
  induction left generalizing right with
  | nil =>
      cases right with
      | nil => exact ⟨rfl, (List.cons.inj equal).2⟩
      | cons head tail =>
          exact absurd (List.cons.inj equal).1 (ne_of_not_mem_cons rightFree)
  | cons head tail ih =>
      cases right with
      | nil => exact absurd (List.cons.inj equal).1.symm (ne_of_not_mem_cons leftFree)
      | cons head' tail' =>
          obtain ⟨same, further⟩ := List.cons.inj equal
          obtain ⟨tails, rests⟩ := ih (fun mem => leftFree (.tail _ mem))
            (fun mem => rightFree (.tail _ mem)) further
          exact ⟨by rw [same, tails], rests⟩

theorem append_last_separator_injective {α : Type*} {separator : α}
    {left right rest rest' : List α} (restFree : separator ∉ rest) (restFree' : separator ∉ rest')
    (equal : left ++ separator :: rest = right ++ separator :: rest') :
    left = right ∧ rest = rest' := by
  have backwards := congrArg reverse equal
  simp only [reverse_append, reverse_cons, append_assoc, singleton_append]
    at backwards
  obtain ⟨rests, lefts⟩ := append_separator_injective (fun mem => restFree (mem_reverse.mp mem))
    (fun mem => restFree' (mem_reverse.mp mem)) backwards
  exact ⟨reverse_injective lefts, reverse_injective rests⟩

/-- The first field of two equal texts agrees when the separator occurs in neither. -/
theorem intercalate_head_injective {separator : Char} {left right : String}
    {rest rest' : List String} (leftFree : FreeOf separator left)
    (rightFree : FreeOf separator right) (more : rest ≠ []) (more' : rest' ≠ [])
    (equal : String.intercalate (String.singleton separator) (left :: rest) =
      String.intercalate (String.singleton separator) (right :: rest')) :
    left = right ∧ String.intercalate (String.singleton separator) rest =
      String.intercalate (String.singleton separator) rest' := by
  rw [String.intercalate_cons_of_ne_nil more, String.intercalate_cons_of_ne_nil more'] at equal
  have chars := congrArg String.toList equal
  simp only [String.toList_append, String.toList_singleton, append_assoc,
    singleton_append] at chars
  obtain ⟨heads, rests⟩ := append_separator_injective leftFree rightFree chars
  exact ⟨String.toList_inj.mp heads, String.toList_inj.mp rests⟩

/-- A common first field cancels. -/
theorem intercalate_common_head {separator first : String} {rest rest' : List String}
    (more : rest ≠ []) (more' : rest' ≠ [])
    (equal : separator.intercalate (first :: rest) = separator.intercalate (first :: rest')) :
    separator.intercalate rest = separator.intercalate rest' := by
  rw [String.intercalate_cons_of_ne_nil more, String.intercalate_cons_of_ne_nil more'] at equal
  exact (String.append_right_inj _).mp equal

/-- Common last fields cancel. -/
theorem intercalate_common_tail {separator left right : String} {rest : List String}
    (equal : separator.intercalate (left :: rest) = separator.intercalate (right :: rest)) :
    left = right := by
  cases rest with
  | nil => simpa using equal
  | cons next rest =>
      rw [String.intercalate_cons_cons, String.intercalate_cons_cons, String.append_assoc,
        String.append_assoc] at equal
      exact (String.append_left_inj _).mp equal

/-- Decimal numerals of different numbers differ. -/
theorem toString_nat_injective : Function.Injective (toString : Nat → String) := by
  intro left right equal
  rw [Nat.toString_eq_repr, Nat.toString_eq_repr] at equal
  have digits := congrArg (fun text => Nat.ofDigitChars 10 text.toList 0) equal
  simpa only [Nat.toList_repr, Nat.ofDigitChars_ten_toDigits] using digits

end ExecutionHandoff.Library
