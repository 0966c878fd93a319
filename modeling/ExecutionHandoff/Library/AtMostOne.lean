import Mathlib.Data.List.Basic

/-!
# At most one of a list

Lists of which at most one position meets a condition, as the positions are
changed one at a time.
-/

namespace ExecutionHandoff.Library

open List

variable {α : Type*} {P : α → Prop} {items : List α} {position : Nat} {item fresh : α}

/-- At most one position of the list meets `P`. -/
def AtMostOne (P : α → Prop) (items : List α) : Prop :=
  ∀ (one other : Nat) (first second : α), items[one]? = some first → items[other]? = some second →
    P first → P second → one = other

/-- What is in a changed list is the new item, or stood at another position before. -/
theorem mem_set_cases {old : α} (mem : old ∈ items.set position fresh) :
    old = fresh ∨ ∃ other, other ≠ position ∧ items[other]? = some old := by
  obtain ⟨other, found⟩ := mem_iff_getElem?.mp mem
  by_cases here : position = other
  · subst here
    have within : position < items.length := by
      have bound := (List.getElem?_eq_some_iff.mp found).1
      rwa [length_set] at bound
    rw [getElem?_set_self within] at found
    exact .inl (Option.some.inj found).symm
  · rw [getElem?_set_ne here] at found
    exact .inr ⟨other, fun same => here same.symm, found⟩

/-- What was in a list and is not the item that was changed is still there. -/
theorem mem_set_or_eq {old : α} (found : items[position]? = some item) (mem : old ∈ items) :
    old = item ∨ old ∈ items.set position fresh := by
  obtain ⟨other, present⟩ := mem_iff_getElem?.mp mem
  by_cases here : position = other
  · subst here
    exact .inl (Option.some.inj (present.symm.trans found))
  · exact .inr (mem_iff_getElem?.mpr ⟨other, (getElem?_set_ne here).trans present⟩)

namespace AtMostOne

theorem of_none (none : ∀ item ∈ items, ¬P item) : AtMostOne P items :=
  fun _ _ first _ found _ holds _ => absurd holds (none first (mem_of_getElem? found))

/-- Beside the one position that meets the condition, no other does. -/
theorem others (most : AtMostOne P items) (found : items[position]? = some item)
    (holds : P item) {other : Nat} {old : α} (elsewhere : other ≠ position)
    (present : items[other]? = some old) : ¬P old :=
  fun also => elsewhere (most other position old item present found also holds)

/-- The position that meets the condition may be changed. -/
theorem set_of_none (none : ∀ other old, other ≠ position → items[other]? = some old → ¬P old) :
    AtMostOne P (items.set position fresh) := by
  have only (other : Nat) (old : α) (found : (items.set position fresh)[other]? = some old)
      (holds : P old) : other = position := by
    by_contra elsewhere
    rw [getElem?_set_ne fun same => elsewhere same.symm] at found
    exact none other old elsewhere found holds
  intro one other first second found found' holds holds'
  rw [only one first found holds, only other second found' holds']

/-- A change that lets no position newly meet the condition keeps it. -/
theorem set (most : AtMostOne P items) (found : items[position]? = some item)
    (keeps : P fresh → P item) : AtMostOne P (items.set position fresh) := by
  by_cases holds : P item
  · exact set_of_none fun _ _ elsewhere present => most.others found holds elsewhere present
  · have old (other : Nat) (one : α) (here : (items.set position fresh)[other]? = some one)
        (meets : P one) : items[other]? = some one := by
      by_cases same : position = other
      · subst same
        rw [getElem?_set_self (List.getElem?_eq_some_iff.mp found).1] at here
        cases here
        exact absurd (keeps meets) holds
      · rwa [getElem?_set_ne same] at here
    intro one other first second here here' meets meets'
    exact most one other first second (old one first here meets) (old other second here' meets')
      meets meets'

/-- An item that does not meet the condition may join. -/
theorem concat_of_not (most : AtMostOne P items) (unmet : ¬P fresh) :
    AtMostOne P (items ++ [fresh]) := by
  have old (other : Nat) (one : α) (found : (items ++ [fresh])[other]? = some one)
      (meets : P one) : items[other]? = some one := by
    rw [getElem?_append] at found
    split at found
    · exact found
    · cases mem_singleton.mp (mem_of_getElem? found)
      exact absurd meets unmet
  intro one other first second found found' meets meets'
  exact most one other first second (old one first found meets) (old other second found' meets')
    meets meets'

/-- An item may join a list of which none meets the condition. -/
theorem concat (none : ∀ item ∈ items, ¬P item) : AtMostOne P (items ++ [fresh]) := by
  have only (other : Nat) (old : α) (found : (items ++ [fresh])[other]? = some old)
      (holds : P old) : other = items.length := by
    rcases Nat.lt_trichotomy other items.length with inside | same | beyond
    · rw [getElem?_append_left inside] at found
      exact absurd holds (none old (mem_of_getElem? found))
    · exact same
    · have bound := (List.getElem?_eq_some_iff.mp found).1
      rw [length_append, length_singleton] at bound
      omega
  intro one other first second found found' holds holds'
  rw [only one first found holds, only other second found' holds']

end AtMostOne

end ExecutionHandoff.Library
