import Mathlib.Order.Bounds.Basic

/-!
# Windows of ages

The greatest of the numbers taken so far, with one bit for each number that lies
less than the width below it.  The bit at position `age` says whether the number
of that age has been taken.
-/

namespace ExecutionHandoff.Library

structure AgeWindow (width : Nat) where
  highest : Option Nat
  ages : BitVec width

namespace AgeWindow

variable {width : Nat}

def empty : AgeWindow width := ⟨none, 0⟩

def accept (window : AgeWindow width) (number : Nat) : Bool × AgeWindow width :=
  match window.highest with
  | none => (true, ⟨some number, 1⟩)
  | some highest =>
      if highest < number then
        (true, ⟨some number, window.ages <<< (number - highest) ||| 1⟩)
      else if highest - number < width ∧ window.ages.getLsbD (highest - number) = false then
        (true, ⟨some highest, window.ages ||| (1 : BitVec width) <<< (highest - number)⟩)
      else (false, window)

/-- A number is taken once, and none that lies the width or more below the greatest one. -/
def Admissible (width : Nat) (taken : Set Nat) (number : Nat) : Prop :=
  number ∉ taken ∧
    (taken = ∅ ∨ ∃ highest, IsGreatest taken highest ∧
      (highest < number ∨ number ≤ highest ∧ highest - number < width))

/-- The window stands for the numbers taken so far. -/
structure Represents (window : AgeWindow width) (taken : Set Nat) : Prop where
  fresh : window.highest = none → taken = ∅
  greatest : ∀ highest, window.highest = some highest → IsGreatest taken highest
  marked : ∀ highest, window.highest = some highest → ∀ age < width,
    (window.ages.getLsbD age = true ↔ age ≤ highest ∧ highest - age ∈ taken)

theorem represents_empty : Represents (empty : AgeWindow width) ∅ where
  fresh := fun _ => rfl
  greatest := fun _ no => by cases no
  marked := fun _ no => by cases no

section Accepting

variable {window : AgeWindow width} {taken : Set Nat} {number highest : Nat}

theorem accept_first (first : window.highest = none) :
    window.accept number = (true, ⟨some number, 1⟩) := by
  unfold accept
  rw [first]

theorem accept_above (some_highest : window.highest = some highest) (above : highest < number) :
    window.accept number =
      (true, ⟨some number, window.ages <<< (number - highest) ||| 1⟩) := by
  unfold accept
  rw [some_highest]
  exact if_pos above

theorem accept_inside (some_highest : window.highest = some highest) (below : ¬ highest < number)
    (inside : highest - number < width ∧ window.ages.getLsbD (highest - number) = false) :
    window.accept number =
      (true, ⟨some highest, window.ages ||| (1 : BitVec width) <<< (highest - number)⟩) := by
  unfold accept
  rw [some_highest]
  exact (if_neg below).trans (if_pos inside)

theorem accept_refused (some_highest : window.highest = some highest) (below : ¬ highest < number)
    (outside : ¬ (highest - number < width ∧
      window.ages.getLsbD (highest - number) = false)) :
    window.accept number = (false, window) := by
  unfold accept
  rw [some_highest]
  exact (if_neg below).trans (if_neg outside)

/-- The bit of the greatest number. -/
theorem getLsbD_one (age : Nat) (short : age < width) :
    (1 : BitVec width).getLsbD age = decide (age = 0) := by
  have wide : 0 < width := Nat.lt_of_le_of_lt (Nat.zero_le age) short
  simp [BitVec.getLsbD_one, wide]

/-- The first number is the greatest one. -/
theorem represents_first : Represents (⟨some number, 1⟩ : AgeWindow width) {number} where
  fresh := fun no => by cases no
  greatest := fun _ same => by
    cases same
    exact isGreatest_singleton
  marked := by
    rintro _ ⟨⟩ age short
    rw [getLsbD_one age short, decide_eq_true_iff, Set.mem_singleton_iff]
    omega

namespace Represents

variable (represents : Represents window taken)
include represents

/-- The numbers taken lie at or below the greatest one. -/
theorem le_highest (some_highest : window.highest = some highest) {other : Nat}
    (mem : other ∈ taken) : other ≤ highest :=
  (represents.greatest highest some_highest).2 mem

/-- A number above the greatest one moves every age up. -/
theorem above (some_highest : window.highest = some highest) (above : highest < number) :
    Represents (⟨some number, window.ages <<< (number - highest) ||| 1⟩ : AgeWindow width)
      (insert number taken) where
  fresh := fun no => by cases no
  greatest := by
    rintro _ ⟨⟩
    refine ⟨Set.mem_insert number taken, ?_⟩
    rintro other (rfl | mem)
    · exact Nat.le_refl _
    · exact (represents.le_highest some_highest mem).trans above.le
  marked := by
    rintro _ ⟨⟩ age short
    rw [BitVec.getLsbD_or, BitVec.getLsbD_shiftLeft, getLsbD_one age short, Set.mem_insert_iff]
    by_cases now : age = 0
    · simp [now]
    · by_cases moved : age < number - highest
      · have absent : number - age ∉ taken := fun mem => by
          have bound := represents.le_highest some_highest mem
          omega
        simp only [now, moved, decide_true, decide_false, Bool.not_true, Bool.and_false,
          Bool.false_and, Bool.or_false, Bool.false_eq_true, absent, or_false, false_iff]
        omega
      · have old := represents.marked highest some_highest (age - (number - highest)) (by omega)
        have same : highest - (age - (number - highest)) = number - age := by omega
        have other : number - age ≠ number ∨ number < age := by omega
        rw [same] at old
        simp only [now, moved, short, decide_true, decide_false, Bool.not_false, Bool.and_true,
          Bool.true_and, Bool.or_false, old]
        constructor
        · rintro ⟨within, mem⟩
          exact ⟨by omega, .inr mem⟩
        · rintro ⟨within, same | mem⟩
          · omega
          · exact ⟨by omega, mem⟩

/-- A number inside the window sets the bit of its age. -/
theorem inside (some_highest : window.highest = some highest) (below : ¬ highest < number)
    (short : highest - number < width) :
    Represents (⟨some highest, window.ages ||| (1 : BitVec width) <<< (highest - number)⟩ : AgeWindow width)
      (insert number taken) where
  fresh := fun no => by cases no
  greatest := by
    rintro _ ⟨⟩
    have greatest := represents.greatest highest some_highest
    refine ⟨.inr greatest.1, ?_⟩
    rintro other (rfl | mem)
    · exact Nat.le_of_not_lt below
    · exact greatest.2 mem
  marked := by
    rintro _ ⟨⟩ age within
    have old := represents.marked highest some_highest age within
    rw [BitVec.getLsbD_or, BitVec.getLsbD_shiftLeft, Set.mem_insert_iff, Bool.or_eq_true, old]
    by_cases earlier : age < highest - number
    · simp only [within, earlier, decide_true, Bool.not_true, Bool.and_false, Bool.false_and,
        Bool.false_eq_true, or_false]
      constructor
      · rintro ⟨bound, mem⟩
        exact ⟨bound, .inr mem⟩
      · rintro ⟨bound, same | mem⟩
        · omega
        · exact ⟨bound, mem⟩
    · rw [getLsbD_one _ (by omega)]
      simp only [within, earlier, decide_true, decide_false, Bool.not_false, Bool.and_true,
        Bool.true_and, decide_eq_true_iff]
      constructor
      · rintro (⟨bound, mem⟩ | same)
        · exact ⟨bound, .inr mem⟩
        · exact ⟨by omega, .inl (by omega)⟩
      · rintro ⟨bound, same | mem⟩
        · exact .inr (by omega)
        · exact .inl ⟨bound, mem⟩

/-- Exactly the admissible numbers are accepted. -/
theorem accept_iff (number : Nat) :
    (window.accept number).1 = true ↔ Admissible width taken number := by
  unfold Admissible
  cases some_highest : window.highest with
  | none =>
      rw [accept_first some_highest, represents.fresh some_highest]
      exact iff_of_true rfl ⟨Set.notMem_empty number, .inl rfl⟩
  | some highest =>
      have greatest := represents.greatest highest some_highest
      have inhabited : taken ≠ ∅ := Set.nonempty_iff_ne_empty.mp ⟨highest, greatest.1⟩
      by_cases above : highest < number
      · rw [accept_above some_highest above]
        refine iff_of_true rfl ⟨fun mem => ?_, .inr ⟨highest, greatest, .inl above⟩⟩
        exact Nat.not_le_of_lt above (greatest.2 mem)
      · have aged : highest - (highest - number) = number := by omega
        by_cases inside : highest - number < width ∧
            window.ages.getLsbD (highest - number) = false
        · rw [accept_inside some_highest above inside]
          have unmarked := (represents.marked highest some_highest _ inside.1).not.mp
            (Bool.not_eq_true _ ▸ inside.2)
          rw [aged] at unmarked
          refine iff_of_true rfl ⟨fun mem => unmarked ⟨Nat.sub_le _ _, mem⟩,
            .inr ⟨highest, greatest, .inr ⟨Nat.le_of_not_lt above, inside.1⟩⟩⟩
        · rw [accept_refused some_highest above inside]
          refine iff_of_false Bool.false_ne_true ?_
          rintro ⟨absent, first | ⟨other, top, over_top | ⟨under, close⟩⟩⟩
          · exact inhabited first
          · exact above (greatest.unique top ▸ over_top)
          · rw [← greatest.unique top] at under close
            refine inside ⟨close, ?_⟩
            have unmarked : ¬ (highest - number ≤ highest ∧
                highest - (highest - number) ∈ taken) := by
              rw [aged]
              exact fun marked => absent marked.2
            exact Bool.not_eq_true _ ▸ (represents.marked highest some_highest _ close).not.mpr unmarked

/-- What is accepted is taken, and nothing else changes. -/
theorem accept (number : Nat) :
    Represents (window.accept number).2
      (if (window.accept number).1 = true then insert number taken else taken) := by
  cases some_highest : window.highest with
  | none =>
      rw [accept_first some_highest, represents.fresh some_highest, if_pos rfl, insert_empty_eq]
      exact represents_first
  | some highest =>
      by_cases above : highest < number
      · rw [accept_above some_highest above, if_pos rfl]
        exact represents.above some_highest above
      · by_cases inside : highest - number < width ∧
            window.ages.getLsbD (highest - number) = false
        · rw [accept_inside some_highest above inside, if_pos rfl]
          exact represents.inside some_highest above inside.1
        · rw [accept_refused some_highest above inside, if_neg Bool.false_ne_true]
          exact represents

end Represents

end Accepting

end AgeWindow

end ExecutionHandoff.Library
