import Mathlib.Algebra.Order.Group.Defs
import Mathlib.Order.Lattice

/-!
# Points and rectangles

Rectangles with their left and upper edges and without the other two, the sides
a point can lie on, and values held between two bounds.
-/

namespace ExecutionHandoff.Library

/-! ## Bounds -/

section Clamp

variable {α : Type*} [LinearOrder α] {value other low high : α}

/-- The value, held between two bounds. -/
def clamp (value low high : α) : α := max low (min high value)

theorem low_le_clamp : low ≤ clamp value low high := le_max_left low _

theorem clamp_le_high (ordered : low ≤ high) : clamp value low high ≤ high :=
  max_le ordered (min_le_left high value)

/-- What is between the bounds is left alone. -/
theorem clamp_of_mem (above : low ≤ value) (below : value ≤ high) : clamp value low high = value := by
  unfold clamp
  rw [min_eq_right below, max_eq_right above]

end Clamp

/-! ## Rectangles -/

structure Point (α : Type*) where
  x : α
  y : α
  deriving DecidableEq

structure Rect (α : Type*) where
  minX : α
  minY : α
  width : α
  height : α
  deriving DecidableEq

namespace Rect

variable {α : Type*} [AddCommGroup α] [LinearOrder α]

def maxX (rect : Rect α) : α := rect.minX + rect.width

def maxY (rect : Rect α) : α := rect.minY + rect.height

/-- The right and the lower edge do not belong to a rectangle. -/
def Contains (rect : Rect α) (point : Point α) : Prop :=
  (rect.minX ≤ point.x ∧ point.x < rect.maxX) ∧ (rect.minY ≤ point.y ∧ point.y < rect.maxY)

instance (rect : Rect α) (point : Point α) : Decidable (rect.Contains point) :=
  inferInstanceAs (Decidable (_ ∧ _))

/-- The point keeps the margin on one of the four sides. -/
def Beside (rect : Rect α) (margin : α) (point : Point α) : Prop :=
  point.x ≤ rect.minX - margin ∨ rect.maxX + margin ≤ point.x ∨
    point.y ≤ rect.minY - margin ∨ rect.maxY + margin ≤ point.y

/-- A point beside a rectangle is not in it. -/
theorem Beside.not_contains [IsOrderedAddMonoid α] {rect : Rect α} {margin : α} {point : Point α}
    (beside : rect.Beside margin point) (kept : 0 < margin) : ¬ rect.Contains point := by
  rintro ⟨⟨left, right⟩, top, bottom⟩
  rcases beside with before | behind | above | below
  · exact lt_irrefl _ ((left.trans before).trans_lt (sub_lt_self _ kept))
  · exact lt_irrefl _ ((right.trans_le (le_add_of_nonneg_right kept.le)).trans_le behind)
  · exact lt_irrefl _ ((top.trans above).trans_lt (sub_lt_self _ kept))
  · exact lt_irrefl _ ((bottom.trans_le (le_add_of_nonneg_right kept.le)).trans_le below)

end Rect

end ExecutionHandoff.Library
