import Mathlib.Data.List.Basic

/-!
# Histories

A history is a list of entries with the newest first.  `Each` says of every
entry something about the entries before it, which is how order properties of
a log are stated and kept.
-/

namespace ExecutionHandoff.Library

variable {α : Type*} {holds : α → List α → Prop}

/-- Every entry has the property together with the entries before it. -/
def Each (holds : α → List α → Prop) : List α → Prop
  | [] => True
  | entry :: past => holds entry past ∧ Each holds past

theorem Each.cons {entry : α} {past : List α} (head : holds entry past) (tail : Each holds past) :
    Each holds (entry :: past) :=
  ⟨head, tail⟩

/-- Entries that promise nothing may be added in any number. -/
theorem Each.append {more past : List α} (each : Each holds past)
    (free : ∀ entry ∈ more, ∀ before, holds entry before) : Each holds (more ++ past) := by
  induction more with
  | nil => exact each
  | cons entry rest ih =>
      constructor
      · exact free entry (.head _) _
      · exact ih fun other mem => free other (.tail _ mem)

/-- Entries may be added that each find, before them, the past with only such entries in front. -/
theorem Each.append_within {more past : List α} (each : Each holds past)
    (within : ∀ entry ∈ more, ∀ front, (∀ other ∈ front, other ∈ more) →
      holds entry (front ++ past)) : Each holds (more ++ past) := by
  induction more with
  | nil => exact each
  | cons entry rest ih =>
      constructor
      · exact within entry (.head _) rest fun other mem => .tail _ mem
      · exact ih fun other mem front all => within other (.tail _ mem) front fun entry' mem' =>
          .tail _ (all entry' mem')

end ExecutionHandoff.Library
