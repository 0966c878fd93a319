import ExecutionHandoff.Library.OrderedMap
import Mathlib.Algebra.GroupWithZero.Nat

/-!
# Weights of ordered maps

The sum of the weights of the values of a map, and what storing and removing a
value does to it.  With such sums a system whose tasks are kept in maps gets a
measure of the work that is left.
-/

namespace ExecutionHandoff.Library

open List

namespace OrderedMap

variable {κ ν : Type*} {w w' : ν → Nat}

def entriesWeight (w : ν → Nat) (entries : List (κ × ν)) : Nat :=
  (entries.map fun entry => w entry.2).sum

/-- The sum of the weights of all values. -/
def weight (w : ν → Nat) (map : OrderedMap κ ν) : Nat := entriesWeight w map.entries

theorem entriesWeight_cons (w : ν → Nat) (entry : κ × ν) (entries : List (κ × ν)) :
    entriesWeight w (entry :: entries) = w entry.2 + entriesWeight w entries :=
  rfl

theorem entriesWeight_le (entries : List (κ × ν)) (le : ∀ entry ∈ entries, w entry.2 ≤ w' entry.2) :
    entriesWeight w entries ≤ entriesWeight w' entries := by
  induction entries with
  | nil => exact Nat.le_refl _
  | cons entry rest ih =>
      have head := le entry mem_cons_self
      have tail := ih fun other mem => le other (mem_cons_of_mem _ mem)
      rw [entriesWeight_cons, entriesWeight_cons]
      omega

variable [DecidableEq κ]

theorem entriesWeight_storeEntry_le (key : κ) (value : ν) (entries : List (κ × ν)) :
    entriesWeight w (storeEntry key value entries) ≤ entriesWeight w entries + w value := by
  induction entries with
  | nil => exact Nat.le_of_eq (Nat.add_comm _ _)
  | cons entry rest ih =>
      unfold storeEntry
      split
      · rw [entriesWeight_cons, entriesWeight_cons]
        dsimp only
        omega
      · rw [entriesWeight_cons, entriesWeight_cons]
        omega

theorem entriesWeight_storeEntry {key : κ} {value old : ν} {entries : List (κ × ν)}
    (found : lookupEntry key entries = some old) :
    entriesWeight w (storeEntry key value entries) + w old = entriesWeight w entries + w value := by
  induction entries with
  | nil => cases found
  | cons entry rest ih =>
      unfold lookupEntry at found
      unfold storeEntry
      split at found
      · rename_i same
        cases found
        rw [if_pos same, entriesWeight_cons, entriesWeight_cons]
        dsimp only
        omega
      · rename_i other
        have tail := ih found
        rw [if_neg other, entriesWeight_cons, entriesWeight_cons]
        omega

theorem entriesWeight_remove {key : κ} {old : ν} {entries : List (κ × ν)}
    (nodup : (entries.map Prod.fst).Nodup) (found : lookupEntry key entries = some old) :
    entriesWeight w (entries.filter fun entry => entry.1 ≠ key) + w old = entriesWeight w entries := by
  induction entries with
  | nil => cases found
  | cons entry rest ih =>
      rw [map_cons, nodup_cons] at nodup
      unfold lookupEntry at found
      split at found
      · rename_i same
        cases found
        have rest_kept : rest.filter (fun entry => entry.1 ≠ key) = rest := by
          refine filter_eq_self.mpr fun other mem => decide_eq_true fun here => nodup.1 ?_
          rw [same, ← here]
          exact mem_map_of_mem mem
        rw [filter_cons_of_neg (by simp [same]), rest_kept, entriesWeight_cons]
        omega
      · rename_i other
        have tail := ih nodup.2 found
        rw [filter_cons_of_pos (by simp [other]), entriesWeight_cons, entriesWeight_cons]
        omega

/-- Storing a value adds its weight at most. -/
theorem weight_set_le (map : OrderedMap κ ν) (key : κ) (value : ν) :
    (map.set key value).weight w ≤ map.weight w + w value :=
  entriesWeight_storeEntry_le key value map.entries

/-- Replacing a value exchanges the weights. -/
theorem weight_set {map : OrderedMap κ ν} {key : κ} {old : ν} (found : map.get? key = some old)
    (value : ν) : (map.set key value).weight w + w old = map.weight w + w value :=
  entriesWeight_storeEntry found

theorem weight_delete {map : OrderedMap κ ν} {key : κ} {old : ν} (found : map.get? key = some old) :
    (map.delete key).weight w + w old = map.weight w :=
  entriesWeight_remove map.nodup found

/-- The weight where no value weighs less. -/
theorem weight_mono (map : OrderedMap κ ν)
    (le : ∀ key value, map.get? key = some value → w value ≤ w' value) :
    map.weight w ≤ map.weight w' :=
  entriesWeight_le map.entries fun entry mem => le entry.1 entry.2 (get?_eq_some_iff.mpr mem)

end OrderedMap

end ExecutionHandoff.Library
