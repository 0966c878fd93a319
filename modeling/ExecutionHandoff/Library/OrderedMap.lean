import Mathlib.Data.List.Nodup

/-!
# Insertion-ordered maps

Finite maps that remember the order in which their keys were first stored.
Storing under a present key keeps the key's place; storing under a new key
appends.  `AList` moves a rewritten key to the front, so it cannot stand for
such a map when the iteration order is observable.
-/

namespace ExecutionHandoff.Library

open List

/-- Entries in insertion order, each key at most once. -/
structure OrderedMap (κ ν : Type*) where
  entries : List (κ × ν)
  nodup : (entries.map Prod.fst).Nodup

namespace OrderedMap

variable {κ ν : Type*}

theorem ext_entries {left right : OrderedMap κ ν} (same : left.entries = right.entries) :
    left = right := by
  cases left
  cases right
  cases same
  rfl

def empty : OrderedMap κ ν := ⟨[], List.nodup_nil⟩

def values (map : OrderedMap κ ν) : List ν := map.entries.map Prod.snd

/-- Rewrite every value, keeping keys and order. -/
def mapValues (map : OrderedMap κ ν) (f : ν → ν) : OrderedMap κ ν where
  entries := map.entries.map fun entry => (entry.1, f entry.2)
  nodup := by
    rw [List.map_map]
    exact map.nodup

/-- Keep only the entries whose value passes the test. -/
def filterValues (map : OrderedMap κ ν) (keep : ν → Bool) : OrderedMap κ ν where
  entries := map.entries.filter fun entry => keep entry.2
  nodup := map.nodup.sublist (List.filter_sublist.map Prod.fst)

variable [DecidableEq κ]

instance [DecidableEq ν] : DecidableEq (OrderedMap κ ν) := fun left right =>
  decidable_of_iff (left.entries = right.entries)
    ⟨ext_entries, fun same => by rw [same]⟩

def lookupEntry (key : κ) : List (κ × ν) → Option ν
  | [] => none
  | entry :: rest => if entry.1 = key then some entry.2 else lookupEntry key rest

def get? (map : OrderedMap κ ν) (key : κ) : Option ν := lookupEntry key map.entries

def contains (map : OrderedMap κ ν) (key : κ) : Bool := (map.get? key).isSome

def storeEntry (key : κ) (value : ν) : List (κ × ν) → List (κ × ν)
  | [] => [(key, value)]
  | entry :: rest =>
      if entry.1 = key then (key, value) :: rest else entry :: storeEntry key value rest

variable {other : κ} {value : ν} {entries : List (κ × ν)}

theorem mem_keys_storeEntry {key : κ} (mem : other ∈ (storeEntry key value entries).map Prod.fst) :
    other = key ∨ other ∈ entries.map Prod.fst := by
  induction entries with
  | nil => exact .inl (by simpa [storeEntry] using mem)
  | cons entry rest ih =>
      by_cases same : entry.1 = key
      · simp only [storeEntry, same, if_true, map_cons, mem_cons] at mem ⊢
        rcases mem with here | there
        · exact .inl here
        · exact .inr (.inr there)
      · simp only [storeEntry, same, if_false, map_cons, mem_cons] at mem ⊢
        rcases mem with here | there
        · exact .inr (.inl here)
        · rcases ih there with here | older
          · exact .inl here
          · exact .inr (.inr older)

theorem nodup_storeEntry {key : κ} (nodup : (entries.map Prod.fst).Nodup) :
    ((storeEntry key value entries).map Prod.fst).Nodup := by
  induction entries with
  | nil => exact nodup_singleton key
  | cons entry rest ih =>
      rw [map_cons, nodup_cons] at nodup
      by_cases same : entry.1 = key
      · simp only [storeEntry, same, if_true, map_cons, nodup_cons]
        exact ⟨same ▸ nodup.1, nodup.2⟩
      · simp only [storeEntry, same, if_false, map_cons, nodup_cons]
        refine ⟨fun mem => ?_, ih nodup.2⟩
        rcases mem_keys_storeEntry mem with here | older
        · exact same here
        · exact nodup.1 older

/-- A new key comes last. -/
theorem storeEntry_fresh {key : κ} (fresh : key ∉ entries.map Prod.fst) :
    storeEntry key value entries = entries ++ [(key, value)] := by
  induction entries with
  | nil => rfl
  | cons entry rest ih =>
      rw [map_cons, mem_cons, not_or] at fresh
      rw [storeEntry, if_neg (Ne.symm fresh.1), ih fresh.2]
      rfl

/-- Store a value, in place under a present key and at the end under a new one. -/
def set (map : OrderedMap κ ν) (key : κ) (value : ν) : OrderedMap κ ν :=
  ⟨storeEntry key value map.entries, nodup_storeEntry map.nodup⟩

/-- Remove a key and its value. -/
def delete (map : OrderedMap κ ν) (key : κ) : OrderedMap κ ν where
  entries := map.entries.filter fun entry => entry.1 ≠ key
  nodup := map.nodup.sublist (List.filter_sublist.map Prod.fst)

/-- The map that stores entries one after another. -/
def ofEntries (entries : List (κ × ν)) : OrderedMap κ ν :=
  entries.foldl (fun map entry => map.set entry.1 entry.2) empty

/-- Entries with different keys are stored in their order. -/
theorem entries_ofEntries (nodup : (entries.map Prod.fst).Nodup) :
    (ofEntries entries).entries = entries := by
  have stored (map : OrderedMap κ ν) (entries : List (κ × ν))
      (nodup : ((map.entries ++ entries).map Prod.fst).Nodup) :
      (entries.foldl (fun map entry => map.set entry.1 entry.2) map).entries =
        map.entries ++ entries := by
    induction entries generalizing map with
    | nil => exact (append_nil _).symm
    | cons entry entries ih =>
        have fresh : entry.1 ∉ map.entries.map Prod.fst := by
          rw [map_append, nodup_append] at nodup
          exact fun mem => nodup.2.2 _ mem _ (.head _) rfl
        have next : (map.set entry.1 entry.2).entries = map.entries ++ [entry] :=
          storeEntry_fresh fresh
        rw [foldl_cons, ih, next, append_assoc]
        · rfl
        · rw [next, append_assoc]
          exact nodup
  exact stored empty entries nodup

/-- The keys whose value passes the test, in order. -/
def keysOf (map : OrderedMap κ ν) (test : ν → Bool) : List κ :=
  (map.entries.filter fun entry => test entry.2).map Prod.fst

/-- Remove several keys and their values. -/
def deleteAll (map : OrderedMap κ ν) (keys : List κ) : OrderedMap κ ν where
  entries := map.entries.filter fun entry => entry.1 ∉ keys
  nodup := map.nodup.sublist (List.filter_sublist.map Prod.fst)

/-! ## Lookups -/

theorem lookupEntry_storeEntry (key other : κ) (value : ν) (entries : List (κ × ν)) :
    lookupEntry other (storeEntry key value entries) =
      if other = key then some value else lookupEntry other entries := by
  induction entries with
  | nil => by_cases same : other = key <;> simp [storeEntry, lookupEntry, same, Ne.symm]
  | cons entry rest ih =>
      by_cases here : entry.1 = key
      · by_cases same : other = key
        · simp [storeEntry, lookupEntry, here, same]
        · simp [storeEntry, lookupEntry, here, same, Ne.symm same]
      · by_cases same : other = key
        · subst same
          simp only [storeEntry, here, if_false, lookupEntry, ih, if_true]
        · simp only [storeEntry, here, if_false, lookupEntry, same, ih]

theorem get?_set (map : OrderedMap κ ν) (key other : κ) (value : ν) :
    (map.set key value).get? other = if other = key then some value else map.get? other :=
  lookupEntry_storeEntry key other value map.entries

@[simp] theorem get?_set_self (map : OrderedMap κ ν) (key : κ) (value : ν) :
    (map.set key value).get? key = some value := by
  rw [get?_set, if_pos rfl]

theorem get?_set_ne (map : OrderedMap κ ν) {key : κ} (value : ν) (ne : other ≠ key) :
    (map.set key value).get? other = map.get? other := by
  rw [get?_set, if_neg ne]

/-- Storing a value keeps every key that is there. -/
theorem exists_get?_set {map : OrderedMap κ ν}
    (stored : ∃ value, map.get? other = some value) (key : κ) (value : ν) :
    ∃ value', (map.set key value).get? other = some value' := by
  by_cases here : other = key
  · exact here ▸ ⟨value, get?_set_self _ _ _⟩
  · obtain ⟨old, found⟩ := stored
    exact ⟨old, (get?_set_ne _ _ here).trans found⟩

theorem lookupEntry_filter_ne (key other : κ) (entries : List (κ × ν)) :
    lookupEntry other (entries.filter fun entry => entry.1 ≠ key) =
      if other = key then none else lookupEntry other entries := by
  induction entries with
  | nil => simp [lookupEntry]
  | cons entry rest ih =>
      by_cases here : entry.1 = key
      · rw [filter_cons_of_neg (by simpa using here), ih]
        by_cases same : other = key
        · simp [same]
        · simp [same, lookupEntry, here, Ne.symm same]
      · rw [filter_cons_of_pos (by simpa using here)]
        by_cases found : entry.1 = other
        · have ne : other ≠ key := fun same => here (found.trans same)
          simp [lookupEntry, found, ne]
        · simp only [lookupEntry, found, if_false, ih]

theorem get?_delete (map : OrderedMap κ ν) (key other : κ) :
    (map.delete key).get? other = if other = key then none else map.get? other :=
  lookupEntry_filter_ne key other map.entries

@[simp] theorem get?_delete_self (map : OrderedMap κ ν) (key : κ) :
    (map.delete key).get? key = none := by
  rw [get?_delete, if_pos rfl]

theorem get?_delete_ne (map : OrderedMap κ ν) {key : κ} (ne : other ≠ key) :
    (map.delete key).get? other = map.get? other := by
  rw [get?_delete, if_neg ne]

/-- A lookup after a deletion found what was there before. -/
theorem get?_of_get?_delete {map : OrderedMap κ ν} {key : κ}
    (found : (map.delete key).get? other = some value) : map.get? other = some value := by
  rw [get?_delete] at found
  split at found
  · cases found
  · exact found

theorem lookupEntry_map (f : ν → ν) (key : κ) (entries : List (κ × ν)) :
    lookupEntry key (entries.map fun entry => (entry.1, f entry.2)) =
      (lookupEntry key entries).map f := by
  induction entries with
  | nil => rfl
  | cons entry rest ih =>
      by_cases here : entry.1 = key
      · simp [lookupEntry, here]
      · simp only [map_cons, lookupEntry, here, if_false, ih]

theorem get?_mapValues (map : OrderedMap κ ν) (f : ν → ν) (key : κ) :
    (map.mapValues f).get? key = (map.get? key).map f :=
  lookupEntry_map f key map.entries

theorem lookupEntry_eq_some_iff {key : κ} (nodup : (entries.map Prod.fst).Nodup) :
    lookupEntry key entries = some value ↔ (key, value) ∈ entries := by
  induction entries with
  | nil => simp [lookupEntry]
  | cons entry rest ih =>
      obtain ⟨stored, current⟩ := entry
      rw [map_cons, nodup_cons] at nodup
      by_cases here : stored = key
      · subst here
        have absent : (stored, value) ∉ rest := fun mem =>
          nodup.1 (mem_map.mpr ⟨(stored, value), mem, rfl⟩)
        simp [lookupEntry, absent, eq_comm]
      · simp [lookupEntry, here, Ne.symm here, ih nodup.2]

theorem get?_eq_some_iff {map : OrderedMap κ ν} {key : κ} :
    map.get? key = some value ↔ (key, value) ∈ map.entries :=
  lookupEntry_eq_some_iff map.nodup

theorem get?_filterValues (map : OrderedMap κ ν) (keep : ν → Bool) (key : κ) :
    (map.filterValues keep).get? key = (map.get? key).filter keep := by
  apply Option.ext
  intro value
  rw [get?_eq_some_iff, Option.filter_eq_some_iff, get?_eq_some_iff]
  simp [filterValues]

theorem get?_deleteAll (map : OrderedMap κ ν) (keys : List κ) (key : κ) :
    (map.deleteAll keys).get? key = if key ∈ keys then none else map.get? key := by
  apply Option.ext
  intro value
  rw [get?_eq_some_iff]
  simp only [deleteAll, mem_filter, decide_eq_true_eq]
  split
  · rename_i gone
    simp [gone]
  · rename_i stays
    simp [stays, get?_eq_some_iff]

/-- A lookup after deletions found what was there before. -/
theorem get?_of_get?_deleteAll {map : OrderedMap κ ν} {keys : List κ} {key : κ}
    (found : (map.deleteAll keys).get? key = some value) : map.get? key = some value := by
  rw [get?_deleteAll] at found
  split at found
  · cases found
  · exact found

theorem mem_keysOf_iff {map : OrderedMap κ ν} {test : ν → Bool} {key : κ} :
    key ∈ map.keysOf test ↔ ∃ value, map.get? key = some value ∧ test value = true := by
  simp [keysOf, get?_eq_some_iff]

theorem mem_values_iff {map : OrderedMap κ ν} :
    value ∈ map.values ↔ ∃ key, map.get? key = some value := by
  simp [values, get?_eq_some_iff]

end OrderedMap

end ExecutionHandoff.Library
