import ExecutionHandoff.Library.Json
import Mathlib.Data.List.Nodup
import Mathlib.Data.List.Sort

/-!
# The order of object keys

Two JSON values are the same up to the order of their keys when their arrays
agree item by item and their objects key by key.  Sorting the keys of every
object gives the values that are the same in this sense one common form.
-/

namespace ExecutionHandoff.Library

open List

/-! ## Entries in the order of their keys -/

section Entries

variable {α : Type*}

/-- Keys are compared unit by unit. -/
def ByKey (left right : JsString × α) : Prop := left.1 ≤ right.1

instance : DecidableRel (@ByKey α) := fun left right => inferInstanceAs (Decidable (left.1 ≤ right.1))

instance : Std.Total (@ByKey α) := ⟨fun left right => List.le_total left.1 right.1⟩

instance : IsTrans (JsString × α) ByKey := ⟨fun _ _ _ before after => List.le_trans before after⟩

def sortByKey (entries : List (JsString × α)) : List (JsString × α) := entries.insertionSort ByKey

theorem sortByKey_perm (entries : List (JsString × α)) : (sortByKey entries).Perm entries :=
  perm_insertionSort _ _

/-- Sorting does not look at what is under the keys. -/
theorem map_sortByKey {β : Type*} (f : α → β) (entries : List (JsString × α)) :
    (sortByKey entries).map (Prod.map id f) = sortByKey (entries.map (Prod.map id f)) :=
  map_insertionSort ByKey ByKey _ _ fun _ _ _ _ => Iff.rfl

/-- Entries with different keys are sorted alike when they are the same entries. -/
theorem sortByKey_eq_iff {left right : List (JsString × α)} (keys : (left.map Prod.fst).Nodup) :
    sortByKey left = sortByKey right ↔ left.Perm right := by
  constructor
  · intro same
    have perm := sortByKey_perm left
    rw [same] at perm
    exact perm.symm.trans (sortByKey_perm right)
  · intro perm
    refine List.Perm.eq_of_pairwise (fun entry entry' mem mem' before after => ?_)
      (pairwise_insertionSort ByKey left) (pairwise_insertionSort ByKey right)
      ((sortByKey_perm left).trans (perm.trans (sortByKey_perm right).symm))
    have inside := (sortByKey_perm left).mem_iff.mp mem
    have inside' := perm.mem_iff.mpr ((sortByKey_perm right).mem_iff.mp mem')
    exact inj_on_of_nodup_map keys inside inside' (List.le_antisymm before after)

end Entries

/-! ## Values -/

section Values

variable {ν : Type*}

/-- Equal up to the order of object keys. -/
inductive SameUpToOrder : JsonValue ν → JsonValue ν → Prop where
  | null : SameUpToOrder .null .null
  | boolean (value : Bool) : SameUpToOrder (.boolean value) (.boolean value)
  | number (value : ν) : SameUpToOrder (.number value) (.number value)
  | string (text : JsString) : SameUpToOrder (.string text) (.string text)
  | array (items items' : List (JsonValue ν)) (length : items.length = items'.length)
      (each : ∀ pair ∈ items.zip items', SameUpToOrder pair.1 pair.2) :
      SameUpToOrder (.array items) (.array items')
  | object (fields fields' : List (JsString × JsonValue ν))
      (keys : ∀ key, key ∈ fields.map Prod.fst ↔ key ∈ fields'.map Prod.fst)
      (each : ∀ key value value', (key, value) ∈ fields → (key, value') ∈ fields' →
        SameUpToOrder value value') :
      SameUpToOrder (.object fields) (.object fields')

mutual

/-- The value with the keys of every object in order. -/
def sorted : JsonValue ν → JsonValue ν
  | .array items => .array (sortedItems items)
  | .object fields => .object (sortByKey (sortedFields fields))
  | .null => .null
  | .boolean value => .boolean value
  | .number value => .number value
  | .string text => .string text

def sortedItems : List (JsonValue ν) → List (JsonValue ν)
  | [] => []
  | item :: rest => sorted item :: sortedItems rest

def sortedFields : List (JsString × JsonValue ν) → List (JsString × JsonValue ν)
  | [] => []
  | (key, value) :: rest => (key, sorted value) :: sortedFields rest

end

theorem sortedItems_eq (items : List (JsonValue ν)) : sortedItems items = items.map sorted := by
  induction items with
  | nil => rfl
  | cons item items ih => exact congrArg (_ :: ·) ih

theorem sortedFields_eq (fields : List (JsString × JsonValue ν)) :
    sortedFields fields = fields.map fun field => (field.1, sorted field.2) := by
  induction fields with
  | nil => rfl
  | cons field fields ih => exact congrArg (_ :: ·) ih

theorem keys_sortedFields (fields : List (JsString × JsonValue ν)) :
    (sortedFields fields).map Prod.fst = fields.map Prod.fst := by
  rw [sortedFields_eq, map_map]
  rfl

theorem mem_sortedFields {fields : List (JsString × JsonValue ν)} {key : JsString}
    {value : JsonValue ν} :
    (key, value) ∈ sortedFields fields ↔ ∃ value', (key, value') ∈ fields ∧ sorted value' = value := by
  rw [sortedFields_eq, mem_map]
  constructor
  · rintro ⟨⟨key', value'⟩, mem, same⟩
    cases same
    exact ⟨value', mem, rfl⟩
  · rintro ⟨value', mem, rfl⟩
    exact ⟨(key, value'), mem, rfl⟩

/-- Sorting keeps the keys of an object apart. -/
theorem DistinctKeys.sorted {value : JsonValue ν} (distinct : DistinctKeys value) :
    DistinctKeys (sorted value) := by
  induction distinct with
  | null => exact .null
  | boolean value => exact .boolean value
  | number value => exact .number value
  | string text => exact .string text
  | array items each ih =>
      rw [Library.sorted, sortedItems_eq]
      refine .array _ fun item mem => ?_
      obtain ⟨item', mem', rfl⟩ := mem_map.mp mem
      exact ih item' mem'
  | object fields keys each ih =>
      rw [Library.sorted]
      have perm := sortByKey_perm (sortedFields fields)
      refine .object _ ?_ fun field mem => ?_
      · rw [(perm.map Prod.fst).nodup_iff, keys_sortedFields]
        exact keys
      · obtain ⟨value', mem', same⟩ := mem_sortedFields.mp (perm.mem_iff.mp mem)
        rw [← same]
        exact ih _ mem'

theorem map_eq_map_iff {α β : Type*} {f : α → β} {left right : List α} :
    left.map f = right.map f ↔
      left.length = right.length ∧ ∀ pair ∈ left.zip right, f pair.1 = f pair.2 := by
  induction left generalizing right with
  | nil =>
      cases right with
      | nil => exact ⟨(fun _ => ⟨rfl, fun _ no => by cases no⟩), fun _ => rfl⟩
      | cons item right =>
          exact ⟨(fun no => by cases no), fun both => by cases both.1⟩
  | cons item left ih =>
      cases right with
      | nil => exact ⟨(fun no => by cases no), fun both => by cases both.1⟩
      | cons item' right =>
          rw [map_cons, map_cons, List.cons.injEq, ih, zip_cons_cons,
            length_cons, length_cons, Nat.succ_inj]
          constructor
          · rintro ⟨first, length, others⟩
            refine ⟨length, fun pair mem => ?_⟩
            rcases mem_cons.mp mem with rfl | mem
            · exact first
            · exact others pair mem
          · rintro ⟨length, each⟩
            exact ⟨each _ (.head _), length, fun pair mem => each pair (.tail _ mem)⟩

/-- Objects are sorted alike when they have the same keys and what is under them is sorted alike. -/
theorem sorted_object_iff {fields fields' : List (JsString × JsonValue ν)}
    (keys : (fields.map Prod.fst).Nodup) (keys' : (fields'.map Prod.fst).Nodup) :
    sorted (.object fields) = sorted (.object fields') ↔
      (∀ key, key ∈ fields.map Prod.fst ↔ key ∈ fields'.map Prod.fst) ∧
        ∀ key value value', (key, value) ∈ fields → (key, value') ∈ fields' →
          sorted value = sorted value' := by
  have nodup := keys
  have nodup' := keys'
  rw [← keys_sortedFields] at nodup nodup'
  rw [sorted, sorted, JsonValue.object.injEq, sortByKey_eq_iff nodup,
    perm_ext_iff_of_nodup nodup.of_map nodup'.of_map]
  constructor
  · intro same
    refine ⟨fun key => ?_, fun key value value' mem mem' => ?_⟩
    · rw [← keys_sortedFields fields, ← keys_sortedFields fields', mem_map, mem_map]
      exact exists_congr fun entry => and_congr_left fun _ => same entry
    · obtain ⟨other, mem'', same'⟩ :=
        mem_sortedFields.mp ((same _).mp (mem_sortedFields.mpr ⟨value, mem, rfl⟩))
      cases inj_on_of_nodup_map keys' mem' mem'' rfl
      exact same'.symm
  · rintro ⟨shared, each⟩ ⟨key, value⟩
    have carried (fields fields' : List (JsString × JsonValue ν))
        (shared : ∀ key, key ∈ fields.map Prod.fst ↔ key ∈ fields'.map Prod.fst)
        (each : ∀ key value value', (key, value) ∈ fields → (key, value') ∈ fields' →
          sorted value = sorted value')
        (mem : (key, value) ∈ sortedFields fields) : (key, value) ∈ sortedFields fields' := by
      obtain ⟨inner, here, rfl⟩ := mem_sortedFields.mp mem
      have shares : key ∈ fields.map Prod.fst := mem_map.mpr ⟨(key, inner), here, rfl⟩
      obtain ⟨⟨key', inner'⟩, here', same⟩ := mem_map.mp ((shared key).mp shares)
      cases same
      exact mem_sortedFields.mpr ⟨inner', here', (each _ _ _ here here').symm⟩
    exact ⟨carried fields fields' shared each, carried fields' fields (fun key => (shared key).symm)
      fun key value value' mem mem' => (each key value' value mem' mem).symm⟩

/-- The common form tells exactly the values that differ by more than the order of keys. -/
theorem sorted_eq_iff {value value' : JsonValue ν} (distinct : DistinctKeys value)
    (distinct' : DistinctKeys value') : sorted value = sorted value' ↔ SameUpToOrder value value' := by
  constructor
  · induction distinct generalizing value' with
    | null =>
        intro same
        cases distinct' with
        | null => exact .null
        | _ => cases same
    | boolean value =>
        intro same
        cases distinct' with
        | boolean value' =>
            cases same
            exact .boolean value
        | _ => cases same
    | number value =>
        intro same
        cases distinct' with
        | number value' =>
            cases same
            exact .number value
        | _ => cases same
    | string text =>
        intro same
        cases distinct' with
        | string text' =>
            cases same
            exact .string text
        | _ => cases same
    | array items each ih =>
        intro same
        cases distinct' with
        | array items' each' =>
            rw [sorted, sorted, JsonValue.array.injEq, sortedItems_eq, sortedItems_eq,
              map_eq_map_iff] at same
            refine .array items items' same.1 fun pair mem => ?_
            exact ih pair.1 (of_mem_zip mem).1 (each' pair.2 (of_mem_zip mem).2)
              (same.2 pair mem)
        | _ => cases same
    | object fields keys each ih =>
        intro same
        cases distinct' with
        | object fields' keys' each' =>
            obtain ⟨shared, under⟩ := (sorted_object_iff keys keys').mp same
            refine .object fields fields' shared fun key value value' mem mem' => ?_
            exact ih _ mem (each' _ mem') (under key value value' mem mem')
        | _ => cases same
  · intro same
    induction same with
    | null => rfl
    | boolean _ => rfl
    | number _ => rfl
    | string _ => rfl
    | array items items' length each ih =>
        cases distinct with
        | array _ distinct =>
            cases distinct' with
            | array _ distinct' =>
                rw [sorted, sorted, sortedItems_eq, sortedItems_eq]
                refine congrArg _ (map_eq_map_iff.mpr ⟨length, fun pair mem => ?_⟩)
                exact ih pair mem (distinct _ (of_mem_zip mem).1)
                  (distinct' _ (of_mem_zip mem).2)
    | object fields fields' shared each ih =>
        cases distinct with
        | object _ keys distinct =>
            cases distinct' with
            | object _ keys' distinct' =>
                refine (sorted_object_iff keys keys').mpr ⟨shared, ?_⟩
                exact fun key value value' mem mem' =>
                  ih key value value' mem mem' (distinct _ mem) (distinct' _ mem')

end Values

end ExecutionHandoff.Library
