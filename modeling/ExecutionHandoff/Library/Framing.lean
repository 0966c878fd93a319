import Mathlib.Data.List.Basic

/-!
# Records in a stream

A stream of symbols is a sequence of records, told apart by looking at its
front.  Whether the front is a record, a fault or still unfinished does not
change when more symbols arrive, so the records taken off do not depend on how
the stream was cut into chunks.
-/

namespace ExecutionHandoff.Library

open List

variable {β ρ : Type*}

/-- What stands at the front of a stream. -/
inductive Front (β ρ : Type*) where
  | wait
  | fault
  | record (record : ρ) (rest : List β)

/-- A way to look at the front of a stream that more symbols do not change. -/
structure Framing (β ρ : Type*) where
  front : List β → Front β ρ
  shorter : ∀ {symbols record rest}, front symbols = .record record rest →
    rest.length < symbols.length
  record_append : ∀ {symbols record rest} (more : List β), front symbols = .record record rest →
    front (symbols ++ more) = .record record (rest ++ more)
  fault_append : ∀ {symbols} (more : List β), front symbols = .fault →
    front (symbols ++ more) = .fault

/-- The records taken off a stream, and what is left. -/
structure Drained (β ρ : Type*) where
  records : List ρ
  rest : List β
  faulty : Bool

namespace Framing

variable (framing : Framing β ρ)

/-- Take records off until the front is unfinished or a fault. -/
def drain (symbols : List β) : Drained β ρ :=
  match _front : framing.front symbols with
  | .wait => ⟨[], symbols, false⟩
  | .fault => ⟨[], symbols, true⟩
  | .record record rest =>
      ⟨record :: (drain rest).records, (drain rest).rest, (drain rest).faulty⟩
  termination_by symbols.length
  decreasing_by exact framing.shorter (by assumption)

variable {framing} {symbols rest more : List β} {record : ρ}

theorem drain_wait (front : framing.front symbols = .wait) :
    framing.drain symbols = ⟨[], symbols, false⟩ := by
  rw [drain]
  split <;> simp_all

theorem drain_fault (front : framing.front symbols = .fault) :
    framing.drain symbols = ⟨[], symbols, true⟩ := by
  rw [drain]
  split <;> simp_all

theorem drain_record (front : framing.front symbols = .record record rest) :
    framing.drain symbols = ⟨record :: (framing.drain rest).records, (framing.drain rest).rest,
      (framing.drain rest).faulty⟩ := by
  rw [drain]
  split
  · simp_all
  · simp_all
  · rename_i front'
    cases front.symm.trans front'
    rfl

/-- The records of a stream, by what stands at its front. -/
theorem drain_induct {motive : List β → Prop}
    (wait : ∀ symbols, framing.front symbols = .wait → motive symbols)
    (fault : ∀ symbols, framing.front symbols = .fault → motive symbols)
    (record : ∀ symbols record rest, framing.front symbols = .record record rest →
      motive rest → motive symbols) (symbols : List β) : motive symbols := by
  cases front : framing.front symbols with
  | wait => exact wait symbols front
  | fault => exact fault symbols front
  | record first rest =>
      exact record symbols first rest front (drain_induct wait fault record rest)
  termination_by symbols.length
  decreasing_by exact framing.shorter front

/-- What is left stands at an unfinished record or at a fault. -/
theorem front_rest (symbols : List β) :
    framing.front (framing.drain symbols).rest =
      if (framing.drain symbols).faulty then .fault else .wait := by
  induction symbols using @drain_induct _ _ framing with
  | wait symbols front => simp [drain_wait front, front]
  | fault symbols front => simp [drain_fault front, front]
  | record symbols record rest front ih =>
      rw [drain_record front]
      exact ih

theorem length_rest_le (symbols : List β) :
    (framing.drain symbols).rest.length ≤ symbols.length := by
  induction symbols using @drain_induct _ _ framing with
  | wait symbols front => exact Nat.le_of_eq (by rw [drain_wait front])
  | fault symbols front => exact Nat.le_of_eq (by rw [drain_fault front])
  | record symbols record rest front ih =>
      rw [drain_record front]
      exact Nat.le_trans ih (Nat.le_of_lt (framing.shorter front))

/-- More symbols go on where the stream was left. -/
theorem drain_append (symbols more : List β) :
    framing.drain (symbols ++ more) =
      ⟨(framing.drain symbols).records ++
          (framing.drain ((framing.drain symbols).rest ++ more)).records,
        (framing.drain ((framing.drain symbols).rest ++ more)).rest,
        (framing.drain ((framing.drain symbols).rest ++ more)).faulty⟩ := by
  induction symbols using @drain_induct _ _ framing with
  | wait symbols front => simp [drain_wait front]
  | fault symbols front => simp [drain_fault front]
  | record symbols record rest front ih =>
      rw [drain_record (framing.record_append more front), drain_record front, ih]
      rfl

/-- After a fault no more records come. -/
theorem drain_append_faulty (faulty : (framing.drain symbols).faulty = true) (more : List β) :
    (framing.drain (symbols ++ more)).records = (framing.drain symbols).records ∧
      (framing.drain (symbols ++ more)).faulty = true := by
  have stuck := @front_rest _ _ framing symbols
  rw [faulty, if_pos rfl] at stuck
  rw [drain_append, drain_fault (framing.fault_append more stuck)]
  exact ⟨append_nil _, rfl⟩

/-! ## Codes -/

/-- The records of a framing are the values of well-formed codes, each written in its own way. -/
structure Codes (framing : Framing β ρ) {κ : Type*} (encode : κ → List β) (value : κ → ρ)
    (WellFormed : κ → Prop) : Prop where
  empty : framing.front [] = .wait
  reads : ∀ {code} (rest : List β), WellFormed code →
    framing.front (encode code ++ rest) = .record (value code) rest
  written : ∀ {symbols record rest}, framing.front symbols = .record record rest →
    ∃ code, WellFormed code ∧ value code = record ∧ symbols = encode code ++ rest

namespace Codes

variable {κ : Type*} {encode : κ → List β} {value : κ → ρ} {WellFormed : κ → Prop}
  {written : List κ}

/-- Well-formed codes are taken off one after another. -/
theorem drain_codes (codes : framing.Codes encode value WellFormed)
    (wellFormed : ∀ code ∈ written, WellFormed code) (rest : List β) :
    framing.drain (written.flatMap encode ++ rest) =
      ⟨written.map value ++ (framing.drain rest).records, (framing.drain rest).rest,
        (framing.drain rest).faulty⟩ := by
  induction written with
  | nil => rfl
  | cons code written ih =>
      rw [flatMap_cons, append_assoc,
        drain_record (codes.reads _ (wellFormed code mem_cons_self)),
        ih fun other mem => wellFormed other (mem_cons_of_mem _ mem)]
      rfl

/-- The stream of well-formed codes gives their values, and nothing is left. -/
theorem drain_whole (codes : framing.Codes encode value WellFormed)
    (wellFormed : ∀ code ∈ written, WellFormed code) :
    framing.drain (written.flatMap encode) = ⟨written.map value, [], false⟩ := by
  have drained := codes.drain_codes wellFormed []
  rw [append_nil, drain_wait codes.empty, append_nil] at drained
  exact drained

/-- What is taken off a stream was written at its front. -/
theorem exists_codes (codes : framing.Codes encode value WellFormed) (symbols : List β) :
    ∃ written : List κ, (∀ code ∈ written, WellFormed code) ∧
      (framing.drain symbols).records = written.map value ∧
      symbols = written.flatMap encode ++ (framing.drain symbols).rest := by
  induction symbols using @drain_induct _ _ framing with
  | wait symbols front => exact ⟨[], fun _ no => (by cases no), by simp [drain_wait front]⟩
  | fault symbols front => exact ⟨[], fun _ no => (by cases no), by simp [drain_fault front]⟩
  | record symbols record rest front ih =>
      obtain ⟨code, wellFormed, rfl, same⟩ := codes.written front
      obtain ⟨written, all, records, same'⟩ := ih
      refine ⟨code :: written, forall_mem_cons.mpr ⟨wellFormed, all⟩, ?_, ?_⟩
      · rw [drain_record front, records]
        rfl
      · rw [drain_record front, flatMap_cons, append_assoc, ← same', same]

/-- A stream is drained without a fault or a rest exactly if it is written in well-formed codes. -/
theorem clean_iff (codes : framing.Codes encode value WellFormed) (symbols : List β) :
    (framing.drain symbols).rest = [] ∧ (framing.drain symbols).faulty = false ↔
      ∃ written : List κ, (∀ code ∈ written, WellFormed code) ∧ symbols = written.flatMap encode := by
  constructor
  · intro ⟨nothing, _⟩
    obtain ⟨written, wellFormed, _, same⟩ := codes.exists_codes symbols
    rw [nothing, append_nil] at same
    exact ⟨written, wellFormed, same⟩
  · rintro ⟨written, wellFormed, rfl⟩
    rw [codes.drain_whole wellFormed]
    exact ⟨rfl, rfl⟩

end Codes

end Framing

end ExecutionHandoff.Library
