import ExecutionHandoff.Library.BigEndian
import ExecutionHandoff.Library.Framing

/-!
# Tagged records

A record is a type byte, the length of its payload in four bytes and the
payload.  A header is judged as soon as it is there, a payload once it is
complete.
-/

namespace ExecutionHandoff.Library

open List

/-- The judgement on headers and complete payloads. -/
structure TaggedFormat (ρ : Type*) where
  header : UInt8 → Nat → Bool
  payload : UInt8 → List UInt8 → Option ρ

/-- The bytes of a record. -/
def writeTagged (type : UInt8) (payload : List UInt8) : List UInt8 :=
  type :: (bigEndian 4 payload.length ++ payload)

namespace TaggedFormat

variable {ρ : Type*} (format : TaggedFormat ρ)

/-- What follows a header that is in order. -/
def body (type : UInt8) (length : Nat) (bytes : List UInt8) : Front UInt8 ρ :=
  if bytes.length < length then .wait
  else match format.payload type (bytes.take length) with
    | none => .fault
    | some record => .record record (bytes.drop length)

def front : List UInt8 → Front UInt8 ρ
  | type :: l₀ :: l₁ :: l₂ :: l₃ :: bytes =>
      if format.header type (fromBigEndian 0 [l₀, l₁, l₂, l₃]) then
        format.body type (fromBigEndian 0 [l₀, l₁, l₂, l₃]) bytes
      else .fault
  | _ => .wait

variable {format} {symbols rest : List UInt8} {record : ρ}

/-- What is decided has a header in front. -/
theorem exists_header (decided : format.front symbols ≠ .wait) :
    ∃ type l₀ l₁ l₂ l₃ bytes, symbols = type :: l₀ :: l₁ :: l₂ :: l₃ :: bytes := by
  match symbols with
  | type :: l₀ :: l₁ :: l₂ :: l₃ :: bytes => exact ⟨type, l₀, l₁, l₂, l₃, bytes, rfl⟩
  | [] | [_] | [_, _] | [_, _, _] | [_, _, _, _] => exact absurd rfl decided

variable {type : UInt8} {length : Nat} {bytes : List UInt8}

/-- A record is made of a complete payload. -/
theorem body_eq_record : format.body type length bytes = .record record rest ↔
    length ≤ bytes.length ∧ format.payload type (bytes.take length) = some record ∧
      rest = bytes.drop length := by
  unfold body
  split
  · rename_i short
    exact ⟨fun no => (by cases no), fun ⟨whole, _⟩ => absurd whole (Nat.not_le.mpr short)⟩
  · rename_i whole
    cases format.payload type (bytes.take length) with
    | none => simp
    | some other => simp [Nat.not_lt.mp whole, eq_comm]

/-- A complete payload that is no record is a fault. -/
theorem body_eq_fault : format.body type length bytes = .fault ↔
    length ≤ bytes.length ∧ format.payload type (bytes.take length) = none := by
  unfold body
  split
  · rename_i short
    exact ⟨fun no => (by cases no), fun ⟨whole, _⟩ => absurd whole (Nat.not_le.mpr short)⟩
  · rename_i whole
    cases format.payload type (bytes.take length) with
    | none => simp [Nat.not_lt.mp whole]
    | some other => simp

theorem body_fault_append (more : List UInt8) (found : format.body type length bytes = .fault) :
    format.body type length (bytes ++ more) = .fault := by
  obtain ⟨whole, same⟩ := body_eq_fault.mp found
  refine body_eq_fault.mpr ⟨?_, ?_⟩
  · rw [length_append]
    exact Nat.le_add_right_of_le whole
  · rw [take_append_of_le_length whole, same]

/-- The front of a stream with a header. -/
theorem front_cons (type l₀ l₁ l₂ l₃ : UInt8) (bytes : List UInt8) :
    format.front (type :: l₀ :: l₁ :: l₂ :: l₃ :: bytes) =
      if format.header type (fromBigEndian 0 [l₀, l₁, l₂, l₃]) then
        format.body type (fromBigEndian 0 [l₀, l₁, l₂, l₃]) bytes
      else .fault := rfl

/-- An unfinished record is no longer than its header allows. -/
theorem length_of_wait {most : Nat}
    (bound : ∀ type length, format.header type length = true → length ≤ most)
    (waits : format.front symbols = .wait) : symbols.length ≤ most + 4 := by
  match symbols with
  | type :: l₀ :: l₁ :: l₂ :: l₃ :: bytes =>
      rw [front_cons] at waits
      split at waits
      · rename_i inOrder
        unfold body at waits
        split at waits
        · rename_i short
          have within := bound _ _ inOrder
          simp only [length_cons]
          omega
        · split at waits <;> cases waits
      · cases waits
  | [] | [_] | [_, _] | [_, _, _] | [_, _, _, _] =>
      simp only [length_cons, length_nil]
      omega

/-- A record is a header that is in order and a payload of the length it says. -/
theorem front_eq_record (found : format.front symbols = .record record rest) :
    ∃ type payload, symbols = writeTagged type payload ++ rest ∧
      format.header type payload.length = true ∧ payload.length < 256 ^ 4 ∧
      format.payload type payload = some record := by
  obtain ⟨type, l₀, l₁, l₂, l₃, bytes, rfl⟩ := exists_header (by rw [found]; exact fun no => by cases no)
  rw [front_cons] at found
  split at found
  · rename_i inOrder
    obtain ⟨whole, same, rfl⟩ := body_eq_record.mp found
    have length := length_take_of_le whole
    have spelled := bigEndian_fromBigEndian [l₀, l₁, l₂, l₃]
    refine ⟨type, _, ?_, length.symm ▸ inOrder, ?_, same⟩
    swap
    · rw [length]
      exact fromBigEndian_lt [l₀, l₁, l₂, l₃]
    rw [writeTagged, length]
    change bigEndian 4 _ = _ at spelled
    rw [spelled]
    simp
  · cases found

/-- A record is read back from its bytes, whatever follows. -/
theorem front_writeTagged {payload : List UInt8} (rest : List UInt8)
    (inOrder : format.header type payload.length = true) (bound : payload.length < 256 ^ 4)
    (same : format.payload type payload = some record) :
    format.front (writeTagged type payload ++ rest) = .record record rest := by
  have spelled := fromBigEndian_bigEndian 4 payload.length 0
  rw [Nat.zero_mul, Nat.zero_add, Nat.mod_eq_of_lt bound] at spelled
  obtain ⟨l₀, l₁, l₂, l₃, four⟩ : ∃ l₀ l₁ l₂ l₃, bigEndian 4 payload.length = [l₀, l₁, l₂, l₃] :=
    ⟨_, _, _, _, rfl⟩
  rw [four] at spelled
  rw [writeTagged, four]
  change format.front (type :: l₀ :: l₁ :: l₂ :: l₃ :: (payload ++ rest)) = _
  rw [front_cons, spelled, if_pos inOrder]
  refine body_eq_record.mpr ⟨?_, ?_, drop_left.symm⟩
  · rw [length_append]
    exact Nat.le_add_right _ _
  · rw [take_left, same]

variable (format)

/-- What is decided at the front of tagged records is decided for good. -/
def framing : Framing UInt8 ρ where
  front := format.front
  shorter := fun found => by
    obtain ⟨type, payload, rfl, _⟩ := front_eq_record found
    rw [List.length_append, writeTagged, List.length_cons]
    omega
  record_append := fun {symbols record rest} more found => by
    obtain ⟨type, payload, rfl, inOrder, bound, same⟩ := front_eq_record found
    rw [List.append_assoc]
    exact front_writeTagged (rest ++ more) inOrder bound same
  fault_append := fun {symbols} more found => by
    obtain ⟨type, l₀, l₁, l₂, l₃, bytes, rfl⟩ :=
      exists_header (by rw [found]; exact fun no => by cases no)
    rw [front_cons] at found
    change format.front (type :: l₀ :: l₁ :: l₂ :: l₃ :: (bytes ++ more)) = _
    rw [front_cons]
    split at found
    · rename_i inOrder
      rw [if_pos inOrder]
      exact body_fault_append more found
    · rename_i bad
      rw [if_neg bad]

/-- The codes of a tagged format, each with its type and its payload. -/
theorem codes {κ : Type*} {type : κ → UInt8} {payload : κ → List UInt8} {value : κ → ρ}
    {WellFormed : κ → Prop}
    (reads : ∀ code, WellFormed code → format.header (type code) (payload code).length = true ∧
      (payload code).length < 256 ^ 4 ∧
      format.payload (type code) (payload code) = some (value code))
    (written : ∀ tag bytes record, format.header tag bytes.length = true →
      format.payload tag bytes = some record →
      ∃ code, WellFormed code ∧ value code = record ∧ type code = tag ∧ payload code = bytes) :
    format.framing.Codes (fun code => writeTagged (type code) (payload code)) value
      WellFormed where
  empty := rfl
  reads := fun rest wellFormed => by
    obtain ⟨inOrder, bound, same⟩ := reads _ wellFormed
    exact front_writeTagged rest inOrder bound same
  written := fun found => by
    obtain ⟨tag, bytes, rfl, inOrder, _, same⟩ := front_eq_record found
    obtain ⟨code, wellFormed, rfl, rfl, rfl⟩ := written tag bytes _ inOrder same
    exact ⟨code, wellFormed, rfl, rfl⟩

end TaggedFormat

end ExecutionHandoff.Library
