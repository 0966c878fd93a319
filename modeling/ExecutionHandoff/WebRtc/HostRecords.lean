import ExecutionHandoff.Library.TaggedRecords

/-!
# The records of a host

`HostRecordParser` of the WebRTC runtime, which reads the frames and editable
flags that a host writes to its standard output.
-/

namespace ExecutionHandoff.WebRtc

open Library List

/-- The calls of `onFrame`, `onEditable` and `onFailure`. -/
inductive HostCallback where
  | frame (rtpTimestamp : Nat) (keyframe : Bool) (width height : Nat) (avcc : List UInt8)
  | editable (editable : Bool)
  | failure
  deriving DecidableEq

structure HostRecordParser where
  buffer : List UInt8
  failed : Bool

namespace HostRecordParser

def maxHostFrameBytes : Nat := 8 * 1024 * 1024

def initial : HostRecordParser := ⟨[], false⟩

/-- The callback for a complete payload, unless `push` fails. -/
def callback (type : UInt8) (payload : List UInt8) : Option HostCallback :=
  if type = 1 then
    match payload with
    | t₀ :: t₁ :: t₂ :: t₃ :: key :: w₀ :: w₁ :: h₀ :: h₁ :: avcc =>
        if fromBigEndian 0 [w₀, w₁] = 0 ∨ fromBigEndian 0 [h₀, h₁] = 0 ∨ avcc = [] then none
        else some (.frame (fromBigEndian 0 [t₀, t₁, t₂, t₃]) (key == 1)
          (fromBigEndian 0 [w₀, w₁]) (fromBigEndian 0 [h₀, h₁]) avcc)
    | _ => none
  else if type = 2 then some (.editable (payload.head? == some 1))
  else none

/-- What the loop of `push` checks. -/
def format : TaggedFormat HostCallback where
  header type length := !(decide (maxHostFrameBytes < length) || type == 2 && length != 1)
  payload := callback

/-- `push`, with the callbacks it makes. -/
def push (parser : HostRecordParser) (chunk : List UInt8) : HostRecordParser × List HostCallback :=
  if parser.failed ∨ chunk = [] then (parser, [])
  else
    let drained := format.framing.drain (parser.buffer ++ chunk)
    if drained.faulty then (⟨[], true⟩, drained.records ++ [.failure])
    else (⟨drained.rest, false⟩, drained.records)

/-- `end`, with the callback it makes. -/
def finish (parser : HostRecordParser) : HostRecordParser × List HostCallback :=
  if !parser.failed && parser.buffer != [] then (⟨[], true⟩, [.failure]) else (parser, [])

/-- The callbacks of a parser that gets the chunks and then the end. -/
def deliver (parser : HostRecordParser) : List (List UInt8) → List HostCallback
  | [] => parser.finish.2
  | chunk :: chunks => (parser.push chunk).2 ++ deliver (parser.push chunk).1 chunks

end HostRecordParser

/-! ## Well-formed records -/

/-- A record of a host, with the bytes it has for its flags. -/
inductive HostRecord where
  | frame (rtpTimestamp : Nat) (key : UInt8) (width height : Nat) (avcc : List UInt8)
  | editable (flag : UInt8)

namespace HostRecord

def type : HostRecord → UInt8
  | .frame .. => 1
  | .editable _ => 2

def payload : HostRecord → List UInt8
  | .frame rtpTimestamp key width height avcc =>
      bigEndian 4 rtpTimestamp ++ key :: (bigEndian 2 width ++ bigEndian 2 height ++ avcc)
  | .editable flag => [flag]

def bytes (record : HostRecord) : List UInt8 := writeTagged record.type record.payload

def callback : HostRecord → HostCallback
  | .frame rtpTimestamp key width height avcc =>
      .frame rtpTimestamp (key == 1) width height avcc
  | .editable flag => .editable (flag == 1)

/-- A frame has a size and content, and is not too large. -/
def WellFormed : HostRecord → Prop
  | .frame rtpTimestamp _ width height avcc =>
      rtpTimestamp < 256 ^ 4 ∧ 0 < width ∧ width < 256 ^ 2 ∧ 0 < height ∧ height < 256 ^ 2 ∧
        avcc ≠ [] ∧ avcc.length + 9 ≤ HostRecordParser.maxHostFrameBytes
  | .editable _ => True

end HostRecord

namespace HostRecordParser

open HostRecord

/-- The payload of a frame, byte by byte. -/
theorem frame_payload (rtpTimestamp width height : Nat) (key : UInt8) (avcc : List UInt8) :
    ∃ t₀ t₁ t₂ t₃ w₀ w₁ h₀ h₁, bigEndian 4 rtpTimestamp = [t₀, t₁, t₂, t₃] ∧
      bigEndian 2 width = [w₀, w₁] ∧ bigEndian 2 height = [h₀, h₁] ∧
      (HostRecord.frame rtpTimestamp key width height avcc).payload =
        t₀ :: t₁ :: t₂ :: t₃ :: key :: w₀ :: w₁ :: h₀ :: h₁ :: avcc :=
  ⟨_, _, _, _, _, _, _, _, rfl, rfl, rfl, rfl⟩

/-- A number that fits is read back. -/
theorem fromBigEndian_of_lt {width value : Nat} (bound : value < 256 ^ width) :
    fromBigEndian 0 (bigEndian width value) = value := by
  rw [fromBigEndian_bigEndian, Nat.zero_mul, Nat.zero_add, Nat.mod_eq_of_lt bound]

/-- The records of the format are the well-formed ones. -/
theorem format_codes : format.framing.Codes HostRecord.bytes HostRecord.callback WellFormed := by
  refine @TaggedFormat.codes _ format _ HostRecord.type HostRecord.payload _ _
    (fun record wellFormed => ?_) fun type payload found inOrder same => ?_
  · cases record with
    | editable flag => exact ⟨rfl, (by decide : 1 < 256 ^ 4), rfl⟩
    | frame rtpTimestamp key width height avcc =>
        obtain ⟨time, wide, width', high, height', content, size⟩ := wellFormed
        obtain ⟨t₀, t₁, t₂, t₃, w₀, w₁, h₀, h₁, four, two, two', same⟩ :=
          frame_payload rtpTimestamp width height key avcc
        have length : (HostRecord.frame rtpTimestamp key width height avcc).payload.length =
            avcc.length + 9 := congrArg List.length same
        refine ⟨?_, ?_, ?_⟩
        · rw [length]
          simp [format, HostRecord.type, size]
        · rw [length]
          exact Nat.lt_of_le_of_lt size (by decide)
        · have read : HostRecordParser.callback 1
              (t₀ :: t₁ :: t₂ :: t₃ :: key :: w₀ :: w₁ :: h₀ :: h₁ :: avcc) =
              some (.frame rtpTimestamp (key == 1) width height avcc) := by
            unfold HostRecordParser.callback
            dsimp only
            rw [if_pos rfl, ← four, ← two, ← two', fromBigEndian_of_lt time,
              fromBigEndian_of_lt width', fromBigEndian_of_lt height', if_neg]
            rintro (none | none | none)
            · exact Nat.ne_of_gt wide none
            · exact Nat.ne_of_gt high none
            · exact content none
          rw [same]
          exact read
  · change HostRecordParser.callback type payload = _ at same
    simp only [format, Bool.not_eq_true', Bool.or_eq_false_iff, decide_eq_false_iff_not,
      Bool.and_eq_false_iff, beq_eq_false_iff_ne, bne_eq_false_iff_eq] at inOrder
    unfold HostRecordParser.callback at same
    split at same
    · rename_i frame
      subst frame
      split at same
      · rename_i t₀ t₁ t₂ t₃ key w₀ w₁ h₀ h₁ avcc
        split at same
        · cases same
        · rename_i full
          rw [not_or, not_or] at full
          cases same
          refine ⟨.frame (fromBigEndian 0 [t₀, t₁, t₂, t₃]) key (fromBigEndian 0 [w₀, w₁])
            (fromBigEndian 0 [h₀, h₁]) avcc, ?_, rfl, rfl, ?_⟩
          · refine ⟨fromBigEndian_lt _, Nat.pos_of_ne_zero full.1, fromBigEndian_lt _,
              Nat.pos_of_ne_zero full.2.1, fromBigEndian_lt _, full.2.2, ?_⟩
            exact Nat.not_lt.mp inOrder.1
          · have four := bigEndian_fromBigEndian [t₀, t₁, t₂, t₃]
            have two := bigEndian_fromBigEndian [w₀, w₁]
            have two' := bigEndian_fromBigEndian [h₀, h₁]
            simp only [length_cons, length_nil] at four two two'
            simp only [HostRecord.payload]
            rw [four, two, two']
            rfl
      · cases same
    · split at same
      · rename_i flag
        subst flag
        cases same
        have one := inOrder.2.resolve_left (fun no => no rfl)
        obtain ⟨flag, rfl⟩ := length_eq_one_iff.mp one
        exact ⟨.editable flag, trivial, by simp [HostRecord.callback], rfl, rfl⟩
      · cases same

/-! ## Any chunks -/

/-- What a stream amounts to, taken as a whole. -/
def outcome (stream : List UInt8) : List HostCallback :=
  let drained := format.framing.drain stream
  drained.records ++ if drained.faulty || drained.rest != [] then [.failure] else []

/-- A parser that has failed calls nobody. -/
theorem deliver_failed (buffer : List UInt8) (chunks : List (List UInt8)) :
    deliver ⟨buffer, true⟩ chunks = [] := by
  induction chunks with
  | nil => rfl
  | cons chunk chunks ih => simp [deliver, push, ih]

/-- The callbacks depend on the bytes only, not on the chunks they come in. -/
theorem deliver_eq_outcome {pending : List UInt8}
    (waits : format.framing.front pending = .wait) (chunks : List (List UInt8)) :
    deliver ⟨pending, false⟩ chunks = outcome (pending ++ chunks.flatten) := by
  induction chunks generalizing pending with
  | nil =>
      rw [flatten_nil, append_nil, outcome, Framing.drain_wait waits]
      simp only [deliver, finish, Bool.not_false, Bool.true_and, Bool.false_or, nil_append]
      split <;> rfl
  | cons chunk chunks ih =>
      rw [deliver, flatten_cons, ← append_assoc]
      by_cases nothing : chunk = []
      · subst nothing
        rw [push, if_pos (.inr rfl), append_nil]
        exact ih waits
      · have left := @Framing.front_rest _ _ format.framing (pending ++ chunk)
        rw [push, if_neg (by simp [nothing])]
        cases faulty : (format.framing.drain (pending ++ chunk)).faulty with
        | true =>
            obtain ⟨records, faulty'⟩ := Framing.drain_append_faulty faulty chunks.flatten
            rw [outcome, records, faulty']
            simp [faulty, deliver_failed]
        | false =>
            rw [faulty] at left
            simp only [faulty, Bool.false_eq_true, if_false]
            rw [ih left, outcome, outcome, Framing.drain_append (pending ++ chunk)]
            exact (append_assoc _ _ _).symm

/-! ## What is pending -/

/-- The parser after the chunks. -/
def feed (parser : HostRecordParser) : List (List UInt8) → HostRecordParser
  | [] => parser
  | chunk :: chunks => (parser.push chunk).1.feed chunks

theorem length_of_wait {pending : List UInt8} (waits : format.front pending = .wait) :
    pending.length ≤ maxHostFrameBytes + 4 := by
  refine TaggedFormat.length_of_wait (fun type length inOrder => ?_) waits
  simp only [format, Bool.not_eq_true', Bool.or_eq_false_iff, decide_eq_false_iff_not,
    Nat.not_lt] at inOrder
  exact inOrder.1

theorem push_bound {parser : HostRecordParser}
    (small : parser.buffer.length ≤ maxHostFrameBytes + 4) (chunk : List UInt8) :
    (parser.push chunk).1.buffer.length ≤ maxHostFrameBytes + 4 := by
  unfold push
  split
  · exact small
  · dsimp only
    split
    · exact Nat.zero_le _
    · rename_i calm
      have waits := @Framing.front_rest _ _ format.framing (parser.buffer ++ chunk)
      rw [if_neg calm] at waits
      exact length_of_wait waits

theorem feed_bound {parser : HostRecordParser}
    (small : parser.buffer.length ≤ maxHostFrameBytes + 4) (chunks : List (List UInt8)) :
    (parser.feed chunks).buffer.length ≤ maxHostFrameBytes + 4 := by
  induction chunks generalizing parser with
  | nil => exact small
  | cons chunk chunks ih => exact ih (push_bound small chunk)

/-- No callback for a payload is the one for a failure. -/
theorem callback_ne_failure (record : HostRecord) : record.callback ≠ .failure := by
  cases record <;> exact fun no => by cases no

/-- Host records: the callbacks do not depend on the chunks, there is no failure exactly for the
concatenations of well-formed records, and then the callbacks are those of the records. -/
theorem hostRecords_chunk_independent :
    (∀ chunks chunks' : List (List UInt8), chunks.flatten = chunks'.flatten →
      deliver initial chunks = deliver initial chunks') ∧
    (∀ chunks : List (List UInt8), .failure ∉ deliver initial chunks ↔
      ∃ records : List HostRecord, (∀ record ∈ records, record.WellFormed) ∧
        chunks.flatten = records.flatMap HostRecord.bytes) ∧
    ∀ (chunks : List (List UInt8)) (records : List HostRecord),
      (∀ record ∈ records, record.WellFormed) →
      chunks.flatten = records.flatMap HostRecord.bytes →
      deliver initial chunks = records.map HostRecord.callback := by
  have whole (chunks : List (List UInt8)) : deliver initial chunks = outcome chunks.flatten :=
    deliver_eq_outcome rfl chunks
  refine ⟨fun chunks chunks' same => ?_, fun chunks => ?_, fun chunks records wellFormed same => ?_⟩
  · rw [whole, whole, same]
  · obtain ⟨written, _, records, _⟩ := format_codes.exists_codes chunks.flatten
    rw [whole, ← format_codes.clean_iff, outcome, records]
    have silent : HostCallback.failure ∉ written.map HostRecord.callback := by
      intro mem
      obtain ⟨record, _, same⟩ := List.mem_map.mp mem
      exact callback_ne_failure record same
    simp [silent, and_comm]
  · rw [whole, same, outcome, format_codes.drain_whole wellFormed]
    exact List.append_nil _

/-- An editable flag that comes in two chunks. -/
theorem sampleRecords_delivered :
    deliver initial [[2, 0, 0], [0, 1, 1]] = [.editable true] :=
  hostRecords_chunk_independent.2.2 [[2, 0, 0], [0, 1, 1]] [.editable 1]
    (by simp [HostRecord.WellFormed]) rfl

end HostRecordParser

end ExecutionHandoff.WebRtc
