import ExecutionHandoff.Library.TaggedRecords
import Mathlib.Algebra.BigOperators.Group.List.Basic

/-!
# The records of a window host

`WebSocketWindowHostRecordParser`, which both exact-window surfaces read the
frames and the editable focus of their host with.  Both push every chunk, also
after one has thrown.  What is pending is bounded before complete records are
taken off, and a payload that is at fault is dropped before it is checked.
-/

namespace ExecutionHandoff.WebSocket

open Library List

/-- The calls of `onFrame` and `onEditableFocus`. -/
inductive WindowHostCallback where
  | frame (data : List UInt8) (width height : Nat)
  | editableFocus (editable : Bool)
  deriving DecidableEq

namespace WebSocketWindowHostRecordParser

def maxHostRecordBytes : Nat := 8 * 1024 * 1024

/-- The data begins and ends as a JPEG image does. -/
def IsJpeg (data : List UInt8) : Prop :=
  4 ≤ data.length ∧ data.take 2 = [0xff, 0xd8] ∧ data.drop (data.length - 2) = [0xff, 0xd9]

instance (data : List UInt8) : Decidable (IsJpeg data) :=
  inferInstanceAs (Decidable (_ ∧ _ ∧ _))

/-- The callback for a complete payload, unless `push` throws. -/
def callback (_ : UInt8) : List UInt8 → Option WindowHostCallback
  | [flag] =>
      if flag = 0 ∨ flag = 1 then some (.editableFocus (flag == 1)) else none
  | w₀ :: w₁ :: h₀ :: h₁ :: data =>
      if fromBigEndian 0 [w₀, w₁] = 0 ∨ fromBigEndian 0 [h₀, h₁] = 0 ∨ ¬IsJpeg data then none
      else some (.frame data (fromBigEndian 0 [w₀, w₁]) (fromBigEndian 0 [h₀, h₁]))
  | _ => none

/-- What the loop of `push` checks. -/
def format : TaggedFormat WindowHostCallback where
  header type length := type == 2 && decide (1 ≤ length) && decide (length ≤ maxHostRecordBytes)
  payload := callback

def boundsMessage : String := "WSS exact-window host record buffer exceeded bounds"
def recordMessage : String := "WSS exact-window host emitted an invalid record"
def editableFocusMessage : String :=
  "WSS exact-window host emitted an invalid editable-focus record"
def jpegMessage : String := "WSS exact-window host emitted an invalid JPEG frame"

/-- What is thrown for a fault at the front of the pending bytes. -/
def faultMessage : List UInt8 → String
  | type :: l₀ :: l₁ :: l₂ :: l₃ :: _ =>
      let length := fromBigEndian 0 [l₀, l₁, l₂, l₃]
      if !format.header type length then recordMessage
      else if length = 1 then editableFocusMessage
      else if length < 8 then recordMessage
      else jpegMessage
  | _ => recordMessage

/-- What is pending once a fault at the front has been found: a header stays, a payload goes. -/
def afterFault : List UInt8 → List UInt8
  | type :: l₀ :: l₁ :: l₂ :: l₃ :: body =>
      if format.header type (fromBigEndian 0 [l₀, l₁, l₂, l₃]) then
        body.drop (fromBigEndian 0 [l₀, l₁, l₂, l₃])
      else type :: l₀ :: l₁ :: l₂ :: l₃ :: body
  | pending => pending

/-- A callback, or what a push throws. -/
inductive Event where
  | callback (callback : WindowHostCallback)
  | error (message : String)
  deriving DecidableEq

def Event.isError : Event → Bool
  | .callback _ => false
  | .error _ => true

/-- `push`: what comes of it, and what is pending afterwards. -/
def push (pending chunk : List UInt8) : List Event × List UInt8 :=
  if chunk = [] then ([], pending)
  else if maxHostRecordBytes + 5 < (pending ++ chunk).length then
    ([.error boundsMessage], pending ++ chunk)
  else
    let drained := format.framing.drain (pending ++ chunk)
    if drained.faulty then
      (drained.records.map .callback ++ [.error (faultMessage drained.rest)],
        afterFault drained.rest)
    else (drained.records.map .callback, drained.rest)

/-- What comes of the chunks of a host. -/
def events (pending : List UInt8) : List (List UInt8) → List Event
  | [] => []
  | chunk :: chunks => (push pending chunk).1 ++ events (push pending chunk).2 chunks

end WebSocketWindowHostRecordParser

/-! ## Valid records -/

inductive WindowHostRecord where
  | frame (data : List UInt8) (width height : Nat)
  | editableFocus (editable : Bool)

namespace WindowHostRecord

open WebSocketWindowHostRecordParser

def payload : WindowHostRecord → List UInt8
  | .frame data width height => bigEndian 2 width ++ bigEndian 2 height ++ data
  | .editableFocus editable => [if editable then 1 else 0]

def bytes (record : WindowHostRecord) : List UInt8 := writeTagged 2 record.payload

def callback : WindowHostRecord → WindowHostCallback
  | .frame data width height => .frame data width height
  | .editableFocus editable => .editableFocus editable

/-- A frame has a size, its data is a JPEG image, and it is not too large. -/
def Valid : WindowHostRecord → Prop
  | .frame data width height =>
      0 < width ∧ width < 256 ^ 2 ∧ 0 < height ∧ height < 256 ^ 2 ∧ IsJpeg data ∧
        data.length + 4 ≤ maxHostRecordBytes
  | .editableFocus _ => True

end WindowHostRecord

namespace WebSocketWindowHostRecordParser

/-- A number that fits is read back. -/
theorem readback {width value : Nat} (bound : value < 256 ^ width) :
    fromBigEndian 0 (bigEndian width value) = value := by
  rw [fromBigEndian_bigEndian, Nat.zero_mul, Nat.zero_add, Nat.mod_eq_of_lt bound]

/-- The records of the format are the valid ones. -/
theorem format_codes : format.framing.Codes WindowHostRecord.bytes WindowHostRecord.callback
    WindowHostRecord.Valid := by
  refine @TaggedFormat.codes _ format _ (fun _ => 2) WindowHostRecord.payload _ _
    (fun record valid => ?_) fun type payload found inOrder same => ?_
  · cases record with
    | editableFocus editable =>
        refine ⟨rfl, (by decide : 1 < 256 ^ 4), ?_⟩
        cases editable <;> rfl
    | frame data width height =>
        obtain ⟨wide, width', high, height', jpeg, size⟩ := valid
        have length : (WindowHostRecord.frame data width height).payload.length =
            data.length + 4 := by
          simp [WindowHostRecord.payload]
          omega
        obtain ⟨w₀, w₁, h₀, h₁, two, two'⟩ : ∃ w₀ w₁ h₀ h₁, bigEndian 2 width = [w₀, w₁] ∧
            bigEndian 2 height = [h₀, h₁] := ⟨_, _, _, _, rfl, rfl⟩
        have read : callback 2 (w₀ :: w₁ :: h₀ :: h₁ :: data) =
            some (.frame data width height) := by
          unfold callback
          dsimp only
          rw [← two, ← two', readback width', readback height', if_neg]
          rintro (none | none | none)
          · exact Nat.ne_of_gt wide none
          · exact Nat.ne_of_gt high none
          · exact none jpeg
        refine ⟨?_, ?_, ?_⟩
        · rw [length]
          simp [format, size]
        · rw [length]
          exact Nat.lt_of_le_of_lt size (by decide)
        · simp only [WindowHostRecord.payload]
          rw [two, two']
          exact read
  · change callback type payload = _ at same
    simp only [format, Bool.and_eq_true, beq_iff_eq, decide_eq_true_eq] at inOrder
    obtain ⟨⟨rfl, -⟩, size⟩ := inOrder
    unfold callback at same
    split at same
    · rename_i flag
      split at same
      · rename_i known
        cases same
        refine ⟨.editableFocus (flag == 1), trivial, rfl, rfl, ?_⟩
        rcases known with rfl | rfl <;> rfl
      · cases same
    · rename_i w₀ w₁ h₀ h₁ data
      split at same
      · cases same
      · rename_i full
        rw [not_or, not_or, not_not] at full
        cases same
        refine ⟨.frame data (fromBigEndian 0 [w₀, w₁]) (fromBigEndian 0 [h₀, h₁]), ?_, rfl, rfl, ?_⟩
        · exact ⟨Nat.pos_of_ne_zero full.1, fromBigEndian_lt _, Nat.pos_of_ne_zero full.2.1,
            fromBigEndian_lt _, full.2.2, size⟩
        · have two := bigEndian_fromBigEndian [w₀, w₁]
          have two' := bigEndian_fromBigEndian [h₀, h₁]
          simp only [length_cons, length_nil] at two two'
          simp only [WindowHostRecord.payload]
          rw [two, two']
          rfl
    · cases same

/-! ## Which chunks do no harm -/

/-- After a fault no push within the bound finds a record in front. -/
def Silent (pending : List UInt8) : List (List UInt8) → Prop
  | [] => True
  | chunk :: chunks =>
      if chunk = [] then Silent pending chunks
      else if maxHostRecordBytes + 5 < (pending ++ chunk).length then True
      else match format.front (pending ++ chunk) with
        | .wait => Silent (pending ++ chunk) chunks
        | .fault => Silent (afterFault (pending ++ chunk)) chunks
        | .record _ _ => False

/-- A push beyond the bound has a fault in front, and after the first fault all is silent. -/
def Fits (pending : List UInt8) : List (List UInt8) → Prop
  | [] => True
  | chunk :: chunks =>
      if chunk = [] then Fits pending chunks
      else if maxHostRecordBytes + 5 < (pending ++ chunk).length then
        format.front (pending ++ chunk) = .fault
      else if (format.framing.drain (pending ++ chunk)).faulty then
        Silent (afterFault (format.framing.drain (pending ++ chunk)).rest) chunks
      else Fits (format.framing.drain (pending ++ chunk)).rest chunks

/-- The events are the callbacks, and then errors if and only if there is a fault. -/
def Delivers (events : List Event) (callbacks : List WindowHostCallback) (faulty : Bool) : Prop :=
  ∃ messages : List String, events = callbacks.map .callback ++ messages.map .error ∧
    (messages ≠ [] ↔ faulty = true)

/-- Nothing but errors. -/
def OnlyErrors (events : List Event) : Prop := ∃ messages : List String, events = messages.map .error

theorem OnlyErrors.cons {message : String} {events : List Event} :
    OnlyErrors (.error message :: events) ↔ OnlyErrors events := by
  constructor
  · rintro ⟨messages, same⟩
    cases messages with
    | nil => cases same
    | cons first messages => exact ⟨messages, (List.cons.inj same).2⟩
  · rintro ⟨messages, rfl⟩
    exact ⟨message :: messages, rfl⟩

theorem OnlyErrors.not_callback {callback : WindowHostCallback} {events : List Event} :
    ¬OnlyErrors (.callback callback :: events) := by
  rintro ⟨messages, same⟩
  cases messages <;> cases same

variable {pending : List UInt8} {chunks : List (List UInt8)}

/-- Once too much is pending every push throws. -/
theorem events_oversize (large : maxHostRecordBytes + 5 < pending.length)
    (chunks : List (List UInt8)) : OnlyErrors (events pending chunks) := by
  induction chunks generalizing pending with
  | nil => exact ⟨[], rfl⟩
  | cons chunk chunks ih =>
      rw [events, push]
      split
      · exact ih large
      · have large' : maxHostRecordBytes + 5 < (pending ++ chunk).length := by
          rw [length_append]
          exact Nat.lt_add_right _ large
        rw [if_pos large']
        exact OnlyErrors.cons.mpr (ih large')

/-- An unfinished record is within the bound. -/
theorem length_of_wait (waits : format.front pending = .wait) :
    pending.length ≤ maxHostRecordBytes + 4 := by
  refine TaggedFormat.length_of_wait (fun type length inOrder => ?_) waits
  simp only [format, Bool.and_eq_true, decide_eq_true_eq] at inOrder
  exact inOrder.2

theorem silent_iff (pending : List UInt8) (chunks : List (List UInt8)) :
    Silent pending chunks ↔ OnlyErrors (events pending chunks) := by
  induction chunks generalizing pending with
  | nil => exact ⟨fun _ => ⟨[], rfl⟩, fun _ => trivial⟩
  | cons chunk chunks ih =>
      rw [Silent, events, push]
      split
      · exact ih pending
      · split
        · rename_i large
          exact ⟨fun _ => OnlyErrors.cons.mpr (events_oversize large chunks), fun _ => trivial⟩
        · split
          · rename_i waits
            rw [Framing.drain_wait waits]
            exact ih _
          · rename_i fault
            rw [Framing.drain_fault fault]
            exact (ih _).trans OnlyErrors.cons.symm
          · rename_i record rest found
            refine ⟨False.elim, fun only => ?_⟩
            rw [Framing.drain_record found] at only
            dsimp only at only
            split at only <;> exact OnlyErrors.not_callback only

/-- Callbacks in front are the ones to be delivered first. -/
theorem Delivers.append_iff {callbacks rest : List WindowHostCallback} {events : List Event}
    {faulty : Bool} : Delivers (callbacks.map .callback ++ events) (callbacks ++ rest) faulty ↔
      Delivers events rest faulty := by
  unfold Delivers
  simp only [map_append, append_assoc, append_cancel_left_eq]

/-- With a fault and no callback to deliver, there are errors only. -/
theorem Delivers.error_iff {message : String} {events : List Event} :
    Delivers (.error message :: events) [] true ↔ OnlyErrors events := by
  constructor
  · rintro ⟨messages, same, _⟩
    exact OnlyErrors.cons.mp ⟨messages, same⟩
  · rintro ⟨messages, rfl⟩
    exact ⟨message :: messages, rfl, by simp⟩

/-- An error cannot stand for a callback. -/
theorem Delivers.not_error {message : String} {events : List Event}
    {callback : WindowHostCallback} {callbacks : List WindowHostCallback} {faulty : Bool} :
    ¬Delivers (.error message :: events) (callback :: callbacks) faulty := by
  rintro ⟨messages, same, _⟩
  cases same

/-- The chunks do no harm exactly if the records before the first fault are delivered, and then
errors if there is a fault. -/
theorem fits_iff {pending : List UInt8} (waits : format.front pending = .wait)
    (chunks : List (List UInt8)) :
    Fits pending chunks ↔ Delivers (events pending chunks)
      (format.framing.drain (pending ++ chunks.flatten)).records
      (format.framing.drain (pending ++ chunks.flatten)).faulty := by
  induction chunks generalizing pending with
  | nil =>
      rw [flatten_nil, append_nil, Framing.drain_wait waits]
      exact ⟨fun _ => ⟨[], rfl, by simp⟩, fun _ => trivial⟩
  | cons chunk chunks ih =>
      rw [Fits, events, push, flatten_cons, ← append_assoc]
      by_cases nothing : chunk = []
      · subst nothing
        rw [if_pos rfl, if_pos rfl, append_nil]
        exact ih waits
      rw [if_neg nothing, if_neg nothing]
      by_cases large : maxHostRecordBytes + 5 < (pending ++ chunk).length
      · rw [if_pos large, if_pos large]
        have errors := events_oversize large chunks
        cases front : format.front (pending ++ chunk) with
        | wait => exact absurd (length_of_wait front) (Nat.not_le.mpr (Nat.lt_of_succ_lt large))
        | fault =>
            rw [Framing.drain_fault (format.framing.fault_append _ front)]
            exact ⟨fun _ => Delivers.error_iff.mpr errors, fun _ => rfl⟩
        | record record rest =>
            rw [Framing.drain_record (format.framing.record_append _ front)]
            exact ⟨fun no => (by cases no), fun delivers => absurd delivers Delivers.not_error⟩
      rw [if_neg large, if_neg large]
      cases faulty : (format.framing.drain (pending ++ chunk)).faulty with
      | true =>
          obtain ⟨records, faulty'⟩ := Framing.drain_append_faulty faulty chunks.flatten
          rw [records, faulty', if_pos rfl]
          simp only [faulty, if_true, append_assoc, singleton_append]
          have split := @Delivers.append_iff (format.framing.drain (pending ++ chunk)).records []
          rw [append_nil] at split
          rw [split, Delivers.error_iff]
          exact silent_iff _ chunks
      | false =>
          have left := @Framing.front_rest _ _ format.framing (pending ++ chunk)
          rw [faulty, if_neg Bool.false_ne_true] at left
          rw [if_neg Bool.false_ne_true, Framing.drain_append (pending ++ chunk)]
          simp only [faulty, Bool.false_eq_true, if_false]
          rw [Delivers.append_iff]
          exact ih left

/-- What is pending after the chunks, unless one of them made the parser throw. -/
def feed (pending : List UInt8) : List (List UInt8) → Option (List UInt8)
  | [] => some pending
  | chunk :: chunks =>
      if (push pending chunk).1.any Event.isError then none else feed (push pending chunk).2 chunks

theorem push_bound {chunk : List UInt8} (small : pending.length ≤ maxHostRecordBytes + 4)
    (calm : (push pending chunk).1.any Event.isError = false) :
    (push pending chunk).2.length ≤ maxHostRecordBytes + 4 := by
  unfold push at calm ⊢
  split at calm
  · rename_i nothing
    rw [if_pos nothing]
    exact small
  · rename_i something
    rw [if_neg something]
    split at calm
    · cases calm
    · rename_i within
      rw [if_neg within]
      have waits := @Framing.front_rest _ _ format.framing (pending ++ chunk)
      cases faulty : (format.framing.drain (pending ++ chunk)).faulty with
      | true => simp [faulty, Event.isError] at calm
      | false =>
          rw [faulty, if_neg Bool.false_ne_true] at waits
          simp only [faulty, Bool.false_eq_true, if_false]
          exact length_of_wait waits

theorem feed_bound {pending' : List UInt8}
    (small : pending.length ≤ maxHostRecordBytes + 4) (fed : feed pending chunks = some pending') :
    pending'.length ≤ maxHostRecordBytes + 4 := by
  induction chunks generalizing pending with
  | nil =>
      cases fed
      exact small
  | cons chunk chunks ih =>
      unfold feed at fed
      split at fed
      · cases fed
      · rename_i calm
        exact ih (push_bound small (Bool.eq_false_iff.mpr calm)) fed

/-- Where no more than a record's bound comes in all, and no fault, the chunks do no harm. -/
theorem fits_of_small (small : (pending ++ chunks.flatten).length ≤ maxHostRecordBytes + 5)
    (clean : (format.framing.drain (pending ++ chunks.flatten)).faulty = false) :
    Fits pending chunks := by
  induction chunks generalizing pending with
  | nil => trivial
  | cons chunk chunks ih =>
      rw [flatten_cons, ← append_assoc] at small clean
      have part : (pending ++ chunk).length ≤ maxHostRecordBytes + 5 := by
        rw [length_append] at small
        exact Nat.le_of_add_right_le small
      rw [Fits]
      by_cases nothing : chunk = []
      · subst nothing
        rw [append_nil] at small clean
        rw [if_pos rfl]
        exact ih small clean
      · rw [if_neg nothing, if_neg (Nat.not_lt.mpr part)]
        cases faulty : (format.framing.drain (pending ++ chunk)).faulty with
        | true => cases (Framing.drain_append_faulty faulty chunks.flatten).2.symm.trans clean
        | false =>
            rw [if_neg Bool.false_ne_true]
            rw [Framing.drain_append (pending ++ chunk)] at clean
            refine ih (Nat.le_trans ?_ small) clean
            have shorter := @Framing.length_rest_le _ _ format.framing (pending ++ chunk)
            simp only [length_append] at shorter ⊢
            omega

/-- A valid record by itself is delivered, in any chunks. -/
theorem events_record {record : WindowHostRecord} (valid : record.Valid)
    (same : chunks.flatten = record.bytes)
    (small : record.bytes.length ≤ maxHostRecordBytes + 5) :
    events [] chunks = [.callback record.callback] := by
  have drained := format_codes.drain_whole (forall_mem_singleton.mpr valid)
  rw [flatMap_cons, flatMap_nil, append_nil] at drained
  have fits : Fits [] chunks := by
    refine fits_of_small ?_ ?_
    · rw [nil_append, same]
      exact small
    · rw [nil_append, same, drained]
  have delivers := (fits_iff rfl chunks).mp fits
  rw [nil_append, same, drained] at delivers
  obtain ⟨messages, delivered, none⟩ := delivers
  have empty : messages = [] := by
    by_contra some
    cases none.mp some
  simpa [empty] using delivered

/-- Window host records: a stream of valid records is delivered without an error, and a stream with
a fault is delivered up to it and fails then, exactly if the chunks do no harm. -/
theorem windowHostRecords_iff (chunks : List (List UInt8)) (records : List WindowHostRecord)
    (valid : ∀ record ∈ records, record.Valid) :
    (chunks.flatten = records.flatMap WindowHostRecord.bytes →
      (events [] chunks = (records.map WindowHostRecord.callback).map .callback ↔
        Fits [] chunks)) ∧
    ∀ tail, chunks.flatten = records.flatMap WindowHostRecord.bytes ++ tail →
      format.front tail = .fault →
      ((∃ messages : List String, messages ≠ [] ∧ events [] chunks =
          (records.map WindowHostRecord.callback).map .callback ++ messages.map .error) ↔
        Fits [] chunks) := by
  have whole := @fits_iff [] rfl chunks
  simp only [List.nil_append] at whole
  refine ⟨fun same => ?_, fun tail same fault => ?_⟩
  · rw [whole, same, format_codes.drain_whole valid]
    constructor
    · intro delivered
      exact ⟨[], by simpa using delivered, by simp⟩
    · rintro ⟨messages, delivered, none⟩
      have empty : messages = [] := by
        by_contra some
        cases none.mp some
      simpa [empty] using delivered
  · rw [whole, same, format_codes.drain_codes valid, Framing.drain_fault fault]
    constructor
    · rintro ⟨messages, some, delivered⟩
      exact ⟨messages, by simpa using delivered, by simpa using some⟩
    · rintro ⟨messages, delivered, some⟩
      exact ⟨messages, by simpa using some, by simpa using delivered⟩

theorem sampleFlag_delivered :
    events [] [[2, 0, 0, 0, 1, 1]] = [.callback (.editableFocus true)] := by
  have valid : ∀ record ∈ [WindowHostRecord.editableFocus true], record.Valid := by
    simp [WindowHostRecord.Valid]
  refine ((windowHostRecords_iff [[2, 0, 0, 0, 1, 1]] [.editableFocus true] valid).1 rfl).mpr ?_
  have drained : format.framing.drain ([] ++ [2, 0, 0, 0, 1, 1]) =
      ⟨[.editableFocus true], [], false⟩ := format_codes.drain_whole valid
  rw [Fits, if_neg (by decide), if_neg (by decide), drained]
  trivial

/-- More than the bound of valid records in one chunk. -/
def sampleRecords : List WindowHostRecord := List.replicate 1398103 (.editableFocus true)

/-- They are all valid, and none is delivered. -/
theorem sampleRecords_lost :
    (∀ record ∈ sampleRecords, record.Valid) ∧
      events [] [sampleRecords.flatMap WindowHostRecord.bytes] = [.error boundsMessage] := by
  have size : (sampleRecords.flatMap WindowHostRecord.bytes).length = 8388618 := by
    rw [List.length_flatMap, sampleRecords, List.map_replicate, List.sum_replicate]
    rfl
  refine ⟨fun record mem => ?_, ?_⟩
  · rw [List.eq_of_mem_replicate mem]
    trivial
  · have some : sampleRecords.flatMap WindowHostRecord.bytes ≠ [] := by
      intro none
      rw [none] at size
      cases size
    have large : maxHostRecordBytes + 5 <
        ([] ++ sampleRecords.flatMap WindowHostRecord.bytes).length := by
      rw [List.nil_append, size]
      decide
    rw [events, push, if_neg some, if_pos large]
    rfl

end WebSocketWindowHostRecordParser

end ExecutionHandoff.WebSocket
