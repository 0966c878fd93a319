import ExecutionHandoff.Host.LinuxVideo
import ExecutionHandoff.Library.KeyedSlots

/-!
# The order of the records on stdout

`LatestFrameWriter` with whatever `process.stdout.write` returns: while a write
waits for `drain`, the latest frame and the latest control record are kept and
the older ones dropped.  The writer of the Linux video, whose `write` looks at a
high-water mark, is one case of it.
-/

namespace ExecutionHandoff.Host

open Library Option

/-- The kind of a submission says whether it is a control record. -/
structure RecordWriter (α : Type) where
  blocked : Bool
  latestFrame : Option (Submission Bool α)
  latestControl : Option (Submission Bool α)
  /-- A listener is registered with `once("drain")`. -/
  listening : Bool
  /-- Every record it was given, and every record handed to `write`, oldest first. -/
  submitted : List (Submission Bool α)
  written : List (Submission Bool α)
  deriving DecidableEq

/-- A call or a drain event, with what `process.stdout.write` returns if it is called. -/
inductive WriterEvent (α : Type) where
  | submit (record : α) (accepted : Bool)
  | submitControl (record : α) (accepted : Bool)
  | drain (accepted : Bool)
  deriving DecidableEq

namespace RecordWriter

variable {α : Type}

def initial : RecordWriter α := ⟨false, none, none, false, [], []⟩

variable (writer : RecordWriter α)

def submitRecord (accepted : Bool) (record : Submission Bool α) (control : Bool) : RecordWriter α :=
  if writer.blocked then
    if control then { writer with latestControl := some record }
    else { writer with latestFrame := some record }
  else if accepted = false then
    { writer with written := writer.written ++ [record], blocked := true, listening := true }
  else { writer with written := writer.written ++ [record] }

/-- `submit` and `submitControl`, which tell the record from the ones before. -/
def submitNext (accepted : Bool) (bytes : α) (control : Bool) : RecordWriter α :=
  let record : Submission Bool α := ⟨writer.submitted.length, control, bytes⟩
  { writer with submitted := writer.submitted ++ [record] }.submitRecord accepted record control

/-- The listener, which `once` has taken off. -/
def drain (accepted : Bool) : RecordWriter α :=
  let writer := { writer with blocked := false, listening := false }
  match writer.latestControl with
  | some control => { writer with latestControl := none }.submitRecord accepted control true
  | none =>
      match writer.latestFrame with
      | some frame => { writer with latestFrame := none }.submitRecord accepted frame false
      | none => { writer with latestFrame := none }

def next : WriterEvent α → Option (RecordWriter α)
  | .submit record accepted => some (writer.submitNext accepted record false)
  | .submitControl record accepted => some (writer.submitNext accepted record true)
  | .drain accepted => if writer.listening then some (writer.drain accepted) else none

abbrev Step : RecordWriter α → WriterEvent α → RecordWriter α → Prop := StepOf next

/-- The two slots of the writer. -/
def slots : KeyedSlots Bool α where
  waiting := fun control => if control then writer.latestControl else writer.latestFrame
  submitted := writer.submitted
  written := writer.written

/-- What is promised of the records. -/
structure Orderly : Prop where
  once : writer.written.Nodup
  /-- No frame is written after a newer one. -/
  inOrder : (writer.written.filter fun record => record.kind = false).Pairwise
    fun record later => record.number < later.number
  /-- No record is stranded. -/
  accounted : ∀ record ∈ writer.submitted, record ∈ writer.written ∨
    (∃ later ∈ writer.submitted, later.kind = record.kind ∧ record.number < later.number) ∨
    (writer.listening = true ∧ (writer.latestFrame = some record ∨ writer.latestControl = some record))

/-- If a control record is written while a frame waits, the output blocks again. -/
def Reblocks : WriterEvent α → Prop
  | .drain accepted =>
      writer.latestControl.isSome → writer.latestFrame.isSome → accepted = false
  | .submit _ _ | .submitControl _ _ => True

/-- Nothing waits unless a drain event is outstanding. -/
structure Sound : Prop where
  placed : writer.slots.Placed
  listening : writer.listening = writer.blocked
  waiting : writer.blocked = false → ∀ control, writer.slots.waiting control = none

variable {writer} {after : RecordWriter α}

theorem initial_sound : Sound (initial : RecordWriter α) where
  placed := by
    have same : slots (initial : RecordWriter α) = KeyedSlots.empty := by
      unfold slots initial KeyedSlots.empty
      simp
    rw [same]
    exact KeyedSlots.placed_empty
  listening := rfl
  waiting := fun _ control => by cases control <;> rfl

/-- A record that waits in a slot is the frame or the control record. -/
theorem waiting_cases {control : Bool} {record : Submission Bool α}
    (waits : writer.slots.waiting control = some record) :
    writer.latestFrame = some record ∨ writer.latestControl = some record := by
  cases control with
  | false => exact .inl waits
  | true => exact .inr waits

theorem Sound.orderly (sound : Sound writer) : Orderly writer where
  once := sound.placed.once
  inOrder := sound.placed.inOrder false
  accounted record mem := by
    rcases sound.placed.accounted record mem with written | superseded | waits
    · exact .inl written
    · exact .inr (.inl superseded)
    · refine .inr (.inr ⟨?_, waiting_cases waits⟩)
      rw [sound.listening]
      cases blocked : writer.blocked with
      | true => rfl
      | false => exact nomatch (sound.waiting blocked _).symm.trans waits

/-- While the output is blocked, a record waits in its slot. -/
theorem slots_submitNext_blocked (blocked : writer.blocked = true) (accepted : Bool)
    (bytes : α) (control : Bool) :
    (writer.submitNext accepted bytes control).slots = writer.slots.park control bytes := by
  unfold submitNext submitRecord slots KeyedSlots.park
  rw [if_pos blocked]
  cases control with
  | false =>
      congr 1
      funext other
      cases other <;> rfl
  | true =>
      congr 1
      funext other
      cases other <;> rfl

theorem slots_submitNext_free (free : writer.blocked = false) (accepted : Bool)
    (bytes : α) (control : Bool) :
    (writer.submitNext accepted bytes control).slots = writer.slots.pass control bytes := by
  unfold submitNext submitRecord slots KeyedSlots.pass
  rw [if_neg (by rw [free]; exact Bool.false_ne_true)]
  cases accepted <;> rfl

theorem submitNext_blocked (accepted : Bool) (bytes : α) (control : Bool) :
    (writer.submitNext accepted bytes control).blocked = (writer.blocked || !accepted) := by
  unfold submitNext submitRecord
  cases blocked : writer.blocked <;> cases accepted <;> cases control <;> simp

theorem submitNext_listening (accepted : Bool) (bytes : α) (control : Bool) :
    (writer.submitNext accepted bytes control).listening =
      (writer.listening || (!writer.blocked && !accepted)) := by
  unfold submitNext submitRecord
  cases blocked : writer.blocked <;> cases accepted <;> cases control <;> simp

theorem Sound.submitNext (sound : Sound writer) (accepted : Bool) (bytes : α)
    (control : Bool) : Sound (writer.submitNext accepted bytes control) where
  placed := by
    cases blocked : writer.blocked with
    | true =>
        rw [slots_submitNext_blocked blocked]
        exact sound.placed.park control bytes
    | false =>
        rw [slots_submitNext_free blocked]
        exact sound.placed.pass (sound.waiting blocked) control bytes
  listening := by
    rw [submitNext_listening, submitNext_blocked, sound.listening]
    cases writer.blocked <;> rfl
  waiting := by
    intro free other
    rw [submitNext_blocked, Bool.or_eq_false_iff] at free
    rw [slots_submitNext_free free.1]
    exact sound.waiting free.1 other

/-- What a drain event does: it writes the control record, else the frame, else nothing. -/
theorem drain_cases (placed : writer.slots.Placed) (accepted : Bool) :
    (writer.latestFrame = none ∧ writer.latestControl = none ∧
      (writer.drain accepted).slots = writer.slots ∧ (writer.drain accepted).blocked = false ∧
      (writer.drain accepted).listening = false) ∨
    ∃ control record, writer.slots.waiting control = some record ∧
      (control = false → writer.latestControl = none) ∧
      (writer.drain accepted).slots = writer.slots.serve record ∧
      (writer.drain accepted).blocked = !accepted ∧
      (writer.drain accepted).listening = !accepted := by
  unfold drain
  cases control : writer.latestControl with
  | some record =>
      have kinded : record.kind = true := (placed.latest true record control).1
      refine .inr ⟨true, record, control, nofun, ?_, ?_, ?_⟩
      · unfold submitRecord slots KeyedSlots.serve
        dsimp only
        rw [if_neg Bool.false_ne_true, kinded]
        cases accepted <;>
        · congr 1
          funext other
          cases other <;> rfl
      · cases accepted <;> rfl
      · cases accepted <;> rfl
  | none =>
      cases frame : writer.latestFrame with
      | some record =>
          have kinded : record.kind = false := (placed.latest false record frame).1
          refine .inr ⟨false, record, frame, fun _ => rfl, ?_, ?_, ?_⟩
          · unfold submitRecord slots KeyedSlots.serve
            dsimp only
            rw [if_neg Bool.false_ne_true, kinded]
            cases accepted <;>
            · congr 1
              funext other
              cases other with
              | false => rfl
              | true => exact control.symm
          · cases accepted <;> rfl
          · cases accepted <;> rfl
      | none =>
          refine .inl ⟨rfl, rfl, ?_, rfl, rfl⟩
          unfold slots
          dsimp only
          rw [frame, control]

theorem Sound.drain (sound : Sound writer) {accepted : Bool}
    (reblocks : writer.Reblocks (.drain accepted)) : Sound (writer.drain accepted) := by
  rcases drain_cases sound.placed accepted with
    ⟨noFrame, noControl, same, free, deaf⟩ | ⟨control, record, waits, first, served, blocked, listening⟩
  · refine ⟨same ▸ sound.placed, deaf.trans free.symm, fun _ other => ?_⟩
    rw [same]
    cases other with
    | false => exact noFrame
    | true => exact noControl
  · refine ⟨served ▸ sound.placed.serve waits, listening.trans blocked.symm, fun free other => ?_⟩
    rw [blocked] at free
    have kinded : record.kind = control := (sound.placed.latest control record waits).1
    rw [served]
    by_cases same : other = record.kind
    · rw [same]
      exact KeyedSlots.serve_waiting_self
    · rw [KeyedSlots.serve_waiting_of_ne same]
      cases control with
      | false =>
          cases other with
          | false => exact absurd kinded.symm same
          | true => exact first rfl
      | true =>
          cases other with
          | true => exact absurd kinded.symm same
          | false =>
              cases frame : writer.latestFrame with
              | none => exact frame
              | some _ =>
                  have again := reblocks (isSome_iff_exists.mpr ⟨record, waits⟩)
                    (isSome_iff_exists.mpr ⟨_, frame⟩)
                  rw [again] at free
                  cases free

/-- The step that strands a frame: the control record is written, and nothing will come for the
frame. -/
theorem Sound.stranded (sound : Sound writer) {accepted : Bool}
    (passed : ¬ writer.Reblocks (.drain accepted)) : ¬ Orderly (writer.drain accepted) := by
  unfold Reblocks at passed
  simp only [not_forall, Bool.not_eq_false, exists_prop] at passed
  obtain ⟨someControl, someFrame, taken⟩ := passed
  obtain ⟨frame, waits⟩ := isSome_iff_exists.mp someFrame
  have waits : writer.slots.waiting false = some frame := waits
  intro orderly
  rcases drain_cases sound.placed accepted with
    ⟨_, noControl, _⟩ | ⟨control, record, waiting, first, served, _, listening⟩
  · rw [noControl] at someControl
    cases someControl
  · have kinded : record.kind = control := (sound.placed.latest control record waiting).1
    have control_true : control = true := by
      cases control with
      | true => rfl
      | false =>
          rw [first rfl] at someControl
          cases someControl
    have left : (writer.slots.serve record).waiting false = some frame := by
      rw [KeyedSlots.serve_waiting_of_ne (by rw [kinded, control_true]; exact Bool.false_ne_true)]
      exact waits
    have placed := sound.placed.serve waiting
    have submitted : frame ∈ (writer.drain accepted).slots.submitted := by
      rw [served]
      exact (sound.placed.latest false frame waits).2.1
    rcases orderly.accounted frame submitted with written | superseded | ⟨outstanding, _⟩
    · have written : frame ∈ (writer.drain accepted).slots.written := written
      rw [served] at written
      exact placed.waiting_notMem left written
    · have superseded : (writer.drain accepted).slots.Superseded frame := superseded
      rw [served] at superseded
      exact placed.waiting_not_superseded left superseded
    · rw [listening, taken] at outstanding
      cases outstanding

theorem step_sound {event : WriterEvent α} (step : Step writer event after)
    (reblocks : writer.Reblocks event) (sound : Sound writer) : Sound after := by
  cases event with
  | submit record accepted =>
      cases step
      exact sound.submitNext accepted record false
  | submitControl record accepted =>
      cases step
      exact sound.submitNext accepted record true
  | drain accepted =>
      change (if _ then _ else _) = some after at step
      split at step
      · cases step
        exact sound.drain reblocks
      · cases step

/-- A step keeps the records orderly exactly if it does not strand a frame. -/
theorem step_orderly_iff {event : WriterEvent α} (step : Step writer event after)
    (sound : Sound writer) : Orderly after ↔ writer.Reblocks event := by
  constructor
  · intro orderly
    by_contra passed
    cases event with
    | submit | submitControl => exact passed trivial
    | drain accepted =>
        change (if _ then _ else _) = some after at step
        split at step
        · cases step
          exact sound.stranded passed orderly
        · cases step
  · exact fun reblocks => (step_sound step reblocks sound).orderly

/-- As long as the output blocks again whenever a control record is written in front of a waiting
frame, every record is accounted for; and the first time it does not, one is stranded. -/
theorem run_orderly {events : List (WriterEvent α)} {last : RecordWriter α}
    (run : Run (Guarded Step Reblocks) initial events last) :
    Orderly last ∧ ∀ event after, Step last event after → (Orderly after ↔ last.Reblocks event) := by
  have sound : Sound last := by
    refine run.invariant ?_ initial_sound
    rintro first event after ⟨step, reblocks⟩ sound
    exact step_sound step reblocks sound
  exact ⟨sound.orderly, fun event after step => step_orderly_iff step sound⟩

/-! ### The writer of the Linux video -/

/-- The record is a control record exactly if it is not a frame. -/
def isControl : HostRecord → Bool
  | .frame _ => false
  | .editable _ => true

/-- The two writers hold the same records. -/
structure Matches (video : LatestFrameWriter) (writer : RecordWriter HostRecord) : Prop where
  blocked : writer.blocked = video.blocked
  listening : writer.listening = video.needDrain
  latestFrame : writer.latestFrame.map Submission.item = video.latestFrame.map .frame
  latestControl : writer.latestControl.map Submission.item = video.latestControl.map .editable
  written : writer.written.map Submission.item = video.written

/-- The output takes a record as long as it leaves room below the high-water mark. -/
def takes (highWaterMark : Nat) (video : LatestFrameWriter) (record : HostRecord) : Bool :=
  decide (¬ highWaterMark ≤ video.buffered + record.byteLength)

variable {video : LatestFrameWriter} {records : RecordWriter HostRecord}

theorem Matches.write (same : Matches video records) (free : video.blocked = false)
    (highWaterMark : Nat) (record : Submission Bool HostRecord) (control : Bool) :
    Matches (video.write highWaterMark record.item)
      (records.submitRecord (takes highWaterMark video record.item) record control) := by
  have unblocked : ¬ records.blocked = true := by
    rw [same.blocked, free]
    exact Bool.false_ne_true
  have written : (records.written ++ [record]).map Submission.item =
      video.written ++ [record.item] := by
    rw [List.map_append, same.written]
    rfl
  unfold LatestFrameWriter.write submitRecord takes
  rw [if_neg unblocked]
  by_cases full : highWaterMark ≤ video.buffered + record.item.byteLength
  · simp only [full, not_true_eq_false, decide_false, if_true]
    exact ⟨by simp, by simp, same.latestFrame, same.latestControl, written⟩
  · simp only [full, not_false_eq_true, decide_true, Bool.true_eq_false, if_false]
    exact ⟨by simp [same.blocked], by simp [same.listening], same.latestFrame, same.latestControl,
      written⟩

/-- What is submitted to the one is submitted to the other. -/
theorem Matches.submit (same : Matches video records) (highWaterMark : Nat) (record : HostRecord) :
    Matches (video.submitRecord highWaterMark record)
      (records.submitNext (takes highWaterMark video record) record (isControl record)) := by
  have grown : Matches video { records with submitted := records.submitted ++
      [⟨records.submitted.length, isControl record, record⟩] } :=
    ⟨same.blocked, same.listening, same.latestFrame, same.latestControl, same.written⟩
  cases blocked : video.blocked with
  | false =>
      have free : video.submitRecord highWaterMark record = video.write highWaterMark record := by
        unfold LatestFrameWriter.submitRecord
        cases record <;> exact if_neg (by rw [blocked]; exact Bool.false_ne_true)
      rw [free]
      exact grown.write blocked highWaterMark ⟨_, _, record⟩ _
  | true =>
      unfold LatestFrameWriter.submitRecord submitNext submitRecord
      dsimp only
      rw [if_pos (same.blocked.trans blocked)]
      cases record with
      | frame shown =>
          dsimp only
          rw [if_pos blocked]
          exact ⟨grown.blocked, grown.listening, rfl, grown.latestControl, grown.written⟩
      | editable focus =>
          dsimp only
          rw [if_pos blocked]
          exact ⟨grown.blocked, grown.listening, grown.latestFrame, rfl, grown.written⟩

theorem submitRecord_submitted (accepted : Bool) (record : Submission Bool α) (control : Bool) :
    (writer.submitRecord accepted record control).submitted = writer.submitted := by
  unfold submitRecord
  cases writer.blocked <;> cases control <;> cases accepted <;> rfl

theorem submitNext_submitted (accepted : Bool) (bytes : α) (control : Bool) :
    (writer.submitNext accepted bytes control).submitted =
      writer.submitted ++ [⟨writer.submitted.length, control, bytes⟩] :=
  submitRecord_submitted _ _ _

theorem drain_submitted (accepted : Bool) : (writer.drain accepted).submitted = writer.submitted := by
  unfold drain
  dsimp only
  split
  · exact submitRecord_submitted _ _ _
  · split
    · exact submitRecord_submitted _ _ _
    · rfl

/-- The records a drain event takes are the same. -/
theorem Matches.drain (same : Matches video records) (highWaterMark : Nat) :
    ∃ accepted, Matches ({ video with needDrain := false }.drain highWaterMark)
      (records.drain accepted) := by
  unfold LatestFrameWriter.drain RecordWriter.drain
  cases editable : video.latestControl with
  | some focus =>
      have held := same.latestControl
      rw [editable] at held
      obtain ⟨control, waits, item⟩ := map_eq_some_iff.mp held
      have cleared : Matches { video with blocked := false, needDrain := false, latestControl := none }
          { records with blocked := false, listening := false, latestControl := none } :=
        ⟨rfl, rfl, same.latestFrame, rfl, same.written⟩
      have written := cleared.write rfl highWaterMark control true
      rw [item] at written
      rw [waits]
      refine ⟨takes highWaterMark video (.editable focus), ?_⟩
      exact written
  | none =>
      have noControl := same.latestControl
      rw [editable] at noControl
      rw [map_eq_none_iff.mp noControl]
      cases frame : video.latestFrame with
      | some shown =>
          have held := same.latestFrame
          rw [frame] at held
          obtain ⟨record, waits, item⟩ := map_eq_some_iff.mp held
          have cleared : Matches
              { video with blocked := false, needDrain := false, latestFrame := none }
              { records with blocked := false, listening := false, latestFrame := none } :=
            ⟨rfl, rfl, rfl, same.latestControl, same.written⟩
          have written := cleared.write rfl highWaterMark record false
          rw [item, editable, map_eq_none_iff.mp noControl] at written
          rw [waits]
          refine ⟨takes highWaterMark video (.frame shown), ?_⟩
          exact written
      | none =>
          have noFrame := same.latestFrame
          rw [frame] at noFrame
          rw [map_eq_none_iff.mp noFrame]
          refine ⟨true, ?_⟩
          exact ⟨rfl, rfl, rfl, rfl, same.written⟩

/-! ### A frame behind a control record -/

/-- The output takes the first frame and is full; a control record and a frame have to wait. -/
def sampleWaiting : List (WriterEvent (List UInt8)) :=
  [.submit [1] false, .submitControl [2] true, .submit [3] true]

instance reblocksDecidable : (event : WriterEvent α) → Decidable (writer.Reblocks event)
  | .drain _ => inferInstanceAs (Decidable (_ → _ → _))
  | .submit _ _ | .submitControl _ _ => .isTrue trivial

def stateAfter (events : List (WriterEvent (List UInt8))) : RecordWriter (List UInt8) :=
  (execute next initial events).getD initial

def sampleServed : List (WriterEvent (List UInt8)) := sampleWaiting ++ [.drain false, .drain true]

theorem sampleServed_orderly : Orderly (stateAfter sampleServed) := by
  have run : Run (Guarded Step Reblocks) initial sampleServed (stateAfter sampleServed) :=
    run_guarded_of_execute (by decide)
  exact (run_orderly run).1

/-- The second frame is stranded, and it is written after the third one. -/
theorem sampleStranded :
    (∃ last, Run Step initial (sampleWaiting ++ [.drain true]) last ∧ ¬ Orderly last) ∧
      ∃ last, Run Step initial
        (sampleWaiting ++ [.drain true, .submit [4] false, .drain true]) last ∧
        last.written.map Submission.number = [0, 1, 3, 2] := by
  refine ⟨⟨stateAfter (sampleWaiting ++ [.drain true]),
    (run_iff_execute _ _ _ _).mpr (by decide), fun orderly => ?_⟩,
    ⟨stateAfter (sampleWaiting ++ [.drain true, .submit [4] false, .drain true]),
      (run_iff_execute _ _ _ _).mpr (by decide), by decide⟩⟩
  have stranded := orderly.accounted ⟨2, false, [3]⟩ (by decide)
  revert stranded
  decide

end RecordWriter

end ExecutionHandoff.Host
