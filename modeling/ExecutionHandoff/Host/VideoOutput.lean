import ExecutionHandoff.Host.AccessUnitWire
import ExecutionHandoff.Host.JpegFrames
import ExecutionHandoff.Host.RecordWriter
import ExecutionHandoff.Host.VideoChain
import ExecutionHandoff.WebSocket.FrameWire

/-!
# What the Linux host writes and the viewer gets

The bytes on stdout, read by the WebRTC runtime and sent in RTP packets; and
those with JPEG images, read by the window surface and sent to the page.
-/

namespace ExecutionHandoff.Host

open Library List
open WebRtc (HostCallback HostRecordParser RtpPacket RtpSender Packetisable Carries depacketize
  splitAvcc sendFrame sendFrame_spec)

namespace LinuxVideo

variable {config : VideoConfig} {video video' last : LinuxVideo} {event : VideoEvent}
  {events : List VideoEvent}

/-- What a step means for the frames submitted and for the writer. -/
inductive Outputs (config : VideoConfig) (video video' : LinuxVideo) : Prop where
  | submits (emission : Emission) (timestamp : Nat) (frame : VideoFrame)
      (made : frameRecord config emission.run emission.index timestamp emission.units = some frame)
      (submitted : video'.submitted = video.submitted ++ [frame])
      (writer : video'.writer = video.writer.submitRecord config.highWaterMark (.frame frame))
  | editable (editable : Bool) (submitted : video'.submitted = video.submitted)
      (writer : video'.writer = video.writer.submitRecord config.highWaterMark (.editable editable))
  | drains (waits : video.writer.needDrain = true) (submitted : video'.submitted = video.submitted)
      (writer : video'.writer =
        { video.writer with needDrain := false }.drain config.highWaterMark)
  | flushes (buffered : Nat) (submitted : video'.submitted = video.submitted)
      (writer : video'.writer = { video.writer with buffered })

theorem Outputs.same (submitted : video'.submitted = video.submitted)
    (writer : video'.writer = video.writer) : Outputs config video video' :=
  .flushes video.writer.buffered submitted writer

theorem turn_outputs (step : video.turn config event = some video') :
    Outputs config video video' := by
  cases event with
  | submits timestamp => cases step
  | editable editable =>
      cases step
      exact .editable editable rfl rfl
  | flushes count =>
      cases step
      exact .flushes _ rfl rfl
  | drains =>
      change (if _ then _ else _) = some video' at step
      split at step
      · rename_i waits
        cases step
        exact .drains waits.1 rfl rfl
      · cases step
  | data index count =>
      obtain ⟨_, _, step⟩ := Option.bind_eq_some_iff.mp step
      split at step
      · cases step
      · obtain ⟨_, _, rfl⟩ := Option.map_eq_some_iff.mp step
        exact .same rfl rfl
  | ends index =>
      obtain ⟨_, _, step⟩ := Option.bind_eq_some_iff.mp step
      split at step
      · obtain ⟨_, _, rfl⟩ := Option.map_eq_some_iff.mp step
        exact .same rfl rfl
      · cases step
  | encodes | exits | start | requestIDR | restarts | restarted | stop =>
      -- the encoders and their restarts only
      refine .same ?_ ?_ <;>
        grind [turn, encodes, exits, restart, restarted, spawnEncoder, setRun]

theorem step_outputs (step : Step config video event video') : Outputs config video video' := by
  change next config video event = some video' at step
  unfold next at step
  split at step
  · unfold submits at step
    split at step
    · cases step
    · obtain ⟨frame, made, rfl⟩ := Option.map_eq_some_iff.mp step
      exact .submits _ _ frame made rfl rfl
  · split at step
    · exact turn_outputs step
    · cases step

/-! ## The writer as one of the record writers -/

/-- A record writer has taken the same records and the same frames in particular. -/
structure Refines (video : LinuxVideo) (records : RecordWriter HostRecord) : Prop where
  same : RecordWriter.Matches video.writer records
  frames : (records.submitted.filter fun record => !record.kind).map Submission.item =
    video.submitted.map .frame

theorem Refines.step {records : RecordWriter HostRecord} (refines : Refines video records)
    (outputs : Outputs config video video') :
    ∃ calls records', Run RecordWriter.Step records calls records' ∧ Refines video' records' := by
  have submit (record : HostRecord) (grown : video'.submitted.map HostRecord.frame =
      video.submitted.map .frame ++ ([record].filter fun record => !RecordWriter.isControl record))
      (writer : video'.writer = video.writer.submitRecord config.highWaterMark record) :
      ∃ calls records', Run RecordWriter.Step records calls records' ∧ Refines video' records' := by
    refine ⟨[if RecordWriter.isControl record then .submitControl record
        (RecordWriter.takes config.highWaterMark video.writer record) else .submit record
        (RecordWriter.takes config.highWaterMark video.writer record)], _, .single ?_,
      writer ▸ refines.same.submit config.highWaterMark record, ?_⟩
    · cases record <;> rfl
    · rw [RecordWriter.submitNext_submitted, filter_append, map_append, refines.frames, grown]
      cases record <;> rfl
  cases outputs with
  | submits emission timestamp frame made submitted writer =>
      refine submit (.frame frame) ?_ writer
      rw [submitted, map_append]
      rfl
  | editable editable submitted writer =>
      refine submit (.editable editable) ?_ writer
      rw [submitted]
      exact (append_nil _).symm
  | drains waits submitted writer =>
      obtain ⟨accepted, same⟩ := refines.same.drain config.highWaterMark
      refine ⟨[.drain accepted], _, .single ?_, writer ▸ same, ?_⟩
      · exact if_pos (refines.same.listening.trans waits)
      · rw [RecordWriter.drain_submitted, submitted]
        exact refines.frames
  | flushes buffered submitted writer =>
      refine ⟨[], records, .refl _, ?_, submitted ▸ refines.frames⟩
      rw [writer]
      exact ⟨refines.same.blocked, refines.same.listening, refines.same.latestFrame,
        refines.same.latestControl, refines.same.written⟩

/-- In every run, the writer with the high-water mark does what a record writer can do that is given
the frames submitted. -/
theorem run_refines (run : Run (Step config) initial events last) :
    ∃ calls records, Run RecordWriter.Step .initial calls records ∧ Refines last records := by
  refine @Run.invariant _ _ _ (fun video => ∃ calls records,
    Run RecordWriter.Step .initial calls records ∧ Refines video records) _ _ _ run ?_ ?_
  · rintro _ _ _ step ⟨calls, records, before, refines⟩
    obtain ⟨more, records', after, refines⟩ := refines.step (step_outputs step)
    exact ⟨_, _, before.append after, refines⟩
  · exact ⟨[], _, .refl _, ⟨rfl, rfl, rfl, rfl, rfl⟩, rfl⟩

theorem sampleFlow_refined : ∃ calls records, Run RecordWriter.Step .initial calls records ∧
    Refines (reached (next sampleVideo) .initial sampleFlow) records :=
  run_refines ((run_iff_execute (next sampleVideo) _ _ sampleFlow).mpr (by decide +kernel))

end LinuxVideo

/-! ## From stdout to the viewer -/

/-- The record as the runtime knows it. -/
def HostRecord.wire : HostRecord → WebRtc.HostRecord
  | .frame shown => .frame shown.timestamp (if shown.keyframe then 1 else 0) shown.width
      shown.height shown.avcc
  | .editable focus => .editable (if focus then 1 else 0)

def HostRecord.callback : HostRecord → HostCallback
  | .frame shown => .frame shown.timestamp shown.keyframe shown.width shown.height shown.avcc
  | .editable focus => .editable focus

theorem HostRecord.wire_callback (record : HostRecord) : record.wire.callback = record.callback := by
  cases record with
  | frame shown =>
      obtain ⟨run, index, timestamp, keyframe, width, height, avcc⟩ := shown
      cases keyframe <;> rfl
  | editable focus => cases focus <;> rfl

theorem wellFormed_of_frameRecord {config : VideoConfig} {run index timestamp : Nat} {units : Units}
    {frame : VideoFrame} (made : frameRecord config run index timestamp units = some frame) :
    (HostRecord.frame frame).wire.WellFormed := by
  unfold frameRecord at made
  dsimp only at made
  split at made
  · cases made
  · rename_i inBounds
    split at made
    · cases made
    · rename_i sized
      cases made
      have room : maxHostFrameBytes = HostRecordParser.maxHostFrameBytes := rfl
      have limit : 9 < maxHostFrameBytes := by decide
      dsimp only [HostRecord.wire, WebRtc.HostRecord.WellFormed]
      rw [← length_pos_iff]
      omega

namespace LinuxVideo

variable {config : VideoConfig} {last : LinuxVideo} {events : List VideoEvent}

theorem run_submitted (run : Run (Step config) initial events last) :
    ∀ frame ∈ last.submitted, (HostRecord.frame frame).wire.WellFormed := by
  refine @Run.invariant _ _ _ (fun video : LinuxVideo => ∀ frame ∈ video.submitted,
    (HostRecord.frame frame).wire.WellFormed) _ _ _ run ?_ (fun _ no => by cases no)
  intro video _ video' step wellFormed
  cases step_outputs step with
  | submits emission timestamp frame made submitted =>
      rw [submitted]
      exact forall_mem_append.mpr
        ⟨wellFormed, forall_mem_singleton.mpr (wellFormed_of_frameRecord made)⟩
  | editable _ submitted | drains _ submitted | flushes _ submitted => exact submitted ▸ wellFormed

end LinuxVideo

/-! ## JPEG images -/

open WebSocket (WindowHostRecord WebSocketWindowHostRecordParser.events
  WebSocketWindowHostRecordParser.Fits WebSocketWindowHostRecordParser.format_codes
  WebSocketWindowHostRecordParser.fits_iff)

/-- Images of a capture are emitted as they are, in any chunks; whichever of their records are
written, with records of the focus between them, the surface reads them if the chunks fit; and the
page is shown the image. -/
theorem images_shown {width height : Nat} (sized : HostWire.sizeInBounds width height = true)
    {shown : List (List UInt8)} (whole : ∀ image ∈ shown, IsImage image)
    (small : ∀ image ∈ shown, image.length ≤ maxHostFrameBytes - 4) :
    (∀ chunks : List (List UInt8), chunks.flatten = shown.flatten →
      JpegFrameParser.emit [] chunks = (shown, none)) ∧
    (∀ image ∈ shown,
      HostWire.jpegFrameRecord image width height =
        .ok (WindowHostRecord.frame image width height).bytes ∧
      ∃ message, WebSocket.sendFrame ⟨image, width, height, "image/jpeg"⟩ = some message ∧
        WebSocket.parseFrame message = some ⟨image, width, height, "image/jpeg"⟩) ∧
    ∀ (written : List WindowHostRecord) (chunks : List (List UInt8)),
      (∀ record ∈ written, (∃ focus, record = .editableFocus focus) ∨
        ∃ image ∈ shown, record = .frame image width height) →
      chunks.flatten = written.flatMap WindowHostRecord.bytes →
      WebSocketWindowHostRecordParser.Fits [] chunks →
      WebSocketWindowHostRecordParser.events [] chunks =
        written.map fun record => .callback record.callback := by
  have shaped : ∀ image ∈ shown, ∃ content,
      image = HostWire.jpegSoi ++ content ++ HostWire.jpegEoi := fun image mem =>
    images_shape (images_some (nextImage_append (whole image mem) []) ▸
      mem_cons_self)
  obtain ⟨⟨wide, width', -⟩, high, height', -⟩ := HostWire.sizeInBounds_iff.mp sized
  refine ⟨fun chunks same => ?_, fun image mem => ⟨?_, ?_⟩, fun written chunks records same fits => ?_⟩
  · have limit : ∀ image ∈ shown, image.length ≤ maxHostFrameBytes :=
      fun image mem => Nat.le_trans (small image mem) (Nat.sub_le _ _)
    obtain ⟨emitted, thrown⟩ := JpegFrameParser.emit_eq (fun _ => rfl : JpegFrameParser.Alike [] [])
      rfl chunks
    rw [nil_append, same, JpegFrameParser.clean_flatten whole limit] at emitted thrown
    exact Prod.ext emitted
      (Option.isNone_iff_eq_none.mp (Option.isSome_eq_false_iff.mp thrown))
  · obtain ⟨content, rfl⟩ := shaped image mem
    rw [jpegFrameRecord_eq sized, if_neg (Nat.not_lt.mpr (small _ mem))]
  · have short : image.length < 256 ^ 4 := Nat.lt_of_le_of_lt (small image mem) (by decide)
    have sent : WebSocket.sendFrame ⟨image, width, height, "image/jpeg"⟩ = _ :=
      WebSocket.sendFrame_eq width' height' short
    exact ⟨_, sent, WebSocket.parseFrame_sendFrame
      ⟨⟨width, rfl, wide⟩, ⟨height, rfl, high⟩, .inl rfl⟩ sent⟩
  · have valid : ∀ record ∈ written, record.Valid := by
      intro record mem
      rcases records record mem with ⟨focus, rfl⟩ | ⟨image, among, rfl⟩
      · exact trivial
      · obtain ⟨content, rfl⟩ := shaped image among
        exact frame_valid sized (small _ among)
    obtain ⟨messages, delivered, faulty⟩ :=
      (WebSocketWindowHostRecordParser.fits_iff rfl chunks).mp fits
    rw [nil_append, same, WebSocketWindowHostRecordParser.format_codes.drain_whole valid]
      at delivered faulty
    rw [delivered, not_not.mp (mt faulty.mp Bool.false_ne_true), map_map]
    exact append_nil _

theorem sampleImage_shown :
    JpegFrameParser.emit [] [[0xff], 0xd8 :: 7 :: HostWire.jpegEoi] =
      ([[0xff, 0xd8, 7, 0xff, 0xd9]], none) :=
  (@images_shown 640 480 (by decide) [[0xff, 0xd8, 7, 0xff, 0xd9]]
    (forall_mem_singleton.mpr ⟨⟨_, rfl⟩, [0xff, 0xd8, 7], by decide⟩)
    (forall_mem_singleton.mpr (by decide))).1 _ rfl

end ExecutionHandoff.Host
