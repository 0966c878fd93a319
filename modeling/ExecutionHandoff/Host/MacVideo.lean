import ExecutionHandoff.Host.LinuxVideoChain

/-!
# Video of the macOS host

One `H264PipeEncoder` hands what it makes of the encoder's samples to the one
`LatestOutputWriter`, which writes on a queue of its own.  The number of a frame
is that of its sample.
-/

namespace ExecutionHandoff.Host

open Library List Option
open HostRecord (frames frames_frame frames_editable)

/-- What the encoder's callback brings; the parameter sets are those of a key frame. -/
structure EncodedSample where
  ready : Bool
  keyframe : Bool
  nalHeaderLength : Nat
  parameterSets : List (List UInt8)
  data : List UInt8
  timestamp : Nat
  deriving DecidableEq

/-- `(length << 8) | Int(byte)` over the bytes of a header. -/
def readLength (header : List UInt8) : Nat :=
  header.foldl (fun length byte => length * 256 + byte.toNat) 0

/-- The loop of `normalizeAvcc` over the NAL units of a sample. -/
def sampleNals (nalHeaderLength : Nat) : Nat → List UInt8 → Option Units
  | _, [] => some []
  | 0, _ :: _ => none
  | fuel + 1, byte :: bytes =>
      let sample := byte :: bytes
      let length := readLength (sample.take nalHeaderLength)
      let rest := sample.drop nalHeaderLength
      if sample.length < nalHeaderLength ∨ length = 0 ∨ rest.length < length then none
      else (sampleNals nalHeaderLength fuel (rest.drop length)).map (rest.take length :: ·)

def normalizeAvcc (sample : EncodedSample) : Option (List UInt8) :=
  if sample.nalHeaderLength < 1 ∨ 4 < sample.nalHeaderLength then none
  else
    (sampleNals sample.nalHeaderLength sample.data.length sample.data).bind fun nals =>
      let result := avccFromNalUnits (sample.parameterSets ++ nals)
      if result = [] then none else some result

/-- `handle`, and `frameRecord` of what it hands on. -/
def EncodedSample.frame (config : VideoConfig) (index : Nat) (sample : EncodedSample) :
    Option VideoFrame :=
  if sample.ready = false ∨ sample.data = [] then none
  else
    (normalizeAvcc sample).bind fun avcc =>
      if config.width < 1 ∨ 65535 < config.width ∨ config.height < 1 ∨ 65535 < config.height ∨
          maxHostFrameBytes - 9 < avcc.length then
        none
      else
        some ⟨0, index, sample.timestamp % 2 ^ 32, sample.keyframe, config.width, config.height,
          avcc⟩

/-- `current` is the record that is being written. -/
structure MacVideo where
  produced : List EncodedSample
  submitted : List VideoFrame
  current : Option HostRecord
  latestFrame : Option VideoFrame
  latestControl : Option Bool
  written : List HostRecord
  deriving DecidableEq

inductive MacVideoEvent where
  /-- The encoder's next sample, while the host is active or not any more. -/
  | encoded (sample : EncodedSample) (active : Bool)
  | editable (editable : Bool)
  | writes
  deriving DecidableEq

namespace MacVideo

def initial : MacVideo := ⟨[], [], none, none, none, []⟩

variable (config : VideoConfig) (video : MacVideo)

def enqueue : HostRecord → MacVideo
  | .frame frame =>
      if video.current.isSome then { video with latestFrame := some frame }
      else { video with current := some (.frame frame) }
  | .editable editable =>
      if video.current.isSome then { video with latestControl := some editable }
      else { video with current := some (.editable editable) }

/-- The frame that is submitted for the encoder's next sample. -/
def frameOf (sample : EncodedSample) (active : Bool) : Option VideoFrame :=
  if active then sample.frame config video.produced.length else none

def encoded (sample : EncodedSample) (active : Bool) : MacVideo :=
  let next := { video with produced := video.produced ++ [sample] }
  match video.frameOf config sample active with
  | none => next
  | some frame =>
      { next with submitted := video.submitted ++ [frame] }.enqueue (.frame frame)

/-- A round of `drain`. -/
def writes : Option MacVideo :=
  video.current.map fun record =>
    let video := { video with written := video.written ++ [record] }
    match video.latestControl, video.latestFrame with
    | some editable, _ => { video with current := some (.editable editable), latestControl := none }
    | none, some frame => { video with current := some (.frame frame), latestFrame := none }
    | none, none => { video with current := none }

def next : MacVideoEvent → Option MacVideo
  | .encoded sample active => some (video.encoded config sample active)
  | .editable editable => some (video.enqueue (.editable editable))
  | .writes => video.writes

abbrev Step : MacVideo → MacVideoEvent → MacVideo → Prop := StepOf (next config)

/-! ## The frames -/

variable {config : VideoConfig} {video video' : MacVideo}

/-- A delta frame comes when no frame waits, and directly after the frame of the sample before. -/
def flows (config : VideoConfig) (video : MacVideo) : MacVideoEvent → Bool
  | .encoded sample active =>
      (video.frameOf config sample active).all fun frame =>
        frame.keyframe || (video.latestFrame.isNone &&
          video.submitted.getLast?.any fun last => last.index + 1 == frame.index)
  | _ => true

abbrev Flows (config : VideoConfig) (video : MacVideo) (event : MacVideoEvent) : Prop :=
  video.flows config event = true

/-- The sample is exactly these units, each behind a header with its length. -/
inductive Delimited (nalHeaderLength : Nat) : List UInt8 → Units → Prop where
  | nil : Delimited nalHeaderLength [] []
  | cons {header nal rest : List UInt8} {nals : Units} (whole : header.length = nalHeaderLength)
      (length : readLength header = nal.length) (more : Delimited nalHeaderLength rest nals) :
      Delimited nalHeaderLength (header ++ (nal ++ rest)) (nal :: nals)

theorem sampleNals_delimited {nalHeaderLength fuel : Nat} {sample : List UInt8} {nals : Units}
    (read : sampleNals nalHeaderLength fuel sample = some nals) :
    Delimited nalHeaderLength sample nals := by
  induction fuel generalizing sample nals with
  | zero =>
      cases sample with
      | nil =>
          cases read
          exact .nil
      | cons byte bytes => cases read
  | succ fuel ih =>
      cases sample with
      | nil =>
          cases read
          exact .nil
      | cons byte bytes =>
          unfold sampleNals at read
          dsimp only at read
          split at read
          · cases read
          · rename_i met
            obtain ⟨further, reads, rfl⟩ := map_eq_some_iff.mp read
            generalize byte :: bytes = sample at reads met ⊢
            have more := ih reads
            have header : nalHeaderLength ≤ sample.length :=
              Nat.le_of_not_lt fun short => met (.inl short)
            have within := Nat.le_of_not_lt fun short => met (.inr (.inr short))
            have delimited := Delimited.cons (length_take_of_le header)
              (length_take_of_le within).symm more
            rw [take_append_drop, take_append_drop] at delimited
            exact delimited

/-- A frame holds the parameter sets and all units of its sample. -/
def Whole (produced : List EncodedSample) (frame : VideoFrame) : Prop :=
  ∃ sample nals, produced[frame.index]? = some sample ∧
    Delimited sample.nalHeaderLength sample.data nals ∧
    frame.avcc = avccFromNalUnits (sample.parameterSets ++ nals) ∧
    frame.keyframe = sample.keyframe

theorem frame_spec {index : Nat} {sample : EncodedSample} {frame : VideoFrame}
    (made : sample.frame config index = some frame) :
    frame.run = 0 ∧ frame.index = index ∧
      ∃ nals, Delimited sample.nalHeaderLength sample.data nals ∧
        frame.avcc = avccFromNalUnits (sample.parameterSets ++ nals) ∧
        frame.keyframe = sample.keyframe := by
  unfold EncodedSample.frame at made
  split at made
  · cases made
  · obtain ⟨avcc, normalized, made⟩ := bind_eq_some_iff.mp made
    split at made
    · cases made
    · cases made
      unfold normalizeAvcc at normalized
      split at normalized
      · cases normalized
      · obtain ⟨nals, read, result⟩ := bind_eq_some_iff.mp normalized
        dsimp only at result
        split at result
        · cases result
        · cases result
          exact ⟨rfl, rfl, nals, sampleNals_delimited read, rfl, rfl⟩

/-- The frames written, the one that is being written, and the one that waits. -/
def queue (video : MacVideo) : List VideoFrame :=
  HostRecord.frames (video.written ++ video.current.toList) ++ video.latestFrame.toList

structure Sound (video : MacVideo) : Prop where
  shown : ∀ frame ∈ video.submitted, frame.run = 0 ∧ Whole video.produced frame
  idle : video.current = none → video.latestFrame = none
  kept : KeptFrames video.submitted video.queue

theorem initial_sound : Sound initial where
  shown := fun _ no => by cases no
  idle := fun _ => rfl
  kept := .empty

/-- The next sample is produced. -/
theorem sound_produced (sound : Sound video) (sample : EncodedSample) :
    Sound { video with produced := video.produced ++ [sample] } := by
  refine ⟨fun frame mem => ?_, sound.idle, sound.kept⟩
  obtain ⟨run, produced, nals, found, rest⟩ := sound.shown frame mem
  obtain ⟨within, _⟩ := List.getElem?_eq_some_iff.mp found
  refine ⟨run, produced, nals, ?_, rest⟩
  change (video.produced ++ [sample])[frame.index]? = some produced
  rw [getElem?_append_left within]
  exact found

theorem sound_encoded {sample : EncodedSample} {active : Bool} (sound : Sound video)
    (flows : Flows config video (.encoded sample active)) :
    Sound (video.encoded config sample active) := by
  have after := sound_produced sound sample
  unfold encoded
  dsimp only
  split
  · exact after
  · rename_i frame made
    have flows : (video.frameOf config sample active).all _ = true := flows
    rw [made] at flows
    have made : sample.frame config video.produced.length = some frame := by
      unfold frameOf at made
      split at made
      · exact made
      · cases made
    obtain ⟨run, index, nals, delimited, avcc, keyframe⟩ := frame_spec made
    have whole : Whole (video.produced ++ [sample]) frame := by
      refine ⟨sample, nals, ?_, delimited, avcc, keyframe⟩
      rw [index, getElem?_append_right (Nat.le_refl _), Nat.sub_self]
      rfl
    have shown : ∀ other ∈ video.submitted ++ [frame],
        other.run = 0 ∧ Whole (video.produced ++ [sample]) other := by
      intro other mem
      rcases mem_append.mp mem with mem | mem
      · exact after.shown other mem
      · cases mem_singleton.mp mem
        exact ⟨run, whole⟩
    have fits : frame.keyframe = true ∨
        ∃ last, video.submitted.getLast? = some last ∧ last.follows frame := by
      refine ((Bool.or_eq_true _ _).mp flows).imp_right fun rest => ?_
      obtain ⟨last, found, next'⟩ := (any_eq_true _ _).mp ((Bool.and_eq_true _ _).mp rest).2
      have mem := mem_of_getLast? found
      exact ⟨last, found, (sound.shown last mem).1.trans run.symm, eq_of_beq next'⟩
    have added := sound.kept.add fits
    unfold enqueue
    dsimp only
    split
    · refine ⟨shown, fun none' => ?_, ?_⟩
      · rename_i writing
        rw [none'] at writing
        cases writing
      · change KeptFrames _ (frames (video.written ++ video.current.toList) ++ [frame])
        have kept := sound.kept
        unfold queue at added kept
        rcases eq_none_or_eq_some video.latestFrame with free | ⟨last, waits⟩
        · rw [free, toList_none, append_nil] at added
          exact added
        · rw [waits] at kept flows
          refine kept.replace ?_
          exact ((Bool.or_eq_true _ _).mp flows).resolve_right (by simp)
    · rename_i idle
      have free : video.current = none := by
        cases current : video.current with
        | none => rfl
        | some record =>
            rw [current] at idle
            exact absurd rfl idle
      have clear := sound.idle free
      refine ⟨shown, fun no => (by cases no), ?_⟩
      change KeptFrames _ (frames (video.written ++ [.frame frame]) ++
        video.latestFrame.toList)
      unfold queue at added
      rw [free, clear, toList_none, toList_none, append_nil,
        append_nil] at added
      rw [frames_frame, clear, toList_none, append_nil]
      exact added

theorem sound_editable (sound : Sound video) (editable : Bool) :
    Sound (video.enqueue (.editable editable)) := by
  unfold enqueue
  dsimp only
  split
  · exact ⟨sound.shown, sound.idle, sound.kept⟩
  · rename_i idle
    have free : video.current = none := by
      cases current : video.current with
      | none => rfl
      | some record =>
          rw [current] at idle
          exact absurd rfl idle
    have kept := sound.kept
    unfold queue at kept
    rw [free, toList_none, append_nil] at kept
    refine ⟨sound.shown, fun no => (by cases no), ?_⟩
    change KeptFrames _ (frames (video.written ++ [.editable editable]) ++ _)
    rw [frames_editable]
    exact kept

theorem sound_writes (sound : Sound video) (step : video.writes = some video') :
    Sound video' := by
  obtain ⟨record, current, same⟩ := map_eq_some_iff.mp step
  have kept := sound.kept
  unfold queue at kept
  rw [current, toList_some] at kept
  dsimp only at same
  split at same
  · cases same
    refine ⟨sound.shown, fun no => (by cases no), ?_⟩
    change KeptFrames _ (frames (video.written ++ [record] ++ [.editable _]) ++ _)
    rw [frames_editable]
    exact kept
  · rename_i frame _ waits
    cases same
    refine ⟨sound.shown, fun no => (by cases no), ?_⟩
    change KeptFrames _ (frames (video.written ++ [record] ++ [.frame frame]) ++ [])
    rw [frames_frame, append_nil]
    have waits : video.latestFrame = some frame := waits
    rw [waits] at kept
    exact kept
  · rename_i _ free
    cases same
    refine ⟨sound.shown, fun _ => free, ?_⟩
    change KeptFrames _ (frames (video.written ++ [record] ++ []) ++ _)
    rw [append_nil]
    exact kept

theorem step_sound {event : MacVideoEvent} (step : Step config video event video')
    (flows : Flows config video event) (sound : Sound video) : Sound video' := by
  change next config video event = some video' at step
  cases event with
  | encoded sample active =>
      cases step
      exact sound_encoded sound flows
  | editable editable =>
      cases step
      exact sound_editable sound editable
  | writes => exact sound_writes sound step

theorem run_chained {events : List MacVideoEvent} {last : MacVideo}
    (run : Run (Guarded (Step config) (Flows config)) initial events last) :
    (∀ frame ∈ frames last.written, Whole last.produced frame) ∧
    Chained (fun frame => frame.keyframe = true) VideoFrame.follows last.submitted
      (frames last.written) := by
  have sound : Sound last :=
    run.invariant (fun step sound => step_sound step.1 step.2 sound) initial_sound
  have part : frames last.written <+: last.queue := by
    unfold queue frames
    rw [filterMap_append, append_assoc]
    exact prefix_append _ _
  exact ⟨fun frame mem => (sound.shown frame (sound.kept.among (part.subset mem))).2,
    sound.kept.line_chained part⟩

end MacVideo

end ExecutionHandoff.Host
