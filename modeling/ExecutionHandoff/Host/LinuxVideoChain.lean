import Mathlib.Data.List.Infix
import ExecutionHandoff.Host.LinuxVideo
import ExecutionHandoff.Library.ReferenceChain

/-!
# The reference chain on the Linux host

The parser of an encoder emits the access units it produced, in order.  The
writer keeps the chain as long as a delta frame comes when nothing waits and
directly after a frame of its own encoder.
-/

namespace ExecutionHandoff.Host

open Library List Option

/-- One frame is from the run of another, and directly after it there. -/
def VideoFrame.follows (last frame : VideoFrame) : Prop :=
  last.run = frame.run ∧ last.index + 1 = frame.index

abbrev KeptFrames : List VideoFrame → List VideoFrame → Prop :=
  Kept (fun frame => frame.keyframe = true) VideoFrame.follows

namespace HostRecord

theorem frames_frame (records : List HostRecord) (shown : VideoFrame) :
    frames (records ++ [.frame shown]) = frames records ++ [shown] :=
  filterMap_append

theorem frames_editable (records : List HostRecord) (focus : Bool) :
    frames (records ++ [.editable focus]) = frames records := by
  unfold frames
  rw [filterMap_append]
  exact append_nil _

end HostRecord

namespace LatestFrameWriter

variable {highWaterMark : Nat} {writer : LatestFrameWriter}

/-- The frames written, and the one that waits. -/
def queue (writer : LatestFrameWriter) : List VideoFrame :=
  HostRecord.frames writer.written ++ writer.latestFrame.toList

theorem queue_editable (editable : Bool) :
    (writer.submitRecord highWaterMark (.editable editable)).queue = writer.queue := by
  unfold submitRecord
  dsimp only
  split
  · rfl
  · exact congrArg (· ++ writer.latestFrame.toList) (HostRecord.frames_editable _ editable)

theorem queue_drain : (writer.drain highWaterMark).queue = writer.queue := by
  unfold drain
  split
  · exact queue_editable _
  · rename_i frame _ waits
    change HostRecord.frames (writer.written ++ [.frame frame]) ++ [] = _
    rw [HostRecord.frames_frame, append_nil]
    unfold queue
    rw [waits]
    rfl
  · rfl

/-- A frame comes when nothing waits, or is a key frame and takes the place of what waits. -/
theorem kept_submit {frame : VideoFrame} {submitted : List VideoFrame}
    (kept : KeptFrames submitted writer.queue)
    (fits : frame.keyframe = true ∨
      ∃ last, submitted.getLast? = some last ∧ last.follows frame)
    (room : writer.latestFrame = none ∨ (frame.keyframe = true ∧ writer.blocked = true)) :
    KeptFrames (submitted ++ [frame])
      (writer.submitRecord highWaterMark (.frame frame)).queue := by
  have added := kept.add fits
  unfold queue at added kept
  unfold submitRecord
  dsimp only
  rcases room with free | ⟨key, blocked⟩
  · rw [free, toList_none, append_nil] at added
    split
    · exact added
    · change KeptFrames _ (HostRecord.frames (writer.written ++ [.frame frame]) ++
        writer.latestFrame.toList)
      rw [HostRecord.frames_frame, free, toList_none, append_nil]
      exact added
  · rw [if_pos blocked]
    change KeptFrames _ (HostRecord.frames writer.written ++ [frame])
    rcases eq_none_or_eq_some writer.latestFrame with free | ⟨last, waits⟩
    · rw [free, toList_none, append_nil] at added
      exact added
    · rw [waits, toList_some] at kept
      exact kept.replace key

end LatestFrameWriter

/-! ## One encoder -/

namespace EncoderRun

variable {run run' : EncoderRun}

/-- What was produced, with the unit that was cut. -/
def planned (run : EncoderRun) : List AccessUnit :=
  run.produced ++ (run.cut.map Prod.fst).toList

/-- What a cut unit lacks. -/
def missing (run : EncoderRun) : List UInt8 :=
  match run.cut with
  | none => []
  | some (unit, count) => unit.write.drop count

structure Sound (run : EncoderRun) : Prop where
  stream : run.fed ++ (run.pipe ++ run.missing) = writeAccessUnits run.planned
  living : run.exited = false → run.cut = none
  parsed : run.ended = false →
    ∃ emitted, run.parser.Fed run.fed emitted ∧ emitted.length = run.emitted

theorem initial_sound : Sound initial where
  stream := rfl
  living := fun _ => rfl
  parsed := fun _ => ⟨[], AnnexBAccessUnitParser.initial_fed, rfl⟩

theorem writeAccessUnits_append (units units' : List AccessUnit) :
    writeAccessUnits (units ++ units') = writeAccessUnits units ++ writeAccessUnits units' := by
  unfold writeAccessUnits
  rw [map_append, flatten_append]

theorem planned_of_living (living : run.cut = none) : run.planned = run.produced := by
  unfold planned
  rw [living]
  exact append_nil _

theorem missing_of_living (living : run.cut = none) : run.missing = [] := by
  unfold missing
  rw [living]

theorem sound_encodes (sound : Sound run) (running : run.exited = false) (unit : AccessUnit) :
    Sound { run with produced := run.produced ++ [unit], pipe := run.pipe ++ unit.write } := by
  have living := sound.living running
  have stream := sound.stream
  rw [planned_of_living living, missing_of_living living, append_nil] at stream
  refine ⟨?_, sound.living, sound.parsed⟩
  rw [@planned_of_living { run with
    produced := run.produced ++ [unit], pipe := run.pipe ++ unit.write } living]
  rw [@missing_of_living { run with
    produced := run.produced ++ [unit], pipe := run.pipe ++ unit.write } living]
  change run.fed ++ (run.pipe ++ unit.write ++ []) = writeAccessUnits (run.produced ++ [unit])
  rw [writeAccessUnits_append, ← stream, append_nil, append_assoc]
  exact congrArg (run.fed ++ ·) (congrArg (run.pipe ++ ·) (append_nil _).symm)

theorem sound_cut (sound : Sound run) (running : run.exited = false) (unit : AccessUnit)
    (count : Nat) :
    Sound
      { run with
        exited := true, cut := some (unit, count), pipe := run.pipe ++ unit.write.take count } := by
  have living := sound.living running
  have stream := sound.stream
  rw [planned_of_living living, missing_of_living living, append_nil] at stream
  refine ⟨?_, fun no => (by cases no), sound.parsed⟩
  change run.fed ++ (run.pipe ++ unit.write.take count ++ unit.write.drop count) =
    writeAccessUnits (run.produced ++ [unit])
  rw [writeAccessUnits_append, ← stream, append_assoc, take_append_drop,
    append_assoc]
  exact congrArg (run.fed ++ ·) (congrArg (run.pipe ++ ·) (append_nil _).symm)

theorem planned_prefix (run : EncoderRun) :
    (run.planned.map AccessUnit.content).dropLast <+: run.produced.map AccessUnit.content := by
  unfold planned
  cases run.cut with
  | none =>
      change ((run.produced ++ []).map AccessUnit.content).dropLast <+: _
      rw [append_nil]
      exact dropLast_prefix _
  | some cut =>
      change ((run.produced ++ [cut.1]).map AccessUnit.content).dropLast <+: _
      rw [map_append, map_singleton, dropLast_concat]

/-- A chunk of the pipe is parsed: what comes out goes on where the parser was. -/
theorem sound_data {count : Nat} {parser : AnnexBAccessUnitParser} {units : List Units}
    (sound : Sound run) (open' : run.ended = false)
    (pushed : run.parser.push (run.pipe.take count) = some (parser, units)) :
    Sound
      { run with
        fed := run.fed ++ run.pipe.take count, pipe := run.pipe.drop count, parser
        emitted := run.emitted + units.length } ∧
    ∃ emitted, emitted.length = run.emitted ∧
      emitted ++ units <+: run.produced.map AccessUnit.content := by
  obtain ⟨emitted, fed, counted⟩ := sound.parsed open'
  have stream : run.fed ++ run.pipe.take count ++ (run.pipe.drop count ++ run.missing) =
      writeAccessUnits run.planned := by
    rw [← sound.stream, append_assoc]
    refine congrArg (run.fed ++ ·) ?_
    rw [← append_assoc, take_append_drop]
  have further : parser.Fed (run.fed ++ run.pipe.take count) (emitted ++ units) := by
    by_cases none' : run.planned = []
    · have empty : run.pipe.take count = [] := by
        rw [none'] at stream
        exact (append_eq_nil_iff.mp (append_eq_nil_iff.mp stream).1).2
      rw [empty] at pushed
      cases pushed
      rw [empty, append_nil, append_nil]
      exact fed
    · have starts := AnnexBAccessUnitParser.startsUnit_writeAccessUnits none'
      rw [← stream] at starts
      exact AnnexBAccessUnitParser.push_fed fed starts pushed
  refine ⟨⟨stream, sound.living, fun _ => ⟨_, further, ?_⟩⟩, emitted, counted, ?_⟩
  · rw [length_append, counted]
  · exact (further.emitted_prefix stream).trans run.planned_prefix

/-- At the end of a run that was not cut the parser has emitted all of it. -/
theorem sound_ends {parser : AnnexBAccessUnitParser} {units : List Units} (sound : Sound run)
    (open' : run.ended = false) (whole : run.cut = none) (empty : run.pipe = [])
    (finished : run.parser.finish = some (parser, units)) :
    Sound { run with ended := true, parser, emitted := run.emitted + units.length } ∧
    ∃ emitted, emitted.length = run.emitted ∧
      emitted ++ units <+: run.produced.map AccessUnit.content := by
  obtain ⟨emitted, fed, counted⟩ := sound.parsed open'
  have stream := sound.stream
  rw [planned_of_living whole, missing_of_living whole, empty, append_nil,
    append_nil] at stream
  rw [stream] at fed
  refine ⟨⟨sound.stream, sound.living, fun no => (by cases no)⟩, emitted, counted, ?_⟩
  rw [AnnexBAccessUnitParser.finish_fed fed finished]

end EncoderRun

namespace LinuxVideo

variable {config : VideoConfig} {video video' : LinuxVideo}

/-! ## What breaks the chain -/

/-- A delta frame is submitted when no frame waits, and directly after a frame of its own encoder; a
key frame is not submitted past one that waits; and no encoder ends within an access unit. -/
def flows (video : LinuxVideo) : VideoEvent → Bool
  | .submits _ =>
      match video.outbox with
      | [] => true
      | emission :: _ =>
          if emission.units.keyframe then
            video.writer.latestFrame.isNone || video.writer.blocked
          else
            video.writer.latestFrame.isNone &&
              video.submitted.getLast?.any fun last => last.run == emission.run
  | .ends index => (video.runs[index]?).all fun run => run.cut.isNone
  | _ => true

abbrev Flows (video : LinuxVideo) (event : VideoEvent) : Prop := video.flows event = true

/-! ## The frames -/

/-- The access unit that an encoder produced at a place of its run. -/
def Produced (runs : List EncoderRun) (run index : Nat) (unit : AccessUnit) : Prop :=
  ∃ encoder, runs[run]? = some encoder ∧ encoder.produced[index]? = some unit

theorem Produced.append {runs more : List EncoderRun} {run index : Nat} {unit : AccessUnit}
    (produced : Produced runs run index unit) : Produced (runs ++ more) run index unit := by
  obtain ⟨encoder, found, at'⟩ := produced
  refine ⟨encoder, ?_, at'⟩
  obtain ⟨within, _⟩ := List.getElem?_eq_some_iff.mp found
  rw [getElem?_append_left within]
  exact found

theorem Produced.set {runs : List EncoderRun} {run index place : Nat} {unit : AccessUnit}
    {encoder encoder' : EncoderRun} (produced : Produced runs run index unit)
    (found : runs[place]? = some encoder) (grows : encoder.produced <+: encoder'.produced) :
    Produced (runs.set place encoder') run index unit := by
  obtain ⟨other, found', at'⟩ := produced
  by_cases here : place = run
  · subst here
    cases found.symm.trans found'
    obtain ⟨within, _⟩ := List.getElem?_eq_some_iff.mp found
    refine ⟨encoder', getElem?_set_self within, ?_⟩
    obtain ⟨more, same⟩ := grows
    obtain ⟨inside, _⟩ := List.getElem?_eq_some_iff.mp at'
    rw [← same, getElem?_append_left inside]
    exact at'
  · exact ⟨other, (getElem?_set_ne here).trans found', at'⟩

/-- A frame holds a whole access unit of its encoder. -/
def Whole (runs : List EncoderRun) (frame : VideoFrame) : Prop :=
  ∃ unit, Produced runs frame.run frame.index unit ∧
    frame.avcc = avccFromNalUnits unit.content ∧ frame.keyframe = unit.content.keyframe

/-- The places of the frames submitted and of the emissions still to be. -/
def places (video : LinuxVideo) : List (Nat × Nat) :=
  video.submitted.map (fun frame => (frame.run, frame.index)) ++
    video.outbox.map fun emission => (emission.run, emission.index)

/-- The emissions of an encoder are numbered from the first on. -/
def Ordered (runs : List EncoderRun) (places : List (Nat × Nat)) : Prop :=
  ∀ (run : Nat) (encoder : EncoderRun), runs[run]? = some encoder →
    places.filter (fun place => place.1 = run) =
      (List.range encoder.emitted).map fun index => (run, index)

structure Sound (video : LinuxVideo) : Prop where
  runs : ∀ (run : Nat) (encoder : EncoderRun), video.runs[run]? = some encoder → encoder.Sound
  emitted : ∀ emission ∈ video.outbox,
    ∃ unit, Produced video.runs emission.run emission.index unit ∧ emission.units = unit.content
  shown : ∀ frame ∈ video.submitted, Whole video.runs frame
  ordered : Ordered video.runs video.places
  kept : KeptFrames video.submitted video.writer.queue

/-- Nothing else of the state matters. -/
theorem Sound.of_same (sound : Sound video) (runs : video'.runs = video.runs)
    (outbox : video'.outbox = video.outbox) (submitted : video'.submitted = video.submitted)
    (writer : video'.writer = video.writer) : Sound video' := by
  cases video
  cases video'
  cases runs
  cases outbox
  cases submitted
  cases writer
  exact ⟨sound.runs, sound.emitted, sound.shown, sound.ordered, sound.kept⟩

theorem initial_sound : Sound initial where
  runs := fun _ _ no => by cases no
  emitted := fun _ no => by cases no
  shown := fun _ no => by cases no
  ordered := fun _ _ no => by cases no
  kept := .empty

/-! ## Encoders -/

/-- A step of one encoder that emits nothing. -/
theorem sound_setRun {index : Nat} {run run' : EncoderRun} (sound : Sound video)
    (found : video.runs[index]? = some run) (grows : run.produced <+: run'.produced)
    (same : run'.emitted = run.emitted) (sound' : run'.Sound) :
    Sound (video.setRun index run') := by
  obtain ⟨within, _⟩ := List.getElem?_eq_some_iff.mp found
  refine ⟨fun other encoder found' => ?_, fun emission mem => ?_, fun frame mem => ?_,
    fun other encoder found' => ?_, sound.kept⟩
  · by_cases here : index = other
    · subst here
      cases (getElem?_set_self within).symm.trans found'
      exact sound'
    · exact sound.runs other encoder ((getElem?_set_ne here).symm.trans found')
  · obtain ⟨unit, produced, content⟩ := sound.emitted emission mem
    exact ⟨unit, produced.set found grows, content⟩
  · obtain ⟨unit, produced, content⟩ := sound.shown frame mem
    exact ⟨unit, produced.set found grows, content⟩
  · by_cases here : index = other
    · subst here
      cases (getElem?_set_self within).symm.trans found'
      rw [same]
      exact sound.ordered index run found
    · exact sound.ordered other encoder ((getElem?_set_ne here).symm.trans found')

theorem sound_spawnEncoder (sound : Sound video) : Sound video.spawnEncoder := by
  have fresh (place : Nat × Nat) (mem : place ∈ video.places) : place.1 < video.runs.length := by
    rcases mem_append.mp mem with mem | mem
    · obtain ⟨frame, among, rfl⟩ := mem_map.mp mem
      obtain ⟨_, ⟨encoder, found, _⟩, _⟩ := sound.shown frame among
      exact (List.getElem?_eq_some_iff.mp found).1
    · obtain ⟨emission, among, rfl⟩ := mem_map.mp mem
      obtain ⟨_, ⟨encoder, found, _⟩, _⟩ := sound.emitted emission among
      exact (List.getElem?_eq_some_iff.mp found).1
  refine ⟨fun run encoder found => ?_, fun emission mem => ?_, fun frame mem => ?_,
    fun run encoder found => ?_, sound.kept⟩
  · rcases mem_append.mp (mem_of_getElem? found) with mem | mem
    · obtain ⟨place, found'⟩ := mem_iff_getElem?.mp mem
      exact sound.runs place encoder found'
    · cases mem_singleton.mp mem
      exact EncoderRun.initial_sound
  · obtain ⟨unit, produced, content⟩ := sound.emitted emission mem
    exact ⟨unit, produced.append, content⟩
  · obtain ⟨unit, produced, content⟩ := sound.shown frame mem
    exact ⟨unit, produced.append, content⟩
  · change (video.runs ++ [.initial])[run]? = some encoder at found
    rw [getElem?_append] at found
    split at found
    · exact sound.ordered run encoder found
    · rename_i beyond
      have initial' : encoder = .initial := mem_singleton.mp (mem_of_getElem? found)
      subst initial'
      refine filter_eq_nil_iff.mpr fun place mem here => ?_
      exact beyond (of_decide_eq_true here ▸ fresh place mem)

theorem numbered_places (run first : Nat) (units : List Units) :
    (numbered run first units).map (fun emission => (emission.run, emission.index)) =
      (range' first units.length).map fun index => (run, index) := by
  induction units generalizing first with
  | nil => rfl
  | cons head rest ih =>
      change (run, first) :: _ = _
      rw [ih (first + 1)]
      rfl

theorem mem_numbered {run first : Nat} {units : List Units} {emission : Emission}
    (mem : emission ∈ numbered run first units) :
    ∃ offset, emission.run = run ∧ emission.index = first + offset ∧
      units[offset]? = some emission.units := by
  induction units generalizing first with
  | nil => cases mem
  | cons head rest ih =>
      rcases mem_cons.mp mem with rfl | mem
      · exact ⟨0, rfl, rfl, rfl⟩
      · obtain ⟨offset, same, place, found⟩ := ih mem
        exact ⟨offset + 1, same, by omega, found⟩

/-- The parser of an encoder emits what comes next of the access units produced. -/
theorem sound_emit {index : Nat} {run run' : EncoderRun} {units : List Units}
    (sound : Sound video) (found : video.runs[index]? = some run) (handled : video.outbox = [])
    (produced : run'.produced = run.produced) (same : run'.emitted = run.emitted)
    (sound' : EncoderRun.Sound { run' with emitted := run'.emitted + units.length })
    (inOrder : ∃ emitted, emitted.length = run.emitted ∧
      emitted ++ units <+: run.produced.map AccessUnit.content) :
    Sound (video.emit index run' units) := by
  obtain ⟨within, _⟩ := List.getElem?_eq_some_iff.mp found
  have grows : run.produced <+: run'.produced := by
    rw [produced]
  refine ⟨fun other encoder found' => ?_, fun emission mem => ?_, fun frame mem => ?_,
    fun other encoder found' => ?_, sound.kept⟩
  · by_cases here : index = other
    · subst here
      cases (getElem?_set_self within).symm.trans found'
      exact sound'
    · exact sound.runs other encoder ((getElem?_set_ne here).symm.trans found')
  · obtain ⟨offset, rfl, place, unit⟩ := mem_numbered mem
    obtain ⟨emitted, counted, more, all⟩ := inOrder
    have content : (run.produced.map AccessUnit.content)[emission.index]? = some emission.units := by
      rw [← all, place, same, ← counted, append_assoc, getElem?_append_right (by omega),
        Nat.add_sub_cancel_left]
      obtain ⟨inside, _⟩ := List.getElem?_eq_some_iff.mp unit
      rw [getElem?_append_left inside]
      exact unit
    rw [getElem?_map] at content
    obtain ⟨accessUnit, at', content⟩ := map_eq_some_iff.mp content
    refine ⟨accessUnit, ⟨_, getElem?_set_self within, ?_⟩, content.symm⟩
    change run'.produced[emission.index]? = some accessUnit
    rw [produced]
    exact at'
  · obtain ⟨unit, produced, content⟩ := sound.shown frame mem
    exact ⟨unit, produced.set found grows, content⟩
  · have before : video.places = video.submitted.map fun frame => (frame.run, frame.index) := by
      unfold places
      rw [handled]
      exact append_nil _
    have ordered := sound.ordered other
    rw [before] at ordered
    change ((video.submitted.map fun frame => (frame.run, frame.index)) ++
      (numbered index run'.emitted units).map fun emission =>
        (emission.run, emission.index)).filter _ = _
    rw [numbered_places, filter_append]
    by_cases here : index = other
    · subst here
      cases (getElem?_set_self within).symm.trans found'
      rw [ordered run found]
      have all : ((range' run'.emitted units.length).map fun place => (index, place)).filter
          (fun place => place.1 = index) =
          (range' run'.emitted units.length).map fun place => (index, place) := by
        refine filter_eq_self.mpr fun place mem => ?_
        obtain ⟨_, _, rfl⟩ := mem_map.mp mem
        exact decide_eq_true rfl
      rw [all, ← map_append, same, range_eq_range', range_eq_range']
      refine congrArg (List.map _) ?_
      have joined := @List.range'_append_1 0 run.emitted units.length
      rw [Nat.zero_add] at joined
      exact joined
    · have none' : ((range' run'.emitted units.length).map fun place => (index, place)).filter
          (fun place => place.1 = other) = [] := by
        refine filter_eq_nil_iff.mpr fun place mem same => ?_
        obtain ⟨_, _, rfl⟩ := mem_map.mp mem
        exact here (of_decide_eq_true same)
      rw [none', append_nil]
      exact ordered encoder ((getElem?_set_ne here).symm.trans found')

/-! ## Submitting -/

theorem frameRecord_spec {run index timestamp : Nat} {units : Units} {frame : VideoFrame}
    (made : frameRecord config run index timestamp units = some frame) :
    frame.run = run ∧ frame.index = index ∧ frame.keyframe = units.keyframe ∧
      frame.avcc = avccFromNalUnits units := by
  unfold frameRecord at made
  dsimp only at made
  split at made
  · cases made
  · split at made
    · cases made
    · cases made
      exact ⟨rfl, rfl, rfl, rfl⟩

/-- Two frames of a run that stand side by side are consecutive there. -/
theorem consecutive {front rest : List (Nat × Nat)} {run last index count : Nat}
    (ordered : (front ++ (run, last) :: (run, index) :: rest).filter (fun place => place.1 = run) =
      (range count).map fun index => (run, index)) : last + 1 = index := by
  have here (place : Nat) (more : List (Nat × Nat)) :
      ((run, place) :: more).filter (fun place => place.1 = run) =
        (run, place) :: more.filter fun place => place.1 = run :=
    filter_cons_of_pos (decide_eq_true rfl)
  rw [filter_append, here, here] at ordered
  have numbered {at' place : Nat}
      (found : ((range count).map fun index => (run, index))[at']? = some (run, place)) :
      at' = place := by
    rw [getElem?_map] at found
    obtain ⟨other, ranged, same⟩ := map_eq_some_iff.mp found
    cases same
    obtain ⟨within, same⟩ := List.getElem?_eq_some_iff.mp ranged
    rw [getElem_range] at same
    exact same
  have first : (front.filter fun place => place.1 = run).length = last := by
    refine numbered ?_
    rw [← ordered, getElem?_append_right (Nat.le_refl _), Nat.sub_self]
    rfl
  have second : (front.filter fun place => place.1 = run).length + 1 = index := by
    refine numbered ?_
    rw [← ordered, getElem?_append_right (Nat.le_add_right _ 1), Nat.add_sub_cancel_left]
    rfl
  rw [← first]
  exact second

theorem sound_submits {timestamp : Nat} (sound : Sound video)
    (flows : Flows video (.submits timestamp))
    (step : video.submits config timestamp = some video') : Sound video' := by
  unfold submits at step
  split at step
  · cases step
  · rename_i emission outbox waits
    obtain ⟨frame, made, rfl⟩ := map_eq_some_iff.mp step
    obtain ⟨run, index, keyframe, avcc⟩ := frameRecord_spec made
    have mem : emission ∈ video.outbox := by
      rw [waits]
      exact mem_cons_self
    have same : video.places =
        video.submitted.map (fun frame => (frame.run, frame.index)) ++
          (emission.run, emission.index) ::
            outbox.map fun emission => (emission.run, emission.index) := by
      unfold places
      rw [waits]
      rfl
    unfold Flows LinuxVideo.flows at flows
    dsimp only at flows
    rw [waits] at flows
    dsimp only at flows
    refine ⟨sound.runs, fun other mem' => ?_, fun other mem' => ?_, ?_, ?_⟩
    · refine sound.emitted other ?_
      rw [waits]
      exact mem_cons_of_mem _ mem'
    · rcases mem_append.mp mem' with mem' | mem'
      · exact sound.shown other mem'
      · cases mem_singleton.mp mem'
        obtain ⟨unit, produced, content⟩ := sound.emitted emission mem
        rw [content] at keyframe avcc
        refine ⟨unit, ?_, avcc, keyframe⟩
        rw [run, index]
        exact produced
    · have still : places { video with
          outbox, submitted := video.submitted ++ [frame],
          writer := video.writer.submitRecord config.highWaterMark (.frame frame) } =
          video.places := by
        rw [same]
        unfold places
        rw [map_append, append_assoc, map_singleton, run, index]
        rfl
      rw [still]
      exact sound.ordered
    · by_cases key : emission.units.keyframe = true
      · rw [if_pos key] at flows
        refine LatestFrameWriter.kept_submit sound.kept (.inl (keyframe.trans key)) ?_
        rcases (Bool.or_eq_true _ _).mp flows with free | blocked
        · exact .inl (isNone_iff_eq_none.mp free)
        · exact .inr ⟨keyframe.trans key, blocked⟩
      · rw [if_neg key] at flows
        obtain ⟨free, recent⟩ := (Bool.and_eq_true _ _).mp flows
        refine LatestFrameWriter.kept_submit sound.kept (.inr ?_)
          (.inl (isNone_iff_eq_none.mp free))
        obtain ⟨last, found, ofRun⟩ := (any_eq_true _ _).mp recent
        have ofRun : last.run = emission.run := eq_of_beq ofRun
        refine ⟨last, found, ofRun.trans run.symm, ?_⟩
        obtain ⟨before, whole⟩ := getLast?_eq_some_iff.mp found
        obtain ⟨_, ⟨encoder, living, _⟩, _⟩ := sound.emitted emission mem
        have ordered := sound.ordered emission.run encoder living
        rw [same, whole, map_append, append_assoc, map_singleton, ofRun] at ordered
        rw [index]
        exact consecutive ordered

/-! ## Steps -/

/-- Sound but for the writer, which has the same frames. -/
theorem sound_writer {writer : LatestFrameWriter} (sound : Sound video)
    (same : writer.queue = video.writer.queue) : Sound { video with writer } :=
  ⟨sound.runs, sound.emitted, sound.shown, sound.ordered, by
    change KeptFrames video.submitted writer.queue
    rw [same]
    exact sound.kept⟩

theorem turn_sound {event : VideoEvent} (step : video.turn config event = some video')
    (handled : video.outbox = []) (flows : Flows video event) (sound : Sound video) :
    Sound video' := by
  cases event with
  | start =>
      change (if _ then _ else _) = some video' at step
      split at step
      · cases step
        exact sound_spawnEncoder sound
      · cases step
  | requestIDR =>
      cases step
      split
      · exact sound
      · exact sound.of_same rfl rfl rfl rfl
  | restarts =>
      change (if _ then _ else _) = some video' at step
      split at step
      · cases step
        unfold restart
        split
        · exact sound.of_same rfl rfl rfl rfl
        · split
          · exact sound.of_same rfl rfl rfl rfl
          · exact sound_spawnEncoder (sound.of_same rfl rfl rfl rfl)
      · cases step
  | restarted =>
      change (if _ then _ else _) = some video' at step
      split at step
      · cases step
      · cases step
        unfold restarted
        split
        · exact sound.of_same rfl rfl rfl rfl
        · exact sound_spawnEncoder (sound.of_same rfl rfl rfl rfl)
  | stop =>
      cases step
      exact sound.of_same rfl rfl rfl rfl
  | encodes index unit =>
      obtain ⟨run, found, step⟩ := bind_eq_some_iff.mp step
      split at step
      · rename_i met
        cases step
        refine sound_setRun sound found (prefix_append _ _) rfl ?_
        exact EncoderRun.sound_encodes (sound.runs index run found) met.1 unit
      · cases step
  | exits index cut =>
      obtain ⟨run, found, step⟩ := bind_eq_some_iff.mp step
      have encoder := sound.runs index run found
      split at step
      · cases step
      · rename_i running
        have running : run.exited = false := eq_false_of_ne_true running
        split at step
        · cases step
          refine sound_setRun sound found prefix_rfl rfl ?_
          exact ⟨encoder.stream, fun no => (by cases no), encoder.parsed⟩
        · split at step
          · cases step
            refine sound_setRun sound found prefix_rfl rfl ?_
            exact EncoderRun.sound_cut encoder running _ _
          · cases step
  | data index count =>
      obtain ⟨run, found, step⟩ := bind_eq_some_iff.mp step
      split at step
      · cases step
      · rename_i met
        have living : run.ended = false := eq_false_of_ne_true fun ended => met (.inl ended)
        obtain ⟨⟨parser, units⟩, pushed, rfl⟩ := map_eq_some_iff.mp step
        obtain ⟨encoder, inOrder⟩ :=
          EncoderRun.sound_data (sound.runs index run found) living pushed
        exact sound_emit sound found handled rfl rfl encoder inOrder
  | ends index =>
      obtain ⟨run, found, step⟩ := bind_eq_some_iff.mp step
      split at step
      · rename_i met
        obtain ⟨⟨parser, units⟩, finished, rfl⟩ := map_eq_some_iff.mp step
        have whole : run.cut = none := by
          have flows : ((video.runs[index]?).all fun run => run.cut.isNone) = true := flows
          rw [found] at flows
          exact isNone_iff_eq_none.mp flows
        obtain ⟨encoder, inOrder⟩ :=
          EncoderRun.sound_ends (sound.runs index run found) met.1 whole met.2.2 finished
        exact sound_emit sound found handled rfl rfl encoder inOrder
      · cases step
  | submits timestamp => cases step
  | editable editable =>
      cases step
      exact sound_writer sound (LatestFrameWriter.queue_editable _)
  | flushes count =>
      cases step
      exact sound_writer sound rfl
  | drains =>
      change (if _ then _ else _) = some video' at step
      split at step
      · cases step
        exact sound_writer sound LatestFrameWriter.queue_drain
      · cases step

theorem step_sound {event : VideoEvent} (step : Step config video event video')
    (flows : Flows video event) (sound : Sound video) : Sound video' := by
  change next config video event = some video' at step
  unfold next at step
  split at step
  · exact sound_submits sound flows step
  · split at step
    · rename_i handled
      exact turn_sound step handled flows sound
    · cases step

/-- When the frames flow, each one written holds a whole access unit, and is a key frame or stands
directly behind the frame before it in its run, with nothing submitted in between. -/
theorem run_chained {events : List VideoEvent} {last : LinuxVideo}
    (run : Run (Guarded (Step config) Flows) initial events last) :
    (∀ frame ∈ HostRecord.frames last.writer.written, Whole last.runs frame) ∧
    Chained (fun frame => frame.keyframe = true) VideoFrame.follows last.submitted
      (HostRecord.frames last.writer.written) := by
  have sound : Sound last :=
    run.invariant (fun step sound => step_sound step.1 step.2 sound) initial_sound
  have chained := sound.kept.line_chained (prefix_append _ _)
  exact ⟨fun frame mem => sound.shown frame (sound.kept.among (mem_append_left _ mem)),
    chained⟩

end LinuxVideo

end ExecutionHandoff.Host
