import ExecutionHandoff.Host.MacVideo

/-!
# The frames that the hosts write

Neither writer knows which frames depend on which: a frame that waits gives way
to the next one, whatever that is.
-/

namespace ExecutionHandoff.Host

open Library

/-- When the frames flow, each one that a host writes holds a whole access unit, and is a key frame
or stands directly behind the frame before it in its run, with nothing submitted in between. -/
theorem hosts_chained (config : VideoConfig) :
    (∀ events last, Run (Guarded (LinuxVideo.Step config) LinuxVideo.Flows) .initial events last →
      (∀ frame ∈ HostRecord.frames last.writer.written, LinuxVideo.Whole last.runs frame) ∧
      Chained (fun frame => frame.keyframe = true) VideoFrame.follows last.submitted
        (HostRecord.frames last.writer.written)) ∧
    ∀ events last, Run (Guarded (MacVideo.Step config) (MacVideo.Flows config)) .initial events
        last →
      (∀ frame ∈ HostRecord.frames last.written, MacVideo.Whole last.produced frame) ∧
      Chained (fun frame => frame.keyframe = true) VideoFrame.follows last.submitted
        (HostRecord.frames last.written) :=
  ⟨fun _ _ run => LinuxVideo.run_chained run, fun _ _ run => MacVideo.run_chained run⟩

/-! ## Sample frames -/

/-- Records of a frame fill the buffer, those of a focus do not. -/
def sampleVideo : VideoConfig := ⟨640, 480, 16⟩

/-- One unit of this type. -/
def sampleUnit (type : UInt8) (plain : nalType [type, 7] ≠ 9)
    (clean : StartedUnit.Clean ⟨false, [type, 7]⟩) : AccessUnit where
  delimiter := ⟨true, [9, 16]⟩
  units := [⟨false, [type, 7]⟩]
  cleanDelimiter := by decide
  delimits := by decide
  cleanUnits := by
    intro unit mem
    cases List.mem_singleton.mp mem
    exact ⟨clean, List.cons_ne_nil _ _, plain⟩
  some' := List.cons_ne_nil _ _

def sampleKey : AccessUnit := sampleUnit 5 (by decide) (by decide)

def sampleDelta : AccessUnit := sampleUnit 1 (by decide) (by decide)

def sampleSample (keyframe : Bool) : EncodedSample :=
  ⟨true, keyframe, 1, if keyframe then [[7], [8]] else [], [1, 5], 0⟩

/-- The state that a list of events leads to. -/
def reached {σ ε : Type} (next : σ → ε → Option σ) (initial : σ) (events : List ε) : σ :=
  (execute next initial events).getD initial

/-- The key frame has gone out when the delta frame comes, at the end of the run. -/
def sampleFlow : List VideoEvent :=
  [.start, .encodes 0 sampleKey, .encodes 0 sampleDelta, .data 0 22, .submits 0, .exits 0 none,
    .flushes 20, .drains, .ends 0, .submits 3000]

def sampleMacFlow : List MacVideoEvent :=
  [.encoded (sampleSample true) true, .encoded (sampleSample false) true, .writes, .writes]

theorem sampleFlow_chained :
    (let last := reached (LinuxVideo.next sampleVideo) .initial sampleFlow
    (HostRecord.frames last.writer.written).length = 2 ∧
    (∀ frame ∈ HostRecord.frames last.writer.written, LinuxVideo.Whole last.runs frame) ∧
    Chained (fun frame => frame.keyframe = true) VideoFrame.follows last.submitted
      (HostRecord.frames last.writer.written)) ∧
    let last := reached (MacVideo.next sampleVideo) .initial sampleMacFlow
    (HostRecord.frames last.written).length = 2 ∧
    (∀ frame ∈ HostRecord.frames last.written, MacVideo.Whole last.produced frame) ∧
    Chained (fun frame => frame.keyframe = true) VideoFrame.follows last.submitted
      (HostRecord.frames last.written) :=
  ⟨⟨by decide +kernel, (hosts_chained sampleVideo).1 sampleFlow _
      (run_guarded_of_execute (by decide +kernel))⟩,
    ⟨by decide +kernel, (hosts_chained sampleVideo).2 sampleMacFlow _
      (run_guarded_of_execute (by decide +kernel))⟩⟩

/-- Two delta frames come while the key frame goes out. -/
def sampleOverwrite : List VideoEvent :=
  [.start, .encodes 0 sampleKey, .encodes 0 sampleDelta, .encodes 0 sampleDelta,
    .encodes 0 sampleDelta, .data 0 44, .submits 0, .submits 3000, .submits 6000, .flushes 20,
    .drains]

def sampleMacOverwrite : List MacVideoEvent :=
  [.encoded (sampleSample true) true, .encoded (sampleSample false) true,
    .encoded (sampleSample false) true, .writes, .writes]

/-- The second delta frame is written directly behind the key frame, without the first. -/
theorem sampleOverwrite_unchained :
    (Run (LinuxVideo.Step sampleVideo) .initial sampleOverwrite
      (reached (LinuxVideo.next sampleVideo) .initial sampleOverwrite) ∧
    ((HostRecord.frames
      (reached (LinuxVideo.next sampleVideo) .initial sampleOverwrite).writer.written).map
        fun frame => (frame.run, frame.index, frame.keyframe)) = [(0, 0, true), (0, 2, false)]) ∧
    Run (MacVideo.Step sampleVideo) .initial sampleMacOverwrite
      (reached (MacVideo.next sampleVideo) .initial sampleMacOverwrite) ∧
    ((HostRecord.frames
      (reached (MacVideo.next sampleVideo) .initial sampleMacOverwrite).written).map
        fun frame => (frame.run, frame.index, frame.keyframe)) = [(0, 0, true), (0, 2, false)] :=
  ⟨⟨(run_iff_execute _ _ _ _).mpr (by decide +kernel), by decide +kernel⟩,
    (run_iff_execute _ _ _ _).mpr (by decide +kernel), by decide +kernel⟩

end ExecutionHandoff.Host
