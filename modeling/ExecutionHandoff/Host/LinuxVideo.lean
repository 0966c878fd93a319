import ExecutionHandoff.Host.AnnexB
import ExecutionHandoff.Library.Runs

/-!
# Video of the Linux host

`LinuxCapture` runs one encoder at a time and starts a new one for each request
of an IDR; the parser of each encoder hands its access units to the one
`LatestFrameWriter`.  A frame carries which encoder run it is from and its
number there.  The encoder is `ffmpeg` with an AUD before every access unit,
and starts with a key frame.  `stdout` is a stream with a high-water mark.
-/

namespace ExecutionHandoff.Host

open Library

/-- `writeUInt32BE`. -/
def uint32BE (value : Nat) : List UInt8 :=
  [(value / 2 ^ 24).toUInt8, (value / 2 ^ 16).toUInt8, (value / 2 ^ 8).toUInt8, value.toUInt8]

def avccFromNalUnits (units : Units) : List UInt8 :=
  (units.map fun unit => uint32BE unit.length ++ unit).flatten

structure VideoFrame where
  run : Nat
  index : Nat
  timestamp : Nat
  keyframe : Bool
  width : Nat
  height : Nat
  avcc : List UInt8
  deriving DecidableEq

/-- One record on stdout. -/
inductive HostRecord where
  | frame (frame : VideoFrame)
  | editable (editable : Bool)
  deriving DecidableEq

namespace HostRecord

def byteLength : HostRecord → Nat
  | .frame shown => 14 + shown.avcc.length
  | .editable _ => 6

def frames (records : List HostRecord) : List VideoFrame :=
  records.filterMap fun
    | .frame shown => some shown
    | .editable _ => none

end HostRecord

structure VideoConfig where
  width : Nat
  height : Nat
  highWaterMark : Nat

/-- `frameRecord`, which throws on a frame or metadata out of bounds. -/
def frameRecord (config : VideoConfig) (run index timestamp : Nat) (units : Units) :
    Option VideoFrame :=
  let avcc := avccFromNalUnits units
  if avcc.length < 1 ∨ maxHostFrameBytes - 9 < avcc.length then none
  else if config.width < 1 ∨ 65535 < config.width ∨ config.height < 1 ∨ 65535 < config.height then
    none
  else
    some ⟨run, index, timestamp % 2 ^ 32, units.keyframe, config.width, config.height, avcc⟩

/-! ## The writer -/

/-- `written` is what was handed to stdout, of which `buffered` bytes have not gone out yet. -/
structure LatestFrameWriter where
  blocked : Bool
  latestFrame : Option VideoFrame
  latestControl : Option Bool
  buffered : Nat
  needDrain : Bool
  written : List HostRecord
  deriving DecidableEq

namespace LatestFrameWriter

def initial : LatestFrameWriter := ⟨false, none, none, 0, false, []⟩

variable (highWaterMark : Nat) (writer : LatestFrameWriter)

/-- `process.stdout.write`, which asks for a wait when the buffer is full. -/
def write (record : HostRecord) : LatestFrameWriter :=
  let buffered := writer.buffered + record.byteLength
  let full := decide (highWaterMark ≤ buffered)
  { writer with
    blocked := writer.blocked || full
    buffered
    needDrain := writer.needDrain || full
    written := writer.written ++ [record] }

def submitRecord : HostRecord → LatestFrameWriter
  | .frame frame =>
      if writer.blocked then { writer with latestFrame := some frame }
      else writer.write highWaterMark (.frame frame)
  | .editable editable =>
      if writer.blocked then { writer with latestControl := some editable }
      else writer.write highWaterMark (.editable editable)

def drain : LatestFrameWriter :=
  match writer.latestControl, writer.latestFrame with
  | some editable, _ =>
      { writer with blocked := false, latestControl := none }.submitRecord highWaterMark
        (.editable editable)
  | none, some frame =>
      { writer with blocked := false, latestFrame := none }.submitRecord highWaterMark
        (.frame frame)
  | none, none => { writer with blocked := false }

end LatestFrameWriter

/-! ## The encoders -/

/-- `produced` are the access units an encoder has written whole; one that dies within a unit has
`cut` it after that many bytes.  What it wrote has been read and `fed` to its parser, or is still in
the `pipe`. -/
structure EncoderRun where
  produced : List AccessUnit
  cut : Option (AccessUnit × Nat)
  exited : Bool
  ended : Bool
  fed : List UInt8
  pipe : List UInt8
  parser : AnnexBAccessUnitParser
  emitted : Nat
  deriving DecidableEq

def EncoderRun.initial : EncoderRun := ⟨[], none, false, false, [], [], .initial, 0⟩

/-- An access unit that a parser has emitted, with its run and its number. -/
structure Emission where
  run : Nat
  index : Nat
  units : Units
  deriving DecidableEq

/-- `restarts` are the callbacks that wait on `restartPromise`, `restarting` is the encoder that the
current one waits for; `outbox` are the emissions of the chunk that is being handled. -/
structure LinuxVideo where
  runs : List EncoderRun
  child : Option Nat
  restarts : Nat
  restarting : Option Nat
  stopping : Bool
  outbox : List Emission
  submitted : List VideoFrame
  writer : LatestFrameWriter
  deriving DecidableEq

inductive VideoEvent where
  | start
  | requestIDR
  /-- The next callback on `restartPromise` is run. -/
  | restarts
  /-- The encoder has exited, or it was waited for long enough. -/
  | restarted
  | stop
  | encodes (run : Nat) (unit : AccessUnit)
  | exits (run : Nat) (cut : Option (AccessUnit × Nat))
  /-- So many bytes of the pipe arrive. -/
  | data (run count : Nat)
  | ends (run : Nat)
  | submits (timestamp : Nat)
  | editable (editable : Bool)
  /-- So many bytes of stdout go out. -/
  | flushes (count : Nat)
  | drains
  deriving DecidableEq

namespace LinuxVideo

def initial : LinuxVideo := ⟨[], none, 0, none, false, [], [], .initial⟩

variable (config : VideoConfig) (video : LinuxVideo)

def setRun (index : Nat) (run : EncoderRun) : LinuxVideo :=
  { video with runs := video.runs.set index run }

def spawnEncoder : LinuxVideo :=
  { video with runs := video.runs ++ [.initial], child := some video.runs.length }

/-- The encoder that `child` names and that has not exited. -/
def running : Option Nat :=
  video.child.filter fun child => (video.runs[child]?).any fun run => run.exited = false

def restart : LinuxVideo :=
  match video.running with
  | some child =>
      { video with restarts := video.restarts - 1, child := none, restarting := some child }
  | none =>
      if video.stopping then { video with restarts := video.restarts - 1 }
      else { video with restarts := video.restarts - 1 }.spawnEncoder

def restarted : LinuxVideo :=
  if video.stopping then { video with restarting := none }
  else { video with restarting := none }.spawnEncoder

def numbered (run : Nat) : Nat → List Units → List Emission
  | _, [] => []
  | index, units :: rest => ⟨run, index, units⟩ :: numbered run (index + 1) rest

/-- The parser has handled a chunk or the end of its run. -/
def emit (index : Nat) (run : EncoderRun) (units : List Units) : LinuxVideo :=
  { video.setRun index { run with emitted := run.emitted + units.length } with
    outbox := numbered index run.emitted units }

def encodes (index : Nat) (unit : AccessUnit) : Option LinuxVideo :=
  (video.runs[index]?).bind fun run =>
    if run.exited = false ∧ (run.produced = [] → unit.content.keyframe) then
      some (video.setRun index
        { run with produced := run.produced ++ [unit], pipe := run.pipe ++ unit.write })
    else
      none

def exits (index : Nat) (cut : Option (AccessUnit × Nat)) : Option LinuxVideo :=
  (video.runs[index]?).bind fun run =>
    if run.exited then none
    else
      match cut with
      | none => some (video.setRun index { run with exited := true })
      | some (unit, count) =>
          if 0 < count ∧ count < unit.write.length then
            some (video.setRun index
              { run with exited := true, cut, pipe := run.pipe ++ unit.write.take count })
          else
            none

def data (index count : Nat) : Option LinuxVideo :=
  (video.runs[index]?).bind fun run =>
    if run.ended ∨ run.pipe.length < count then none
    else
      (run.parser.push (run.pipe.take count)).map fun (parser, units) =>
        video.emit index
          { run with fed := run.fed ++ run.pipe.take count, pipe := run.pipe.drop count, parser }
          units

def ends (index : Nat) : Option LinuxVideo :=
  (video.runs[index]?).bind fun run =>
    if run.ended = false ∧ run.exited ∧ run.pipe = [] then
      run.parser.finish.map fun (parser, units) =>
        video.emit index { run with ended := true, parser } units
    else
      none

/-- The handler of an emission submits its record. -/
def submits (timestamp : Nat) : Option LinuxVideo :=
  match video.outbox with
  | [] => none
  | emission :: outbox =>
      (frameRecord config emission.run emission.index timestamp emission.units).map fun frame =>
        { video with
          outbox
          submitted := video.submitted ++ [frame]
          writer := video.writer.submitRecord config.highWaterMark (.frame frame) }

def drains : Option LinuxVideo :=
  if video.writer.needDrain ∧ video.writer.buffered = 0 then
    some
      { video with
        writer := { video.writer with needDrain := false }.drain config.highWaterMark }
  else
    none

/-- What can happen once a chunk has been handled. -/
def turn : VideoEvent → Option LinuxVideo
  | .start => if video.runs = [] then some video.spawnEncoder else none
  | .requestIDR =>
      some (if video.stopping then video else { video with restarts := video.restarts + 1 })
  | .restarts =>
      if 0 < video.restarts ∧ video.restarting = none then some video.restart else none
  | .restarted => if video.restarting = none then none else some video.restarted
  | .stop => some { video with stopping := true }
  | .encodes index unit => video.encodes index unit
  | .exits index cut => video.exits index cut
  | .data index count => video.data index count
  | .ends index => video.ends index
  | .submits _ => none
  | .editable editable =>
      some
        { video with
          writer := video.writer.submitRecord config.highWaterMark (.editable editable) }
  | .flushes count =>
      some { video with writer := { video.writer with buffered := video.writer.buffered - count } }
  | .drains => video.drains config

def next (event : VideoEvent) : Option LinuxVideo :=
  match event with
  | .submits timestamp => video.submits config timestamp
  | event => if video.outbox = [] then video.turn config event else none

abbrev Step : LinuxVideo → VideoEvent → LinuxVideo → Prop := StepOf (next config)

end LinuxVideo

end ExecutionHandoff.Host
