import ExecutionHandoff.WebRtc.VideoQueue

/-!
# Requests for key frames

What `SpawnedWebRtcRuntimeProvider` does about `awaitingVideoKeyframe`: whoever
sets the flag on a connection calls `requestIdr`, which is limited in time, and
`writeHostCommand`, which is limited by what the host has not read yet.  The log
keeps each setting of the flag and each request that is written.
-/

namespace ExecutionHandoff.WebRtc

open Library

def maxDataChannelMessageBytes : Nat := 4 * 1024

def maxHostRealtimeBufferBytes : Nat := 4 * 1024

/-- `JSON.stringify({ kind: "requestIDR" })` with its line feed, in bytes. -/
def requestIdrBytes : Nat := "\x7b\"kind\":\"requestIDR\"\x7d".utf8ByteSize + 1

/-- `runtime.host.stdin`: there is one, and it is neither destroyed nor ended. -/
structure HostStdin where
  writable : Bool
  writableLength : Nat
  deriving DecidableEq

inductive KeyframeFact where
  /-- `awaitingVideoKeyframe` was set. -/
  | awaiting
  /-- A request was written to the host. -/
  | requested
  deriving DecidableEq

/-- A runtime with what decides on its requests. -/
structure RequestingRuntime where
  queue : VideoQueue
  lastIdrRequestAt : Int
  stdin : HostStdin
  /-- Newest first. -/
  log : List KeyframeFact
  deriving DecidableEq

/-- What happens, with the clock where it is read. -/
inductive RequestEvent where
  | video (now : Int) (event : VideoEvent)
  | pictureLoss (now : Int)
  /-- The host reads its input, something else is written to it, or it closes. -/
  | stdin (stdin : HostStdin)
  deriving DecidableEq

namespace RequestingRuntime

/-- A runtime as `start` registers it. -/
def initial : RequestingRuntime := ⟨VideoQueue.initial, 0, ⟨true, 0⟩, []⟩

variable (now : Int) (runtime : RequestingRuntime)

def withQueue (queue : VideoQueue) : RequestingRuntime := { runtime with queue }

/-- The flag is set. -/
def await (queue : VideoQueue) : RequestingRuntime :=
  { runtime with
    queue := { queue with awaitingVideoKeyframe := true }
    log := .awaiting :: runtime.log }

/-- `writeHostCommand` of the request. -/
def writeHostCommand : RequestingRuntime :=
  if runtime.stdin.writable = false then runtime
  else if maxDataChannelMessageBytes < requestIdrBytes ∨
      maxHostRealtimeBufferBytes < runtime.stdin.writableLength + requestIdrBytes then runtime
  else
    { runtime with
      stdin := { runtime.stdin with
        writableLength := runtime.stdin.writableLength + requestIdrBytes }
      log := .requested :: runtime.log }

def requestIdr : RequestingRuntime :=
  if runtime.queue.closing ∨ now - runtime.lastIdrRequestAt < 250 then runtime
  else { runtime with lastIdrRequestAt := now }.writeHostCommand

def enqueueConnectedFrame (frame : EncodedHostFrame) : RequestingRuntime :=
  let queue := runtime.queue
  if queue.closing ∨ queue.connected = false ∨ queue.sender = none then runtime
  else if queue.awaitingVideoKeyframe then
    if frame.keyframe then
      runtime.withQueue ({ queue with awaitingVideoKeyframe := false }.fill frame)
    else runtime
  else
    match queue.pendingFrame with
    | none => runtime.withQueue (queue.fill frame)
    | some pending =>
        if pending.keyframe then
          if frame.keyframe then runtime.withQueue (queue.fill frame) else runtime
        else
          let dropped := (runtime.await { queue with pendingFrame := none }).requestIdr now
          if frame.keyframe then
            dropped.withQueue ({ dropped.queue with awaitingVideoKeyframe := false }.fill frame)
          else dropped

def writeFrame (frame : EncodedHostFrame) : RequestingRuntime :=
  let queue := runtime.queue
  if queue.closing then runtime
  else if queue.suspended ∨ queue.connected = false ∨ queue.sender = none then
    if frame.keyframe then runtime.withQueue { queue with preconnectKeyframe := some frame }
    else runtime
  else
    runtime.enqueueConnectedFrame now frame

def deliver (keyframe : Bool) : RequestingRuntime :=
  let queue := runtime.queue
  let frame : EncodedHostFrame := ⟨queue.delivered.length, keyframe⟩
  (runtime.withQueue { queue with delivered := queue.delivered ++ [frame] }).writeFrame now frame

/-- The handler of the state `connected`. -/
def connect : RequestingRuntime :=
  let queue := { runtime.queue with connected := true, preconnectKeyframe := none }
  match runtime.queue.preconnectKeyframe with
  | some keyframe =>
      if queue.sender.isSome then (runtime.withQueue queue).enqueueConnectedFrame now keyframe
      else (runtime.await queue).requestIdr now
  | none => (runtime.await queue).requestIdr now

def suspend : RequestingRuntime :=
  if runtime.queue.closing ∨ runtime.queue.suspended then runtime
  else runtime.await runtime.queue.suspend

def resumeSuspended : RequestingRuntime :=
  { runtime with lastIdrRequestAt := 0 }.await runtime.queue.resumeSuspended

def nextVideo : VideoEvent → Option RequestingRuntime
  | .frame keyframe => some (runtime.deliver now keyframe)
  | .connectionState true => some (runtime.connect now)
  | .suspend => some runtime.suspend
  | .resume => if runtime.queue.suspended then some runtime.resumeSuspended else none
  -- The flag is not touched, and nothing is asked for.
  | event => (runtime.queue.next event).map runtime.withQueue

def next : RequestEvent → Option RequestingRuntime
  | .video now event => runtime.nextVideo now event
  | .pictureLoss now => some (runtime.requestIdr now)
  -- What was closed is not opened again.
  | .stdin stdin =>
      if stdin.writable → runtime.stdin.writable then some { runtime with stdin } else none

abbrev Step : RequestingRuntime → RequestEvent → RequestingRuntime → Prop := StepOf next

variable {now : Int} {runtime after : RequestingRuntime}

/-! ## The queue of the runtime -/

@[simp] theorem writeHostCommand_queue : runtime.writeHostCommand.queue = runtime.queue := by
  unfold writeHostCommand
  split
  · rfl
  · split
    · rfl
    · rfl

@[simp] theorem requestIdr_queue : (runtime.requestIdr now).queue = runtime.queue := by
  unfold requestIdr
  split
  · rfl
  · exact writeHostCommand_queue

theorem enqueueConnectedFrame_queue (frame : EncodedHostFrame) :
    (runtime.enqueueConnectedFrame now frame).queue = runtime.queue.enqueueConnectedFrame frame := by
  unfold enqueueConnectedFrame VideoQueue.enqueueConnectedFrame
  dsimp only
  split
  · rfl
  · split
    · split
      · rfl
      · rfl
    · rename_i flowing
      cases runtime.queue.pendingFrame with
      | none => rfl
      | some pending =>
          dsimp only
          split
          · split
            · rfl
            · rfl
          · split
            · -- The flag is set and cleared again, in front of the same frame.
              unfold withQueue
              dsimp only
              rw [requestIdr_queue]
              have same : runtime.queue.awaitingVideoKeyframe = false :=
                Bool.eq_false_iff.mpr flowing
              unfold VideoQueue.fill await
              dsimp only
              rw [same]
            · exact requestIdr_queue

theorem writeFrame_queue (frame : EncodedHostFrame) :
    (runtime.writeFrame now frame).queue = runtime.queue.writeFrame frame := by
  unfold writeFrame VideoQueue.writeFrame
  dsimp only
  split
  · rfl
  · split
    · split
      · rfl
      · rfl
    · exact enqueueConnectedFrame_queue frame

theorem deliver_queue (keyframe : Bool) :
    (runtime.deliver now keyframe).queue = runtime.queue.deliver keyframe := by
  unfold deliver
  exact writeFrame_queue _

theorem connect_queue : (runtime.connect now).queue = runtime.queue.connect := by
  unfold connect VideoQueue.connect
  dsimp only
  cases runtime.queue.preconnectKeyframe with
  | some keyframe =>
      dsimp only
      split
      · exact enqueueConnectedFrame_queue keyframe
      · exact requestIdr_queue
  | none => exact requestIdr_queue

theorem suspend_queue : runtime.suspend.queue = runtime.queue.suspend := by
  unfold suspend
  split
  · rename_i shut
    unfold VideoQueue.suspend
    rw [if_pos shut]
  · rename_i live
    unfold VideoQueue.suspend await
    rw [if_neg live]

/-- The queue of the runtime is that of the frames alone. -/
theorem nextVideo_queue {event : VideoEvent} (step : runtime.nextVideo now event = some after) :
    VideoQueue.Step runtime.queue event after.queue := by
  have other : (runtime.queue.next event).map runtime.withQueue = some after →
      VideoQueue.Step runtime.queue event after.queue := by
    intro moved
    obtain ⟨queue, next, rfl⟩ := Option.map_eq_some_iff.mp moved
    exact next
  cases event with
  | frame keyframe =>
      cases step
      exact congrArg some (deliver_queue keyframe).symm
  | connectionState connected =>
      cases connected with
      | true =>
          cases step
          exact congrArg some connect_queue.symm
      | false => exact other step
  | suspend =>
      cases step
      exact congrArg some suspend_queue.symm
  | resume =>
      change (if _ then _ else _) = some after at step
      change (if _ then _ else _) = some after.queue
      split at step
      · rename_i suspended
        cases step
        rw [if_pos suspended]
        rfl
      · cases step
  | addTrack peer | endRuntime | sent | sendFailed => exact other step

/-- The video keeps flowing; requests and the stdin of the host may come at any time. -/
def Flows (runtime : RequestingRuntime) : RequestEvent → Prop
  | .video _ event => runtime.queue.Flows event
  | .pictureLoss _ | .stdin _ => True

/-- The requests for key frames leave the chain of the frames as it is: each frame handed to
`sendFrame` is a key frame or stands directly behind the one before it. -/
theorem run_followed {events : List RequestEvent} (run : Run (Guarded Step Flows) initial events after)
    (peer : Nat) :
    Chained (fun frame => frame.keyframe = true) EncodedHostFrame.follows after.queue.delivered
      (after.queue.line peer) := by
  have sound : after.queue.Sound := by
    refine @Run.invariant _ _ _ (fun runtime : RequestingRuntime => runtime.queue.Sound) _ _ _ run ?_
      VideoQueue.initial_sound
    rintro first event middle ⟨step, flows⟩ sound
    cases event with
    | video now event => exact VideoQueue.step_sound (nextVideo_queue step) flows sound
    | pictureLoss now =>
        cases step
        rwa [requestIdr_queue]
    | stdin stdin =>
        change (if _ then _ else _) = some middle at step
        split at step
        · cases step
          exact sound
        · cases step
  exact sound.ordered peer

instance flowsDecidable (runtime : RequestingRuntime) : (event : RequestEvent) →
    Decidable (runtime.Flows event)
  | .video _ event => VideoQueue.flowsDecidable runtime.queue event
  | .pictureLoss _ | .stdin _ => inferInstanceAs (Decidable True)

def sampleFlow : List RequestEvent :=
  [.video 500 (.addTrack 0), .video 800 (.connectionState true), .pictureLoss 900,
    .video 1000 (.frame true), .video 1040 (.frame false)]

theorem sampleFlow_followed : ∃ last, execute (permitted next Flows) initial sampleFlow = some last ∧
    Chained (fun frame => frame.keyframe = true) EncodedHostFrame.follows last.queue.delivered
      (last.queue.line 0) :=
  ⟨_, rfl, run_followed (@run_guarded_of_execute _ _ next Flows _ _ _ sampleFlow rfl) 0⟩

/-! ## When a request is written -/

/-- A request would be written now. -/
def Clear (now : Int) (runtime : RequestingRuntime) : Prop :=
  250 ≤ now - runtime.lastIdrRequestAt ∧
    runtime.stdin.writableLength + requestIdrBytes ≤ maxHostRealtimeBufferBytes

/-- The video of a live connection waits for a key frame. -/
def Frozen (queue : VideoQueue) : Prop :=
  queue.connected = true ∧ queue.suspended = false ∧ queue.closing = false ∧
    queue.awaitingVideoKeyframe = true

/-- If the video is frozen, a request was written since the flag was last set. -/
def Asked (runtime : RequestingRuntime) : Prop :=
  Frozen runtime.queue → runtime.stdin.writable = true → runtime.log.head? = some .requested

theorem writeHostCommand_stdin : runtime.writeHostCommand.stdin.writable = runtime.stdin.writable := by
  unfold writeHostCommand
  split
  · rfl
  · split
    · rfl
    · rfl

theorem requestIdr_stdin : (runtime.requestIdr now).stdin.writable = runtime.stdin.writable := by
  unfold requestIdr
  split
  · rfl
  · exact writeHostCommand_stdin

theorem writeHostCommand_log :
    runtime.writeHostCommand.log = runtime.log ∨
      runtime.writeHostCommand.log = .requested :: runtime.log := by
  unfold writeHostCommand
  split
  · exact .inl rfl
  · split
    · exact .inl rfl
    · exact .inr rfl

/-- A request is written or nothing is. -/
theorem requestIdr_log :
    (runtime.requestIdr now).log = runtime.log ∨
      (runtime.requestIdr now).log = .requested :: runtime.log := by
  unfold requestIdr
  split
  · exact .inl rfl
  · exact @writeHostCommand_log { runtime with lastIdrRequestAt := now }

/-- On a living runtime with writable input the request is written exactly if the throttle and the
buffer let it. -/
theorem requestIdr_log_iff (living : runtime.queue.closing = false)
    (writable : runtime.stdin.writable = true) (awaiting : runtime.log.head? = some .awaiting) :
    (runtime.requestIdr now).log.head? = some .requested ↔ runtime.Clear now := by
  unfold requestIdr
  split
  · rename_i shut
    constructor
    · intro asked
      cases awaiting.symm.trans asked
    · rintro ⟨late, _⟩
      rcases shut with closing | early
      · cases living.symm.trans closing
      · omega
  · rename_i free
    rw [not_or] at free
    have bytes : requestIdrBytes = 22 := by decide
    unfold writeHostCommand
    dsimp only
    rw [if_neg (by rw [writable]; exact Bool.noConfusion)]
    split
    · rename_i full
      constructor
      · intro asked
        cases awaiting.symm.trans asked
      · rintro ⟨_, room⟩
        rcases full with large | full
        · rw [bytes] at large
          exact absurd large (by decide)
        · omega
    · rename_i room
      rw [not_or] at room
      exact iff_of_true rfl ⟨by omega, by omega⟩

/-- The steps that leave the flag set on a live connection: a delta frame supersedes another one in
the slot, or the connection has no key frame kept for it. -/
def Freezes (queue : VideoQueue) : VideoEvent → Prop
  | .frame false => queue.Open ∧ queue.sender ≠ none ∧
      ∃ pending, queue.pendingFrame = some pending ∧ pending.keyframe = false
  | .connectionState true => queue.closing = false ∧ queue.suspended = false ∧
      (queue.preconnectKeyframe = none ∨ queue.sender = none)
  | _ => False

/-- Such a step comes when a request can be written. -/
def Timely (runtime : RequestingRuntime) : RequestEvent → Prop
  | .video now event =>
      Freezes runtime.queue event → runtime.stdin.writable = true → runtime.Clear now
  | _ => True

/-- What is frozen was frozen before, and nothing but a request was done about it. -/
structure Calm (runtime after : RequestingRuntime) : Prop where
  frozen : Frozen after.queue → Frozen runtime.queue
  writable : after.stdin.writable = true → runtime.stdin.writable = true
  log : Frozen after.queue → after.log = runtime.log ∨ after.log.head? = some .requested

theorem Calm.asked (calm : Calm runtime after) (asked : Asked runtime) : Asked after := by
  intro frozen writable
  rcases calm.log frozen with same | requested
  · rw [same]
    exact asked (calm.frozen frozen) (calm.writable writable)
  · exact requested

theorem Calm.of_thawed (thawed : ¬ Frozen after.queue)
    (stdin : after.stdin.writable = runtime.stdin.writable) : Calm runtime after :=
  ⟨fun frozen => absurd frozen thawed, fun writable => stdin.symm.trans writable,
    fun frozen => absurd frozen thawed⟩

theorem calm_requestIdr : Calm runtime (runtime.requestIdr now) where
  frozen frozen := @requestIdr_queue now runtime ▸ frozen
  writable writable := requestIdr_stdin.symm.trans writable
  log _ := by
    rcases @requestIdr_log now runtime with same | requested
    · exact .inl same
    · rw [requested]
      exact .inr rfl

/-- Setting the flag of a live connection asks for a key frame exactly if that is timely. -/
theorem await_asked_iff {queue : VideoQueue} (connected : queue.connected = true)
    (active : queue.suspended = false) (living : queue.closing = false) :
    Asked ((runtime.await queue).requestIdr now) ↔
      (runtime.stdin.writable = true → runtime.Clear now) := by
  have frozen : Frozen ((runtime.await queue).requestIdr now).queue := by
    rw [requestIdr_queue]
    exact ⟨connected, active, living, rfl⟩
  have written (writable : runtime.stdin.writable = true) :
      ((runtime.await queue).requestIdr now).log.head? = some .requested ↔ runtime.Clear now :=
    @requestIdr_log_iff now (runtime.await queue) living writable rfl
  constructor
  · intro asked writable
    exact (written writable).mp (asked frozen (requestIdr_stdin.trans writable))
  · intro clear _ writable
    have before : (runtime.await queue).stdin.writable = true :=
      requestIdr_stdin.symm.trans writable
    exact (written before).mpr (clear before)

/-- Handing frames on concerns neither the flag nor the key frame that is kept. -/
structure SameKeys (queue queue' : VideoQueue) : Prop where
  frozen : Frozen queue' → Frozen queue
  preconnect : queue'.preconnectKeyframe = queue.preconnectKeyframe

theorem sameKeys_drain (queue : VideoQueue) : SameKeys queue queue.drainLatestFrames := by
  unfold VideoQueue.drainLatestFrames
  split
  · split
    · exact ⟨id, rfl⟩
    · exact ⟨id, rfl⟩
  · exact ⟨id, rfl⟩

theorem sameKeys_fill (queue : VideoQueue) (frame : EncodedHostFrame) :
    SameKeys queue (queue.fill frame) := by
  unfold VideoQueue.fill
  split
  · exact ⟨id, rfl⟩
  · obtain ⟨frozen, preconnect⟩ := sameKeys_drain
      { queue with pendingFrame := some frame, videoDrainActive := true }
    exact ⟨frozen, preconnect⟩

theorem not_frozen_fill {queue : VideoQueue} (flowing : queue.awaitingVideoKeyframe = false)
    (frame : EncodedHostFrame) : ¬ Frozen (queue.fill frame) := by
  intro frozen
  cases flowing.symm.trans ((sameKeys_fill queue frame).frozen frozen).2.2.2

/-- A key frame thaws the video of a connection that has a track. -/
theorem thawed_enqueue_key {queue : VideoQueue} {frame : EncodedHostFrame}
    (key : frame.keyframe = true) (tracked : queue.sender ≠ none) :
    ¬ Frozen (queue.enqueueConnectedFrame frame) := by
  unfold VideoQueue.enqueueConnectedFrame
  split
  · rename_i shut
    intro frozen
    rcases shut with closing | apart | no
    · cases closing.symm.trans frozen.2.2.1
    · cases apart.symm.trans frozen.1
    · exact tracked no
  · split
    · exact not_frozen_fill rfl frame
    · rename_i flowing
      have thawed := not_frozen_fill (Bool.eq_false_iff.mpr flowing) frame
      split
      · exact thawed
      · split
        · exact thawed
        · exact thawed

theorem enqueueConnectedFrame_stdin (frame : EncodedHostFrame) :
    (runtime.enqueueConnectedFrame now frame).stdin.writable = runtime.stdin.writable := by
  unfold enqueueConnectedFrame
  dsimp only
  split
  · rfl
  · split
    · split
      · rfl
      · rfl
    · cases runtime.queue.pendingFrame with
      | none => rfl
      | some pending =>
          dsimp only
          split
          · split
            · rfl
            · rfl
          · split
            · exact requestIdr_stdin
            · exact requestIdr_stdin

theorem Calm.refl (runtime : RequestingRuntime) : Calm runtime runtime :=
  ⟨id, id, fun _ => .inl rfl⟩

/-- A step that leaves no flag set behind it, or one whose request decides. -/
def Settles (now : Int) (runtime : RequestingRuntime) (event : VideoEvent)
    (after : RequestingRuntime) : Prop :=
  (¬ Freezes runtime.queue event ∧ Calm runtime after) ∨
    (Freezes runtime.queue event ∧ (Asked after ↔
      (runtime.stdin.writable = true → runtime.Clear now)))

theorem settles_enqueue_delta (active : runtime.queue.suspended = false) {frame : EncodedHostFrame}
    (delta : frame.keyframe = false) :
    Settles now runtime (.frame false) (runtime.enqueueConnectedFrame now frame) := by
  unfold enqueueConnectedFrame
  dsimp only
  split
  · rename_i shut
    refine .inl ⟨?_, Calm.refl runtime⟩
    rintro ⟨opened, tracked, _⟩
    rcases shut with closing | apart | no
    · cases closing.symm.trans opened.1
    · cases apart.symm.trans opened.2.2.1
    · exact tracked no
  · rename_i live
    obtain ⟨living, connected, tracked⟩ : runtime.queue.closing = false ∧
        runtime.queue.connected = true ∧ runtime.queue.sender ≠ none := by
      simpa [not_or] using live
    split
    · rename_i awaiting
      rw [if_neg (by rw [delta]; exact Bool.noConfusion)]
      refine .inl ⟨?_, Calm.refl runtime⟩
      rintro ⟨opened, _⟩
      cases awaiting.symm.trans opened.2.2.2
    · rename_i flowing
      have flowing : runtime.queue.awaitingVideoKeyframe = false := Bool.eq_false_iff.mpr flowing
      split
      · rename_i empty
        refine .inl ⟨?_, Calm.of_thawed (not_frozen_fill flowing frame) rfl⟩
        rintro ⟨_, _, pending, full, _⟩
        cases empty.symm.trans full
      · rename_i pending full
        rw [delta]
        split
        · rename_i key
          refine .inl ⟨?_, Calm.refl runtime⟩
          rintro ⟨_, _, other, full', plain⟩
          cases full.symm.trans full'
          cases key.symm.trans plain
        · rename_i plain
          refine .inr ⟨?_, await_asked_iff connected active living⟩
          exact ⟨⟨living, active, connected, flowing⟩, tracked, pending, full,
            Bool.eq_false_iff.mpr plain⟩

theorem settles_deliver_delta : Settles now runtime (.frame false) (runtime.deliver now false) := by
  unfold deliver writeFrame
  dsimp only
  split
  · rename_i closing
    refine .inl ⟨?_, id, id, fun _ => .inl rfl⟩
    rintro ⟨opened, _⟩
    cases closing.symm.trans opened.1
  · split
    · rename_i apart
      refine .inl ⟨?_, id, id, fun _ => .inl rfl⟩
      rintro ⟨opened, tracked, _⟩
      rcases apart with suspended | apart | no
      · cases suspended.symm.trans opened.2.1
      · cases apart.symm.trans opened.2.2.1
      · exact tracked no
    · rename_i live
      have active : runtime.queue.suspended = false := by
        rw [not_or] at live
        exact Bool.eq_false_iff.mpr live.1
      rcases @settles_enqueue_delta now (runtime.withQueue { runtime.queue with
        delivered := runtime.queue.delivered ++ [⟨runtime.queue.delivered.length, false⟩] }) active
        ⟨runtime.queue.delivered.length, false⟩ rfl with ⟨calm, frozen, writable, log⟩ | freezes
      · exact .inl ⟨calm, frozen, writable, log⟩
      · exact .inr freezes

theorem settles_deliver_key : Settles now runtime (.frame true) (runtime.deliver now true) := by
  refine .inl ⟨id, ?_⟩
  unfold deliver writeFrame
  dsimp only
  split
  · exact ⟨id, id, fun _ => .inl rfl⟩
  · split
    · exact ⟨id, id, fun _ => .inl rfl⟩
    · rename_i live
      rw [not_or, not_or] at live
      apply Calm.of_thawed
      · rw [enqueueConnectedFrame_queue]
        exact thawed_enqueue_key rfl live.2.2
      · exact enqueueConnectedFrame_stdin _

/-- The key frame that is kept for a connection is one. -/
def KeepsKey (queue : VideoQueue) : Prop :=
  ∀ frame, queue.preconnectKeyframe = some frame → frame.keyframe = true

theorem settles_connect (kept : KeepsKey runtime.queue) :
    Settles now runtime (.connectionState true) (runtime.connect now) := by
  have asks : (runtime.queue.preconnectKeyframe = none ∨ runtime.queue.sender = none) →
      Settles now runtime (.connectionState true) ((runtime.await { runtime.queue with
        connected := true, preconnectKeyframe := none }).requestIdr now) := by
    intro nothing
    cases closing : runtime.queue.closing with
    | true =>
        refine .inl ⟨?_, Calm.of_thawed ?_ ?_⟩
        · rintro ⟨living, _⟩
          cases closing.symm.trans living
        · rw [requestIdr_queue]
          rintro ⟨_, _, living, _⟩
          cases closing.symm.trans living
        · exact requestIdr_stdin
    | false =>
        cases suspended : runtime.queue.suspended with
        | true =>
            refine .inl ⟨?_, Calm.of_thawed ?_ ?_⟩
            · rintro ⟨_, active, _⟩
              cases suspended.symm.trans active
            · rw [requestIdr_queue]
              rintro ⟨_, active, _⟩
              cases suspended.symm.trans active
            · exact requestIdr_stdin
        | false =>
            refine .inr ⟨⟨closing, suspended, nothing⟩, ?_⟩
            exact await_asked_iff rfl suspended closing
  unfold connect
  dsimp only
  cases held : runtime.queue.preconnectKeyframe with
  | none => exact asks (.inl held)
  | some keyframe =>
      dsimp only
      split
      · rename_i tracked
        have tracked : runtime.queue.sender ≠ none := Option.isSome_iff_ne_none.mp tracked
        refine .inl ⟨?_, Calm.of_thawed ?_ ?_⟩
        · rintro ⟨_, _, no | no⟩
          · cases held.symm.trans no
          · exact tracked no
        · rw [enqueueConnectedFrame_queue]
          exact thawed_enqueue_key (kept keyframe held) tracked
        · exact enqueueConnectedFrame_stdin _
      · rename_i untracked
        exact asks (.inr (by simpa using untracked))

/-! ## Steps -/

/-- The steps of the queue that leave its flag as it is. -/
def Plain : VideoEvent → Prop
  | .connectionState false | .addTrack _ | .endRuntime | .sent | .sendFailed => True
  | _ => False

theorem sameKeys_next {queue queue' : VideoQueue} {event : VideoEvent}
    (step : VideoQueue.Step queue event queue') (plain : Plain event) : SameKeys queue queue' := by
  change queue.next event = some queue' at step
  cases event with
  | frame keyframe | suspend | resume => exact absurd plain id
  | connectionState connected =>
      cases connected with
      | true => exact absurd plain id
      | false =>
          cases step
          exact ⟨fun frozen => (by cases frozen.1), rfl⟩
  | addTrack peer =>
      change (if _ then _ else _) = some queue' at step
      split at step
      · cases step
        exact ⟨id, rfl⟩
      · cases step
  | endRuntime =>
      cases step
      exact ⟨fun frozen => (by cases frozen.2.2.1), rfl⟩
  | sent =>
      change (if _ then _ else _) = some queue' at step
      split at step
      · cases step
        obtain ⟨frozen, preconnect⟩ := sameKeys_drain { queue with drains := queue.drains - 1 }
        exact ⟨frozen, preconnect⟩
      · cases step
  | sendFailed =>
      change (if _ then _ else _) = some queue' at step
      split at step
      · cases step
        unfold VideoQueue.failDrain
        split
        · obtain ⟨frozen, preconnect⟩ := sameKeys_drain
            { queue with drains := queue.drains - 1, videoDrainActive := true }
          exact ⟨frozen, preconnect⟩
        · exact ⟨id, rfl⟩
      · cases step

theorem enqueueConnectedFrame_preconnect (queue : VideoQueue) (frame : EncodedHostFrame) :
    (queue.enqueueConnectedFrame frame).preconnectKeyframe = queue.preconnectKeyframe := by
  have filled := (sameKeys_fill queue frame).preconnect
  unfold VideoQueue.enqueueConnectedFrame
  split
  · rfl
  · split
    · split
      · exact (sameKeys_fill { queue with awaitingVideoKeyframe := false } frame).preconnect
      · rfl
    · split
      · exact filled
      · split
        · split
          · exact filled
          · rfl
        · split
          · exact filled
          · rfl

/-- Only key frames are kept. -/
theorem step_keepsKey {queue queue' : VideoQueue} {event : VideoEvent}
    (step : VideoQueue.Step queue event queue') (kept : KeepsKey queue) : KeepsKey queue' := by
  have plain (plain : Plain event) : KeepsKey queue' := by
    intro frame held
    exact kept frame ((sameKeys_next step plain).preconnect.symm.trans held)
  change queue.next event = some queue' at step
  cases event with
  | frame keyframe =>
      cases step
      unfold VideoQueue.deliver VideoQueue.writeFrame
      dsimp only
      split
      · exact kept
      · split
        · split
          · rename_i key
            rintro frame ⟨⟩
            exact key
          · exact kept
        · intro frame held
          rw [enqueueConnectedFrame_preconnect] at held
          exact kept frame held
  | connectionState connected =>
      cases connected with
      | true =>
          cases step
          unfold VideoQueue.connect
          dsimp only
          split
          · split
            · intro frame held
              rw [enqueueConnectedFrame_preconnect] at held
              cases held
            · rintro frame ⟨⟩
          · rintro frame ⟨⟩
      | false => exact plain trivial
  | suspend =>
      cases step
      unfold VideoQueue.suspend
      split
      · exact kept
      · rintro frame ⟨⟩
  | resume =>
      change (if _ then _ else _) = some queue' at step
      split at step
      · cases step
        rintro frame ⟨⟩
      · cases step
  | addTrack peer | endRuntime | sent | sendFailed => exact plain trivial

theorem nextVideo_settles {event : VideoEvent} (kept : KeepsKey runtime.queue)
    (step : runtime.nextVideo now event = some after) : Settles now runtime event after := by
  have plain : (runtime.queue.next event).map runtime.withQueue = some after → Plain event →
      ¬ Freezes runtime.queue event → Settles now runtime event after := by
    intro moved plain calm
    obtain ⟨queue, next, rfl⟩ := Option.map_eq_some_iff.mp moved
    exact .inl ⟨calm, (sameKeys_next next plain).frozen, id, fun _ => .inl rfl⟩
  cases event with
  | frame keyframe =>
      cases step
      cases keyframe with
      | false => exact settles_deliver_delta
      | true => exact settles_deliver_key
  | connectionState connected =>
      cases connected with
      | true =>
          cases step
          exact settles_connect kept
      | false => exact plain step trivial id
  | suspend =>
      cases step
      unfold suspend
      split
      · exact .inl ⟨id, Calm.refl runtime⟩
      · rename_i live
        refine .inl ⟨id, Calm.of_thawed ?_ rfl⟩
        unfold VideoQueue.suspend
        rw [if_neg live]
        rintro ⟨_, active, _⟩
        cases active
  | resume =>
      change (if _ then _ else _) = some after at step
      split at step
      · cases step
        refine .inl ⟨id, Calm.of_thawed ?_ rfl⟩
        rintro ⟨connected, _⟩
        cases connected
      · cases step
  | addTrack peer | endRuntime | sent | sendFailed => exact plain step trivial id

/-- What timely steps preserve. -/
structure Answering (runtime : RequestingRuntime) : Prop where
  asked : Asked runtime
  kept : KeepsKey runtime.queue

theorem initial_answering : Answering initial where
  asked frozen := by cases frozen.1
  kept _ no := by cases no

/-- A step that is timely leaves no video frozen without a request, and no other step does. -/
theorem step_asked_iff {event : RequestEvent} (step : Step runtime event after)
    (answering : Answering runtime) : Asked after ↔ runtime.Timely event := by
  have asked := answering.asked
  cases event with
  | video now event =>
      rcases nextVideo_settles answering.kept step with ⟨calm, steady⟩ | ⟨freezes, exact⟩
      · exact iff_of_true (steady.asked asked) fun freezes => absurd freezes calm
      · exact exact.trans ⟨fun clear _ => clear, fun timely => timely freezes⟩
  | pictureLoss now =>
      cases step
      exact iff_of_true (calm_requestIdr.asked asked) trivial
  | stdin stdin =>
      change (if _ then _ else _) = some after at step
      split at step
      · rename_i closes
        cases step
        have calm : Calm runtime { runtime with stdin } := ⟨id, closes, fun _ => .inl rfl⟩
        exact iff_of_true (calm.asked asked) trivial
      · cases step

theorem step_keeps {event : RequestEvent} (step : Step runtime event after)
    (kept : KeepsKey runtime.queue) : KeepsKey after.queue := by
  cases event with
  | video now event => exact step_keepsKey (nextVideo_queue step) kept
  | pictureLoss now =>
      cases step
      rw [requestIdr_queue]
      exact kept
  | stdin stdin =>
      change (if _ then _ else _) = some after at step
      split at step
      · cases step
        exact kept
      · cases step

/-- As long as the flag is set only when a request can be written, every frozen video has asked
for a key frame; and the first step that is not timely leaves one that has not. -/
theorem run_asked {events : List RequestEvent} {last : RequestingRuntime}
    (run : Run (Guarded Step Timely) initial events last) :
    Asked last ∧ ∀ event after, Step last event after → (Asked after ↔ last.Timely event) := by
  have answering : Answering last := by
    refine run.invariant (fun step answering => ?_) initial_answering
    exact ⟨(step_asked_iff step.1 answering).mpr step.2, step_keeps step.1 answering.kept⟩
  exact ⟨answering.asked, fun event after step => step_asked_iff step answering⟩

/-! ### A drop in time, and one that is lost -/

instance (queue : VideoQueue) : Decidable (Frozen queue) :=
  inferInstanceAs (Decidable (_ ∧ _ ∧ _ ∧ _))

instance freezesDecidable (queue : VideoQueue) : (event : VideoEvent) →
    Decidable (Freezes queue event)
  | .frame false => inferInstanceAs (Decidable (queue.Open ∧ queue.sender ≠ none ∧
      ∃ pending ∈ queue.pendingFrame, pending.keyframe = false))
  | .connectionState true => inferInstanceAs (Decidable (_ ∧ _ ∧ (_ ∨ _)))
  | .frame true | .connectionState false | .addTrack _ | .suspend | .resume | .endRuntime | .sent
  | .sendFailed => inferInstanceAs (Decidable False)

instance timelyDecidable (runtime : RequestingRuntime) : (event : RequestEvent) →
    Decidable (runtime.Timely event)
  | .video _ _ => inferInstanceAs (Decidable (_ → _ → _ ∧ _))
  | .pictureLoss _ | .stdin _ => inferInstanceAs (Decidable True)

/-- While the first key frame is sent, two delta frames come. -/
def sampleDrop (connected dropped : Int) : List RequestEvent :=
  [.video 500 (.addTrack 0), .video connected (.connectionState true), .video 1000 (.frame true),
    .video 1040 (.frame false), .video dropped (.frame false)]

theorem sampleDrop_asked :
    ∃ last, Run (Guarded Step Timely) initial (sampleDrop 800 1080) last ∧ Frozen last.queue ∧
      Asked last := by
  have frozen : (execute (permitted next Timely) initial (sampleDrop 800 1080)).map
      (fun last => decide (Frozen last.queue)) = some true := by decide
  obtain ⟨last, executed, frozen⟩ := Option.map_eq_some_iff.mp frozen
  have run := run_guarded_of_execute executed
  exact ⟨last, run, of_decide_eq_true frozen, (run_asked run).1⟩

/-- The connection has asked for a key frame 180 milliseconds ago, which has come. -/
theorem sampleDrop_lost :
    ∃ last, Run Step initial (sampleDrop 900 1080) last ∧ ¬ Asked last := by
  have lost : (execute next initial (sampleDrop 900 1080)).map (fun last =>
      decide (Frozen last.queue ∧ last.stdin.writable = true ∧
        last.log.head? = some .awaiting)) = some true := by decide
  obtain ⟨last, executed, lost⟩ := Option.map_eq_some_iff.mp lost
  obtain ⟨frozen, writable, awaiting⟩ := of_decide_eq_true lost
  refine ⟨last, (run_iff_execute _ _ _ _).mpr executed, fun asked => ?_⟩
  cases awaiting.symm.trans (asked frozen writable)

end RequestingRuntime

end ExecutionHandoff.WebRtc
