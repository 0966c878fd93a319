import Mathlib.Data.List.Nodup
import Mathlib.Data.Rat.Init
import Mathlib.Algebra.Order.Ring.Unbundled.Rat
import ExecutionHandoff.Library.Runs

/-!
# The hosted latest-frame bridge

`HostedLatestFrameBridge`: frames that are published go to the peer at once, or
wait in a slot for one.  What a check finds of the operator, the route and the
peer's buffer comes with the event; the frames are numbered as they are
published.
-/

namespace ExecutionHandoff.Hosted

open Library List

inductive HostedFrameMimeType where
  | jpeg
  | png
  deriving DecidableEq

structure HostedEphemeralFrame where
  data : List UInt8
  width : Int
  height : Int
  mimeType : HostedFrameMimeType
  deriving DecidableEq

/-- An object with exactly the keys of a frame.  `data` is absent where it is no `Uint8Array`, a
size where it is no integer. -/
structure FrameValue where
  data : Option (List UInt8)
  width : Option Int
  height : Option Int
  mimeType : String

def absoluteMaxFrameBytes : Nat := 8388608
def absoluteMaxBufferedBytes : Nat := 4194304
def maxFrameSide : Int := 16384
def maxSafeAmount : ℚ := 9007199254740991

/-- The limits as `boundedLimit` lets them through. -/
structure HostedLatestFrameBridgeOptions where
  maxFrameBytes : Nat
  maxBufferedBytes : Nat
  frameBounds : 1 ≤ maxFrameBytes ∧ maxFrameBytes ≤ absoluteMaxFrameBytes
  bufferBounds : 1 ≤ maxBufferedBytes ∧ maxBufferedBytes ≤ absoluteMaxBufferedBytes

def parseMimeType : String → Option HostedFrameMimeType
  | "image/jpeg" => some .jpeg
  | "image/png" => some .png
  | _ => none

def parseSide : Option Int → Option Int :=
  fun side => side.filter fun side => 1 ≤ side ∧ side ≤ maxFrameSide

/-- `none` stands for a value that is no such object. -/
def parseHostedEphemeralFrame (maxFrameBytes : Nat) (value : Option FrameValue) :
    Option HostedEphemeralFrame := do
  let frame ← value
  let data ← frame.data.filter fun data => 1 ≤ data.length ∧ data.length ≤ maxFrameBytes
  let width ← parseSide frame.width
  let height ← parseSide frame.height
  let mimeType ← parseMimeType frame.mimeType
  return { data, width, height, mimeType }

inductive HostedLatestFrameBridgeErrorCode where
  | frameInvalid
  | bridgeClosed
  | transportFailure
  /-- What `assertHostedOperatorBindingCurrent` throws. -/
  | bindingNotCurrent
  deriving DecidableEq

/-- What a check finds; `buffered` is absent where `bufferedAmount` throws or is not finite. -/
structure Look where
  current : Bool
  buffered : Option ℚ
  deriving DecidableEq

/-- `#isBackpressured`, which fails the transport on an amount out of bounds. -/
def HostedLatestFrameBridgeOptions.backpressured (options : HostedLatestFrameBridgeOptions)
    (look : Look) : Option Bool :=
  (look.buffered.filter fun amount => 0 ≤ amount ∧ amount ≤ maxSafeAmount).map fun amount =>
    decide ((options.maxBufferedBytes : ℚ) < amount)

structure PublishedFrame where
  order : Nat
  frame : HostedEphemeralFrame
  deriving DecidableEq

/-- `published` and `handed` are the frames accepted by `publish` and those given to `sendFrame`,
in order, `inFlight` those whose `sendFrame` has not settled, and `thrown` the errors so far. -/
structure HostedLatestFrameBridge where
  closed : Bool
  sending : Bool
  pending : Option PublishedFrame
  sentFrames : Nat
  droppedFrames : Nat
  backpressureEvents : Nat
  published : List PublishedFrame
  handed : List PublishedFrame
  inFlight : List PublishedFrame
  thrown : List HostedLatestFrameBridgeErrorCode
  deriving DecidableEq

/-- Two checks are made on the way to a send: by the call, and by the loop. -/
inductive BridgeEvent where
  | publish (value : Option FrameValue) (first second : Look)
  | drain (first second : Look)
  | sent (frame : PublishedFrame) (look : Look)
  | sendFailed (frame : PublishedFrame)
  | close

namespace HostedLatestFrameBridge

def initial : HostedLatestFrameBridge := ⟨false, false, none, 0, 0, 0, [], [], [], []⟩

variable (options : HostedLatestFrameBridgeOptions) (bridge : HostedLatestFrameBridge)

def throw (code : HostedLatestFrameBridgeErrorCode) : HostedLatestFrameBridge :=
  { bridge with thrown := code :: bridge.thrown }

def failTransport : HostedLatestFrameBridge :=
  { bridge with closed := true, pending := none }.throw .transportFailure

def replacePending (frame : PublishedFrame) : HostedLatestFrameBridge :=
  { bridge with
    droppedFrames := bridge.droppedFrames + bridge.pending.toList.length
    pending := some frame }

/-- One turn of `#sendLoop`, up to the await of `sendFrame` or to the end of the loop. -/
def sendTurn (current : PublishedFrame) (look : Look) : HostedLatestFrameBridge :=
  if bridge.closed then { bridge with sending := false }
  else if look.current = false then { bridge with sending := false }.throw .bindingNotCurrent
  else
    match options.backpressured look with
    | none => { bridge with sending := false }.failTransport
    | some true =>
        { bridge with
          sending := false
          backpressureEvents := bridge.backpressureEvents + 1 }.replacePending current
    | some false =>
        { bridge with
          sending := true
          handed := bridge.handed ++ [current]
          inFlight := current :: bridge.inFlight }

def publish (value : Option FrameValue) (first second : Look) : HostedLatestFrameBridge :=
  if bridge.closed then bridge.throw .bridgeClosed
  else
    match parseHostedEphemeralFrame options.maxFrameBytes value with
    | none => bridge.throw .frameInvalid
    | some frame =>
        if first.current = false then bridge.throw .bindingNotCurrent
        else
          let entry : PublishedFrame := ⟨bridge.published.length, frame⟩
          let accepted := { bridge with published := bridge.published ++ [entry] }
          if bridge.sending then accepted.replacePending entry
          else
            match options.backpressured first with
            | none => accepted.failTransport
            | some true =>
                { accepted with
                  backpressureEvents := bridge.backpressureEvents + 1 }.replacePending entry
            | some false => accepted.sendTurn options entry second

def drain (first second : Look) : HostedLatestFrameBridge :=
  if bridge.closed then bridge.throw .bridgeClosed
  else if first.current = false then bridge.throw .bindingNotCurrent
  else if bridge.sending then bridge
  else
    match bridge.pending with
    | none => bridge
    | some next =>
        match options.backpressured first with
        | none => bridge.failTransport
        | some true => { bridge with backpressureEvents := bridge.backpressureEvents + 1 }
        | some false => { bridge with pending := none }.sendTurn options next second

def close : HostedLatestFrameBridge := { bridge with closed := true, pending := none }

/-- `#sendLoop` after the await of `sendFrame`. -/
def resumeLoop (look : Look) : HostedLatestFrameBridge :=
  let sent := { bridge with sentFrames := bridge.sentFrames + 1, pending := none }
  match bridge.pending with
  | none => { sent with sending := false }
  | some next => sent.sendTurn options next look

def next : BridgeEvent → Option HostedLatestFrameBridge
  | .publish value first second => some (bridge.publish options value first second)
  | .drain first second => some (bridge.drain options first second)
  | .sent frame look =>
      if frame ∈ bridge.inFlight then
        some ({ bridge with inFlight := bridge.inFlight.erase frame }.resumeLoop options look)
      else
        none
  | .sendFailed frame =>
      if frame ∈ bridge.inFlight then
        some (failTransport
          { bridge with inFlight := bridge.inFlight.erase frame, sending := false })
      else
        none
  | .close => some bridge.close

abbrev Step : HostedLatestFrameBridge → BridgeEvent → HostedLatestFrameBridge → Prop :=
  StepOf (next options)

/-! ## Frames in order -/

variable {options : HostedLatestFrameBridgeOptions} {bridge bridge' : HostedLatestFrameBridge}

/-- A check lets the loop hand on its frame. -/
def Clears (options : HostedLatestFrameBridgeOptions) (look : Look) : Prop :=
  look.current = true ∧ options.backpressured look = some false

/-- A frame that goes to the peer at once finds no other in the slot. -/
def Unoccupied (options : HostedLatestFrameBridgeOptions) (bridge : HostedLatestFrameBridge) :
    BridgeEvent → Prop
  | .publish value first second =>
      bridge.sending = false → (parseHostedEphemeralFrame options.maxFrameBytes value).isSome →
        Clears options first → Clears options second → bridge.pending = none
  | .drain _ _ | .sent _ _ | .sendFailed _ | .close => True

structure Sound (bridge : HostedLatestFrameBridge) : Prop where
  numbered : bridge.published.map PublishedFrame.order = List.range bridge.published.length
  order : (bridge.handed ++ bridge.pending.toList).Sublist bridge.published
  single : bridge.inFlight.length ≤ 1
  idle : bridge.sending = false → bridge.inFlight = []
  failed : .transportFailure ∈ bridge.thrown → bridge.closed = true

theorem initial_sound : Sound initial where
  numbered := rfl
  order := List.Sublist.refl _
  single := Nat.zero_le _
  idle := fun _ => rfl
  failed := fun no => by cases no

theorem sound_throw (sound : Sound bridge) {code : HostedLatestFrameBridgeErrorCode}
    (other : code ≠ .transportFailure) : Sound (bridge.throw code) := by
  refine ⟨sound.numbered, sound.order, sound.single, sound.idle, fun mem => ?_⟩
  rcases mem_cons.mp mem with same | mem
  · exact absurd same.symm other
  · exact sound.failed mem

theorem sound_failTransport (sound : Sound bridge) : Sound bridge.failTransport := by
  refine ⟨sound.numbered, ?_, sound.single, sound.idle, fun _ => rfl⟩
  change (bridge.handed ++ []).Sublist bridge.published
  rw [append_nil]
  exact (sublist_append_left _ _).trans sound.order

/-- A frame behind all that were handed on takes the place of the one that waits. -/
theorem sound_replacePending (sound : Sound bridge) {frame : PublishedFrame}
    (behind : (bridge.handed ++ [frame]).Sublist bridge.published) :
    Sound (bridge.replacePending frame) :=
  ⟨sound.numbered, behind, sound.single, sound.idle, sound.failed⟩

/-- While nothing is in flight, the loop takes a frame behind all that were handed on. -/
theorem sound_sendTurn (sound : Sound bridge) {frame : PublishedFrame} {look : Look}
    (behind : (bridge.handed ++ [frame]).Sublist bridge.published) (empty : bridge.inFlight = [])
    (free : Clears options look → bridge.pending = none) :
    Sound (bridge.sendTurn options frame look) := by
  have stopped : Sound { bridge with sending := false } :=
    { sound with idle := fun _ => empty }
  unfold sendTurn
  split
  · exact stopped
  · split
    · exact sound_throw stopped (by decide)
    · rename_i current
      split
      · exact sound_failTransport stopped
      · have counted : Sound
            { bridge with
              sending := false
              backpressureEvents := bridge.backpressureEvents + 1 } :=
          { stopped with }
        exact sound_replacePending counted behind
      · rename_i clear
        have free := free ⟨eq_true_of_ne_false current, clear⟩
        refine ⟨sound.numbered, ?_, ?_, (fun no => by cases no), sound.failed⟩
        · change ((bridge.handed ++ [frame]) ++ bridge.pending.toList).Sublist bridge.published
          rw [free]
          change ((bridge.handed ++ [frame]) ++ []).Sublist bridge.published
          rw [append_nil]
          exact behind
        · change (frame :: bridge.inFlight).length ≤ 1
          rw [empty]
          exact Nat.le_refl 1

/-- A new frame comes behind all the others. -/
theorem sound_accept (sound : Sound bridge) (frame : HostedEphemeralFrame) :
    Sound { bridge with
      published := bridge.published ++ [⟨bridge.published.length, frame⟩] } := by
  refine ⟨?_, sound.order.trans (sublist_append_left _ _), sound.single, sound.idle,
    sound.failed⟩
  change (bridge.published ++ [_]).map PublishedFrame.order = range (bridge.published ++ [_]).length
  rw [map_append, sound.numbered, length_append, length_singleton, range_succ]
  rfl

theorem sound_publish (sound : Sound bridge) {value : Option FrameValue} {first second : Look}
    (unoccupied : bridge.Unoccupied options (.publish value first second)) :
    Sound (bridge.publish options value first second) := by
  unfold publish
  split
  · exact sound_throw sound (by decide)
  · split
    · exact sound_throw sound (by decide)
    · rename_i frame parsed
      split
      · exact sound_throw sound (by decide)
      · rename_i current
        have accepted := sound_accept sound frame
        have behind : (bridge.handed ++ [PublishedFrame.mk bridge.published.length frame]).Sublist
            (bridge.published ++ [⟨bridge.published.length, frame⟩]) := by
          have earlier := (sublist_append_left _ _).trans sound.order
          exact earlier.append (List.Sublist.refl _)
        dsimp only
        split
        · exact sound_replacePending accepted behind
        · rename_i idle
          have still : bridge.sending = false := Bool.eq_false_iff.mpr idle
          split
          · exact sound_failTransport accepted
          · have counted : Sound
                { bridge with
                  published := bridge.published ++ [⟨bridge.published.length, frame⟩]
                  backpressureEvents := bridge.backpressureEvents + 1 } :=
              { accepted with }
            exact sound_replacePending counted behind
          · rename_i clear
            refine sound_sendTurn accepted behind (sound.idle still) fun clears => ?_
            refine unoccupied still ?_ ⟨eq_true_of_ne_false current, clear⟩ clears
            rw [parsed]
            rfl

theorem sound_drain (sound : Sound bridge) (first second : Look) :
    Sound (bridge.drain options first second) := by
  unfold drain
  split
  · exact sound_throw sound (by decide)
  · split
    · exact sound_throw sound (by decide)
    · split
      · exact sound
      · rename_i idle
        split
        · exact sound
        · rename_i next waiting
          have order := sound.order
          rw [waiting] at order
          split
          · exact sound_failTransport sound
          · exact { sound with }
          · have emptied : Sound { bridge with pending := none } := by
              refine ⟨sound.numbered, ?_, sound.single, sound.idle, sound.failed⟩
              change (bridge.handed ++ []).Sublist bridge.published
              rw [append_nil]
              exact (sublist_append_left _ _).trans order
            exact sound_sendTurn emptied order (sound.idle (Bool.eq_false_iff.mpr idle)) fun _ => rfl

theorem settled_empty (sound : Sound bridge) {frame : PublishedFrame}
    (mem : frame ∈ bridge.inFlight) : bridge.inFlight.erase frame = [] := by
  have erased := length_erase_of_mem mem
  have single := sound.single
  exact eq_nil_of_length_eq_zero (by omega)

theorem sound_resumeLoop (sound : Sound bridge) (empty : bridge.inFlight = []) (look : Look) :
    Sound (bridge.resumeLoop options look) := by
  have order := sound.order
  have emptied : Sound { bridge with sentFrames := bridge.sentFrames + 1, pending := none } := by
    refine ⟨sound.numbered, ?_, sound.single, sound.idle, sound.failed⟩
    change (bridge.handed ++ []).Sublist bridge.published
    rw [append_nil]
    exact (sublist_append_left _ _).trans order
  unfold resumeLoop
  dsimp only
  split
  · exact { emptied with idle := fun _ => empty }
  · rename_i next waiting
    rw [waiting] at order
    exact sound_sendTurn emptied order empty fun _ => rfl

/-! ## Steps -/

theorem step_sound {event : BridgeEvent} (step : Step options bridge event bridge')
    (unoccupied : bridge.Unoccupied options event) (sound : Sound bridge) : Sound bridge' := by
  change next options bridge event = some bridge' at step
  cases event with
  | publish value first second =>
      cases step
      exact sound_publish sound unoccupied
  | drain first second =>
      cases step
      exact sound_drain sound first second
  | sent frame look =>
      change (if _ then _ else _) = some bridge' at step
      split at step
      · rename_i mem
        cases step
        have empty := settled_empty sound mem
        have settled : Sound { bridge with inFlight := bridge.inFlight.erase frame } :=
          { sound with single := empty ▸ Nat.zero_le 1, idle := fun _ => empty }
        exact sound_resumeLoop settled empty look
      · cases step
  | sendFailed frame =>
      change (if _ then _ else _) = some bridge' at step
      split at step
      · rename_i mem
        cases step
        have empty := settled_empty sound mem
        have settled : Sound
            { bridge with inFlight := bridge.inFlight.erase frame, sending := false } :=
          { sound with single := empty ▸ Nat.zero_le 1, idle := fun _ => empty }
        exact sound_failTransport settled
      · cases step
  | close =>
      cases step
      refine ⟨sound.numbered, ?_, sound.single, sound.idle, fun _ => rfl⟩
      change (bridge.handed ++ []).Sublist bridge.published
      rw [append_nil]
      exact (sublist_append_left _ _).trans sound.order

/-- A closed bridge stays closed and hands on nothing. -/
theorem closed_step {event : BridgeEvent} (step : Step options bridge event bridge')
    (closed : bridge.closed = true) : bridge'.closed = true ∧ bridge'.handed = bridge.handed := by
  change next options bridge event = some bridge' at step
  have turn (frame : PublishedFrame) (look : Look) {bridge : HostedLatestFrameBridge}
      (closed : bridge.closed = true) :
      (bridge.sendTurn options frame look).closed = true ∧
        (bridge.sendTurn options frame look).handed = bridge.handed := by
    unfold sendTurn
    rw [if_pos closed]
    exact ⟨closed, rfl⟩
  cases event with
  | publish value first second =>
      cases step
      unfold publish
      rw [if_pos closed]
      exact ⟨closed, rfl⟩
  | drain first second =>
      cases step
      unfold drain
      rw [if_pos closed]
      exact ⟨closed, rfl⟩
  | sent frame look =>
      change (if _ then _ else _) = some bridge' at step
      split at step
      · cases step
        unfold resumeLoop
        dsimp only
        split
        · exact ⟨closed, rfl⟩
        · exact turn _ _ closed
      · cases step
  | sendFailed frame =>
      change (if _ then _ else _) = some bridge' at step
      split at step
      · cases step
        exact ⟨rfl, rfl⟩
      · cases step
  | close =>
      cases step
      exact ⟨rfl, rfl⟩

/-! ## Runs -/

/-- When a frame that goes to the peer at once finds no other in the slot, the frames are handed on
in the order of their publication, each at most once and one at a time, and none once the bridge
is closed or its transport has failed. -/
theorem run_latestFirst {events : List BridgeEvent} {last : HostedLatestFrameBridge}
    (run : Run (Guarded (Step options) (Unoccupied options)) initial events last) :
    last.handed.Sublist last.published ∧ last.handed.Nodup ∧ last.inFlight.length ≤ 1 ∧
    ∀ event after, Step options last event after →
      last.closed = true ∨ .transportFailure ∈ last.thrown →
      after.closed = true ∧ after.handed = last.handed := by
  have sound : Sound last := by
    refine run.invariant ?_ initial_sound
    exact fun step sound => step_sound step.1 step.2 sound
  have inOrder : last.handed.Sublist last.published :=
    (List.sublist_append_left _ _).trans sound.order
  have distinct : last.published.Nodup := by
    refine List.Nodup.of_map PublishedFrame.order ?_
    rw [sound.numbered]
    exact List.nodup_range
  refine ⟨inOrder, inOrder.nodup distinct, sound.single, fun event after step stopped => ?_⟩
  rcases stopped with closed | failed
  · exact closed_step step closed
  · exact closed_step step (sound.failed failed)

/-! ## Sample frames -/

instance (options : HostedLatestFrameBridgeOptions) (look : Look) :
    Decidable (Clears options look) :=
  inferInstanceAs (Decidable (_ ∧ _))

instance unoccupiedDecidable (options : HostedLatestFrameBridgeOptions)
    (bridge : HostedLatestFrameBridge) :
    (event : BridgeEvent) → Decidable (bridge.Unoccupied options event)
  | .publish _ _ _ => inferInstanceAs (Decidable (_ → _ → _ → _ → _))
  | .drain _ _ | .sent _ _ | .sendFailed _ | .close => inferInstanceAs (Decidable True)

def sampleOptions : HostedLatestFrameBridgeOptions := ⟨1024, 512, by decide, by decide⟩

def sampleValue (marker : UInt8) : Option FrameValue :=
  some ⟨some [marker], some 100, some 100, "image/jpeg"⟩

def sampleFrame (marker : UInt8) : HostedEphemeralFrame := ⟨[marker], 100, 100, .jpeg⟩

def sampleClear : Look := ⟨true, some 0⟩

def sampleFull : Look := ⟨true, some 600⟩

/-- The first frame is under way while two more come. -/
def sampleBusy : List BridgeEvent :=
  [.publish (sampleValue 1) sampleClear sampleClear,
    .publish (sampleValue 2) sampleClear sampleClear,
    .publish (sampleValue 3) sampleClear sampleClear, .sent ⟨0, sampleFrame 1⟩ sampleClear]

def sampleBusyLast : HostedLatestFrameBridge where
  closed := false
  sending := true
  pending := none
  sentFrames := 1
  droppedFrames := 1
  backpressureEvents := 0
  published := [⟨0, sampleFrame 1⟩, ⟨1, sampleFrame 2⟩, ⟨2, sampleFrame 3⟩]
  handed := [⟨0, sampleFrame 1⟩, ⟨2, sampleFrame 3⟩]
  inFlight := [⟨2, sampleFrame 3⟩]
  thrown := []

theorem sampleBusy_latestFirst :
    sampleBusyLast.handed.Sublist sampleBusyLast.published ∧ sampleBusyLast.handed.Nodup ∧
      sampleBusyLast.inFlight.length ≤ 1 ∧
      ∀ event after, Step sampleOptions sampleBusyLast event after →
        sampleBusyLast.closed = true ∨ .transportFailure ∈ sampleBusyLast.thrown →
        after.closed = true ∧ after.handed = sampleBusyLast.handed :=
  @run_latestFirst sampleOptions sampleBusy sampleBusyLast
    (run_guarded_of_execute (by decide +kernel))

def sampleClearedLast : HostedLatestFrameBridge where
  closed := false
  sending := true
  pending := none
  sentFrames := 1
  droppedFrames := 0
  backpressureEvents := 1
  published := [⟨0, sampleFrame 1⟩, ⟨1, sampleFrame 2⟩]
  handed := [⟨1, sampleFrame 2⟩, ⟨0, sampleFrame 1⟩]
  inFlight := [⟨0, sampleFrame 1⟩]
  thrown := []

/-- The buffer fills up and is written out between two frames: the second goes to the peer at once,
and the first one behind it. -/
theorem sampleCleared_outOfOrder :
    Run (Step sampleOptions) initial
      [.publish (sampleValue 1) sampleFull sampleClear,
        .publish (sampleValue 2) sampleClear sampleClear,
        .sent ⟨1, sampleFrame 2⟩ sampleClear] sampleClearedLast ∧
    ¬ sampleClearedLast.handed.Sublist sampleClearedLast.published :=
  ⟨(run_iff_execute _ _ _ _).mpr (by decide +kernel), by decide +kernel⟩

end HostedLatestFrameBridge

end ExecutionHandoff.Hosted
