import ExecutionHandoff.Library.ReferenceChain
import ExecutionHandoff.Library.Runs

/-!
# The video of a WebRTC runtime

The frames that a host delivers to `SpawnedWebRtcRuntimeProvider`, up to
`sendFrame`.  A frame is its place in the order of the host and whether it is a
key frame; its data is read by `sendFrame` only.  The peers of a runtime are
numbered by its resumptions.  A key frame that is asked for comes when the host
pleases, so the requests are left out.
-/

namespace ExecutionHandoff.WebRtc

open Library List

structure EncodedHostFrame where
  order : Nat
  keyframe : Bool
  deriving DecidableEq

def EncodedHostFrame.follows (before frame : EncodedHostFrame) : Prop :=
  before.order + 1 = frame.order

/-- The fields of an `ActiveWebRtcRuntime` that concern its video.  `connected` is the state of its
current peer, `sender` the peer its sender belongs to; `drains` calls of `drainLatestFrames` await
a `sendFrame`, and `handed` are the frames given to it, each with the peer of the sender. -/
structure VideoQueue where
  delivered : List EncodedHostFrame
  peer : Nat
  connected : Bool
  sender : Option Nat
  closing : Bool
  suspended : Bool
  awaitingVideoKeyframe : Bool
  pendingFrame : Option EncodedHostFrame
  preconnectKeyframe : Option EncodedHostFrame
  videoDrainActive : Bool
  drains : Nat
  handed : List (Nat × EncodedHostFrame)
  deriving DecidableEq

inductive VideoEvent where
  | frame (keyframe : Bool)
  | connectionState (connected : Bool)
  /-- A start or a resumption has got as far as `peer.addTrack`. -/
  | addTrack (peer : Nat)
  | suspend
  | resume
  | endRuntime
  | sent
  | sendFailed
  deriving DecidableEq

namespace VideoQueue

/-- A runtime as `start` registers it. -/
def initial : VideoQueue :=
  ⟨[], 0, false, none, false, false, false, none, none, false, 0, []⟩

variable (queue : VideoQueue)

/-- `drainLatestFrames` up to its next await, or to its end. -/
def drainLatestFrames : VideoQueue :=
  match queue.sender, queue.pendingFrame with
  | some sender, some frame =>
      if queue.closing = false ∧ queue.connected then
        { queue with
          pendingFrame := none
          drains := queue.drains + 1
          handed := queue.handed ++ [(sender, frame)] }
      else
        { queue with videoDrainActive := false }
  | _, _ => { queue with videoDrainActive := false }

/-- The slot is filled, and a drain sees to it. -/
def fill (frame : EncodedHostFrame) : VideoQueue :=
  if queue.videoDrainActive then { queue with pendingFrame := some frame }
  else { queue with pendingFrame := some frame, videoDrainActive := true }.drainLatestFrames

def enqueueConnectedFrame (frame : EncodedHostFrame) : VideoQueue :=
  if queue.closing ∨ queue.connected = false ∨ queue.sender = none then queue
  else if queue.awaitingVideoKeyframe then
    if frame.keyframe then { queue with awaitingVideoKeyframe := false }.fill frame else queue
  else
    match queue.pendingFrame with
    | none => queue.fill frame
    | some pending =>
        if pending.keyframe then
          if frame.keyframe then queue.fill frame else queue
        else if frame.keyframe then queue.fill frame
        else { queue with pendingFrame := none, awaitingVideoKeyframe := true }

def writeFrame (frame : EncodedHostFrame) : VideoQueue :=
  if queue.closing then queue
  else if queue.suspended ∨ queue.connected = false ∨ queue.sender = none then
    if frame.keyframe then { queue with preconnectKeyframe := some frame } else queue
  else
    queue.enqueueConnectedFrame frame

/-- The parser of the host's output hands on the next frame. -/
def deliver (keyframe : Bool) : VideoQueue :=
  let frame : EncodedHostFrame := ⟨queue.delivered.length, keyframe⟩
  { queue with delivered := queue.delivered ++ [frame] }.writeFrame frame

/-- The handler of the state `connected`. -/
def connect : VideoQueue :=
  let queue' := { queue with connected := true, preconnectKeyframe := none }
  match queue.preconnectKeyframe with
  | some keyframe =>
      if queue.sender.isSome then queue'.enqueueConnectedFrame keyframe
      else { queue' with awaitingVideoKeyframe := true }
  | none => { queue' with awaitingVideoKeyframe := true }

def suspend : VideoQueue :=
  if queue.closing ∨ queue.suspended then queue
  else
    { queue with
      suspended := true
      sender := none
      pendingFrame := none
      preconnectKeyframe := none
      awaitingVideoKeyframe := true }

/-- `resumeSuspended` up to its first await. -/
def resumeSuspended : VideoQueue :=
  { queue with
    peer := queue.peer + 1
    connected := false
    sender := none
    suspended := false
    videoDrainActive := false
    awaitingVideoKeyframe := true
    pendingFrame := none
    preconnectKeyframe := none }

/-- `sendFrame` has failed: what is in the slot gets a drain of its own, and the runtime is going
to be ended. -/
def failDrain : VideoQueue :=
  if queue.pendingFrame.isSome ∧ queue.closing = false ∧ queue.connected ∧ queue.sender.isSome then
    { queue with videoDrainActive := true }.drainLatestFrames
  else
    { queue with videoDrainActive := false }

def next : VideoEvent → Option VideoQueue
  | .frame keyframe => some (queue.deliver keyframe)
  | .connectionState true => some queue.connect
  | .connectionState false => some { queue with connected := false }
  | .addTrack peer => if peer ≤ queue.peer then some { queue with sender := some peer } else none
  | .suspend => some queue.suspend
  | .resume => if queue.suspended then some queue.resumeSuspended else none
  | .endRuntime => some { queue with closing := true, suspended := false }
  | .sent =>
      if 0 < queue.drains then some { queue with drains := queue.drains - 1 }.drainLatestFrames
      else none
  | .sendFailed =>
      if 0 < queue.drains then some { queue with drains := queue.drains - 1 }.failDrain else none

abbrev Step : VideoQueue → VideoEvent → VideoQueue → Prop := StepOf next

/-! ## What the frames depend on -/

variable {queue queue' : VideoQueue}

/-- The frames handed to `sendFrame` for a peer. -/
def line (queue : VideoQueue) (peer : Nat) : List EncodedHostFrame :=
  (queue.handed.filter fun entry => entry.1 = peer).map Prod.snd

/-- Frames that come go through the slot. -/
def Open (queue : VideoQueue) : Prop :=
  queue.closing = false ∧ queue.suspended = false ∧ queue.connected = true ∧
    queue.awaitingVideoKeyframe = false

/-- No delta frame comes while a key frame is in the slot, the key frame kept for a connection is
the frame that came last, and a track is added to the current peer. -/
def Flows (queue : VideoQueue) : VideoEvent → Prop
  | .frame false => queue.Open → ∀ pending, queue.pendingFrame = some pending →
      pending.keyframe = false
  | .connectionState true => queue.suspended = false → ∀ kept,
      queue.preconnectKeyframe = some kept → queue.delivered.getLast? = some kept
  | .addTrack peer => peer = queue.peer
  | _ => True

abbrev Ordered (queue : VideoQueue) (frames : List EncodedHostFrame) : Prop :=
  Chained (fun frame => frame.keyframe = true) EncodedHostFrame.follows queue.delivered frames

/-- The frames of each peer are chained, and tracks belong to the current peer. -/
structure Placed (queue : VideoQueue) : Prop where
  ordered : ∀ peer, queue.Ordered (queue.line peer)
  current : ∀ peer, queue.sender = some peer → peer = queue.peer
  numbered : ∀ (place : Nat) (frame : EncodedHostFrame),
    queue.delivered[place]? = some frame → frame.order = place
  kept : ∀ frame, queue.preconnectKeyframe = some frame → frame.keyframe = true

/-- The frame in the slot continues the chain of the peer that has the sender, and an open slot
comes behind the frame delivered last. -/
structure Sound (queue : VideoQueue) : Prop extends Placed queue where
  slot : ∀ peer, queue.sender = some peer →
    queue.Ordered (queue.line peer ++ queue.pendingFrame.toList)
  bare : queue.sender = none → queue.pendingFrame = none
  recent : queue.Open → ∃ peer last, queue.sender = some peer ∧
    (queue.line peer ++ queue.pendingFrame.toList).getLast? = some last ∧
    queue.delivered.getLast? = some last

theorem initial_sound : Sound initial where
  ordered := fun _ => Kept.empty.chained
  current := fun _ no => by cases no
  numbered := fun _ _ no => by cases no
  kept := fun _ no => by cases no
  slot := fun _ no => by cases no
  bare := fun _ => rfl
  recent := fun opened => by cases opened.2.2.1

/-! ## Pieces -/

theorem line_handed (queue : VideoQueue) (sender peer : Nat) (frame : EncodedHostFrame) :
    line { queue with handed := queue.handed ++ [(sender, frame)] } peer =
      if sender = peer then queue.line peer ++ [frame] else queue.line peer := by
  unfold line
  rw [filter_append, map_append]
  split
  · rename_i same
    rw [filter_cons_of_pos (by simpa using same)]
    rfl
  · rename_i other
    rw [filter_cons_of_neg (by simpa using other)]
    exact append_nil _

/-- A frame goes from the slot to `sendFrame`. -/
theorem sound_drain (sound : Sound queue) : Sound queue.drainLatestFrames := by
  have idle : Sound { queue with videoDrainActive := false } :=
    { sound with }
  unfold drainLatestFrames
  split
  · rename_i sender frame held pending
    split
    · have chained := sound.slot sender held
      rw [pending] at chained
      refine ⟨⟨fun peer => ?_, sound.current, sound.numbered, sound.kept⟩, fun peer same => ?_,
        fun _ => rfl, fun opened => ?_⟩
      · change queue.Ordered (line { queue with handed := queue.handed ++ [(sender, frame)] } peer)
        rw [line_handed]
        split
        · rename_i same
          subst same
          exact chained
        · exact sound.ordered peer
      · cases held.symm.trans same
        change queue.Ordered
          (line { queue with handed := queue.handed ++ [(sender, frame)] } sender ++ [])
        rw [line_handed, if_pos rfl, append_nil]
        exact chained
      · obtain ⟨peer, last, same, final, recent⟩ := sound.recent opened
        cases held.symm.trans same
        rw [pending] at final
        refine ⟨sender, last, held, ?_, recent⟩
        change (line { queue with handed := queue.handed ++ [(sender, frame)] } sender ++
          []).getLast? = some last
        rw [line_handed, if_pos rfl, append_nil]
        exact final
    · exact idle
  · exact idle

/-- A frame is put into the slot in front of a chain that it continues. -/
theorem sound_fill {peer : Nat} {frame : EncodedHostFrame} (placed : Placed queue)
    (held : queue.sender = some peer) (fits : queue.Ordered (queue.line peer ++ [frame]))
    (last : queue.closing = false → queue.suspended = false →
      queue.delivered.getLast? = some frame) : Sound (queue.fill frame) := by
  have filled : Sound { queue with pendingFrame := some frame } := by
    refine ⟨⟨placed.ordered, placed.current, placed.numbered, placed.kept⟩, fun other same => ?_,
      fun no => ?_, fun opened => ?_⟩
    · cases held.symm.trans same
      exact fits
    · cases held.symm.trans no
    · exact ⟨peer, frame, held, getLast?_concat, last opened.1 opened.2.1⟩
  unfold fill
  split
  · exact filled
  · have drained : Sound { queue with pendingFrame := some frame, videoDrainActive := true } :=
      { filled with }
    exact sound_drain drained

/-- A key frame goes into the slot unless the runtime is closing or not connected. -/
theorem sound_enqueue_key {peer : Nat} {frame : EncodedHostFrame} (placed : Placed queue)
    (slot : ∀ peer, queue.sender = some peer →
      queue.Ordered (queue.line peer ++ queue.pendingFrame.toList))
    (held : queue.sender = some peer) (key : frame.keyframe = true)
    (last : queue.closing = false → queue.suspended = false →
      queue.delivered.getLast? = some frame) : Sound (queue.enqueueConnectedFrame frame) := by
  have ordered : queue.Ordered (queue.line peer ++ [frame]) :=
    Chained.concat (placed.ordered peer) (.inl key)
  have filled : Sound (queue.fill frame) := sound_fill placed held ordered last
  unfold enqueueConnectedFrame
  split
  · rename_i shut
    refine ⟨placed, slot, fun no => ?_, fun opened => ?_⟩
    · cases held.symm.trans no
    · rcases shut with closing | apart | no
      · cases closing.symm.trans opened.1
      · cases apart.symm.trans opened.2.2.1
      · cases held.symm.trans no
  · split
    · have woken : Placed { queue with awaitingVideoKeyframe := false } :=
        { placed with }
      exact sound_fill woken held ordered last
    · split
      · exact filled
      · split
        · exact filled
        · exact filled

theorem placed_delivered (placed : Placed queue) (frame : EncodedHostFrame)
    (order : frame.order = queue.delivered.length) :
    Placed { queue with delivered := queue.delivered ++ [frame] } := by
  refine ⟨fun peer => (placed.ordered peer).mono, placed.current, fun place other found => ?_,
    placed.kept⟩
  change (queue.delivered ++ [frame])[place]? = some other at found
  rcases Nat.lt_or_ge place queue.delivered.length with within | beyond
  · rw [getElem?_append_left within] at found
    exact placed.numbered place other found
  · rw [getElem?_append_right beyond] at found
    obtain ⟨first, same⟩ := List.getElem?_eq_some_iff.mp found
    have here : place = queue.delivered.length := by
      rw [length_singleton] at first
      omega
    subst here
    simp only [Nat.sub_self, getElem_cons_zero] at same
    rw [← same]
    exact order

/-- A frame that is dropped, or kept for a connection, while the slot is not open. -/
theorem sound_withheld {frame : EncodedHostFrame} (sound : Sound queue)
    (order : frame.order = queue.delivered.length) (shut : ¬ queue.Open) :
    Sound { queue with delivered := queue.delivered ++ [frame] } where
  toPlaced := placed_delivered sound.toPlaced frame order
  slot := fun peer held => (sound.slot peer held).mono
  bare := sound.bare
  recent := fun opened => absurd opened shut

/-- A delta frame goes into an open slot that is empty, and into no other. -/
theorem sound_enqueue_delta {peer : Nat} (sound : Sound queue) (held : queue.sender = some peer)
    (flows : queue.Flows (.frame false)) (active : queue.suspended = false) :
    Sound (enqueueConnectedFrame
      { queue with delivered := queue.delivered ++ [⟨queue.delivered.length, false⟩] }
      ⟨queue.delivered.length, false⟩) := by
  have withheld (shut : ¬ queue.Open) :=
    @sound_withheld queue ⟨queue.delivered.length, false⟩ sound rfl shut
  have placed := placed_delivered sound.toPlaced ⟨queue.delivered.length, false⟩ rfl
  unfold enqueueConnectedFrame
  dsimp only
  split
  · rename_i shut
    refine withheld fun opened => ?_
    rcases shut with closing | apart | no
    · cases closing.symm.trans opened.1
    · cases apart.symm.trans opened.2.2.1
    · cases held.symm.trans no
  · rename_i live
    obtain ⟨living, linked, _⟩ : queue.closing = false ∧ queue.connected = true ∧
        queue.sender ≠ none := by
      simpa [not_or] using live
    split
    · rename_i awaiting
      refine withheld fun opened => ?_
      cases awaiting.symm.trans opened.2.2.2
    · rename_i flowing
      have opened : queue.Open := ⟨living, active, linked, Bool.eq_false_iff.mpr flowing⟩
      split
      · rename_i empty
        obtain ⟨sender, last, same, final, recent⟩ := sound.recent opened
        cases held.symm.trans same
        rw [empty] at final
        change (queue.line peer ++ []).getLast? = some last at final
        rw [append_nil] at final
        obtain ⟨before, line⟩ := getLast?_eq_some_iff.mp final
        obtain ⟨earlier, frames⟩ := getLast?_eq_some_iff.mp recent
        have order : last.order = earlier.length := by
          refine sound.numbered earlier.length last ?_
          rw [frames, getElem?_append_right (Nat.le_refl _), Nat.sub_self]
          rfl
        have next : last.follows ⟨queue.delivered.length, false⟩ := by
          change last.order + 1 = queue.delivered.length
          rw [frames, length_append, order]
          rfl
        refine sound_fill placed held ?_ fun _ _ => getLast?_concat
        exact Chained.concat (placed.ordered peer)
          (.inr ⟨before, last, line, next, adjacent_concat recent⟩)
      · rename_i pending full
        have plain : pending.keyframe = false := flows opened pending full
        rw [plain]
        refine ⟨⟨placed.ordered, placed.current, placed.numbered, placed.kept⟩,
          fun sender same => ?_, fun _ => rfl, fun woken => ?_⟩
        · change Chained _ _ _ (queue.line sender ++ [])
          rw [append_nil]
          exact placed.ordered sender
        · cases woken.2.2.2

theorem sound_deliver {keyframe : Bool} (sound : Sound queue)
    (flows : queue.Flows (.frame keyframe)) : Sound (queue.deliver keyframe) := by
  have withheld (shut : ¬ queue.Open) :=
    @sound_withheld queue ⟨queue.delivered.length, keyframe⟩ sound rfl shut
  unfold deliver writeFrame
  dsimp only
  split
  · rename_i closing
    refine withheld fun opened => ?_
    cases closing.symm.trans opened.1
  · split
    · rename_i apart
      have still := withheld fun opened => by
        obtain ⟨peer, _, held, _⟩ := sound.recent opened
        rcases apart with suspended | apart | no
        · cases suspended.symm.trans opened.2.1
        · cases apart.symm.trans opened.2.2.1
        · cases held.symm.trans no
      split
      · rename_i key
        refine ⟨⟨still.ordered, still.current, still.numbered, fun frame kept => ?_⟩, still.slot,
          still.bare, still.recent⟩
        cases kept
        exact key
      · exact still
    · rename_i live
      obtain ⟨active, _, tracked⟩ : queue.suspended = false ∧ queue.connected = true ∧
          queue.sender ≠ none := by
        simpa [not_or] using live
      obtain ⟨peer, held⟩ := Option.ne_none_iff_exists'.mp tracked
      cases keyframe with
      | false => exact sound_enqueue_delta sound held flows active
      | true =>
          refine sound_enqueue_key (placed_delivered sound.toPlaced _ rfl) (fun peer held => ?_) held
            rfl fun _ _ => getLast?_concat
          exact (sound.slot peer held).mono

theorem sound_connect (sound : Sound queue) (flows : queue.Flows (.connectionState true)) :
    Sound queue.connect := by
  have placed : Placed { queue with connected := true, preconnectKeyframe := none } :=
    ⟨sound.ordered, sound.current, sound.numbered, fun _ no => by cases no⟩
  have waiting : Sound
      { queue with
        connected := true
        preconnectKeyframe := none
        awaitingVideoKeyframe := true } := by
    refine ⟨⟨placed.ordered, placed.current, placed.numbered, placed.kept⟩, sound.slot, sound.bare,
      fun opened => ?_⟩
    cases opened.2.2.2
  unfold connect
  dsimp only
  split
  · rename_i keyframe kept
    split
    · rename_i tracked
      obtain ⟨peer, held⟩ := Option.isSome_iff_exists.mp tracked
      refine sound_enqueue_key placed sound.slot held (sound.kept keyframe kept) ?_
      exact fun _ active => flows active keyframe kept
    · exact waiting
  · exact waiting

theorem sound_suspend (sound : Sound queue) : Sound queue.suspend := by
  unfold suspend
  split
  · exact sound
  · refine ⟨⟨sound.ordered, (fun _ no => by cases no), sound.numbered, (fun _ no => by cases no)⟩,
      (fun _ no => by cases no), fun _ => rfl, fun opened => ?_⟩
    cases opened.2.1

theorem sound_resumeSuspended (sound : Sound queue) : Sound queue.resumeSuspended := by
  refine ⟨⟨sound.ordered, (fun _ no => by cases no), sound.numbered, (fun _ no => by cases no)⟩,
    (fun _ no => by cases no), fun _ => rfl, fun opened => ?_⟩
  cases opened.2.2.2

theorem sound_addTrack (sound : Sound queue) : Sound { queue with sender := some queue.peer } := by
  refine ⟨⟨sound.ordered, fun peer same => ?_, sound.numbered, sound.kept⟩, fun peer same => ?_,
    (fun no => by cases no), fun opened => ?_⟩
  · cases same
    rfl
  · cases same
    rcases Option.eq_none_or_eq_some queue.sender with none | ⟨sender, held⟩
    · change queue.Ordered (queue.line queue.peer ++ queue.pendingFrame.toList)
      rw [sound.bare none]
      change queue.Ordered (queue.line queue.peer ++ [])
      rw [append_nil]
      exact sound.ordered queue.peer
    · have here := sound.slot sender held
      rw [sound.current sender held] at here
      exact here
  · obtain ⟨peer, last, held, final, recent⟩ := sound.recent opened
    rw [sound.current peer held] at final
    exact ⟨queue.peer, last, rfl, final, recent⟩

/-! ## Steps -/

theorem step_sound {event : VideoEvent} (step : Step queue event queue')
    (flows : queue.Flows event) (sound : Sound queue) : Sound queue' := by
  have settled : Sound { queue with drains := queue.drains - 1 } :=
    { sound with }
  change next queue event = some queue' at step
  cases event with
  | frame keyframe =>
      cases step
      exact sound_deliver sound flows
  | connectionState connected =>
      cases connected with
      | true =>
          cases step
          exact sound_connect sound flows
      | false =>
          cases step
          refine ⟨⟨sound.ordered, sound.current, sound.numbered, sound.kept⟩, sound.slot,
            sound.bare, fun opened => ?_⟩
          cases opened.2.2.1
  | addTrack peer =>
      change (if _ then _ else _) = some queue' at step
      split at step
      · cases step
        cases (flows : peer = queue.peer)
        exact sound_addTrack sound
      · cases step
  | suspend =>
      cases step
      exact sound_suspend sound
  | resume =>
      change (if _ then _ else _) = some queue' at step
      split at step
      · cases step
        exact sound_resumeSuspended sound
      · cases step
  | endRuntime =>
      cases step
      refine ⟨⟨sound.ordered, sound.current, sound.numbered, sound.kept⟩, sound.slot, sound.bare,
        fun opened => ?_⟩
      cases opened.1
  | sent =>
      change (if _ then _ else _) = some queue' at step
      split at step
      · cases step
        exact sound_drain settled
      · cases step
  | sendFailed =>
      change (if _ then _ else _) = some queue' at step
      split at step
      · cases step
        unfold failDrain
        split
        · have woken : Sound
              { queue with drains := queue.drains - 1, videoDrainActive := true } :=
            { sound with }
          exact sound_drain woken
        · exact { settled with }
      · cases step

/-- In a run that flows, each frame handed to `sendFrame` for a peer is a key frame or stands
directly behind the frame that comes before it in the order of the host. -/
theorem run_decodable {events : List VideoEvent} {last : VideoQueue}
    (run : Run (Guarded Step Flows) initial events last) (peer : Nat) :
    Chained (fun frame => frame.keyframe = true) EncodedHostFrame.follows last.delivered
      (last.line peer) := by
  have sound : Sound last := by
    refine run.invariant ?_ initial_sound
    exact fun step sound => step_sound step.1 step.2 sound
  exact sound.ordered peer

/-! ## Sample videos -/

instance (queue : VideoQueue) : Decidable queue.Open :=
  inferInstanceAs (Decidable (_ ∧ _ ∧ _ ∧ _))

instance flowsDecidable (queue : VideoQueue) : (event : VideoEvent) → Decidable (queue.Flows event)
  | .frame false => inferInstanceAs (Decidable (_ → ∀ _, _ = some _ → _ = _))
  | .connectionState true => inferInstanceAs (Decidable (_ → ∀ _, _ = some _ → _ = some _))
  | .addTrack _ => inferInstanceAs (Decidable (_ = _))
  | .frame true | .connectionState false | .suspend | .resume | .endRuntime | .sent
  | .sendFailed => inferInstanceAs (Decidable True)

/-- The second peer waits for a key frame of its own. -/
def sampleResumption : List VideoEvent :=
  [.addTrack 0, .frame true, .connectionState true, .sent, .frame false, .suspend, .resume,
    .addTrack 1, .connectionState true, .sent, .frame false, .frame true]

def sampleResumed : VideoQueue where
  delivered := [⟨0, true⟩, ⟨1, false⟩, ⟨2, false⟩, ⟨3, true⟩]
  peer := 1
  connected := true
  sender := some 1
  closing := false
  suspended := false
  awaitingVideoKeyframe := false
  pendingFrame := none
  preconnectKeyframe := none
  videoDrainActive := true
  drains := 1
  handed := [(0, ⟨0, true⟩), (0, ⟨1, false⟩), (1, ⟨3, true⟩)]

theorem sampleResumption_chained :
    Chained (fun frame => frame.keyframe = true) EncodedHostFrame.follows sampleResumed.delivered
      (sampleResumed.line 0) :=
  @run_decodable sampleResumption sampleResumed (run_guarded_of_execute (by decide +kernel)) 0

/-- The key frame that was kept for the connection is sent without the delta frame that came
behind it, and the next delta frame is sent all the same. -/
theorem sampleKept_unchained :
    ∃ last, Run Step initial
      [.frame true, .frame false, .addTrack 0, .connectionState true, .sent, .frame false] last ∧
      ¬ Chained (fun frame => frame.keyframe = true) EncodedHostFrame.follows last.delivered
        (last.line 0) := by
  refine ⟨_, (run_iff_execute _ _ _ _).mpr rfl, fun chained => ?_⟩
  rcases chained [⟨0, true⟩] ⟨2, false⟩ List.prefix_rfl with key | ⟨before, last, same, next, _⟩
  · cases key
  · have single : before ++ [last] = [] ++ [⟨0, true⟩] := same.symm
    obtain ⟨_, here⟩ := List.append_inj' single rfl
    cases here
    cases next

end VideoQueue

end ExecutionHandoff.WebRtc
