import ExecutionHandoff.Library.LatestSlot
import ExecutionHandoff.WebSocket.ChannelSteps

/-!
# Frames of an open channel

While the channel stays open, its frame loop, its pending frame and its drain
timer are a single sender with a slot for the latest frame: every step of the
channel is one move of that slot or none.
-/

namespace ExecutionHandoff.WebSocket

open Library List

/-- The frame an activity of the frame loop carries, and whether the peer has been given it. -/
def Activity.flight (activity : Activity) : Option (PushedFrame × Bool) :=
  match activity.work, activity.await with
  | .frame current, .beginUse => some (current, false)
  | .frame current, .operation | .frame current, .endUse _ => some (current, true)
  | _, _ => none

def Activity.isFailing (activity : Activity) : Bool :=
  match activity.await with
  | .failing _ => true
  | _ => false

theorem Activity.flight_of_not_frame {work : Work} {await : Await}
    (other : work.isFrame = false) : Activity.flight ⟨work, await⟩ = none := by
  cases work with
  | frame current => cases other
  | _ => rfl

section Histories

def pushedFrames (log : List ChannelFact) : List PushedFrame :=
  log.filterMap fun fact => match fact with
    | .pushed frame => some frame
    | _ => none

def handedFrames (log : List ChannelFact) : List PushedFrame :=
  log.filterMap fun fact => match fact with
    | .handed frame => some frame
    | _ => none

def sentFrames (log : List ChannelFact) : List PushedFrame :=
  log.filterMap fun fact => match fact with
    | .sent frame => some frame
    | _ => none

def droppedFrames (log : List ChannelFact) : List PushedFrame :=
  log.filterMap fun fact => match fact with
    | .dropped frame => some frame
    | _ => none

end Histories

/-- Everything of the channel that has to do with frames. -/
@[ext] structure FrameView where
  flights : List (PushedFrame × Bool)
  sending : Bool
  waiting : Option PushedFrame
  armed : Bool
  pushed : List PushedFrame
  handed : List PushedFrame
  sent : List PushedFrame
  dropped : List PushedFrame
  sentCount : Nat
  droppedCount : Nat
  pushes : Nat
  /-- The failures that wait for the lease's release. -/
  failing : List Activity

namespace FrameView

def slot (view : FrameView) : LatestSlot PushedFrame :=
  ⟨view.flights.head?, view.waiting, view.armed, view.pushed, view.handed, view.sent, view.dropped⟩

/-- The view is that of a reachable slot, counted and numbered. -/
structure Sound (view : FrameView) : Prop where
  single : view.flights = view.flights.head?.toList
  sending : view.sending = view.flights.head?.isSome
  sentCount : view.sentCount = view.sent.length
  droppedCount : view.droppedCount = view.dropped.length
  /-- Later calls have larger numbers. -/
  ordered : view.pushed.Pairwise fun later earlier => earlier.call < later.call
  numbered : ∀ frame ∈ view.pushed, frame.call < view.pushes
  calm : view.failing = []
  reachable : LatestSlot.Reachable view.slot

theorem Sound.idle {view : FrameView} (sound : view.Sound) (still : view.sending = false) :
    view.flights = [] := by
  have sending := sound.sending
  have single := sound.single
  cases head : view.flights.head? with
  | none => rw [single, head]; rfl
  | some flight => simp [head, still] at sending

theorem Sound.busy {view : FrameView} (sound : view.Sound) {flight : PushedFrame × Bool}
    (mem : flight ∈ view.flights) :
    view.flights = [flight] ∧ view.sending = true := by
  have single := sound.single
  cases head : view.flights.head? with
  | none =>
      rw [single, head] at mem
      cases mem
  | some other =>
      rw [single, head] at mem
      have same : flight = other := mem_singleton.mp mem
      subst same
      exact ⟨by rw [single, head]; rfl, by rw [sound.sending, head]; rfl⟩

end FrameView

namespace ExperimentalWebSocketTakeoverChannel

variable (channel : ExperimentalWebSocketTakeoverChannel)

def flights : List (PushedFrame × Bool) := channel.activities.filterMap Activity.flight

def frameView : FrameView where
  flights := channel.flights
  sending := channel.frameSending
  waiting := channel.pendingFrame
  armed := channel.drainTimer
  pushed := pushedFrames channel.log
  handed := handedFrames channel.log
  sent := sentFrames channel.log
  dropped := droppedFrames channel.log
  sentCount := channel.sentFramesValue
  droppedCount := channel.droppedFramesValue
  pushes := channel.pushes
  failing := channel.activities.filter Activity.isFailing

end ExperimentalWebSocketTakeoverChannel

/-! ## Moves -/

namespace FrameView

variable {view : FrameView} (sound : view.Sound)
include sound

omit sound in
theorem slot_flight {flight : PushedFrame × Bool} (flying : view.flights = [flight]) :
    view.slot.flight = some flight := by
  simp only [slot, flying, head?_cons]

omit sound in
theorem slot_free (idle : view.flights = []) : view.slot.flight = none := by
  simp only [slot, idle, head?_nil]

theorem Sound.numbered_push (frame : WebSocketTakeoverFrame) :
    ∀ other ∈ ⟨view.pushes, frame⟩ :: view.pushed, other.call < view.pushes + 1 := by
  intro other mem
  rcases mem_cons.mp mem with rfl | mem
  · exact Nat.lt_succ_self _
  · exact Nat.lt_succ_of_lt (sound.numbered other mem)

/-- What waits is dropped for the new frame. -/
theorem Sound.droppedCount_push : view.droppedCount + view.waiting.toList.length =
    (view.waiting.toList ++ view.dropped).length := by
  have counted := sound.droppedCount
  rw [length_append]
  omega

/-- A new frame is parked. -/
theorem Sound.park (frame : WebSocketTakeoverFrame) :
    Sound
      { view with
        waiting := some ⟨view.pushes, frame⟩
        armed := true
        pushed := ⟨view.pushes, frame⟩ :: view.pushed
        dropped := view.waiting.toList ++ view.dropped
        droppedCount := view.droppedCount + view.waiting.toList.length
        pushes := view.pushes + 1 } :=
  { sound with
    droppedCount := sound.droppedCount_push
    ordered := pairwise_cons.mpr ⟨sound.numbered, sound.ordered⟩
    numbered := sound.numbered_push frame
    reachable := sound.reachable.tail (.park view.slot ⟨view.pushes, frame⟩) }

/-- A new frame is taken at once. -/
theorem Sound.launch (frame : WebSocketTakeoverFrame) (idle : view.flights = []) :
    Sound
      { view with
        flights := [(⟨view.pushes, frame⟩, false)]
        sending := true
        waiting := none
        pushed := ⟨view.pushes, frame⟩ :: view.pushed
        dropped := view.waiting.toList ++ view.dropped
        droppedCount := view.droppedCount + view.waiting.toList.length
        pushes := view.pushes + 1 } :=
  { sound with
    single := rfl
    sending := rfl
    droppedCount := sound.droppedCount_push
    ordered := pairwise_cons.mpr ⟨sound.numbered, sound.ordered⟩
    numbered := sound.numbered_push frame
    reachable := sound.reachable.tail (.launch view.slot ⟨view.pushes, frame⟩ (slot_free idle)) }

/-- The frame under way is handed to the peer. -/
theorem Sound.hand (current : PushedFrame) (flying : view.flights = [(current, false)]) :
    Sound { view with flights := [(current, true)], handed := current :: view.handed } :=
  { sound with
    single := rfl
    sending := by
      have sending := sound.sending
      rw [flying] at sending
      exact sending
    reachable := sound.reachable.tail (.hand view.slot current (slot_flight flying)) }

/-- The frame under way has been sent, and what waits is left to the timer. -/
theorem Sound.land (current : PushedFrame) (armed : Bool) (flying : view.flights = [(current, true)])
    (covered : view.waiting.isSome → armed = true) :
    Sound
      { view with
        flights := []
        sending := false
        armed
        sent := current :: view.sent
        sentCount := view.sentCount + 1 } :=
  { sound with
    single := rfl
    sending := rfl
    sentCount := congrArg Nat.succ sound.sentCount
    reachable := sound.reachable.tail (.land view.slot current armed (slot_flight flying) covered) }

/-- The frame under way has been sent, and the waiting one is taken. -/
theorem Sound.advance (current next : PushedFrame) (flying : view.flights = [(current, true)])
    (waiting : view.waiting = some next) :
    Sound
      { view with
        flights := [(next, false)]
        waiting := none
        sent := current :: view.sent
        sentCount := view.sentCount + 1 } :=
  { sound with
    single := rfl
    sending := by
      have sending := sound.sending
      rw [flying] at sending
      exact sending
    sentCount := congrArg Nat.succ sound.sentCount
    reachable :=
      sound.reachable.tail (.advance view.slot current next (slot_flight flying) waiting) }

/-- The timer is armed or runs out without need. -/
theorem Sound.arm (armed : Bool)
    (covered : view.waiting.isSome → view.flights.head?.isSome ∨ armed = true) :
    Sound { view with armed } :=
  { sound with reachable := sound.reachable.tail (.arm view.slot armed covered) }

/-- The timer runs out and the waiting frame is taken. -/
theorem Sound.wake (frame : PushedFrame) (idle : view.flights = [])
    (waiting : view.waiting = some frame) :
    Sound
      { view with
        flights := [(frame, false)]
        sending := true
        waiting := none
        armed := false } :=
  { sound with
    single := rfl
    sending := rfl
    reachable := sound.reachable.tail (.wake view.slot frame (slot_free idle) waiting) }

end FrameView

/-! ## What the functions of the channel do to its frames -/

namespace ExperimentalWebSocketTakeoverChannel

variable {config : WebSocketChannelConfig} {channel : ExperimentalWebSocketTakeoverChannel}

theorem await_frameView {work : Work} {await : Await} (other : work.isFrame = false)
    (quiet : Activity.isFailing ⟨work, await⟩ = false) :
    (channel.await work await).frameView = channel.frameView := by
  ext1 <;> try rfl
  · simp only [frameView, flights, ExperimentalWebSocketTakeoverChannel.await,
      filterMap_cons, Activity.flight_of_not_frame other]
  · simp only [frameView, ExperimentalWebSocketTakeoverChannel.await, filter_cons, quiet,
      Bool.false_eq_true, if_false]

theorem dropPending_frameView (channel : ExperimentalWebSocketTakeoverChannel) :
    channel.dropPending.frameView =
      { channel.frameView with
        waiting := none
        dropped := channel.pendingFrame.toList ++ droppedFrames channel.log
        droppedCount := channel.droppedFramesValue + channel.pendingFrame.toList.length } := by
  unfold dropPending
  cases waiting : channel.pendingFrame with
  | none => simp only [frameView, waiting, Option.toList_none, nil_append, length_nil,
      Nat.add_zero]
  | some frame => rfl

/-- A frame that has to wait replaces the waiting one, and the timer is armed. -/
theorem parked_frameView {frame : PushedFrame} (opened : channel.stateValue = .open) :
    (channel.replacePendingFrame frame).scheduleDrain.frameView =
      { channel.frameView with
        waiting := some frame
        armed := true
        dropped := channel.pendingFrame.toList ++ droppedFrames channel.log
        droppedCount := channel.droppedFramesValue + channel.pendingFrame.toList.length } := by
  have dropped := channel.dropPending_frameView
  unfold scheduleDrain
  split
  · rename_i armed
    rcases armed with armed | closed
    · have timer : channel.dropPending.drainTimer = true := armed
      change { channel.dropPending.frameView with waiting := some frame } = _
      have same : channel.dropPending.frameView =
          { channel.dropPending.frameView with armed := true } := by
        ext1 <;> first | rfl | exact timer
      rw [same, dropped]
    · exact absurd (by simpa using opened) closed
  · change { channel.dropPending.frameView with waiting := some frame, armed := true } = _
    rw [dropped]

/-- The frame loop with a frame, while no other waits: the frame is under way or is parked. -/
theorem sendFrameLoop_frameView {frame : PushedFrame} (free : channel.pendingFrame = none)
    (opened : (channel.sendFrameLoop config (some frame)).stateValue = .open) :
    (channel.sendFrameLoop config (some frame)).frameView =
        { channel.frameView with flights := (frame, false) :: channel.flights } ∨
      (channel.sendFrameLoop config (some frame)).frameView =
        { channel.frameView with sending := false, waiting := some frame, armed := true } := by
  have live := sendFrameLoop_opened opened
  unfold sendFrameLoop at opened ⊢
  dsimp only at opened ⊢
  rw [if_neg (not_not.mpr live)] at opened ⊢
  split
  · rename_i failed
    simp only [failed] at opened
    exact absurd opened (failClosed_closes _ _)
  · right
    have parked := @parked_frameView channel.ticked frame live
    change { (channel.ticked.replacePendingFrame frame).scheduleDrain.frameView with
      sending := false } = _
    rw [parked]
    simp only [ticked, free, Option.toList_none, nil_append, length_nil, Nat.add_zero]
    rfl
  · exact .inl rfl

@[simp] theorem dropPending_pendingFrame (channel : ExperimentalWebSocketTakeoverChannel) :
    channel.dropPending.pendingFrame = none := by
  unfold dropPending
  cases waiting : channel.pendingFrame with
  | none => exact waiting
  | some frame => rfl

/-! ## Pushes and timers -/

/-- A valid frame is parked, or taken at once by an idle loop. -/
theorem acceptFrame_frameView {frame : PushedFrame}
    (opened : (channel.acceptFrame config frame).stateValue = .open) :
    (channel.acceptFrame config frame).frameView =
        { channel.frameView with
          waiting := some frame
          armed := true
          dropped := channel.pendingFrame.toList ++ droppedFrames channel.log
          droppedCount := channel.droppedFramesValue + channel.pendingFrame.toList.length } ∨
      channel.frameSending = false ∧
        (channel.acceptFrame config frame).frameView =
          { channel.frameView with
            flights := (frame, false) :: channel.flights
            sending := true
            waiting := none
            dropped := channel.pendingFrame.toList ++ droppedFrames channel.log
            droppedCount := channel.droppedFramesValue + channel.pendingFrame.toList.length } := by
  have live := acceptFrame_opened opened
  unfold acceptFrame at opened ⊢
  split
  · exact .inl (parked_frameView live)
  rename_i still
  have idle : channel.frameSending = false := by simpa using still
  rw [if_neg still] at opened
  split
  · rename_i failed
    simp only [failed] at opened
    exact absurd opened (failClosed_closes _ _)
  · exact .inl (@parked_frameView channel.ticked _ live)
  · rename_i clear
    simp only [clear] at opened
    have dropped := channel.ticked.dropPending_frameView
    obtain under | parked := @sendFrameLoop_frameView config
      { channel.ticked.dropPending with frameSending := true } _
      channel.ticked.dropPending_pendingFrame opened
    · right
      refine ⟨idle, under.trans ?_⟩
      change { channel.ticked.dropPending.frameView with
        flights := (frame, false) :: channel.ticked.dropPending.frameView.flights
        sending := true } = _
      rw [dropped]
      rfl
    · left
      refine parked.trans ?_
      change { channel.ticked.dropPending.frameView with
        sending := false, waiting := some frame, armed := true } = _
      rw [dropped, ← idle]
      rfl

theorem pushFrame_sound {frame : WebSocketTakeoverFrame}
    (opened : (channel.pushFrame config frame).stateValue = .open)
    (sound : channel.frameView.Sound) : (channel.pushFrame config frame).frameView.Sound := by
  have live := pushFrame_opened opened
  unfold pushFrame at opened ⊢
  dsimp only at opened ⊢
  rw [if_neg (not_not.mpr live)] at opened ⊢
  split
  · rename_i invalid
    rw [if_pos invalid] at opened
    exact absurd opened (failClosed_closes _ _)
  · rename_i valid
    rw [if_neg valid] at opened
    obtain parked | ⟨idle, taken⟩ := acceptFrame_frameView opened
    · rw [parked]
      exact sound.park frame
    · have flying : channel.flights = [] := sound.idle idle
      rw [taken]
      have launched := sound.launch frame flying
      rw [← flying] at launched
      exact launched

/-- The timer finds nothing to do, is armed again, or hands the waiting frame to an idle loop. -/
theorem flushPendingFrame_frameView
    (opened : (channel.flushPendingFrame config).stateValue = .open) :
    (channel.pendingFrame = none ∨ channel.frameSending = true) ∧
        channel.flushPendingFrame config = channel ∨
      (channel.flushPendingFrame config).frameView = { channel.frameView with armed := true } ∨
      ∃ frame, channel.frameSending = false ∧ channel.pendingFrame = some frame ∧
        (channel.flushPendingFrame config).frameView =
          { channel.frameView with
            flights := (frame, false) :: channel.flights
            sending := true
            waiting := none } := by
  have live := flushPendingFrame_opened opened
  unfold flushPendingFrame at opened ⊢
  cases waiting : channel.pendingFrame with
  | none => exact .inl ⟨.inl rfl, rfl⟩
  | some frame =>
      simp only [waiting] at opened ⊢
      split
      · rename_i busy
        exact .inl ⟨.inr (busy.resolve_left (not_not.mpr live)), rfl⟩
      rename_i still
      rw [if_neg still] at opened
      have idle : channel.frameSending = false := by
        simpa using fun sending => still (.inr sending)
      right
      split
      · rename_i failed
        simp only [failed] at opened
        exact absurd opened (failClosed_closes _ _)
      · left
        unfold scheduleDrain
        split
        · rename_i armed
          have timer : channel.drainTimer = true := armed.resolve_right (not_not.mpr live)
          ext1 <;> first | rfl | exact timer
        · rfl
      · rename_i clear
        simp only [clear] at opened
        obtain under | parked := @sendFrameLoop_frameView config
          { channel.ticked with pendingFrame := none, frameSending := true } _ rfl opened
        · exact .inr ⟨frame, idle, rfl, under⟩
        · left
          refine parked.trans ?_
          ext1 <;> first | rfl | exact idle.symm | exact waiting.symm

theorem drain_sound
    (opened : ({ channel with drainTimer := false }.flushPendingFrame config).stateValue = .open)
    (sound : channel.frameView.Sound) :
    ({ channel with drainTimer := false }.flushPendingFrame config).frameView.Sound := by
  obtain ⟨idle, same⟩ | armed | ⟨frame, still, waiting, woken⟩ := flushPendingFrame_frameView opened
  · rw [same]
    apply sound.arm false
    intro waits
    obtain empty | sending := idle
    · have absent : channel.pendingFrame = none := empty
      simp [frameView, absent] at waits
    · exact .inl (sound.sending.symm.trans sending)
  · rw [armed]
    exact sound.arm true fun _ => .inr rfl
  · have flying : channel.flights = [] := sound.idle still
    have taken := sound.wake frame flying waiting
    rw [woken]
    rw [← flying] at taken
    exact taken

/-! ## The frame loop -/

theorem erase_flights {activities : List Activity} {activity : Activity}
    (unladen : activity.flight = none) :
    (activities.erase activity).filterMap Activity.flight = activities.filterMap Activity.flight := by
  induction activities with
  | nil => rfl
  | cons first rest ih =>
      by_cases same : first = activity
      · subst same
        rw [erase_cons_head, filterMap_cons_none unladen]
      · rw [erase_cons_tail (by simpa using same), filterMap_cons, filterMap_cons, ih]

theorem erase_failing {activities : List Activity} {activity : Activity}
    (calm : activities.filter Activity.isFailing = []) :
    (activities.erase activity).filter Activity.isFailing = [] := by
  rw [filter_eq_nil_iff] at calm ⊢
  exact fun other mem => calm other (mem_of_mem_erase mem)

variable {activity : Activity}

/-- An activity that carries no frame is taken off. -/
theorem erase_frameView (sound : channel.frameView.Sound) (unladen : activity.flight = none) :
    { channel with activities := channel.activities.erase activity }.frameView =
      channel.frameView := by
  ext1 <;> try rfl
  · exact erase_flights unladen
  · exact (erase_failing sound.calm).trans sound.calm.symm

/-- The activity that carries the frame under way is taken off. -/
theorem erase_flying {flight : PushedFrame × Bool} (sound : channel.frameView.Sound)
    (mem : activity ∈ channel.activities) (carries : activity.flight = some flight) :
    channel.flights = [flight] ∧ channel.frameSending = true ∧
      { channel with activities := channel.activities.erase activity }.frameView =
        { channel.frameView with flights := [] } := by
  have among : flight ∈ channel.flights := mem_filterMap.mpr ⟨activity, mem, carries⟩
  obtain ⟨only, sending⟩ := sound.busy among
  refine ⟨only, sending, ?_⟩
  ext1 <;> try rfl
  · have moved := (perm_cons_erase mem).filterMap Activity.flight
    rw [filterMap_cons_some carries] at moved
    have flights : channel.activities.filterMap Activity.flight = [flight] := only
    rw [flights] at moved
    exact nil_perm.mp moved.cons_inv
  · exact (erase_failing sound.calm).trans sound.calm.symm

theorem operate_frameView {work : Work} (other : work.isFrame = false) :
    (channel.operate work).frameView = channel.frameView := by
  cases work with
  | frame current => cases other
  | input call input =>
      simp only [operate]
      split
      · exact await_frameView rfl rfl
      · exact (await_frameView rfl rfl).trans rfl
  | start => exact (await_frameView rfl rfl).trans rfl
  | ping nonce => exact (await_frameView rfl rfl).trans rfl
  | done | disconnect | revoke | refuse | push => exact await_frameView rfl rfl

/-- A frame was sent, with the loop's activity taken off: the loop ends or goes on. -/
theorem useSucceeded_sound {current : PushedFrame} {resumed : ExperimentalWebSocketTakeoverChannel}
    (flying : channel.flights = [(current, true)])
    (view : resumed.frameView = { channel.frameView with flights := [] })
    (opened : (resumed.useSucceeded config (.frame current)).stateValue = .open)
    (sound : channel.frameView.Sound) :
    (resumed.useSucceeded config (.frame current)).frameView.Sound := by
  have pending : resumed.pendingFrame = channel.pendingFrame := congrArg FrameView.waiting view
  have noted : (resumed.noteSent current).frameView =
      { channel.frameView with
        flights := []
        waiting := none
        sent := current :: channel.frameView.sent
        sentCount := channel.frameView.sentCount + 1 } := by
    change { resumed.frameView with
      waiting := none
      sent := current :: resumed.frameView.sent
      sentCount := resumed.frameView.sentCount + 1 } = _
    rw [view]
  have unladen : (resumed.noteSent current).flights = [] := congrArg FrameView.flights noted
  simp only [useSucceeded] at opened ⊢
  cases waiting : channel.pendingFrame with
  | none =>
      rw [pending, waiting]
      have landed := sound.land current channel.drainTimer flying fun waits => by
        simp [frameView, waiting] at waits
      change { (resumed.noteSent current).frameView with sending := false }.Sound
      rw [noted]
      have same : channel.frameView = { channel.frameView with waiting := none } := by
        ext1 <;> first | rfl | exact waiting
      rw [same] at landed
      exact landed
  | some next =>
      rw [pending, waiting] at opened ⊢
      obtain under | parked := sendFrameLoop_frameView rfl opened
      · rw [under, noted, unladen]
        exact sound.advance current next flying waiting
      · rw [parked, noted]
        have landed := sound.land current true flying fun _ => rfl
        have same : channel.frameView = { channel.frameView with waiting := some next } := by
          ext1 <;> first | rfl | exact waiting
        rw [same] at landed
        exact landed

/-! ## Steps -/

theorem not_failing (sound : channel.frameView.Sound) {work : Work}
    {failure : WebSocketTakeoverFailureCode} : ⟨work, .failing failure⟩ ∉ channel.activities := by
  intro mem
  have calm : channel.activities.filter Activity.isFailing = [] := sound.calm
  have among := mem_filter_of_mem mem (p := Activity.isFailing) rfl
  rw [calm] at among
  cases among

/-- An activity of the frame loop settles. -/
theorem settle_frame_sound {current : PushedFrame} {await : Await} {outcome : Settled}
    (mem : ⟨.frame current, await⟩ ∈ channel.activities)
    (opened : (channel.settle config ⟨.frame current, await⟩ outcome).stateValue = .open)
    (sound : channel.frameView.Sound) :
    (channel.settle config ⟨.frame current, await⟩ outcome).frameView.Sound := by
  cases await with
  | beginUse =>
      cases outcome with
      | fulfilled =>
          obtain ⟨flying, _, view⟩ := erase_flying sound mem rfl
          have handed := sound.hand current flying
          simp only [settle, operate]
          change { ({ channel with
              activities := channel.activities.erase ⟨.frame current, .beginUse⟩ }).frameView with
            flights := (current, true) ::
              ({ channel with
                activities := channel.activities.erase ⟨.frame current, .beginUse⟩ }).frameView.flights
            handed := current :: handedFrames channel.log }.Sound
          rw [view]
          exact handed
      | rejected _ => exact absurd opened (failClosed_closes _ _)
  | operation =>
      obtain ⟨flying, _, view⟩ := erase_flying sound mem rfl
      simp only [settle, noteSettled]
      change { ({ channel with
          activities := channel.activities.erase ⟨.frame current, .operation⟩ }).frameView with
        flights := (current, true) ::
          ({ channel with
            activities := channel.activities.erase ⟨.frame current, .operation⟩ }).frameView.flights
        failing := ({ channel with
          activities := channel.activities.erase ⟨.frame current, .operation⟩ }).frameView.failing
          }.Sound
      rw [view]
      have same : channel.frameView = { channel.frameView with flights := [(current, true)] } := by
        ext1 <;> first | rfl | exact flying
      rw [same] at sound
      exact sound
  | endUse thrown =>
      cases outcome with
      | fulfilled =>
          obtain ⟨flying, _, view⟩ := erase_flying sound mem rfl
          cases thrown with
          | none => exact useSucceeded_sound flying view opened sound
          | some thrown => exact absurd (useThrew_opened opened).2 (by simp [Work.isFrame])
      | rejected _ => cases thrown <;> exact absurd opened (failClosed_closes _ _)
  | complete =>
      cases outcome with
      | fulfilled => cases opened
      | rejected _ => exact absurd opened (failClosed_closes _ _)
  | release =>
      obtain ⟨_, rfl⟩ := afterRelease_opened opened
      have view := @erase_frameView channel ⟨.frame current, .release⟩ sound rfl
      rw [← view] at sound
      exact sound
  | failing failure => exact absurd mem (not_failing sound)

/-- Any other activity settles; it touches no frame. -/
theorem settle_other_sound {work : Work} {await : Await} {outcome : Settled}
    (mem : ⟨work, await⟩ ∈ channel.activities) (other : work.isFrame = false)
    (opened : (channel.settle config ⟨work, await⟩ outcome).stateValue = .open)
    (sound : channel.frameView.Sound) :
    (channel.settle config ⟨work, await⟩ outcome).frameView.Sound := by
  have view := erase_frameView sound (@Activity.flight_of_not_frame work await other)
  have resumed : ({ channel with activities := channel.activities.erase ⟨work, await⟩ } :
      ExperimentalWebSocketTakeoverChannel).frameView.Sound := by rwa [view]
  cases await with
  | beginUse =>
      cases outcome with
      | fulfilled =>
          simp only [settle]
          rwa [operate_frameView other]
      | rejected _ => exact absurd opened (failClosed_closes _ _)
  | operation =>
      simp only [settle]
      rw [await_frameView other rfl]
      cases work <;> exact resumed
  | endUse thrown =>
      cases outcome with
      | fulfilled =>
          cases thrown with
          | none => cases work <;> first | exact resumed | cases other
          | some thrown =>
              simp only [settle]
              rw [(useThrew_opened opened).1]
              cases work <;> first | exact resumed | cases other
      | rejected _ => cases thrown <;> exact absurd opened (failClosed_closes _ _)
  | complete =>
      cases outcome with
      | fulfilled => cases opened
      | rejected _ => exact absurd opened (failClosed_closes _ _)
  | release =>
      obtain ⟨_, rfl⟩ := afterRelease_opened opened
      cases work <;> exact resumed
  | failing failure => exact absurd mem (not_failing sound)

theorem takeMessage_sound {call : Nat} {raw : String}
    (opened : (channel.takeMessage config call raw).stateValue = .open)
    (sound : channel.frameView.Sound) :
    (channel.takeMessage config call raw).frameView.Sound := by
  unfold takeMessage at opened ⊢
  dsimp only at opened ⊢
  split
  · exact sound
  rename_i live
  rw [if_neg live] at opened
  split
  · rename_i failed
    simp only [failed] at opened
    exact absurd opened (failClosed_closes _ _)
  · exact sound
  · exact sound
  · rwa [runBoundUse, await_frameView rfl rfl]
  · rename_i done
    simp only [done] at opened
    rw [complete_opened opened]
    exact sound
  · rwa [runBoundUse, await_frameView rfl rfl]

theorem receiveText_frameView (raw : String) :
    (channel.receiveText config raw).frameView = channel.frameView := by
  unfold receiveText reserveQueuedInbound
  dsimp only
  split
  · rfl
  split
  · rfl
  split
  · rfl
  · rename_i reserved
    split at reserved
    · cases reserved
    · cases reserved
      rfl

/-- A step between open channels keeps the frames in order. -/
theorem Step.sound {after : ExperimentalWebSocketTakeoverChannel} {event : ChannelEvent}
    (step : Step config channel event after) (opened : after.stateValue = .open)
    (sound : channel.frameView.Sound) : after.frameView.Sound := by
  have moved : next config channel event = some after := step
  cases event with
  | start =>
      cases moved
      unfold start
      split
      · exact sound
      · rwa [runBoundUse, await_frameView rfl rfl]
  | receiveText raw =>
      cases moved
      rwa [receiveText_frameView]
  | pushFrame frame =>
      cases moved
      exact pushFrame_sound opened sound
  | disconnect =>
      cases moved
      exact sound
  | revoke =>
      cases moved
      exact sound
  | operation =>
      unfold next at moved
      dsimp only at moved
      split at moved
      · cases moved
      split at moved
      · cases moved
      rename_i operation rest tail _
      cases moved
      cases operation with
      | refuse error => exact absurd opened (failClosed_closes _ _)
      | message call raw =>
          exact @takeMessage_sound config { channel with operationTail := rest } _ _ opened sound
      | disconnect => exact absurd opened runDisconnect_closes
      | revoke => exact absurd opened runRevoke_closes
  | drain =>
      unfold next at moved
      dsimp only at moved
      split at moved
      · cases moved
        exact drain_sound opened sound
      · cases moved
  | settle activity outcome =>
      unfold next at moved
      dsimp only at moved
      split at moved
      · rename_i mem
        cases moved
        obtain ⟨work, await⟩ := activity
        cases frame : work.isFrame with
        | true =>
            cases work with
            | frame current => exact settle_frame_sound mem opened sound
            | _ => cases frame
        | false => exact settle_other_sound mem frame opened sound
      · cases moved

theorem initial_sound : initial.frameView.Sound where
  single := rfl
  sending := rfl
  sentCount := rfl
  droppedCount := rfl
  ordered := List.Pairwise.nil
  numbered := by simp [frameView, initial, pushedFrames]
  calm := rfl
  reachable := Relation.ReflTransGen.refl

/-- The frames of an open channel are those of a reachable slot. -/
theorem run_frameView {events : List ChannelEvent}
    (run : Run (Step config) initial events channel) (opened : channel.stateValue = .open) :
    channel.frameView.Sound := by
  have stays {first : ExperimentalWebSocketTakeoverChannel} {event : ChannelEvent}
      {last : ExperimentalWebSocketTakeoverChannel} (step : Step config first event last)
      (sound : first.stateValue = .open → first.frameView.Sound) :
      last.stateValue = .open → last.frameView.Sound :=
    fun opened => Step.sound step opened (sound (Step.opened step opened))
  exact run.invariant stays (fun _ => initial_sound) opened

/-- The frames of the sends that are under way. -/
def inFlight (channel : ExperimentalWebSocketTakeoverChannel) : List PushedFrame :=
  channel.flights.map Prod.fst

/-- What becomes of the frames pushed into a channel. -/
structure Delivered (channel : ExperimentalWebSocketTakeoverChannel) : Prop where
  /-- The histories have the newest frame first, and later calls have larger numbers. -/
  pushes : (pushedFrames channel.log).Pairwise fun later earlier => earlier.call < later.call
  inOrder : (handedFrames channel.log).Sublist (pushedFrames channel.log)
  single : channel.inFlight.length ≤ 1
  /-- Each frame handed to the peer has been sent or is the one in flight. -/
  handed : ∃ rest, rest.Sublist channel.inFlight ∧
    handedFrames channel.log = rest ++ sentFrames channel.log
  oneFate : (pushedFrames channel.log).Perm (sentFrames channel.log ++
    (droppedFrames channel.log ++ (channel.inFlight ++ channel.pendingFrame.toList)))
  sentCounted : channel.sentFramesValue = (sentFrames channel.log).length
  droppedCounted : channel.droppedFramesValue = (droppedFrames channel.log).length
  notStranded : channel.pendingFrame.isSome → channel.inFlight ≠ [] ∨ channel.drainTimer = true

theorem delivered_of_sound {channel : ExperimentalWebSocketTakeoverChannel}
    (sound : channel.frameView.Sound) : Delivered channel := by
  have slot := sound.reachable.sound
  have single : channel.flights = channel.flights.head?.toList := sound.single
  have inFlight : channel.inFlight = channel.frameView.slot.flying := by
    simp only [inFlight, LatestSlot.flying, FrameView.slot, frameView]
    rw [single]
    cases channel.flights.head? <;> rfl
  refine
    { pushes := sound.ordered
      inOrder := slot.inOrder
      single := by rw [inFlight]; exact LatestSlot.flying_length_le _
      handed := ⟨_, by rw [inFlight]; exact LatestSlot.carried_sublist_flying _, slot.single⟩
      oneFate := by rw [inFlight]; exact slot.account
      sentCounted := sound.sentCount
      droppedCounted := sound.droppedCount
      notStranded := fun waits => ?_ }
  obtain flying | armed := slot.covered waits
  · left
    rw [inFlight, LatestSlot.flying]
    obtain ⟨flight, found⟩ := Option.isSome_iff_exists.mp flying
    simp [found]
  · exact .inr armed

/-- While a channel stays open, whatever the order of pushes, sends, backpressure and timers, its
frames go out in order, one at a time, and none is lost without being counted. -/
theorem run_frames_delivered (config : WebSocketChannelConfig)
    {channel : ExperimentalWebSocketTakeoverChannel} {events : List ChannelEvent}
    (run : Run (Step config) initial events channel) (opened : channel.stateValue = .open) :
    Delivered channel :=
  delivered_of_sound (run_frameView run opened)

/-- The first frame is sent, the second is dropped for the third, which is then under way. -/
def samplePushes : List ChannelEvent :=
  let first : Work := .frame ⟨0, sampleFrame⟩
  [.pushFrame sampleFrame, .settle ⟨first, .beginUse⟩ .fulfilled, .pushFrame sampleFrame,
    .pushFrame sampleFrame, .drain, .settle ⟨first, .operation⟩ .fulfilled,
    .settle ⟨first, .endUse none⟩ .fulfilled]

def samplePushed : ExperimentalWebSocketTakeoverChannel :=
  (execute (next sampleConfig) initial samplePushes).getD initial

theorem samplePushed_delivered :
    Delivered samplePushed ∧ samplePushed.sentFramesValue = 1 ∧
      samplePushed.droppedFramesValue = 1 ∧ samplePushed.inFlight = [⟨2, sampleFrame⟩] := by
  have run : Run (Step sampleConfig) initial samplePushes samplePushed :=
    (run_iff_execute _ _ _ _).mpr (by decide)
  exact ⟨run_frames_delivered sampleConfig run (by decide), by decide⟩

end ExperimentalWebSocketTakeoverChannel

end ExecutionHandoff.WebSocket
