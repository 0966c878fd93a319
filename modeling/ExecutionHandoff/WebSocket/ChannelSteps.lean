import ExecutionHandoff.WebSocket.Channel

/-!
# Steps of the channel

A channel that is not open never opens again, so what holds of the open
channels of a run is kept by the steps between open channels.
-/

namespace ExecutionHandoff.WebSocket.ExperimentalWebSocketTakeoverChannel

open Library List

variable {config : WebSocketChannelConfig} {channel : ExperimentalWebSocketTakeoverChannel}

section StateValue

variable (channel)

@[simp] theorem record_stateValue (fact : ChannelFact) :
    (channel.record fact).stateValue = channel.stateValue :=
  rfl

@[simp] theorem await_stateValue (work : Work) (await : Await) :
    (channel.await work await).stateValue = channel.stateValue :=
  rfl

@[simp] theorem finish_stateValue (work : Work) :
    (channel.finish work).stateValue = channel.stateValue := by
  cases work <;> rfl

@[simp] theorem ticked_stateValue : channel.ticked.stateValue = channel.stateValue := rfl

@[simp] theorem noteReleased_stateValue : channel.noteReleased.stateValue = channel.stateValue := rfl

@[simp] theorem recordReleaseFailure_stateValue :
    channel.recordReleaseFailure.stateValue = .failed :=
  rfl

@[simp] theorem reportFailure_stateValue (failure : WebSocketTakeoverFailureCode) :
    (channel.reportFailure failure).stateValue = channel.stateValue :=
  rfl

@[simp] theorem fail_stateValue (code : WebSocketTakeoverFailureCode) :
    (channel.fail code).stateValue = .failed :=
  rfl

@[simp] theorem leave_stateValue (state : WebSocketTakeoverState) :
    (channel.leave state).stateValue = state :=
  rfl

@[simp] theorem dropPending_stateValue : channel.dropPending.stateValue = channel.stateValue := by
  unfold dropPending
  split <;> rfl

@[simp] theorem replacePendingFrame_stateValue (frame : PushedFrame) :
    (channel.replacePendingFrame frame).stateValue = channel.stateValue :=
  channel.dropPending_stateValue

@[simp] theorem scheduleDrain_stateValue : channel.scheduleDrain.stateValue = channel.stateValue := by
  unfold scheduleDrain
  split <;> rfl

@[simp] theorem noteSettled_stateValue (work : Work) :
    (channel.noteSettled work).stateValue = channel.stateValue := by
  cases work <;> rfl

@[simp] theorem operate_stateValue (work : Work) :
    (channel.operate work).stateValue = channel.stateValue := by
  cases work with
  | input call input =>
      simp only [operate]
      split <;> rfl
  | _ => rfl

end StateValue

/-! ## Leaving the open state -/

theorem failClosed_closes (work : Work) (code : WebSocketTakeoverFailureCode) :
    (channel.failClosed work code).stateValue ≠ .open := by
  unfold failClosed
  cases state : channel.stateValue with
  | «open» | closing =>
      dsimp only
      split <;> simp
  | closed | revoked | failed => simp [state]

theorem runDisconnect_closes : channel.runDisconnect.stateValue ≠ .open := by
  unfold runDisconnect
  split
  · rename_i settled
    intro opened
    simp [ExperimentalWebSocketTakeoverChannel.settled, opened] at settled
  split <;> simp

theorem runRevoke_closes : channel.runRevoke.stateValue ≠ .open := by
  unfold runRevoke
  split
  · rename_i settled
    intro opened
    simp [ExperimentalWebSocketTakeoverChannel.settled, opened] at settled
  split <;> simp [safeClose]

theorem complete_opened (opened : channel.complete.stateValue = .open) :
    channel.complete = channel := by
  unfold complete at opened ⊢
  split
  · rfl
  · rename_i live
    rw [if_neg live] at opened
    cases opened

theorem afterRelease_opened {work : Work} {outcome : Settled}
    (opened : (channel.afterRelease work outcome).stateValue = .open) :
    channel.stateValue = .open ∧ outcome = .fulfilled := by
  cases outcome with
  | fulfilled => exact ⟨by cases work <;> exact opened, rfl⟩
  | rejected thrown => cases opened

theorem afterFailing_opened {work : Work} {failure : WebSocketTakeoverFailureCode}
    {outcome : Settled} (opened : (channel.afterFailing work failure outcome).stateValue = .open) :
    channel.stateValue = .open ∧ outcome = .fulfilled := by
  cases outcome with
  | fulfilled =>
      simp only [afterFailing, finish_stateValue, reportFailure_stateValue,
        noteReleased_stateValue] at opened
      exact ⟨opened, rfl⟩
  | rejected thrown => simp [afterFailing] at opened

theorem sendFrameLoop_opened {current : Option PushedFrame}
    (opened : (channel.sendFrameLoop config current).stateValue = .open) :
    channel.stateValue = .open := by
  unfold sendFrameLoop at opened
  split at opened
  · exact opened
  split at opened
  · exact opened
  · rename_i frame live
    exact not_not.mp live

theorem acceptFrame_opened {frame : PushedFrame}
    (opened : (channel.acceptFrame config frame).stateValue = .open) :
    channel.stateValue = .open := by
  unfold acceptFrame at opened
  split at opened
  · simpa using opened
  split at opened
  · exact absurd opened (failClosed_closes _ _)
  · simpa using opened
  · simpa using sendFrameLoop_opened opened

theorem pushFrame_opened {frame : WebSocketTakeoverFrame}
    (opened : (channel.pushFrame config frame).stateValue = .open) : channel.stateValue = .open := by
  unfold pushFrame at opened
  split at opened
  · exact opened
  · rename_i live
    exact not_not.mp live

theorem flushPendingFrame_opened (opened : (channel.flushPendingFrame config).stateValue = .open) :
    channel.stateValue = .open := by
  unfold flushPendingFrame at opened
  split at opened
  · exact opened
  split at opened
  · exact opened
  · rename_i frame waiting live
    exact not_not.mp fun closed => live (.inl closed)

theorem useSucceeded_opened {work : Work}
    (opened : (channel.useSucceeded config work).stateValue = .open) :
    channel.stateValue = .open := by
  unfold useSucceeded at opened
  split at opened
  · have live := sendFrameLoop_opened opened
    exact live
  · simpa using opened

/-- A bound use that throws leaves the channel open only when it is not the frame loop's and the
error is recoverable. -/
theorem useThrew_opened {work : Work} {thrown : Thrown}
    (opened : (channel.useThrew work thrown).stateValue = .open) :
    channel.useThrew work thrown = channel.finish work ∧ work.isFrame = false := by
  unfold useThrew at opened ⊢
  split
  · rename_i mild
    exact ⟨rfl, mild.2⟩
  · rename_i grave
    rw [if_neg grave] at opened
    exact absurd opened (failClosed_closes _ _)

theorem takeMessage_opened {call : Nat} {raw : String}
    (opened : (channel.takeMessage config call raw).stateValue = .open) :
    channel.stateValue = .open := by
  unfold takeMessage at opened
  split at opened
  · exact opened
  · rename_i live
    exact not_not.mp fun closed => live (.inl closed)

theorem begin_opened {operation : Operation}
    (opened : (channel.begin config operation).stateValue = .open) : channel.stateValue = .open := by
  cases operation with
  | refuse error => exact absurd opened (failClosed_closes _ _)
  | message call raw => exact takeMessage_opened opened
  | disconnect => exact absurd opened runDisconnect_closes
  | revoke => exact absurd opened runRevoke_closes

theorem settle_opened {activity : Activity} {outcome : Settled}
    (opened : (channel.settle config activity outcome).stateValue = .open) :
    channel.stateValue = .open := by
  obtain ⟨work, await⟩ := activity
  cases await with
  | beginUse =>
      cases outcome with
      | fulfilled => simpa [settle] using opened
      | rejected thrown => exact absurd opened (failClosed_closes _ _)
  | operation => simpa [settle] using opened
  | endUse thrown =>
      cases outcome with
      | fulfilled =>
          cases thrown with
          | none =>
              have live := useSucceeded_opened (by simpa only [settle] using opened)
              exact live
          | some thrown =>
              simp only [settle] at opened
              rw [(useThrew_opened opened).1, finish_stateValue] at opened
              exact opened
      | rejected _ => cases thrown <;> exact absurd opened (failClosed_closes _ _)
  | complete =>
      cases outcome with
      | fulfilled => cases opened
      | rejected thrown => exact absurd opened (failClosed_closes _ _)
  | release => exact (afterRelease_opened opened).1
  | failing failure => exact (afterFailing_opened opened).1

theorem receiveText_stateValue (raw : String) :
    (channel.receiveText config raw).stateValue = channel.stateValue := by
  unfold receiveText reserveQueuedInbound
  dsimp only
  split
  · rfl
  split
  · rfl
  split
  · rfl
  · rename_i reserved
    split at reserved
    · cases reserved
    · cases reserved
      rfl

/-- A step that ends in an open channel starts in one. -/
theorem Step.opened {after : ExperimentalWebSocketTakeoverChannel} {event : ChannelEvent}
    (step : Step config channel event after) (opened : after.stateValue = .open) :
    channel.stateValue = .open := by
  have moved : next config channel event = some after := step
  cases event with
  | start =>
      cases moved
      unfold start at opened
      split at opened <;> exact opened
  | receiveText raw =>
      cases moved
      rwa [receiveText_stateValue] at opened
  | pushFrame frame =>
      cases moved
      exact pushFrame_opened opened
  | disconnect =>
      cases moved
      exact opened
  | revoke =>
      cases moved
      exact opened
  | operation =>
      unfold next at moved
      dsimp only at moved
      split at moved
      · cases moved
      split at moved
      · cases moved
      · cases moved
        exact (begin_opened opened :)
  | drain =>
      unfold next at moved
      dsimp only at moved
      split at moved
      · cases moved
        exact (flushPendingFrame_opened opened :)
      · cases moved
  | settle activity outcome =>
      unfold next at moved
      dsimp only at moved
      split at moved
      · cases moved
        exact settle_opened opened
      · cases moved

/-! ## What frames leave alone -/

/-- The channels differ in what concerns frames only. -/
structure FrameOnly (before after : ExperimentalWebSocketTakeoverChannel) : Prop where
  stateValue : after.stateValue = before.stateValue
  inputAdmissionOpen : after.inputAdmissionOpen = before.inputAdmissionOpen
  operationTail : after.operationTail = before.operationTail
  released : after.released = before.released
  doneStarted : after.doneStarted = before.doneStarted
  lastFailureValue : after.lastFailureValue = before.lastFailureValue
  messages : after.queuedInboundMessagesValue = before.queuedInboundMessagesValue
  bytes : after.queuedInboundBytesValue = before.queuedInboundBytesValue
  receives : after.receives = before.receives
  activities : ∃ added, after.activities = added ++ before.activities ∧
    ∀ activity ∈ added, activity.work.isFrame = true ∧ activity.await = .beginUse
  log : ∃ facts, after.log = facts ++ before.log ∧ ∀ fact ∈ facts, fact.isFrame = true

namespace FrameOnly

variable {before middle after : ExperimentalWebSocketTakeoverChannel}

theorem refl (channel : ExperimentalWebSocketTakeoverChannel) : FrameOnly channel channel :=
  ⟨rfl, rfl, rfl, rfl, rfl, rfl, rfl, rfl, rfl, ⟨[], rfl, by simp⟩, ⟨[], rfl, by simp⟩⟩

theorem trans (first : FrameOnly before middle) (second : FrameOnly middle after) :
    FrameOnly before after where
  stateValue := second.stateValue.trans first.stateValue
  inputAdmissionOpen := second.inputAdmissionOpen.trans first.inputAdmissionOpen
  operationTail := second.operationTail.trans first.operationTail
  released := second.released.trans first.released
  doneStarted := second.doneStarted.trans first.doneStarted
  lastFailureValue := second.lastFailureValue.trans first.lastFailureValue
  messages := second.messages.trans first.messages
  bytes := second.bytes.trans first.bytes
  receives := second.receives.trans first.receives
  activities := by
    obtain ⟨added, same, frames⟩ := first.activities
    obtain ⟨added', same', frames'⟩ := second.activities
    refine ⟨added' ++ added, by rw [same', same, append_assoc], fun activity mem => ?_⟩
    exact (mem_append.mp mem).elim (frames' activity) (frames activity)
  log := by
    obtain ⟨facts, same, frames⟩ := first.log
    obtain ⟨facts', same', frames'⟩ := second.log
    refine ⟨facts' ++ facts, by rw [same', same, append_assoc], fun fact mem => ?_⟩
    exact (mem_append.mp mem).elim (frames' fact) (frames fact)

/-- A fact about frames is recorded. -/
theorem record {fact : ChannelFact} (frame : fact.isFrame = true) :
    FrameOnly before (before.record fact) where
  __ := refl before
  log := ⟨[fact], rfl, fun other mem => by rwa [mem_singleton.mp mem]⟩

/-- The frame loop begins a bound use. -/
theorem loop (frame : PushedFrame) : FrameOnly before (before.await (.frame frame) .beginUse) where
  __ := refl before
  activities := ⟨[⟨.frame frame, .beginUse⟩], rfl, fun other mem => by
    rw [mem_singleton.mp mem]
    exact ⟨rfl, rfl⟩⟩

theorem dropPending : FrameOnly before before.dropPending := by
  unfold ExperimentalWebSocketTakeoverChannel.dropPending
  split
  · rename_i pending _
    exact { @record before (.dropped pending) rfl with }
  · exact refl before

theorem park (frame : PushedFrame) :
    FrameOnly before (before.replacePendingFrame frame).scheduleDrain := by
  have replaced : FrameOnly before (before.replacePendingFrame frame) := { dropPending with }
  unfold scheduleDrain
  split
  · exact replaced
  · exact { replaced with }

end FrameOnly

/-- The step touches frames only, but that it may fail the channel with work outside the chain. -/
inductive Framewise (before : ExperimentalWebSocketTakeoverChannel) :
    ExperimentalWebSocketTakeoverChannel → Prop where
  | only {after : ExperimentalWebSocketTakeoverChannel} (frames : FrameOnly before after) :
      Framewise before after
  | fails {middle : ExperimentalWebSocketTakeoverChannel} (frames : FrameOnly before middle)
      (work : Work) (code : WebSocketTakeoverFailureCode) (live : before.stateValue = .open)
      (other : work.queued = false) : Framewise before (middle.failClosed work code)

theorem Framewise.after {before middle after : ExperimentalWebSocketTakeoverChannel}
    (frames : FrameOnly before middle) (framewise : Framewise middle after) :
    Framewise before after := by
  cases framewise with
  | only further => exact .only (frames.trans further)
  | fails further work code live other =>
      exact .fails (frames.trans further) work code (frames.stateValue.symm.trans live) other

theorem sendFrameLoop_framewise (config : WebSocketChannelConfig)
    (channel : ExperimentalWebSocketTakeoverChannel) (current : Option PushedFrame) :
    Framewise channel (channel.sendFrameLoop config current) := by
  have ticks : FrameOnly channel channel.ticked := { FrameOnly.refl channel with }
  unfold sendFrameLoop
  split
  · exact .only { FrameOnly.refl channel with }
  split
  · exact .only { FrameOnly.refl channel with }
  rename_i frame closed
  split
  · exact .fails ticks _ _ (not_not.mp closed) rfl
  · have parked := ticks.trans (.park frame)
    exact .only { parked with }
  · exact .only (ticks.trans (.loop frame))

theorem acceptFrame_framewise (config : WebSocketChannelConfig)
    {channel : ExperimentalWebSocketTakeoverChannel} (frame : PushedFrame)
    (live : channel.stateValue = .open) : Framewise channel (channel.acceptFrame config frame) := by
  have ticks : FrameOnly channel channel.ticked := { FrameOnly.refl channel with }
  unfold acceptFrame
  split
  · exact .only (.park frame)
  split
  · exact .fails ticks _ _ live rfl
  · exact .only (ticks.trans (.park frame))
  · have dropped := ticks.trans FrameOnly.dropPending
    have taken : FrameOnly channel { channel.ticked.dropPending with frameSending := true } :=
      { dropped with }
    exact .after taken (sendFrameLoop_framewise config _ _)

theorem pushFrame_framewise (config : WebSocketChannelConfig)
    (channel : ExperimentalWebSocketTakeoverChannel) (frame : WebSocketTakeoverFrame) :
    Framewise channel (channel.pushFrame config frame) := by
  have called : FrameOnly channel { channel with pushes := channel.pushes + 1 } :=
    { FrameOnly.refl channel with }
  unfold pushFrame
  dsimp only
  split
  · exact .only called
  rename_i closed
  split
  · exact .fails called _ _ (not_not.mp closed) rfl
  · have pushed := called.trans (@FrameOnly.record _ (.pushed ⟨channel.pushes, frame⟩) rfl)
    exact .after pushed (acceptFrame_framewise config _ (not_not.mp closed))

theorem flushPendingFrame_framewise (config : WebSocketChannelConfig)
    (channel : ExperimentalWebSocketTakeoverChannel) :
    Framewise channel (channel.flushPendingFrame config) := by
  have ticks : FrameOnly channel channel.ticked := { FrameOnly.refl channel with }
  unfold flushPendingFrame
  split
  · exact .only (.refl channel)
  split
  · exact .only (.refl channel)
  rename_i frame waiting idle
  have live : channel.stateValue = .open := not_not.mp fun closed => idle (.inl closed)
  split
  · exact .fails ticks _ _ live rfl
  · unfold scheduleDrain
    split
    · exact .only ticks
    · exact .only { ticks with }
  · have taken : FrameOnly channel
        { channel.ticked with pendingFrame := none, frameSending := true } := { ticks with }
    exact .after taken (sendFrameLoop_framewise config _ _)

end ExecutionHandoff.WebSocket.ExperimentalWebSocketTakeoverChannel
