import ExecutionHandoff.WebSocket.ChannelInput

/-!
# How a channel ends

A Done, a disconnect, a revocation and a failure each end the channel and give
the lease back, by its completion or by its release.  They may overlap: while
a Done waits for the lease's completion, a failed send still fails the channel.
-/

namespace ExecutionHandoff.WebSocket

open Library List

/-- The activity waits for the lease to be given back. -/
def Activity.ending (activity : Activity) : Bool :=
  match activity.await with
  | .complete | .release | .failing _ => true
  | _ => false

/-- The lease was given back, or the peer was told how the channel ended. -/
def ChannelFact.final : ChannelFact → Bool
  | .completed | .released | .told .closed | .told (.error _) => true
  | _ => false

/-- Everything of the channel that has to do with its end. -/
structure EndView where
  state : WebSocketTakeoverState
  released : Bool
  lastFailure : Option WebSocketTakeoverFailureCode
  ending : List Activity
  facts : List ChannelFact

namespace EndView

/-- The lease was given back. -/
def Succeeded (view : EndView) : Prop := .completed ∈ view.facts ∨ .released ∈ view.facts

/-- What holds while no Done waits for the lease's completion. -/
structure Owed (view : EndView) : Prop where
  released : view.released = true → view.Succeeded
  left : view.state = .closed ∨ view.state = .revoked →
    view.Succeeded ∨ ∃ activity ∈ view.ending, activity.await = .release
  failed : view.state = .failed →
    view.Succeeded ∨ view.lastFailure = some .authorityReleaseFailed ∨
      ∃ activity ∈ view.ending, ∃ code, activity.await = .failing code

/-- A channel that is not open has given the lease back, has failed to, or is about to. -/
structure Ending (view : EndView) : Prop extends Owed view where
  closing : view.state = .closing → ∃ activity ∈ view.ending, activity.await = .complete

theorem Owed.ending {view : EndView} (owed : Owed view) (other : view.state ≠ .closing) :
    Ending view :=
  { owed with closing := fun state => absurd state other }

theorem Succeeded.ending {view : EndView} (succeeded : view.Succeeded)
    (closing : view.state = .closing → ∃ activity ∈ view.ending, activity.await = .complete) :
    Ending view where
  released := fun _ => succeeded
  left := fun _ => .inl succeeded
  failed := fun _ => .inl succeeded
  closing := closing

end EndView

namespace ExperimentalWebSocketTakeoverChannel

variable {config : WebSocketChannelConfig} {channel : ExperimentalWebSocketTakeoverChannel}

def endView (channel : ExperimentalWebSocketTakeoverChannel) : EndView where
  state := channel.stateValue
  released := channel.released
  lastFailure := channel.lastFailureValue
  ending := channel.activities.filter Activity.ending
  facts := channel.log.filter ChannelFact.final

/-! ## What the functions of the channel do to its end -/

variable {work : Work}

theorem await_endView {await : Await} (other : Activity.ending ⟨work, await⟩ = false) :
    (channel.await work await).endView = channel.endView := by
  simp only [endView, ExperimentalWebSocketTakeoverChannel.await, filter_cons, other,
    Bool.false_eq_true, if_false]

@[simp] theorem finish_endView (work : Work) : (channel.finish work).endView = channel.endView := by
  cases work <;> rfl

theorem operate_endView (work : Work) : (channel.operate work).endView = channel.endView := by
  cases work with
  | input call input =>
      simp only [operate]
      split <;> rfl
  | _ => rfl

theorem noteSettled_endView (work : Work) :
    (channel.noteSettled work).endView = channel.endView := by
  cases work <;> rfl

theorem FrameOnly.endView {before after : ExperimentalWebSocketTakeoverChannel}
    (frames : FrameOnly before after) : after.endView = before.endView := by
  obtain ⟨added, activities, loops⟩ := frames.activities
  obtain ⟨facts, log, about⟩ := frames.log
  have waits : added.filter Activity.ending = [] := by
    refine filter_eq_nil_iff.mpr fun activity mem ending => ?_
    rw [Activity.ending, (loops activity mem).2] at ending
    cases ending
  have silent : facts.filter ChannelFact.final = [] := by
    refine filter_eq_nil_iff.mpr fun fact mem final => ?_
    have frame := about fact mem
    cases fact <;> first | cases frame; done | cases final; done
  simp only [ExperimentalWebSocketTakeoverChannel.endView, frames.stateValue, frames.released,
    frames.lastFailureValue, activities, log, filter_append, waits, silent, nil_append]

theorem receiveText_endView (raw : String) :
    (channel.receiveText config raw).endView = channel.endView := by
  unfold receiveText reserveQueuedInbound
  dsimp only
  split
  · rfl
  split
  · rfl
  split
  · rfl
  · rename_i reserved
    split at reserved
    · cases reserved
    · cases reserved
      rfl

/-- A failure ends an open or a closing channel and leaves any other as it is. -/
theorem failClosed_endView (work : Work) (code : WebSocketTakeoverFailureCode) :
    (channel.stateValue ≠ .open ∧ channel.stateValue ≠ .closing ∧
        (channel.failClosed work code).endView = channel.endView) ∨
      (channel.stateValue = .open ∨ channel.stateValue = .closing) ∧
        ((channel.released = true ∧ ∃ last,
            (channel.failClosed work code).endView =
              { channel.endView with
                state := .failed
                lastFailure := some code
                facts := .told (.error last) :: channel.endView.facts }) ∨
          (channel.released = false ∧
            (channel.failClosed work code).endView =
              { channel.endView with
                state := .failed
                lastFailure := some code
                ending := ⟨work, .failing code⟩ :: channel.endView.ending })) := by
  unfold failClosed
  cases state : channel.stateValue with
  | closed | revoked | failed => exact .inl ⟨by simp, by simp, finish_endView work⟩
  | «open» | closing =>
      right
      refine ⟨by simp, ?_⟩
      cases released : channel.released with
      | true =>
          refine .inl ⟨rfl, code, ?_⟩
          dsimp only
          rw [if_pos rfl, finish_endView]
          rfl
      | false => exact .inr ⟨rfl, rfl⟩

theorem failClosed_ending {code : WebSocketTakeoverFailureCode}
    (owed : channel.endView.Owed) : (channel.failClosed work code).endView.Ending := by
  obtain ⟨_, other, same⟩ | ⟨_, ⟨released, last, view⟩ | ⟨released, view⟩⟩ :=
    channel.failClosed_endView work code
  · rw [same]
    exact owed.ending other
  · rw [view]
    have succeeded : channel.endView.Succeeded := owed.released released
    exact EndView.Succeeded.ending (succeeded.imp (.tail _) (.tail _)) (by simp)
  · rw [view]
    exact
      { released := owed.released
        left := by simp
        failed := fun _ => .inr (.inr ⟨_, .head _, code, rfl⟩)
        closing := by simp }

/-! ## Every end is settled -/

theorem Framewise.ending {after : ExperimentalWebSocketTakeoverChannel}
    (framewise : Framewise channel after) (ending : channel.endView.Ending) :
    after.endView.Ending := by
  cases framewise with
  | only frames => rwa [frames.endView]
  | fails frames work code live other =>
      refine failClosed_ending ?_
      rw [frames.endView]
      exact ending.toOwed

theorem useSucceeded_ending (ending : channel.endView.Ending) :
    (channel.useSucceeded config work).endView.Ending := by
  unfold useSucceeded
  split
  · rename_i current
    have noted : (channel.noteSent current).endView.Ending := ending
    exact (sendFrameLoop_framewise config _ _).ending noted
  · rwa [finish_endView]

theorem useThrew_ending {thrown : Thrown} (ending : channel.endView.Ending) :
    (channel.useThrew work thrown).endView.Ending := by
  unfold useThrew
  split
  · rwa [finish_endView]
  · exact failClosed_ending ending.toOwed

theorem complete_ending (ending : channel.endView.Ending) : channel.complete.endView.Ending := by
  unfold complete
  split
  · exact ending
  · exact
      { released := ending.released
        left := by simp [endView, notifyTerminal]
        failed := by simp [endView, notifyTerminal]
        closing := fun _ => ⟨_, .head _, rfl⟩ }

/-- A disconnect or a revocation leaves the lease given back or waits for its release. -/
theorem leave_ending {state : WebSocketTakeoverState} (ended : state = .closed ∨ state = .revoked) :
    ((channel.leave state).await work .release).endView.released = channel.released ∧
      (channel.endView.Ending → ((channel.leave state).await work .release).endView.Ending) := by
  refine ⟨rfl, fun ending => ?_⟩
  exact
    { released := ending.released
      left := fun _ => .inr ⟨_, .head _, rfl⟩
      failed := fun failed => by
        have same : state = .failed := failed
        rcases ended with rfl | rfl <;> cases same
      closing := fun closing => by
        have same : state = .closing := closing
        rcases ended with rfl | rfl <;> cases same }

theorem runDisconnect_ending (ending : channel.endView.Ending) :
    channel.runDisconnect.endView.Ending := by
  unfold runDisconnect
  split
  · exact ending
  split
  · rename_i released
    have succeeded : channel.endView.Succeeded := ending.released released
    have view : (channel.leave .closed).endView = { channel.endView with state := .closed } := rfl
    rw [view]
    exact EndView.Succeeded.ending succeeded (by simp)
  · exact (leave_ending (.inl rfl)).2 ending

theorem runRevoke_ending (ending : channel.endView.Ending) : channel.runRevoke.endView.Ending := by
  unfold runRevoke
  split
  · exact ending
  split
  · rename_i released
    have succeeded : channel.endView.Succeeded := ending.released released
    have view : ((channel.leave .revoked).safeClose normalClose "revoked").endView =
        { channel.endView with state := .revoked } := rfl
    rw [view]
    exact EndView.Succeeded.ending succeeded (by simp)
  · exact (leave_ending (.inr rfl)).2 ending

theorem begin_ending {operation : Operation} (ending : channel.endView.Ending) :
    (channel.begin config operation).endView.Ending := by
  cases operation with
  | refuse error => exact failClosed_ending ending.toOwed
  | disconnect => exact runDisconnect_ending ending
  | revoke => exact runRevoke_ending ending
  | message call raw =>
      have taken : (channel.releaseQueuedInbound (utf8Length raw)).endView.Ending := ending
      simp only [begin, takeMessage]
      split
      · exact taken
      split
      · exact failClosed_ending taken.toOwed
      · exact taken
      · exact taken
      · rwa [runBoundUse, await_endView rfl]
      · exact complete_ending taken
      · rwa [runBoundUse, await_endView rfl]

/-- Taking an activity off leaves those that wait for the lease, but for itself. -/
theorem resumed_endView (activity : Activity) :
    (channel.resumed activity).endView =
      { channel.endView with ending := channel.endView.ending.erase activity } := by
  simp only [endView, resumed, erase_filter]

theorem resumed_other_endView {activity : Activity} (other : activity.ending = false) :
    (channel.resumed activity).endView = channel.endView := by
  rw [resumed_endView, erase_of_not_mem]
  intro mem
  have ending := (mem_filter.mp mem).2
  rw [other] at ending
  cases ending

/-- Activities at another await stay when one is taken off. -/
theorem waits_resumed {activity : Activity} {test : Await → Prop} (passed : ¬ test activity.await)
    (waits : ∃ other ∈ channel.endView.ending, test other.await) :
    ∃ other ∈ (channel.resumed activity).endView.ending, test other.await := by
  obtain ⟨other, mem, holds⟩ := waits
  rw [resumed_endView]
  refine ⟨other, (mem_erase_of_ne ?_).mpr mem, holds⟩
  rintro rfl
  exact passed holds

theorem afterRelease_ending {outcome : Settled} (ending : channel.endView.Ending) :
    ((channel.resumed ⟨work, .release⟩).afterRelease work outcome).endView.Ending := by
  cases outcome with
  | fulfilled =>
      have view : ((channel.resumed ⟨work, .release⟩).afterRelease work .fulfilled).endView =
          { (channel.resumed ⟨work, .release⟩).endView with
            released := true
            facts := .released :: channel.endView.facts } := by
        cases work <;> rfl
      rw [view]
      exact EndView.Succeeded.ending (.inr (.head _)) fun state =>
        @waits_resumed channel ⟨work, .release⟩ (· = .complete) (by simp) (ending.closing state)
  | rejected thrown =>
      exact
        { released := fun released => by cases released
          left := fun left => by rcases left with left | left <;> cases left
          failed := fun _ => .inr (.inl rfl)
          closing := fun closing => by cases closing }

theorem afterFailing_ending {failure : WebSocketTakeoverFailureCode}
    {outcome : Settled} (ending : channel.endView.Ending) :
    ((channel.resumed ⟨work, .failing failure⟩).afterFailing work failure outcome).endView.Ending := by
  cases outcome with
  | fulfilled =>
      simp only [afterFailing, finish_endView]
      refine EndView.Succeeded.ending (.inr (.tail _ (.head _))) fun state => ?_
      exact @waits_resumed channel ⟨work, .failing failure⟩ (· = .complete) (by simp)
        (ending.closing state)
  | rejected thrown =>
      simp only [afterFailing, finish_endView]
      exact
        { released := fun released => by cases released
          left := fun left => by rcases left with left | left <;> cases left
          failed := fun _ => .inr (.inl rfl)
          closing := fun closing => by cases closing }

theorem settle_ending {activity : Activity} {outcome : Settled} (ending : channel.endView.Ending) :
    (channel.settle config activity outcome).endView.Ending := by
  obtain ⟨work, await⟩ := activity
  have left (other : Activity.ending ⟨work, await⟩ = false) :
      (channel.resumed ⟨work, await⟩).endView.Ending := by
    rwa [resumed_other_endView other]
  cases await with
  | beginUse =>
      cases outcome with
      | fulfilled =>
          simp only [settle]
          rw [operate_endView]
          exact left rfl
      | rejected thrown => exact failClosed_ending (left rfl).toOwed
  | operation =>
      simp only [settle]
      rw [await_endView rfl, noteSettled_endView]
      exact left rfl
  | endUse thrown =>
      cases outcome with
      | fulfilled =>
          cases thrown with
          | none => exact useSucceeded_ending (left rfl)
          | some thrown => exact useThrew_ending (left rfl)
      | rejected _ => cases thrown <;> exact failClosed_ending (left rfl).toOwed
  | complete =>
      cases outcome with
      | fulfilled =>
          exact EndView.Succeeded.ending (.inl (.tail _ (.head _))) fun state => (by cases state)
      | rejected _ =>
          refine failClosed_ending ⟨ending.released, fun state => ?_, fun state => ?_⟩
          · exact (ending.left state).imp_right fun waits =>
              @waits_resumed channel ⟨work, .complete⟩ (· = .release) (by simp) waits
          · refine (ending.failed state).imp_right fun failed => failed.imp_right fun waits => ?_
            have stays := @waits_resumed channel ⟨work, .complete⟩
              (fun await => ∃ code, await = .failing code) (by simp)
            exact stays waits
  | release => exact afterRelease_ending ending
  | failing failure => exact afterFailing_ending ending

theorem Step.ending {after : ExperimentalWebSocketTakeoverChannel} {event : ChannelEvent}
    (step : Step config channel event after) (ending : channel.endView.Ending) :
    after.endView.Ending := by
  have moved : next config channel event = some after := step
  cases event with
  | start =>
      cases moved
      unfold start
      split
      · exact ending
      · rwa [runBoundUse, await_endView rfl]
  | receiveText raw =>
      cases moved
      rwa [receiveText_endView]
  | pushFrame frame =>
      cases moved
      exact (pushFrame_framewise config channel frame).ending ending
  | disconnect =>
      cases moved
      exact ending
  | revoke =>
      cases moved
      exact ending
  | operation =>
      unfold next at moved
      dsimp only at moved
      split at moved
      · cases moved
      split at moved
      · cases moved
      · rename_i operation rest _ _
        cases moved
        exact @begin_ending config { channel with operationTail := rest } operation ending
  | drain =>
      unfold next at moved
      dsimp only at moved
      split at moved
      · cases moved
        exact (flushPendingFrame_framewise config { channel with drainTimer := false }).ending ending
      · cases moved
  | settle activity outcome =>
      unfold next at moved
      dsimp only at moved
      split at moved
      · cases moved
        exact settle_ending ending
      · cases moved

theorem initial_ending : initial.endView.Ending where
  released := fun released => by cases released
  left := fun left => by rcases left with left | left <;> cases left
  failed := fun failed => by cases failed
  closing := fun closing => by cases closing

end ExperimentalWebSocketTakeoverChannel

/-! ## A Done that is not disturbed -/

namespace EndView

/-- What holds while no failure comes in between a Done and the lease's completion. -/
structure Fenced (view : EndView) : Prop where
  queued : ∀ activity ∈ view.ending,
    activity.await = .complete ∨ activity.await = .release → activity.work.queued = true
  opened : view.state = .open → view.ending = []
  /-- A Done that waits for the lease's completion is the only end under way. -/
  closing : ∀ activity ∈ view.ending, activity.await = .complete →
    view.state = .closing ∧ view.ending = [activity]
  failing : (∃ activity ∈ view.ending, ∃ code, activity.await = .failing code) ∨
    (∃ code, .told (.error code) ∈ view.facts) → view.state ≠ .open ∧ view.state ≠ .closing
  completed : .completed ∈ view.facts → view.state = .closed ∧ view.released = true ∧
    .told .closed ∈ view.facts ∧ (∀ code, .told (.error code) ∉ view.facts) ∧ view.ending = []

variable {view : EndView} (fenced : view.Fenced)
include fenced

theorem Fenced.not_completed (other : view.state ≠ .closed) : .completed ∉ view.facts :=
  fun mem => other (fenced.completed mem).1

/-- An end that goes on from its await leaves the others in order. -/
theorem Fenced.erase (activity : Activity) :
    Fenced { view with ending := view.ending.erase activity } where
  queued := fun other mem => fenced.queued other (mem_of_mem_erase mem)
  opened := fun state => by
    have none := fenced.opened state
    simp only [none, erase_nil]
  closing := by
    intro other mem completes
    obtain ⟨state, only⟩ := fenced.closing other (mem_of_mem_erase mem) completes
    refine ⟨state, ?_⟩
    dsimp only at mem ⊢
    rw [only] at mem ⊢
    by_cases same : other = activity
    · subst same
      simp at mem
    · rw [erase_cons_tail (by simpa using same), erase_nil]
  failing := fun failed => fenced.failing (failed.imp_left fun ⟨other, mem, code, waits⟩ =>
    ⟨other, mem_of_mem_erase mem, code, waits⟩)
  completed := fun mem => by
    obtain ⟨state, released, closed, silent, none⟩ := fenced.completed mem
    exact ⟨state, released, closed, silent, by simp only [none, erase_nil]⟩

/-- The channel fails, and waits for the release. -/
theorem Fenced.fail {code : WebSocketTakeoverFailureCode} (work : Work)
    (live : view.state = .open ∨ view.state = .closing)
    (alone : view.state = .closing → view.ending = []) :
    Fenced
      { view with
        state := .failed
        lastFailure := some code
        ending := ⟨work, .failing code⟩ :: view.ending } where
  queued := by
    intro activity mem waits
    rcases mem_cons.mp mem with rfl | mem
    · simp at waits
    · exact fenced.queued activity mem waits
  opened := fun state => by cases state
  closing := by
    intro activity mem completes
    rcases mem_cons.mp mem with rfl | mem
    · cases completes
    · have state := (fenced.closing activity mem completes).1
      rw [alone state] at mem
      cases mem
  failing := by simp
  completed := fun mem => absurd mem
    (fenced.not_completed (by rcases live with live | live <;> simp [live]))

/-- The channel fails with the lease given back before. -/
theorem Fenced.report {code last : WebSocketTakeoverFailureCode}
    (live : view.state = .open ∨ view.state = .closing)
    (alone : view.state = .closing → view.ending = []) :
    Fenced
      { view with
        state := .failed
        lastFailure := some code
        facts := .told (.error last) :: view.facts } where
  queued := fenced.queued
  opened := fun state => by cases state
  closing := by
    intro activity mem completes
    have state := (fenced.closing activity mem completes).1
    rw [alone state] at mem
    cases mem
  failing := by simp
  completed := fun mem => absurd (mem_of_ne_of_mem (by simp) mem)
    (fenced.not_completed (by rcases live with live | live <;> simp [live]))

end EndView

namespace ExperimentalWebSocketTakeoverChannel

variable {config : WebSocketChannelConfig} {channel : ExperimentalWebSocketTakeoverChannel}

variable {work : Work} {activity : Activity}

theorem failClosed_fenced {code : WebSocketTakeoverFailureCode} (fenced : channel.endView.Fenced)
    (alone : channel.stateValue = .closing → channel.endView.ending = []) :
    (channel.failClosed work code).endView.Fenced := by
  obtain ⟨_, _, same⟩ | ⟨live, ⟨_, last, view⟩ | ⟨_, view⟩⟩ := channel.failClosed_endView work code
  · rwa [same]
  · rw [view]
    exact fenced.report live alone
  · rw [view]
    exact fenced.fail work live alone

theorem Framewise.fenced {after : ExperimentalWebSocketTakeoverChannel}
    (framewise : Framewise channel after) (fenced : channel.endView.Fenced) :
    after.endView.Fenced := by
  cases framewise with
  | only frames => rwa [frames.endView]
  | fails frames work code live other =>
      refine failClosed_fenced ?_ fun closing => ?_
      · rwa [frames.endView]
      · rw [frames.stateValue, live] at closing
        cases closing

theorem useSucceeded_fenced (fenced : channel.endView.Fenced) :
    (channel.useSucceeded config work).endView.Fenced := by
  unfold useSucceeded
  split
  · rename_i current
    have noted : (channel.noteSent current).endView.Fenced := fenced
    exact (sendFrameLoop_framewise config _ _).fenced noted
  · rwa [finish_endView]

theorem complete_fenced (fenced : channel.endView.Fenced) : channel.complete.endView.Fenced := by
  unfold complete
  split
  · exact fenced
  rename_i starts
  have live : channel.stateValue = .open := not_not.mp fun closed => starts (.inr closed)
  have empty := fenced.opened live
  have view : ((({ channel with
      doneStarted := true
      inputAdmissionOpen := false
      stateValue := .closing
      drainTimer := false
      pendingFrame := none }.record .doneProcessed).notifyTerminal .closing).await .done
        .complete).endView =
      { channel.endView with state := .closing, ending := [⟨.done, .complete⟩] } := by
    rw [← empty]
    rfl
  rw [view]
  exact
    { queued := fun activity mem _ => by rw [mem_singleton.mp mem]; rfl
      opened := fun state => by cases state
      closing := fun activity mem _ => ⟨rfl, by rw [mem_singleton.mp mem]⟩
      failing := fun failed => by
        obtain ⟨activity, mem, code, waits⟩ | told := failed
        · rw [mem_singleton.mp mem] at waits
          cases waits
        · exact absurd live (fenced.failing (.inr told)).1
      completed := fun mem => absurd mem (fenced.not_completed (by simp [endView, live])) }

/-- No end that belongs to the chain is under way. -/
def NoneQueued (channel : ExperimentalWebSocketTakeoverChannel) : Prop :=
  ∀ activity ∈ channel.endView.ending, activity.work.queued = false

theorem noneQueued_of_idle (idle : channel.inputView.operations = []) : channel.NoneQueued := by
  intro activity mem
  have among := (mem_filter.mp mem).1
  have free := filter_eq_nil_iff.mp idle activity among
  simpa using free

/-- Between operations of the chain, only failures wait for the lease. -/
theorem failing_of_noneQueued (fenced : channel.endView.Fenced) (free : channel.NoneQueued)
    (mem : activity ∈ channel.endView.ending) :
    ∃ code, activity.await = .failing code := by
  have ending := (mem_filter.mp mem).2
  have waits (waits : activity.await = .complete ∨ activity.await = .release) : False := by
    have queued := fenced.queued activity mem waits
    rw [free activity mem] at queued
    cases queued
  unfold Activity.ending at ending
  split at ending
  · rename_i complete
    exact absurd (.inl complete) waits
  · rename_i release
    exact absurd (.inr release) waits
  · rename_i code failing
    exact ⟨code, failing⟩
  · cases ending

theorem alone_of_noneQueued (fenced : channel.endView.Fenced) (free : channel.NoneQueued)
    (closing : channel.stateValue = .closing) : channel.endView.ending = [] := by
  cases waiting : channel.endView.ending with
  | nil => rfl
  | cons activity rest =>
      have mem : activity ∈ channel.endView.ending := by rw [waiting]; exact .head _
      have failed := failing_of_noneQueued fenced free mem
      exact absurd closing (fenced.failing (.inl ⟨activity, mem, failed⟩)).2

/-- The state of a disconnect or a revocation that has something to do. -/
theorem leave_fenced {state : WebSocketTakeoverState} (fenced : channel.endView.Fenced)
    (free : channel.NoneQueued) (unsettled : ¬ channel.settled = true)
    (ended : state = .closed ∨ state = .revoked) (added : List Activity)
    (mine : ∀ activity ∈ added, activity.work.queued = true ∧ activity.await = .release) :
    EndView.Fenced
      { channel.endView with state, ending := added ++ channel.endView.ending } where
  queued := by
    intro activity mem waits
    rcases mem_append.mp mem with mem | mem
    · exact (mine activity mem).1
    · exact fenced.queued activity mem waits
  opened := fun opened => by
    have same : state = .open := opened
    rcases ended with rfl | rfl <;> cases same
  closing := by
    intro activity mem completes
    rcases mem_append.mp mem with mem | mem
    · rw [(mine activity mem).2] at completes
      cases completes
    · obtain ⟨code, failing⟩ := failing_of_noneQueued fenced free mem
      rw [failing] at completes
      cases completes
  failing := fun _ => by rcases ended with rfl | rfl <;> simp
  completed := fun mem => by
    obtain ⟨closed, released, _⟩ := fenced.completed mem
    have state : channel.stateValue = .closed := closed
    have flag : channel.released = true := released
    exact absurd (by simp [settled, state, flag]) unsettled

theorem runDisconnect_fenced (fenced : channel.endView.Fenced) (free : channel.NoneQueued) :
    channel.runDisconnect.endView.Fenced := by
  unfold runDisconnect
  split
  · exact fenced
  rename_i unsettled
  split
  · exact leave_fenced fenced free unsettled (.inl rfl) [] (by simp)
  · exact leave_fenced fenced free unsettled (.inl rfl) [⟨.disconnect, .release⟩]
      (fun activity mem => by rw [mem_singleton.mp mem]; exact ⟨rfl, rfl⟩)

theorem runRevoke_fenced (fenced : channel.endView.Fenced) (free : channel.NoneQueued) :
    channel.runRevoke.endView.Fenced := by
  unfold runRevoke
  split
  · exact fenced
  rename_i unsettled
  split
  · exact leave_fenced fenced free unsettled (.inr rfl) [] (by simp)
  · exact leave_fenced fenced free unsettled (.inr rfl) [⟨.revoke, .release⟩]
      (fun activity mem => by rw [mem_singleton.mp mem]; exact ⟨rfl, rfl⟩)

theorem begin_fenced {operation : Operation} (fenced : channel.endView.Fenced)
    (free : channel.NoneQueued) : (channel.begin config operation).endView.Fenced := by
  cases operation with
  | refuse error => exact failClosed_fenced fenced (alone_of_noneQueued fenced free)
  | disconnect => exact runDisconnect_fenced fenced free
  | revoke => exact runRevoke_fenced fenced free
  | message call raw =>
      have taken : (channel.releaseQueuedInbound (utf8Length raw)).endView.Fenced := fenced
      simp only [begin, takeMessage]
      split
      · exact taken
      split
      · exact failClosed_fenced taken (alone_of_noneQueued fenced free)
      · exact taken
      · exact taken
      · rwa [runBoundUse, await_endView rfl]
      · exact complete_fenced taken
      · rwa [runBoundUse, await_endView rfl]

theorem mem_ending (mem : activity ∈ channel.activities)
    (ending : activity.ending = true) : activity ∈ channel.endView.ending :=
  mem_filter.mpr ⟨mem, ending⟩

theorem resumed_fenced (activity : Activity) (fenced : channel.endView.Fenced) :
    (channel.resumed activity).endView.Fenced := by
  rw [resumed_endView]
  exact fenced.erase activity

/-- The lease's completion has succeeded. -/
theorem completed_fenced (mem : ⟨work, .complete⟩ ∈ channel.activities)
    (fenced : channel.endView.Fenced) :
    (channel.resumed ⟨work, .complete⟩).completed.endView.Fenced := by
  obtain ⟨closing, only⟩ := fenced.closing _ (mem_ending mem rfl) rfl
  have empty : (channel.resumed ⟨work, .complete⟩).endView.ending = [] := by
    rw [resumed_endView]
    simp [only]
  have silent : ∀ code, .told (.error code) ∉ channel.endView.facts := fun code told =>
    (fenced.failing (.inr ⟨code, told⟩)).2 closing
  have view : (channel.resumed ⟨work, .complete⟩).completed.endView =
      { channel.endView with
        state := .closed
        released := true
        ending := []
        facts := .told .closed :: .completed :: channel.endView.facts } := by
    rw [← empty]
    rfl
  rw [view]
  exact
    { queued := by simp
      opened := fun state => by cases state
      closing := by simp
      failing := by simp
      completed := fun _ => ⟨rfl, rfl, .head _, fun code told => silent code (by simpa using told),
        rfl⟩ }

/-- An end that waits for the release has not been completed, and none is being completed. -/
theorem releasing_apart (fenced : channel.endView.Fenced)
    (mem : activity ∈ channel.endView.ending) (other : activity.await ≠ .complete) :
    .completed ∉ channel.endView.facts ∧
      ∀ activity ∈ channel.endView.ending, activity.await ≠ .complete := by
  constructor
  · intro completed
    have empty := (fenced.completed completed).2.2.2.2
    rw [empty] at mem
    cases mem
  · intro completing among completes
    have only := (fenced.closing completing among completes).2
    rw [only] at mem
    rw [mem_singleton.mp mem] at other
    exact other completes

/-- The release has failed. -/
theorem recordReleaseFailure_fenced (fenced : channel.endView.Fenced)
    (completed : .completed ∉ channel.endView.facts)
    (apart : ∀ activity ∈ channel.endView.ending, activity.await ≠ .complete) :
    channel.recordReleaseFailure.endView.Fenced where
  queued := fenced.queued
  opened := fun state => by cases state
  closing := fun activity mem completes => absurd completes (apart activity mem)
  failing := fun _ => by simp [endView]
  completed := fun mem => absurd mem completed

theorem afterRelease_fenced {outcome : Settled}
    (mem : ⟨work, .release⟩ ∈ channel.activities) (fenced : channel.endView.Fenced) :
    ((channel.resumed ⟨work, .release⟩).afterRelease work outcome).endView.Fenced := by
  have left := channel.resumed_fenced ⟨work, .release⟩ fenced
  obtain ⟨completed, apart⟩ := releasing_apart fenced (mem_ending mem rfl) (by simp)
  have view := channel.resumed_endView ⟨work, .release⟩
  cases outcome with
  | fulfilled =>
      have view : ((channel.resumed ⟨work, .release⟩).afterRelease work .fulfilled).endView =
          { (channel.resumed ⟨work, .release⟩).endView with
            released := true
            facts := .released :: (channel.resumed ⟨work, .release⟩).endView.facts } := by
        cases work <;> rfl
      rw [view]
      exact
        { queued := left.queued
          opened := left.opened
          closing := left.closing
          failing := fun failed => left.failing (failed.imp_right fun ⟨code, told⟩ =>
            ⟨code, by simpa using told⟩)
          completed := fun done => absurd (mem_of_ne_of_mem (by simp) done) completed }
  | rejected thrown =>
      have apart' : ∀ activity ∈ (channel.resumed ⟨work, .release⟩).endView.ending,
          activity.await ≠ .complete := by
        rw [view]
        exact fun activity among => apart activity (mem_of_mem_erase among)
      have recorded := recordReleaseFailure_fenced left completed apart'
      exact recorded

theorem afterFailing_fenced {failure : WebSocketTakeoverFailureCode}
    {outcome : Settled} (mem : ⟨work, .failing failure⟩ ∈ channel.activities)
    (fenced : channel.endView.Fenced) :
    ((channel.resumed ⟨work, .failing failure⟩).afterFailing work failure
      outcome).endView.Fenced := by
  have left := channel.resumed_fenced ⟨work, .failing failure⟩ fenced
  have among : ⟨work, .failing failure⟩ ∈ channel.endView.ending := mem_ending mem rfl
  have ended := fenced.failing (.inl ⟨_, among, failure, rfl⟩)
  obtain ⟨completed, apart⟩ := releasing_apart fenced among (by simp)
  have apart' : ∀ activity ∈ (channel.resumed ⟨work, .failing failure⟩).endView.ending,
      activity.await ≠ .complete := by
    rw [channel.resumed_endView]
    exact fun activity mem => apart activity (mem_of_mem_erase mem)
  -- Telling the peer changes nothing that the view of an ended channel depends on.
  have reports (settled : ExperimentalWebSocketTakeoverChannel)
      (fenced : settled.endView.Fenced) (other : .completed ∉ settled.endView.facts)
      (ended : settled.stateValue ≠ .open ∧ settled.stateValue ≠ .closing) :
      ((settled.reportFailure failure).finish work).endView.Fenced := by
    rw [finish_endView]
    exact
      { queued := fenced.queued
        opened := fenced.opened
        closing := fenced.closing
        failing := fun _ => ended
        completed := fun done => absurd (mem_of_ne_of_mem (by simp) done) other }
  cases outcome with
  | fulfilled =>
      refine reports _ ?_ ?_ ended
      · exact
          { queued := left.queued
            opened := left.opened
            closing := left.closing
            failing := fun _ => ended
            completed := fun done => absurd (mem_of_ne_of_mem (by simp) done) completed }
      · exact fun done => completed (mem_of_ne_of_mem (by simp) done)
  | rejected thrown =>
      exact reports _ (recordReleaseFailure_fenced left completed apart') completed
        ⟨by simp, by simp⟩

/-- The outcome fails a bound use, and with it the channel. -/
def failsUse (activity : Activity) (outcome : Settled) : Bool :=
  match activity.await, outcome with
  | .beginUse, .rejected _ | .endUse _, .rejected _ => true
  | .endUse (some thrown), .fulfilled => !(thrown == .recoverable && !activity.work.isFrame)
  | _, _ => false

/-- A bound use fails while a Done is being completed. -/
def interrupts (channel : ExperimentalWebSocketTakeoverChannel) (event : ChannelEvent) : Bool :=
  match event with
  | .settle activity outcome => channel.stateValue == .closing && failsUse activity outcome
  | _ => false

theorem settle_fenced {outcome : Settled}
    (mem : activity ∈ channel.activities) (fenced : channel.endView.Fenced)
    (calm : channel.interrupts (.settle activity outcome) = false) :
    (channel.settle config activity outcome).endView.Fenced := by
  obtain ⟨work, await⟩ := activity
  have left := channel.resumed_fenced ⟨work, await⟩ fenced
  have alone (fails : failsUse ⟨work, await⟩ outcome = true)
      (closing : channel.stateValue = .closing) :
      (channel.resumed ⟨work, await⟩).endView.ending = [] := by
    simp [interrupts, fails, closing] at calm
  cases await with
  | beginUse =>
      cases outcome with
      | fulfilled =>
          simp only [settle]
          rw [operate_endView]
          exact left
      | rejected _ => exact failClosed_fenced left (alone rfl)
  | operation =>
      simp only [settle]
      rw [await_endView rfl, noteSettled_endView]
      exact left
  | endUse thrown =>
      cases outcome with
      | fulfilled =>
          cases thrown with
          | none => exact useSucceeded_fenced left
          | some thrown =>
              simp only [settle, useThrew]
              split
              · rw [finish_endView]
                exact left
              · rename_i grave
                refine failClosed_fenced left (alone ?_)
                simpa [failsUse, imp_iff_not_or] using grave
      | rejected _ => cases thrown <;> exact failClosed_fenced left (alone rfl)
  | complete =>
      cases outcome with
      | fulfilled => exact completed_fenced mem fenced
      | rejected _ =>
          have only := (fenced.closing _ (mem_ending mem rfl) rfl).2
          have empty : (channel.resumed ⟨work, .complete⟩).endView.ending = [] := by
            rw [resumed_endView, only]
            simp
          exact failClosed_fenced left fun _ => empty
  | release => exact afterRelease_fenced mem fenced
  | failing failure => exact afterFailing_fenced mem fenced

theorem Step.fenced {after : ExperimentalWebSocketTakeoverChannel} {event : ChannelEvent}
    (step : Step config channel event after) (calm : channel.interrupts event = false)
    (fenced : channel.endView.Fenced) : after.endView.Fenced := by
  have moved : next config channel event = some after := step
  cases event with
  | start =>
      cases moved
      unfold start
      split
      · exact fenced
      · rwa [runBoundUse, await_endView rfl]
  | receiveText raw =>
      cases moved
      rwa [receiveText_endView]
  | pushFrame frame =>
      cases moved
      exact (pushFrame_framewise config channel frame).fenced fenced
  | disconnect =>
      cases moved
      exact fenced
  | revoke =>
      cases moved
      exact fenced
  | operation =>
      unfold next at moved
      dsimp only at moved
      split at moved
      · cases moved
      split at moved
      · cases moved
      · rename_i operation rest _ free
        cases moved
        have idle := noneQueued_of_idle (idle_of_not_busy (by simpa using free))
        exact @begin_fenced config { channel with operationTail := rest } operation fenced idle
  | drain =>
      unfold next at moved
      dsimp only at moved
      split at moved
      · cases moved
        exact (flushPendingFrame_framewise config { channel with drainTimer := false }).fenced fenced
      · cases moved
  | settle activity outcome =>
      unfold next at moved
      dsimp only at moved
      split at moved
      · rename_i mem
        cases moved
        exact settle_fenced mem fenced calm
      · cases moved

theorem initial_fenced : initial.endView.Fenced where
  queued := fun activity mem => by cases mem
  opened := fun _ => rfl
  closing := fun activity mem => by cases mem
  failing := fun failed => by
    obtain ⟨activity, mem, _⟩ | ⟨code, told⟩ := failed
    · cases mem
    · cases told
  completed := fun mem => by cases mem

/-- Nothing of a channel that is not open was left without its lease given back, or without a
report that it was not. -/
def GivenBack (channel : ExperimentalWebSocketTakeoverChannel) : Prop :=
  channel.activities = [] → channel.stateValue ≠ .open →
    .completed ∈ channel.log ∨ .released ∈ channel.log ∨
      channel.lastFailureValue = some .authorityReleaseFailed

/-- A Done whose completion succeeded has closed the channel, and the peer was told that only. -/
def DoneClosed (channel : ExperimentalWebSocketTakeoverChannel) : Prop :=
  .completed ∈ channel.log →
    channel.stateValue = .closed ∧ .told .closed ∈ channel.log ∧
      ∀ code, .told (.error code) ∉ channel.log

theorem givenBack_of_ending (ending : channel.endView.Ending) : channel.GivenBack := by
  intro idle other
  have none : channel.endView.ending = [] := by simp [endView, idle]
  have read (succeeded : channel.endView.Succeeded) :
      .completed ∈ channel.log ∨ .released ∈ channel.log :=
    succeeded.imp mem_of_mem_filter mem_of_mem_filter
  cases state : channel.stateValue with
  | «open» => exact absurd state other
  | closing =>
      obtain ⟨activity, mem, _⟩ := ending.closing state
      rw [none] at mem
      cases mem
  | closed | revoked =>
      obtain succeeded | ⟨activity, mem, _⟩ := ending.left (by simp [endView, state])
      · exact (read succeeded).imp_right .inl
      · rw [none] at mem
        cases mem
  | failed =>
      obtain succeeded | reported | ⟨activity, mem, _⟩ := ending.failed state
      · exact (read succeeded).imp_right .inl
      · exact .inr (.inr reported)
      · rw [none] at mem
        cases mem

theorem doneClosed_of_fenced (fenced : channel.endView.Fenced) : channel.DoneClosed := by
  intro mem
  obtain ⟨state, _, closed, silent, _⟩ := fenced.completed (mem_filter.mpr ⟨mem, rfl⟩)
  refine ⟨state, mem_of_mem_filter closed, fun code told => silent code ?_⟩
  exact mem_filter.mpr ⟨told, rfl⟩

/-- Every channel that ended gave its lease back or reported that it could not. -/
theorem run_givenBack {events : List ChannelEvent}
    (run : Run (Step config) initial events channel) : channel.GivenBack := by
  have ends {first : ExperimentalWebSocketTakeoverChannel} {event : ChannelEvent}
      {last : ExperimentalWebSocketTakeoverChannel} (step : Step config first event last)
      (ending : first.endView.Ending) : last.endView.Ending :=
    Step.ending step ending
  have ending : channel.endView.Ending := run.invariant ends initial_ending
  exact givenBack_of_ending ending

/-- Where no bound use fails while a Done is being completed, every end gives the lease back or
reports that it could not, and a completed Done closes the channel for good. -/
theorem run_termination (config : WebSocketChannelConfig)
    {channel : ExperimentalWebSocketTakeoverChannel} {events : List ChannelEvent}
    (run : Run (Guarded (Step config) fun source event => source.interrupts event = false)
      initial events channel) :
    channel.GivenBack ∧ channel.DoneClosed := by
  have stays {first : ExperimentalWebSocketTakeoverChannel} {event : ChannelEvent}
      {last : ExperimentalWebSocketTakeoverChannel}
      (step : Guarded (Step config) (fun source event => source.interrupts event = false) first
        event last) (fenced : first.endView.Fenced) : last.endView.Fenced :=
    Step.fenced step.1 step.2 fenced
  have fenced : channel.endView.Fenced := run.invariant stays initial_fenced
  exact ⟨run_givenBack run.of_guarded, doneClosed_of_fenced fenced⟩

/-- A Done with nothing else under way. -/
def sampleDone : List ChannelEvent :=
  [.receiveText "d", .operation, .settle ⟨.done, .complete⟩ .fulfilled]

def sampleClosed : ExperimentalWebSocketTakeoverChannel :=
  (execute (permitted (next sampleConfig) fun source event => source.interrupts event = false)
    initial sampleDone).getD initial

theorem sampleClosed_done :
    sampleClosed.GivenBack ∧ sampleClosed.DoneClosed ∧ .completed ∈ sampleClosed.log := by
  have run : Run (Guarded (Step sampleConfig) fun source event => source.interrupts event = false)
      initial sampleDone sampleClosed :=
    run_guarded_of_execute (by decide)
  obtain ⟨given, closed⟩ := run_termination sampleConfig run
  exact ⟨given, closed, by decide⟩

/-- The lease ends the use of a frame under way while the Done waits for the lease's completion,
which then succeeds. -/
def sampleInterrupted : List ChannelEvent :=
  let loop : Work := .frame ⟨0, sampleFrame⟩
  [.pushFrame sampleFrame, .settle ⟨loop, .beginUse⟩ .fulfilled, .receiveText "d", .operation,
    .settle ⟨loop, .operation⟩ (.rejected .other),
    .settle ⟨loop, .endUse (some .other)⟩ .fulfilled,
    .settle ⟨loop, .failing .transportFailure⟩ .fulfilled,
    .settle ⟨.done, .complete⟩ .fulfilled]

/-- The peer is told of an error although the Done is completed and the channel closed. -/
theorem sampleInterrupted_told :
    ¬ ∀ (config : WebSocketChannelConfig) (events : List ChannelEvent)
      (channel : ExperimentalWebSocketTakeoverChannel),
      Run (Step config) initial events channel → channel.GivenBack ∧ channel.DoneClosed := by
  intro claimed
  have ended : (execute (next sampleConfig) initial sampleInterrupted).map (·.log) =
      some [.closing 1000 "done", .told .closed, .completed, .closing 1011 "transport_failure",
        .told (.error .transportFailure), .released, .failed .transportFailure, .told .closing,
        .doneProcessed, .received 0 "d", .handed ⟨0, sampleFrame⟩, .pushed ⟨0, sampleFrame⟩] := by
    decide
  obtain ⟨channel, executed, log⟩ := Option.map_eq_some_iff.mp ended
  have closed := (claimed _ _ channel ((run_iff_execute _ _ _ _).mpr executed)).2
  have silent := (closed (by simp [log])).2.2 .transportFailure
  exact silent (by simp [log])

end ExperimentalWebSocketTakeoverChannel

end ExecutionHandoff.WebSocket
