import ExecutionHandoff.Core.LifecycleAuthority
import ExecutionHandoff.Experimental.TerminalPty

/-!
# The drain of Human writes

The gate remembers in one flag whether the Human writes admitted before Done
have been drained.  What sets the flag while an intervention is being verified
is accounted for by the history of calls, as long as no fence is begun again
while writes are outstanding.
-/

namespace ExecutionHandoff.Experimental

open Library ExecutionHandoff.Core List
open StateExcept hiding read update
open Ensures (reading updating)
open ExecutionHandoffState (Transition assertAgentAuthority)

namespace TerminalPtyAuthority

variable {config : TerminalPtyConfig}

/-- Calls that decide nothing about the intervention. -/
def observes : TerminalOp → Bool
  | .assertAgentInput _ | .assertAgentObservation _ | .assertAgentResize _
  | .assertHumanInput _ _ _ | .assertHumanObservation _ _ _ | .assertHumanResize _ _ _
  | .noteHumanDisconnect _ _ _ | .acknowledgeAgentStateSynchronization _ | .getStatus => true
  | _ => false

/-- The id, epoch and status a request names are those of the intervention in progress. -/
structure Names (authority : TerminalPtyAuthority) (interventionId : String) (epoch : Int)
    (status : InterventionStatus) (active : TerminalIntervention) : Prop where
  held : authority.state.active = some active
  id : active.id = interventionId
  epoch : (active.epoch : Int) = epoch
  status : active.status = status

/-- The session of this gate, given by a request for a live session. -/
def admitsLive (config : TerminalPtyConfig) (authority : TerminalPtyAuthority)
    (binding : TerminalPtyBinding) : Bool :=
  matchesSession config binding && authority.sessionAlive

/-- What the exit of the session does to the intervention in progress. -/
inductive Settlement (authority : TerminalPtyAuthority) :
    Except TerminalPtyError Unit → TerminalPtyAuthority → Prop where
  | failed (error : TerminalPtyError) : Settlement authority (.error error) authority
  | untouched (waiting : ∀ active, authority.state.active = some active →
      active.status ≠ .humanActive) : Settlement authority (.ok ()) authority
  | cancelled {state : TerminalState} (idle : state.active = none) :
      Settlement authority (.ok ()) { authority with state, humanWritesDrained := true }
  | completed {active verifying : TerminalIntervention} {state : TerminalState}
      (held : authority.state.active = some active) (human : active.status = .humanActive)
      (left : state.active = some verifying) (same : verifying.id = active.id) :
      Settlement authority (.ok ()) { authority with state, humanWritesDrained := true }

/-- What a call does, by the operation and its outcome. -/
inductive Move (config : TerminalPtyConfig) (authority : TerminalPtyAuthority) :
    TerminalOp → Except TerminalPtyError TerminalReply → TerminalPtyAuthority → Prop where
  | refused {op : TerminalOp} (error : TerminalPtyError) {after : TerminalPtyAuthority}
      (state : after.state = authority.state)
      (drained : after.humanWritesDrained = authority.humanWritesDrained) :
      Move config authority op (.error error) after
  | observed {op : TerminalOp} {reply : TerminalReply} {after : TerminalPtyAuthority}
      (observing : observes op = true) (state : after.state = authority.state)
      (drained : after.humanWritesDrained = authority.humanWritesDrained) :
      Move config authority op (.ok reply) after
  | fenced {binding : TerminalPtyBinding} {intervention : TerminalIntervention}
      {state : TerminalState} (admitted : admitsLive config authority binding = true)
      (input : BeginInput Empty TerminalReason)
      (transition : ExecutionHandoffState.Transition authority.state (.begin input)
        (.ok (.intervention intervention)) state) :
      Move config authority (.beginFence binding) (.ok (.intervention intervention))
        { authority with state, humanWritesDrained := true }
  | claimed {binding : TerminalPtyBinding} {id : String} {epoch : Int}
      {active intervention : TerminalIntervention} {state : TerminalState}
      (named : Names authority id epoch .awaitingHuman active)
      (transition : ExecutionHandoffState.Transition authority.state (.claimHuman id)
        (.ok (.intervention intervention)) state) :
      Move config authority (.claimHumanAfterAgentDrain binding id epoch)
        (.ok (.intervention intervention)) { authority with state, humanDisconnected := false }
  | cancelled {binding : TerminalPtyBinding} {id : String} {epoch : Int}
      {status : TerminalPtyStatus} {state : TerminalState} (idle : state.active = none) :
      Move config authority (.cancelBeforeHuman binding id epoch) (.ok (.status status))
        { authority with state, humanDisconnected := false, humanWritesDrained := true }
  | doneFenced {binding : TerminalPtyBinding} {id : String} {epoch : Int}
      {active verifying : TerminalIntervention} {state : TerminalState}
      (named : Names authority id epoch .humanActive active)
      (transition : ExecutionHandoffState.Transition authority.state (.markHumanComplete id)
        (.ok (.intervention verifying)) state) :
      Move config authority (.markHumanDoneFence binding id epoch) (.ok (.intervention verifying))
        { authority with
          state, humanDisconnected := false, agentStateSynchronizationRequired := true
          humanWritesDrained := false }
  | drained {binding : TerminalPtyBinding} {id : String} {epoch : Int}
      {active : TerminalIntervention} (named : Names authority id epoch .verifying active) :
      Move config authority (.confirmHumanWritesDrained binding id epoch)
        (.ok (.intervention active)) { authority with humanWritesDrained := true }
  | denied {binding : TerminalPtyBinding} {id : String} {epoch : Int}
      {active : TerminalIntervention} (named : Names authority id epoch .verifying active)
      (drained : authority.humanWritesDrained = true) :
      Move config authority (.reportVerification binding id epoch false)
        (.ok (.intervention active)) authority
  | verified {binding : TerminalPtyBinding} {id : String} {epoch : Int}
      {active intervention : TerminalIntervention} {state : TerminalState}
      (named : Names authority id epoch .verifying active)
      (drained : authority.humanWritesDrained = true)
      (transition : ExecutionHandoffState.Transition authority.state (.markVerified id)
        (.ok (.intervention intervention)) state) :
      Move config authority (.reportVerification binding id epoch true)
        (.ok (.intervention intervention)) { authority with state }
  | resumed {binding : TerminalPtyBinding} {id : String} {epoch : Int}
      {decision : TerminalPtyResumeDecision} {state : TerminalState} (idle : state.active = none) :
      Move config authority (.resumeAgent binding id epoch) (.ok (.decision decision))
        { authority with state }
  | gone {binding : TerminalPtyBinding} {status : TerminalPtyStatus} :
      Move config authority (.noteSessionExit binding) (.ok (.status status)) authority
  | exited {binding : TerminalPtyBinding} {status : TerminalPtyStatus}
      {settled : TerminalPtyAuthority}
      (settlement : Settlement
        { authority with sessionAlive := false, agentStateSynchronizationRequired := true }
        (.ok ()) settled) :
      Move config authority (.noteSessionExit binding) (.ok (.status status))
        { settled with humanDisconnected := false }

section Rules

variable {α β : Type} {authority : TerminalPtyAuthority}
  {post : Except TerminalPtyError β → TerminalPtyAuthority → Prop}

theorem ensures_requireSession {binding : TerminalPtyBinding} {requireAlive : Bool}
    {next : Unit → TerminalM β} (failed : ∀ error, post (.error error) authority)
    (passed : matchesSession config binding = true →
      (requireAlive = true → authority.sessionAlive = true) →
      Ensures (next ()) authority post) :
    Ensures (requireSession config binding requireAlive >>= next) authority post := by
  have spec : Ensures (requireSession config binding requireAlive) authority
      fun result after => after = authority ∧ ∀ value, result = .ok value →
        matchesSession config binding = true ∧
          (requireAlive = true → authority.sessionAlive = true) := by
    unfold requireSession matchesSession
    split
    · exact .throwing ⟨rfl, fun _ no => nomatch no⟩
    · apply Ensures.require
      · exact fun _ => ⟨rfl, fun _ no => nomatch no⟩
      · intro same
        apply reading
        unfold StateExcept.require
        split
        · rename_i alive
          refine ⟨rfl, fun _ _ => ⟨same, ?_⟩⟩
          rintro rfl
          simpa using alive
        · exact ⟨rfl, fun _ no => nomatch no⟩
  apply spec.bind
  · rintro error _ ⟨rfl, _⟩
    exact failed error
  · rintro value _ ⟨rfl, facts⟩
    exact passed (facts value rfl).1 (facts value rfl).2

theorem ensures_requireIntervention {id : String} {epoch : Int} {expected : InterventionStatus}
    {next : TerminalIntervention → TerminalM β} (failed : ∀ error, post (.error error) authority)
    (passed : ∀ active, Names authority id epoch expected active →
      Ensures (next active) authority post) :
    Ensures (requireIntervention id epoch expected >>= next) authority post := by
  have spec : Ensures (requireIntervention id epoch expected) authority
      fun result after => after = authority ∧ ∀ active, result = .ok active →
        Names authority id epoch expected active := by
    unfold requireIntervention
    apply reading
    split
    · exact .throwing ⟨rfl, fun _ no => nomatch no⟩
    · rename_i active held
      apply Ensures.require
      · exact fun _ => ⟨rfl, fun _ no => nomatch no⟩
      · intro same
        simp only [Bool.and_eq_true, beq_iff_eq, decide_eq_true_eq] at same
        refine .pure ⟨rfl, ?_⟩
        rintro _ ⟨⟩
        exact ⟨held, same.1.1, same.1.2, same.2⟩
  apply spec.bind
  · rintro error _ ⟨rfl, _⟩
    exact failed error
  · rintro active _ ⟨rfl, facts⟩
    exact passed active (facts active rfl)

/-- A call of the hand-off state: a refusal leaves it alone, a reply comes with its transition. -/
theorem onState_transition {op : HandoffOp Empty TerminalReason}
    {action : HandoffM Empty TerminalReason α} {reply : α → HandoffReply Empty TerminalReason}
    {post : Except TerminalPtyError α → TerminalPtyAuthority → Prop}
    (spec : Ensures (action >>= fun value => pure (reply value)) authority.state
      (Transition authority.state op))
    (failed : ∀ error, post (.error error) authority)
    (passed : ∀ value state,
      Transition authority.state op (.ok (reply value)) state →
      post (.ok value) { authority with state }) :
    Ensures (onState action) authority post := by
  have transition := spec.unmapping
  unfold Ensures onState
  unfold Ensures at transition
  cases outcome : action authority.state with
  | mk result state =>
      rw [outcome] at transition
      cases result with
      | error error =>
          have same : state = authority.state := transition.unchanged rfl
          subst same
          exact failed _
      | ok value => exact passed value state transition

end Rules

/-- The hand-off state and the drain flag are as before. -/
def Undecided (authority : TerminalPtyAuthority) {α : Type} (_ : Except TerminalPtyError α)
    (after : TerminalPtyAuthority) : Prop :=
  after.state = authority.state ∧ after.humanWritesDrained = authority.humanWritesDrained

theorem Undecided.move {α : Type} {action : TerminalM α} {reply : α → TerminalReply}
    {authority : TerminalPtyAuthority} {op : TerminalOp} (observing : observes op = true)
    (spec : Ensures action authority (Undecided authority)) :
    Ensures (action >>= fun value => pure (reply value)) authority
      (Move config authority op) := by
  apply spec.bind
  · rintro error after ⟨state, drained⟩
    exact .refused error state drained
  · rintro value after ⟨state, drained⟩
    exact .pure (.observed observing state drained)

theorem assertAgent_undecided (authority : TerminalPtyAuthority) (error : TerminalPtyError)
    (binding : TerminalPtyBinding) :
    Ensures (assertAgent config error binding) authority (Undecided authority) := by
  have same : Undecided authority (.ok () : Except TerminalPtyError Unit) authority := ⟨rfl, rfl⟩
  apply ensures_requireSession (fun _ => same)
  intro _ _
  have asserted : Ensures (onState assertAgentAuthority)
      authority fun _ after => after = authority := by
    apply onState_transition
      (@ExecutionHandoffState.perform_transition _ _ config.toHandoffConfig _ .assertAgentAuthority)
    · exact fun _ => rfl
    · intro _ _ transition
      cases transition
      rfl
  apply asserted.bind
  · rintro _ _ rfl
    exact same
  · rintro _ _ rfl
    apply reading
    unfold StateExcept.require
    split <;> exact same

theorem assertHumanInput_undecided (authority : TerminalPtyAuthority)
    (binding : TerminalPtyBinding) (id : String) (epoch : Int) :
    Ensures (assertHumanInput config binding id epoch) authority
      (Undecided authority) := by
  have same : Undecided authority (.ok () : Except TerminalPtyError Unit) authority := ⟨rfl, rfl⟩
  apply ensures_requireSession (fun _ => same)
  intro _ _
  apply ensures_requireIntervention (fun _ => same)
  exact fun _ _ => .pure same

theorem noteHumanDisconnect_undecided (authority : TerminalPtyAuthority)
    (binding : TerminalPtyBinding) (id : String) (epoch : Int) :
    Ensures (noteHumanDisconnect config binding id epoch) authority
      (Undecided authority) := by
  apply (assertHumanInput_undecided authority binding id epoch).bind
  · exact fun _ _ undecided => undecided
  · rintro _ after ⟨state, drained⟩
    exact .updating (.reading (.pure ⟨state, drained⟩))

theorem acknowledge_undecided (authority : TerminalPtyAuthority) (binding : TerminalPtyBinding) :
    Ensures (acknowledgeAgentStateSynchronization config binding) authority
      (Undecided authority) := by
  have same : Undecided authority (.ok () : Except TerminalPtyError Unit) authority := ⟨rfl, rfl⟩
  apply ensures_requireSession (fun _ => same)
  intro _ _
  apply reading
  apply Ensures.require (fun _ => same)
  exact fun _ => .update ⟨rfl, rfl⟩

/-- The hand-off state after a call of its own, as a postcondition of the gate. -/
def Ran (authority : TerminalPtyAuthority) {α : Type} (op : HandoffOp Empty TerminalReason)
    (reply : α → HandoffReply Empty TerminalReason) :
    Except TerminalPtyError α → TerminalPtyAuthority → Prop
  | .error _, after => after = authority
  | .ok value, after => ∃ state, after = { authority with state } ∧
      ExecutionHandoffState.Transition authority.state op (.ok (reply value)) state

theorem onState_ran {α : Type} {authority : TerminalPtyAuthority}
    {op : HandoffOp Empty TerminalReason} {action : HandoffM Empty TerminalReason α}
    {reply : α → HandoffReply Empty TerminalReason}
    (spec : Ensures (action >>= fun value => pure (reply value)) authority.state
      (Transition authority.state op)) :
    Ensures (onState action) authority (Ran authority op reply) := by
  apply onState_transition spec
  · exact fun _ => rfl
  · exact fun _ state transition => ⟨state, rfl, transition⟩

theorem settleExit_settlement (authority : TerminalPtyAuthority) :
    Ensures (settleExit config) authority (Settlement authority) := by
  apply reading
  split
  · rename_i idle
    refine .pure (.untouched fun active held => ?_)
    rw [idle] at held
    cases held
  · rename_i active held
    split
    · have cancelled := @onState_ran _ authority _ _ _ (@ExecutionHandoffState.perform_transition
        _ _ config.toHandoffConfig authority.state (.cancel active.id))
      apply cancelled.bind
      · rintro error _ rfl
        exact .failed error
      · rintro _ _ ⟨state, rfl, transition⟩
        exact .update (.cancelled transition.cancellation.2)
    · split
      · rename_i human
        have completed := @onState_ran _ authority _ _ _
          (@ExecutionHandoffState.perform_transition _ _ config.toHandoffConfig authority.state
            (.markHumanComplete active.id))
        apply completed.bind
        · rintro error _ rfl
          exact .failed error
        · rintro verifying _ ⟨state, rfl, transition⟩
          obtain ⟨_, _, _, _, left, same, _⟩ := transition.completion
          exact .update (.completed held human left same)
      · rename_i other
        refine .pure (.untouched fun current found => ?_)
        cases held.symm.trans found
        exact other

section Moves

variable (authority : TerminalPtyAuthority) (binding : TerminalPtyBinding) (id : String)
  (epoch : Int)

theorem beginFence_move :
    Ensures (beginFence config binding) authority fun result after =>
      Move config authority (.beginFence binding) (result.map .intervention) after := by
  refine ensures_requireSession (fun _ => .refused _ rfl rfl) fun same alive => ?_
  have begun := @onState_ran _ authority _ _ _ (@ExecutionHandoffState.perform_transition _ _
    config.toHandoffConfig authority.state (.begin ⟨.terminalPty, none, .neverReplay⟩))
  apply begun.bind
  · rintro error _ rfl
    exact .refused error rfl rfl
  · rintro intervention _ ⟨state, rfl, transition⟩
    apply updating
    apply Ensures.pure
    exact .fenced (Bool.and_eq_true_iff.mpr ⟨same, alive rfl⟩) _ transition

theorem claimHumanAfterAgentDrain_move :
    Ensures (claimHumanAfterAgentDrain config binding id epoch) authority
      fun result after => Move config authority (.claimHumanAfterAgentDrain binding id epoch)
        (result.map .intervention) after := by
  refine ensures_requireSession (fun _ => .refused _ rfl rfl) fun _ _ => ?_
  refine ensures_requireIntervention (fun _ => .refused _ rfl rfl) fun active named => ?_
  apply updating
  have claimed := @onState_ran _ { authority with humanDisconnected := false } _ _ _
    (@ExecutionHandoffState.perform_transition _ _ config.toHandoffConfig authority.state
      (.claimHuman id))
  apply claimed.mono
  rintro (error | intervention) after ran
  · cases ran
    exact .refused error rfl rfl
  · obtain ⟨state, rfl, transition⟩ := ran
    exact .claimed named transition

theorem cancelBeforeHuman_move :
    Ensures (cancelBeforeHuman config binding id epoch) authority
      fun result after => Move config authority (.cancelBeforeHuman binding id epoch)
        (result.map .status) after := by
  refine ensures_requireSession (fun _ => .refused _ rfl rfl) fun _ _ => ?_
  refine ensures_requireIntervention (fun _ => .refused _ rfl rfl) fun active named => ?_
  have cancelled := @onState_ran _ authority _ _ _ (@ExecutionHandoffState.perform_transition _ _
    config.toHandoffConfig authority.state (.cancel active.id))
  apply cancelled.bind
  · rintro error _ rfl
    exact .refused error rfl rfl
  · rintro _ _ ⟨state, rfl, transition⟩
    apply updating
    apply reading
    apply Ensures.pure
    exact .cancelled transition.cancellation.2

theorem markHumanDoneFence_move :
    Ensures (markHumanDoneFence config binding id epoch) authority
      fun result after => Move config authority (.markHumanDoneFence binding id epoch)
        (result.map .intervention) after := by
  refine ensures_requireSession (fun _ => .refused _ rfl rfl) fun _ _ => ?_
  refine ensures_requireIntervention (fun _ => .refused _ rfl rfl) fun active named => ?_
  have completed := @onState_ran _ authority _ _ _ (@ExecutionHandoffState.perform_transition _ _
    config.toHandoffConfig authority.state (.markHumanComplete id))
  apply completed.bind
  · rintro error _ rfl
    exact .refused error rfl rfl
  · rintro verifying _ ⟨state, rfl, transition⟩
    apply updating
    apply Ensures.pure
    exact .doneFenced named transition

theorem confirmHumanWritesDrained_move :
    Ensures (confirmHumanWritesDrained config binding id epoch) authority
      fun result after => Move config authority (.confirmHumanWritesDrained binding id epoch)
        (result.map .intervention) after := by
  refine ensures_requireSession (fun _ => .refused _ rfl rfl) fun _ _ => ?_
  refine ensures_requireIntervention (fun _ => .refused _ rfl rfl) fun active named => ?_
  apply updating
  apply Ensures.pure
  exact .drained named

theorem reportVerification_move (satisfied : Bool) :
    Ensures (reportVerification config binding id epoch satisfied) authority
      fun result after => Move config authority (.reportVerification binding id epoch satisfied)
        (result.map .intervention) after := by
  refine ensures_requireSession (fun _ => .refused _ rfl rfl) fun _ _ => ?_
  refine ensures_requireIntervention (fun _ => .refused _ rfl rfl) fun active named => ?_
  apply reading
  refine Ensures.require (fun _ => .refused _ rfl rfl) fun drained => ?_
  cases satisfied with
  | false => exact .pure (.denied named drained)
  | true =>
      apply onState_transition (@ExecutionHandoffState.perform_transition _ _
        config.toHandoffConfig authority.state (.markVerified id))
      · exact fun error => .refused error rfl rfl
      · exact fun intervention state transition => .verified named drained transition

theorem resumeAgent_move :
    Ensures (resumeAgent config binding id epoch) authority
      fun result after => Move config authority (.resumeAgent binding id epoch)
        (result.map .decision) after := by
  refine ensures_requireSession (fun _ => .refused _ rfl rfl) fun _ _ => ?_
  refine ensures_requireIntervention (fun _ => .refused _ rfl rfl) fun active named => ?_
  have resumed := @onState_ran _ authority _ _ _ (@ExecutionHandoffState.perform_transition _ _
    config.toHandoffConfig authority.state (.resumeAgent id))
  apply resumed.bind
  · rintro error _ rfl
    exact .refused error rfl rfl
  · rintro _ _ ⟨state, rfl, transition⟩
    apply reading
    apply Ensures.pure
    exact .resumed transition.resumption

theorem noteSessionExit_move :
    Ensures (noteSessionExit config binding) authority fun result after =>
      Move config authority (.noteSessionExit binding) (result.map .status) after := by
  refine ensures_requireSession (fun _ => .refused _ rfl rfl) fun _ _ => ?_
  apply reading
  split
  · apply updating
    apply (settleExit_settlement _).bind
    · intro error after settlement
      cases settlement
      exact .refused _ rfl rfl
    · intro _ after settlement
      apply updating
      apply reading
      apply Ensures.pure
      exact .exited settlement
  · apply reading
    apply Ensures.pure
    exact .gone

/-- Every call makes one of the moves. -/
theorem perform_move (op : TerminalOp) :
    Ensures (perform config op) authority (Move config authority op) := by
  cases op with
  | assertAgentInput binding | assertAgentObservation binding | assertAgentResize binding =>
      exact Undecided.move rfl (assertAgent_undecided authority _ binding)
  | assertHumanInput binding id epoch | assertHumanObservation binding id epoch
  | assertHumanResize binding id epoch =>
      exact Undecided.move rfl (assertHumanInput_undecided authority binding id epoch)
  | noteHumanDisconnect binding id epoch =>
      exact Undecided.move rfl (noteHumanDisconnect_undecided authority binding id epoch)
  | acknowledgeAgentStateSynchronization binding =>
      exact Undecided.move rfl (acknowledge_undecided authority binding)
  | getStatus => exact .observed rfl rfl rfl
  | beginFence binding => exact .mapping (beginFence_move authority binding)
  | claimHumanAfterAgentDrain binding id epoch =>
      exact .mapping (claimHumanAfterAgentDrain_move authority binding id epoch)
  | cancelBeforeHuman binding id epoch =>
      exact .mapping (cancelBeforeHuman_move authority binding id epoch)
  | markHumanDoneFence binding id epoch =>
      exact .mapping (markHumanDoneFence_move authority binding id epoch)
  | confirmHumanWritesDrained binding id epoch =>
      exact .mapping (confirmHumanWritesDrained_move authority binding id epoch)
  | reportVerification binding id epoch satisfied =>
      exact .mapping (reportVerification_move authority binding id epoch satisfied)
  | resumeAgent binding id epoch => exact .mapping (resumeAgent_move authority binding id epoch)
  | noteSessionExit binding => exact .mapping (noteSessionExit_move authority binding)

end Moves

theorem TerminalStep.move {first last : TerminalPtyAuthority} {call : TerminalCall}
    (step : TerminalStep config first call last) : Move config first call.1 call.2 last := by
  have move : Move config first call.1 (perform config call.1 first).1
      (perform config call.1 first).2 := perform_move first call.1
  have outcome : perform config call.1 first = (call.2, last) := step
  rw [outcome] at move
  exact move

/-! ## What accounts for the flag -/

/-- The Human writes of the verified period were drained after its fence, or there was no fence
because the session exited under the Human. -/
inductive DrainedBy (config : TerminalPtyConfig) (id : String) (epoch : Nat)
    (calls : List TerminalCall) : Prop where
  | confirmed {fence drain : TerminalPtyBinding} {human : Int}
      {verifying active : TerminalIntervention} (turn : verifying.epoch = epoch)
      (order :
        [((.markHumanDoneFence fence id human, .ok (.intervention verifying)) : TerminalCall),
          (.confirmHumanWritesDrained drain id epoch, .ok (.intervention active))].Sublist calls)
  | exited {before after : List TerminalCall} {binding : TerminalPtyBinding}
      {reply : TerminalReply} {source target : TerminalPtyAuthority}
      {active verifying : TerminalIntervention}
      (split : calls = before ++ (.noteSessionExit binding, .ok reply) :: after)
      (run : TerminalRun config initial before source)
      (step : TerminalStep config source (.noteSessionExit binding, .ok reply) target)
      (held : source.state.active = some active) (same : active.id = id)
      (human : active.status = .humanActive)
      (left : target.state.active = some verifying) (turn : verifying.epoch = epoch)

theorem DrainedBy.later {id : String} {epoch : Nat} {calls : List TerminalCall}
    (drained : DrainedBy config id epoch calls) (more : List TerminalCall) :
    DrainedBy config id epoch (calls ++ more) := by
  cases drained with
  | confirmed turn order =>
      exact .confirmed turn (order.trans (sublist_append_left calls more))
  | @exited before after binding reply source target active verifying split run step held same
      human left turn =>
      subst split
      have split : before ++ (.noteSessionExit binding, .ok reply) :: after ++ more =
          before ++ (.noteSessionExit binding, .ok reply) :: (after ++ more) :=
        append_assoc _ _ _
      exact .exited split run step held same human left turn

/-- While an intervention is verified its writes are drained, or its fence is on record and the
flag is down. -/
def Accounted (config : TerminalPtyConfig) (calls : List TerminalCall)
    (authority : TerminalPtyAuthority) : Prop :=
  ∀ active, authority.state.active = some active → active.status = .verifying →
    DrainedBy config active.id active.epoch calls ∨
      (authority.humanWritesDrained = false ∧
        ∃ fence human verifying, verifying.epoch = active.epoch ∧
          ((.markHumanDoneFence fence active.id human, .ok (.intervention verifying)) :
            TerminalCall) ∈ calls)

/-- No fence is begun again while the writes of a verified intervention are outstanding. -/
def sparesDrain (config : TerminalPtyConfig) (authority : TerminalPtyAuthority) :
    TerminalOp → Bool
  | .beginFence binding =>
      !(admitsLive config authority binding && !authority.humanWritesDrained
        && authority.state.active.any fun active => decide (active.status = .verifying))
  | _ => true

theorem Accounted.same {calls : List TerminalCall} {authority after : TerminalPtyAuthority}
    (accounted : Accounted config calls authority) (more : List TerminalCall)
    (state : after.state.active = authority.state.active)
    (drained : after.humanWritesDrained = authority.humanWritesDrained) :
    Accounted config (calls ++ more) after := by
  intro active held status
  rcases accounted active (state ▸ held) status with by' | ⟨outstanding, fence, human, verifying,
    turn, mem⟩
  · exact .inl (by'.later more)
  · exact .inr ⟨drained.trans outstanding, fence, human, verifying, turn,
      mem_append_left _ mem⟩

/-- Nothing is owed unless an intervention is being verified. -/
theorem accounted_of_status {calls : List TerminalCall} {authority : TerminalPtyAuthority}
    {intervention : TerminalIntervention} (held : authority.state.active = some intervention)
    (other : intervention.status ≠ .verifying) : Accounted config calls authority := by
  intro active found status
  cases held.symm.trans found
  exact absurd status other

theorem accounted_of_idle {calls : List TerminalCall} {authority : TerminalPtyAuthority}
    (idle : authority.state.active = none) : Accounted config calls authority := by
  intro active found _
  rw [idle] at found
  cases found

theorem Accounted.step {calls : List TerminalCall} {first last : TerminalPtyAuthority}
    {call : TerminalCall} (accounted : Accounted config calls first)
    (run : TerminalRun config initial calls first) (step : TerminalStep config first call last)
    (spares : sparesDrain config first call.1 = true) :
    Accounted config (calls ++ [call]) last := by
  have move := step.move
  obtain ⟨op, outcome⟩ := call
  cases move with
  | refused error state drained => exact accounted.same _ (congrArg (·.active) state) drained
  | observed observing state drained => exact accounted.same _ (congrArg (·.active) state) drained
  | denied | gone => exact accounted.same _ rfl rfl
  | fenced admitted input transition =>
      obtain ⟨held, same | awaiting⟩ := transition.beginning
      · subst same
        intro active found status
        rcases accounted active found status with drained | ⟨outstanding, _⟩
        · exact .inl (drained.later _)
        · have found : first.state.active = some active := found
          simp [sparesDrain, admitted, outstanding, found, status] at spares
      · apply accounted_of_status held
        simp [awaiting]
  | claimed named transition =>
      apply accounted_of_status transition.claiming.1
      simp [transition.claiming.2]
  | cancelled idle | resumed idle => exact accounted_of_idle idle
  | @doneFenced binding id epoch active verifying state named transition =>
      obtain ⟨_, _, _, _, left, same, status⟩ := transition.completion
      intro current found _
      cases left.symm.trans found
      refine .inr ⟨rfl, binding, epoch, _, rfl, ?_⟩
      rw [same]
      exact mem_append_right _ (mem_singleton_self _)
  | @drained binding id epoch active named =>
      intro current found status
      cases named.held.symm.trans found
      obtain ⟨_, rfl, rfl, _⟩ := named
      rcases accounted active found status with drained | ⟨_, fence, human, verifying, turn, mem⟩
      · exact .inl (drained.later _)
      · have order := (singleton_sublist.mpr mem).append (List.Sublist.refl
          [((.confirmHumanWritesDrained binding active.id active.epoch,
            .ok (.intervention active)) : TerminalCall)])
        exact .inl (.confirmed turn order)
  | verified named drained transition =>
      apply accounted_of_status transition.verification.1
      simp [transition.verification.2]
  | @exited binding status settled settlement =>
      cases settlement with
      | untouched => exact accounted.same _ rfl rfl
      | cancelled idle => exact accounted_of_idle idle
      | completed held human left same =>
          intro current found _
          cases left.symm.trans found
          have split : calls ++ [(.noteSessionExit binding, .ok (.status status))] =
              calls ++ [(.noteSessionExit binding, .ok (.status status))] := rfl
          exact .inl (.exited split run step held same.symm human left rfl)

theorem Accounted.run {before more : List TerminalCall} {first last : TerminalPtyAuthority}
    (accounted : Accounted config before first) (reached : TerminalRun config initial before first)
    (run : Run (Guarded (TerminalStep config) fun authority call =>
      sparesDrain config authority call.1 = true) first more last) :
    Accounted config (before ++ more) last := by
  induction run generalizing before with
  | refl => rwa [append_nil]
  | step head _ ih =>
      obtain ⟨step, spares⟩ := head
      rw [append_cons]
      exact ih (accounted.step reached step spares) (reached.append (.single step))

/-- Along every run that begins no fence over outstanding writes, a positive verification is
accepted only for an intervention whose Human writes were drained. -/
theorem run_verification_drained {calls : List TerminalCall} {authority next : TerminalPtyAuthority}
    (run : Run (Guarded (TerminalStep config) fun authority call =>
      sparesDrain config authority call.1 = true) initial calls authority)
    {binding : TerminalPtyBinding} {id : String} {epoch : Int} {reply : TerminalReply}
    (report : TerminalStep config authority
      (.reportVerification binding id epoch true, .ok reply) next) :
    ∃ turn : Nat, (turn : Int) = epoch ∧ DrainedBy config id turn calls := by
  have start : Accounted config [] (initial : TerminalPtyAuthority) := accounted_of_idle rfl
  have accounted : Accounted config calls authority := start.run (.refl initial) run
  have move := report.move
  cases move with
  | observed observing => cases observing
  | @verified _ _ _ active _ _ named drained transition =>
      refine ⟨active.epoch, named.epoch, ?_⟩
      rcases accounted active named.held named.status with by' | ⟨outstanding, _⟩
      · exact named.id ▸ by'
      · rw [drained] at outstanding
        cases outstanding

/-! ## A sample terminal -/

def sampleTerminal : TerminalPtyBinding := ⟨"pty-1", 1, "principal"⟩

def sampleTerminalConfig : TerminalPtyConfig where
  now := fun reads => reads
  createId := fun count => "intervention-" ++ toString count
  supplied := sampleTerminal
  session := sampleTerminal
  normalized := by decide

/-- A Human takes the terminal over and is done. -/
def sampleHumanPeriod : List TerminalOp :=
  [.beginFence sampleTerminal, .claimHumanAfterAgentDrain sampleTerminal "intervention-0" 1,
    .markHumanDoneFence sampleTerminal "intervention-0" 1]

/-- The Human writes are drained. -/
def sampleDrain : List TerminalOp :=
  sampleHumanPeriod ++ [.confirmHumanWritesDrained sampleTerminal "intervention-0" 2]

/-- The fence is begun again instead. -/
def sampleRefence : List TerminalOp := sampleHumanPeriod ++ [.beginFence sampleTerminal]

def sampleOutcome (ops : List TerminalOp) : List TerminalCall × TerminalPtyAuthority :=
  replayCalls (perform sampleTerminalConfig) initial ops

def sampleReport : TerminalOp := .reportVerification sampleTerminal "intervention-0" 2 true

/-- The report that the sample intervention is verified, with the outcome it has. -/
def sampleReported (ops : List TerminalOp) :
    Except TerminalPtyError TerminalReply × TerminalPtyAuthority :=
  perform sampleTerminalConfig sampleReport (sampleOutcome ops).2

theorem sampleDrain_verified :
    DrainedBy sampleTerminalConfig "intervention-0" 2 (sampleOutcome sampleDrain).1 := by
  have run : Run (Guarded (TerminalStep sampleTerminalConfig) fun authority call =>
      sparesDrain sampleTerminalConfig authority call.1 = true) initial
      (sampleOutcome sampleDrain).1 (sampleOutcome sampleDrain).2 :=
    replayCalls_guarded _ (by decide)
  obtain ⟨reply, accepted⟩ : ∃ reply, (sampleReported sampleDrain).1 = .ok reply := ⟨_, rfl⟩
  have report : TerminalStep sampleTerminalConfig (sampleOutcome sampleDrain).2
      (sampleReport, .ok reply) (sampleReported sampleDrain).2 :=
    Prod.ext accepted rfl
  obtain ⟨turn, same, drained⟩ := run_verification_drained run report
  cases Int.ofNat_inj.mp same
  exact drained

/-- After a second fence the verification of undrained writes is accepted. -/
theorem sampleRefence_verified :
    ∃ calls authority reply next, TerminalRun sampleTerminalConfig initial calls authority ∧
      TerminalStep sampleTerminalConfig authority (sampleReport, .ok reply) next ∧
      ¬ DrainedBy sampleTerminalConfig "intervention-0" 2 calls := by
  obtain ⟨reply, accepted⟩ : ∃ reply, (sampleReported sampleRefence).1 = .ok reply := ⟨_, rfl⟩
  refine ⟨(sampleOutcome sampleRefence).1, (sampleOutcome sampleRefence).2, reply,
    (sampleReported sampleRefence).2, replayCalls_run _ _ _, Prod.ext accepted rfl, ?_⟩
  have fences : ∀ call ∈ (sampleOutcome sampleRefence).1, call.1 ∈ sampleRefence := by decide
  intro drained
  cases drained with
  | @confirmed fence drain human verifying active turn order =>
      have mem := fences _ (order.subset (List.mem_cons_of_mem _ (List.mem_singleton_self _)))
      simp [sampleRefence, sampleHumanPeriod] at mem
  | @exited before after binding reply source target active verifying split =>
      have mem := fences (.noteSessionExit binding, .ok reply) (by rw [split]; simp)
      simp [sampleRefence, sampleHumanPeriod] at mem

end TerminalPtyAuthority

end ExecutionHandoff.Experimental
