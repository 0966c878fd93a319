import ExecutionHandoff.Experimental.TerminalDrain

/-!
# The way back to the agent

After a Human period the agent's assertions wait for three calls in this order:
the verification, the resumption and the acknowledgement of the state
synchronization.  The exit of the session ends every assertion.
-/

namespace ExecutionHandoff.Experimental

open Library ExecutionHandoff.Core List
open StateExcept hiding read update
open Ensures (updating reading mapping)

namespace TerminalPtyAuthority

variable {config : TerminalPtyConfig}

/-! ## The two flags -/

/-- The session's life and the synchronization flag are as before, and the epoch does not fall. -/
def Steady (authority : TerminalPtyAuthority) {α : Type} (_ : Except TerminalPtyError α)
    (after : TerminalPtyAuthority) : Prop :=
  after.sessionAlive = authority.sessionAlive ∧
    after.agentStateSynchronizationRequired = authority.agentStateSynchronizationRequired ∧
    authority.state.epoch ≤ after.state.epoch

theorem Steady.refl (authority : TerminalPtyAuthority) {α : Type}
    (outcome : Except TerminalPtyError α) : Steady authority outcome authority :=
  ⟨rfl, rfl, Nat.le_refl _⟩

/-- What a call may do to the two flags: the session does not come back to life, and only an
acknowledgement in the agent's hands lowers the synchronization flag. -/
structure Flagged (authority : TerminalPtyAuthority) (op : TerminalOp)
    (outcome : Except TerminalPtyError TerminalReply) (after : TerminalPtyAuthority) : Prop where
  alive : after.sessionAlive = true → authority.sessionAlive = true
  required : authority.agentStateSynchronizationRequired = true →
    after.agentStateSynchronizationRequired = true ∨
      ∃ binding, op = .acknowledgeAgentStateSynchronization binding ∧ outcome = .ok .done ∧
        authority.state.active = none
  exited : ∀ binding reply, op = .noteSessionExit binding → outcome = .ok reply →
    after.sessionAlive = false
  epoch : authority.state.epoch ≤ after.state.epoch

variable {op : TerminalOp} {since : Nat}

theorem Steady.flagged {α : Type} {action : TerminalM α} {reply : α → TerminalReply}
    {authority : TerminalPtyAuthority}
    (inside : ∀ binding, op ≠ .noteSessionExit binding)
    (spec : Ensures action authority (Steady authority)) :
    Ensures (action >>= fun value => pure (reply value)) authority
      (Flagged authority op) := by
  have flagged {outcome : Except TerminalPtyError TerminalReply} {after : TerminalPtyAuthority}
      (alive : after.sessionAlive = authority.sessionAlive)
      (required : after.agentStateSynchronizationRequired =
        authority.agentStateSynchronizationRequired)
      (epoch : authority.state.epoch ≤ after.state.epoch) : Flagged authority op outcome after :=
    ⟨fun living => alive ▸ living, fun raised => .inl (required.trans raised),
      fun binding _ same => absurd same (inside binding), epoch⟩
  apply spec.bind
  · rintro error after ⟨alive, required, epoch⟩
    exact flagged alive required epoch
  · rintro value after ⟨alive, required, epoch⟩
    exact .pure (flagged alive required epoch)

section Steadiness

variable (authority : TerminalPtyAuthority) (binding : TerminalPtyBinding) (id : String)
  (epoch : Int)

/-- A call of the hand-off state does not see the flags. -/
theorem onState_steady {authority : TerminalPtyAuthority} {α : Type}
    {op : HandoffOp Empty TerminalReason} {action : HandoffM Empty TerminalReason α}
    {reply : α → HandoffReply Empty TerminalReason}
    (spec : Ensures (action >>= fun value => pure (reply value)) authority.state
      (ExecutionHandoffState.Transition authority.state op)) :
    Ensures (onState action) authority (Steady authority) := by
  apply onState_transition spec
  · exact fun _ => .refl authority _
  · exact fun _ _ transition => ⟨rfl, rfl, transition.epoch_le⟩

theorem beginFence_steady :
    Ensures (beginFence config binding) authority (Steady authority) := by
  apply ensures_requireSession (fun _ => .refl authority _)
  intro _ _
  apply (onState_steady (@ExecutionHandoffState.perform_transition _ _ config.toHandoffConfig
    authority.state (.begin ⟨.terminalPty, none, .neverReplay⟩))).bind
  · exact fun _ _ steady => steady
  · exact fun _ _ steady => .updating (.pure steady)

theorem claimHumanAfterAgentDrain_steady :
    Ensures (claimHumanAfterAgentDrain config binding id epoch) authority
      (Steady authority) := by
  apply ensures_requireSession (fun _ => .refl authority _)
  intro _ _
  apply ensures_requireIntervention (fun _ => .refl authority _)
  intro _ _
  apply updating
  exact @onState_steady { authority with humanDisconnected := false } _ _ _ _
    (@ExecutionHandoffState.perform_transition _ _ config.toHandoffConfig authority.state
      (.claimHuman id))

theorem cancelBeforeHuman_steady :
    Ensures (cancelBeforeHuman config binding id epoch) authority
      (Steady authority) := by
  apply ensures_requireSession (fun _ => .refl authority _)
  intro _ _
  apply ensures_requireIntervention (fun _ => .refl authority _)
  intro active _
  apply (onState_steady (@ExecutionHandoffState.perform_transition _ _ config.toHandoffConfig
    authority.state (.cancel active.id))).bind
  · exact fun _ _ steady => steady
  · exact fun _ _ steady => .updating (.reading (.pure steady))

theorem assertAgent_steady (error : TerminalPtyError) :
    Ensures (assertAgent config error binding) authority (Steady authority) := by
  apply ensures_requireSession (fun _ => .refl authority _)
  intro _ _
  apply (onState_steady (@ExecutionHandoffState.perform_transition _ _ config.toHandoffConfig
    authority.state (.assertAgentAuthority))).bind
  · exact fun _ _ steady => steady
  · intro _ _ steady
    apply reading
    unfold StateExcept.require
    split <;> exact steady

theorem assertHumanInput_steady :
    Ensures (assertHumanInput config binding id epoch) authority
      (Steady authority) := by
  apply ensures_requireSession (fun _ => .refl authority _)
  intro _ _
  apply ensures_requireIntervention (fun _ => .refl authority _)
  exact fun _ _ => .pure (.refl authority _)

theorem noteHumanDisconnect_steady :
    Ensures (noteHumanDisconnect config binding id epoch) authority
      (Steady authority) := by
  apply (assertHumanInput_steady authority binding id epoch).bind
  · exact fun _ _ steady => steady
  · exact fun _ _ steady => .updating (.reading (.pure steady))

theorem confirmHumanWritesDrained_steady :
    Ensures (confirmHumanWritesDrained config binding id epoch) authority
      (Steady authority) := by
  apply ensures_requireSession (fun _ => .refl authority _)
  intro _ _
  apply ensures_requireIntervention (fun _ => .refl authority _)
  exact fun _ _ => .updating (.pure ⟨rfl, rfl, Nat.le_refl _⟩)

theorem reportVerification_steady (satisfied : Bool) :
    Ensures (reportVerification config binding id epoch satisfied) authority
      (Steady authority) := by
  apply ensures_requireSession (fun _ => .refl authority _)
  intro _ _
  apply ensures_requireIntervention (fun _ => .refl authority _)
  intro _ _
  apply reading
  apply Ensures.require (fun _ => .refl authority _)
  intro _
  cases satisfied with
  | false => exact .pure (.refl authority _)
  | true =>
      exact onState_steady (@ExecutionHandoffState.perform_transition _ _ config.toHandoffConfig
        authority.state (.markVerified id))

theorem resumeAgent_steady :
    Ensures (resumeAgent config binding id epoch) authority (Steady authority) := by
  apply ensures_requireSession (fun _ => .refl authority _)
  intro _ _
  apply ensures_requireIntervention (fun _ => .refl authority _)
  intro _ _
  apply (onState_steady (@ExecutionHandoffState.perform_transition _ _ config.toHandoffConfig
    authority.state (.resumeAgent id))).bind
  · exact fun _ _ steady => steady
  · exact fun _ _ steady => .reading (.pure steady)

/-- The fence after Done raises the synchronization flag. -/
theorem markHumanDoneFence_flagged :
    Ensures (markHumanDoneFence config binding id epoch) authority
      fun result after => Flagged authority (.markHumanDoneFence binding id epoch)
        (result.map .intervention) after := by
  have kept {outcome : Except TerminalPtyError TerminalReply} :
      Flagged authority (.markHumanDoneFence binding id epoch) outcome authority :=
    ⟨fun living => living, .inl, fun _ _ same => (by cases same), Nat.le_refl _⟩
  apply ensures_requireSession
  · exact fun _ => kept
  intro _ _
  apply ensures_requireIntervention
  · exact fun _ => kept
  intro _ _
  apply (onState_steady (@ExecutionHandoffState.perform_transition _ _ config.toHandoffConfig
    authority.state (.markHumanComplete id))).bind
  · rintro error after ⟨alive, required, later⟩
    exact ⟨fun living => alive ▸ living, fun raised => .inl (required.trans raised),
      fun _ _ same => (by cases same), later⟩
  · rintro verifying after ⟨alive, _, later⟩
    apply updating
    apply Ensures.pure
    exact ⟨fun living => alive ▸ living, fun _ => .inl rfl, fun _ _ same => (by cases same), later⟩

theorem agent_of_idle {state : TerminalState} (agent : state.getAuthority = .agent) :
    state.active = none := by
  unfold ExecutionHandoffState.getAuthority at agent
  split at agent
  · assumption
  · split at agent <;> cases agent

theorem acknowledge_flagged :
    Ensures (perform config (.acknowledgeAgentStateSynchronization binding)) authority
      (Flagged authority (.acknowledgeAgentStateSynchronization binding)) := by
  have kept {outcome : Except TerminalPtyError TerminalReply} :
      Flagged authority (.acknowledgeAgentStateSynchronization binding) outcome authority :=
    ⟨fun living => living, .inl, fun _ _ same => (by cases same), Nat.le_refl _⟩
  apply mapping
  apply ensures_requireSession
  · exact fun _ => kept
  intro _ _
  apply reading
  apply Ensures.require
  · exact fun _ => kept
  intro agent
  apply Ensures.update
  exact ⟨fun living => living, fun _ => .inr ⟨binding, rfl, rfl,
    agent_of_idle (of_decide_eq_true agent)⟩, fun _ _ same => (by cases same), Nat.le_refl _⟩

theorem settleExit_steady :
    Ensures (settleExit config) authority (Steady authority) := by
  apply reading
  split
  · exact .pure (.refl authority _)
  · rename_i active _
    split
    · apply (onState_steady (@ExecutionHandoffState.perform_transition _ _ config.toHandoffConfig
        authority.state (.cancel active.id))).bind
      · exact fun _ _ steady => steady
      · exact fun _ _ steady => .update steady
    · split
      · apply (onState_steady (@ExecutionHandoffState.perform_transition _ _
          config.toHandoffConfig authority.state (.markHumanComplete active.id))).bind
        · exact fun _ _ steady => steady
        · exact fun _ _ steady => .update steady
      · exact .pure (.refl authority _)

theorem noteSessionExit_flagged :
    Ensures (noteSessionExit config binding) authority fun result after =>
      Flagged authority (.noteSessionExit binding) (result.map .status) after := by
  apply ensures_requireSession
  · exact fun _ => ⟨fun living => living, .inl, fun _ _ _ no => (by cases no), Nat.le_refl _⟩
  · intro _ _
    apply reading
    split
    · rename_i living
      apply updating
      apply (settleExit_steady _).bind
      · rintro error after ⟨_, required, later⟩
        exact ⟨fun _ => living, fun _ => .inl required, fun _ _ _ no => (by cases no), later⟩
      · rintro _ after ⟨dead, required, later⟩
        apply updating
        apply reading
        apply Ensures.pure
        exact ⟨fun _ => living, fun _ => .inl required, fun _ _ _ _ => dead, later⟩
    · rename_i dead
      apply reading
      apply Ensures.pure
      exact ⟨fun living => living, .inl, fun _ _ _ _ => Bool.eq_false_iff.mpr dead, Nat.le_refl _⟩

theorem perform_flagged (op : TerminalOp) :
    Ensures (perform config op) authority (Flagged authority op) := by
  cases op with
  | beginFence binding => exact Steady.flagged (fun _ => nofun) (beginFence_steady authority binding)
  | claimHumanAfterAgentDrain binding id epoch =>
      exact Steady.flagged (fun _ => nofun) (claimHumanAfterAgentDrain_steady authority binding id epoch)
  | cancelBeforeHuman binding id epoch =>
      exact Steady.flagged (fun _ => nofun) (cancelBeforeHuman_steady authority binding id epoch)
  | assertAgentInput binding | assertAgentObservation binding | assertAgentResize binding =>
      exact Steady.flagged (fun _ => nofun) (assertAgent_steady authority binding _)
  | assertHumanInput binding id epoch | assertHumanObservation binding id epoch
  | assertHumanResize binding id epoch =>
      exact Steady.flagged (fun _ => nofun) (assertHumanInput_steady authority binding id epoch)
  | noteHumanDisconnect binding id epoch =>
      exact Steady.flagged (fun _ => nofun) (noteHumanDisconnect_steady authority binding id epoch)
  | markHumanDoneFence binding id epoch =>
      exact .mapping (markHumanDoneFence_flagged authority binding id epoch)
  | confirmHumanWritesDrained binding id epoch =>
      exact Steady.flagged (fun _ => nofun) (confirmHumanWritesDrained_steady authority binding id epoch)
  | reportVerification binding id epoch satisfied =>
      exact Steady.flagged (fun _ => nofun)
        (reportVerification_steady authority binding id epoch satisfied)
  | resumeAgent binding id epoch =>
      exact Steady.flagged (fun _ => nofun) (resumeAgent_steady authority binding id epoch)
  | acknowledgeAgentStateSynchronization binding => exact acknowledge_flagged authority binding
  | noteSessionExit binding => exact .mapping (noteSessionExit_flagged authority binding)
  | getStatus => exact Steady.flagged (fun _ => nofun) (.reading (.pure (.refl authority _)))

end Steadiness

variable {last : TerminalPtyAuthority}

theorem TerminalStep.flagged {first : TerminalPtyAuthority} {call : TerminalCall}
    (step : TerminalStep config first call last) : Flagged first call.1 call.2 last := by
  have flagged : Flagged first call.1 (perform config call.1 first).1
      (perform config call.1 first).2 := perform_flagged first call.1
  have outcome : perform config call.1 first = (call.2, last) := step
  rw [outcome] at flagged
  exact flagged

/-! ## What an accepted call has checked -/

theorem Names.of_ok {α : Type} {authority : TerminalPtyAuthority} {binding : TerminalPtyBinding}
    {requireAlive : Bool} {id : String} {epoch : Int} {status : InterventionStatus}
    (next : TerminalIntervention → TerminalM α) :
    Ensures
      (requireSession config binding requireAlive >>= fun _ =>
        requireIntervention id epoch status >>= next)
      authority fun result _ => ∀ value, result = .ok value →
        (requireAlive = true → authority.sessionAlive = true) ∧
          ∃ active, Names authority id epoch status active := by
  apply ensures_requireSession
  · exact fun _ _ no => by cases no
  intro _ alive
  apply ensures_requireIntervention
  · exact fun _ _ no => by cases no
  exact fun active named _ _ => ⟨alive, active, named⟩

theorem TerminalStep.cancels {first : TerminalPtyAuthority} {binding : TerminalPtyBinding}
    {id : String} {epoch : Int} {reply : TerminalReply}
    (step : TerminalStep config first (.cancelBeforeHuman binding id epoch, .ok reply) last) :
    first.sessionAlive = true ∧ ∃ active, Names first id epoch .awaitingHuman active := by
  have checked : Ensures (perform config (.cancelBeforeHuman binding id epoch)) first
      fun result _ => ∀ value, result = .ok value →
        first.sessionAlive = true ∧ ∃ active, Names first id epoch .awaitingHuman active := by
    apply mapping
    apply (Names.of_ok _).mono
    rintro (error | status) after facts value same
    · cases same
    · obtain ⟨alive, named⟩ := facts status rfl
      exact ⟨alive rfl, named⟩
  exact checked reply (congrArg Prod.fst step)

theorem TerminalStep.resumes {first : TerminalPtyAuthority} {binding : TerminalPtyBinding}
    {id : String} {epoch : Int} {reply : TerminalReply}
    (step : TerminalStep config first (.resumeAgent binding id epoch, .ok reply) last) :
    ∃ active, Names first id epoch .readyToResume active := by
  have checked : Ensures (perform config (.resumeAgent binding id epoch)) first
      fun result _ => ∀ value, result = .ok value →
        ∃ active, Names first id epoch .readyToResume active := by
    apply mapping
    apply (Names.of_ok _).mono
    rintro (error | status) after facts value same
    · cases same
    · exact (facts status rfl).2
  exact checked reply (congrArg Prod.fst step)

/-- The agent's three assertions. -/
def assertsAgent : TerminalOp → Bool
  | .assertAgentInput _ | .assertAgentObservation _ | .assertAgentResize _ => true
  | _ => false

/-- The agent's and the Human's assertions. -/
def asserts : TerminalOp → Bool
  | .assertHumanInput _ _ _ | .assertHumanObservation _ _ _ | .assertHumanResize _ _ _ => true
  | op => assertsAgent op

/-- An assertion of the agent is accepted for a live session without intervention, once the agent
has synchronized. -/
theorem assertAgent_accepts (authority : TerminalPtyAuthority) (error : TerminalPtyError)
    (binding : TerminalPtyBinding) :
    Ensures (assertAgent config error binding) authority fun result _ =>
      ∀ value, result = .ok value → authority.sessionAlive = true ∧
        authority.state.active = none ∧ authority.agentStateSynchronizationRequired = false := by
  apply ensures_requireSession
  · exact fun _ _ no => by cases no
  intro _ alive
  have asserted : Ensures (onState ExecutionHandoffState.assertAgentAuthority)
      authority fun result after => after = authority ∧
        ∀ value, result = .ok value → authority.state.active = none := by
    apply onState_transition
      (@ExecutionHandoffState.perform_transition _ _ config.toHandoffConfig _ .assertAgentAuthority)
    · exact fun _ => ⟨rfl, fun _ no => by cases no⟩
    · intro _ _ transition
      cases transition with
      | asserted idle => exact ⟨rfl, fun _ _ => idle⟩
  apply asserted.bind
  · exact fun _ _ _ _ no => by cases no
  · rintro value _ ⟨rfl, idle⟩
    apply reading
    unfold StateExcept.require
    split
    · rename_i synchronized
      exact fun _ _ => ⟨alive rfl, idle value rfl, Bool.not_eq_true' _ |>.mp synchronized⟩
    · exact fun _ no => by cases no

theorem TerminalStep.asserted {first : TerminalPtyAuthority}
    {reply : TerminalReply} (step : TerminalStep config first (op, .ok reply) last)
    (agent : assertsAgent op = true) :
    first.sessionAlive = true ∧ first.state.active = none ∧
      first.agentStateSynchronizationRequired = false := by
  have checked : Ensures (perform config op) first fun result _ =>
      ∀ value, result = .ok value → first.sessionAlive = true ∧ first.state.active = none ∧
        first.agentStateSynchronizationRequired = false := by
    cases op with
    | assertAgentInput binding | assertAgentObservation binding | assertAgentResize binding =>
        apply mapping
        apply (assertAgent_accepts first _ binding).mono
        rintro (error | value) after accepted _ same
        · cases same
        · exact accepted value rfl
    | _ => cases agent
  exact checked reply (congrArg Prod.fst step)

/-- Every assertion needs a live session. -/
theorem TerminalStep.asserted_alive {first : TerminalPtyAuthority}
    {reply : TerminalReply} (step : TerminalStep config first (op, .ok reply) last)
    (asserting : asserts op = true) : first.sessionAlive = true := by
  by_cases agent : assertsAgent op = true
  · exact (step.asserted agent).1
  · have checked : Ensures (perform config op) first fun result _ =>
        ∀ value, result = .ok value → first.sessionAlive = true := by
      cases op with
      | assertHumanInput binding id epoch | assertHumanObservation binding id epoch
      | assertHumanResize binding id epoch =>
          apply mapping
          apply ensures_requireSession
          · exact fun _ _ no => by cases no
          intro _ alive
          apply ensures_requireIntervention
          · exact fun _ _ no => by cases no
          exact fun _ _ _ _ => alive rfl
      | _ => exact absurd asserting agent
    exact checked reply (congrArg Prod.fst step)

/-- An acknowledgement out of turn is refused and changes nothing. -/
theorem acknowledge_refused {authority : TerminalPtyAuthority} (binding : TerminalPtyBinding)
    (early : authority.state.getAuthority ≠ .agent ∨ authority.sessionAlive = false) :
    ∃ error, perform config (.acknowledgeAgentStateSynchronization binding) authority =
      (.error error, authority) := by
  have refused : Ensures
      (perform config (.acknowledgeAgentStateSynchronization binding)) authority
      fun result after => ∃ error, result = .error error ∧ after = authority := by
    apply mapping
    apply ensures_requireSession
    · exact fun error => ⟨error, rfl, rfl⟩
    intro _ alive
    apply reading
    apply Ensures.require
    · exact fun _ => ⟨_, rfl, rfl⟩
    intro agent
    rcases early with suspended | dead
    · exact absurd (of_decide_eq_true agent) suspended
    · rw [alive rfl] at dead
      cases dead
  obtain ⟨error, result, after⟩ := refused
  exact ⟨error, Prod.ext result after⟩

/-! ## After a Human period -/

/-- The intervention was verified and resumed at a later epoch, and the agent has acknowledged the
state synchronization since. -/
inductive Resynchronized (id : String) (since : Nat) (calls : List TerminalCall) : Prop where
  | acknowledged {epoch : Nat} (later : since < epoch)
      {report resume acknowledge : TerminalPtyBinding} {verified decided : TerminalReply}
      (order :
        [((.reportVerification report id epoch true, .ok verified) : TerminalCall),
          (.resumeAgent resume id epoch, .ok decided),
          (.acknowledgeAgentStateSynchronization acknowledge, .ok .done)].Sublist calls)

/-- How far the way back has come since a Human period of the intervention. -/
inductive AfterHuman (id : String) (since : Nat) (calls : List TerminalCall)
    (authority : TerminalPtyAuthority) : Prop where
  | human (active : TerminalIntervention) (held : authority.state.active = some active)
      (same : active.id = id) (status : active.status = .humanActive)
      (epoch : since ≤ authority.state.epoch)
  | verifying (active : TerminalIntervention) (held : authority.state.active = some active)
      (same : active.id = id) (status : active.status = .verifying) (fenced : since < active.epoch)
      (required : authority.agentStateSynchronizationRequired = true)
  | ready (active : TerminalIntervention) (held : authority.state.active = some active)
      (same : active.id = id) (status : active.status = .readyToResume)
      (fenced : since < active.epoch)
      (required : authority.agentStateSynchronizationRequired = true)
      (report : TerminalPtyBinding) (verified : TerminalReply)
      (mem : ((.reportVerification report id active.epoch true, .ok verified) : TerminalCall)
        ∈ calls)
  | resumed {epoch : Nat} (later : since < epoch)
      (required : authority.agentStateSynchronizationRequired = true)
      {report resume : TerminalPtyBinding} {verified decided : TerminalReply}
      (order :
        [((.reportVerification report id epoch true, .ok verified) : TerminalCall),
          (.resumeAgent resume id epoch, .ok decided)].Sublist calls)
  | back (resynchronized : Resynchronized id since calls)
  | dead (exited : authority.sessionAlive = false)

theorem Resynchronized.later {id : String} {calls : List TerminalCall}
    (resynchronized : Resynchronized id since calls) (more : List TerminalCall) :
    Resynchronized id since (calls ++ more) := by
  cases resynchronized with
  | acknowledged later order =>
      exact .acknowledged later (order.trans (sublist_append_left calls more))

/-- A call that leaves the hand-off state alone does not go back. -/
theorem AfterHuman.same {id : String} {calls : List TerminalCall}
    {first : TerminalPtyAuthority} {call : TerminalCall}
    (phase : AfterHuman id since calls first) (flagged : Flagged first call.1 call.2 last)
    (state : last.state = first.state) : AfterHuman id since (calls ++ [call]) last := by
  -- an acknowledgement is accepted only without an intervention in progress
  have stays (active : TerminalIntervention) (held : first.state.active = some active)
      (required : first.agentStateSynchronizationRequired = true) :
      last.agentStateSynchronizationRequired = true := by
    rcases flagged.required required with still | ⟨_, _, _, idle⟩
    · exact still
    · rw [held] at idle
      cases idle
  cases phase with
  | human active held same status epoch =>
      exact .human active (state ▸ held) same status (state ▸ epoch)
  | verifying active held same status fenced required =>
      exact .verifying active (state ▸ held) same status fenced (stays active held required)
  | ready active held same status fenced required report verified mem =>
      exact .ready active (state ▸ held) same status fenced (stays active held required) report
        verified (mem_append_left _ mem)
  | @resumed epoch later required report resume verified decided order =>
      rcases flagged.required required with still | ⟨binding, acknowledges, accepted, _⟩
      · exact .resumed later still (order.trans (sublist_append_left _ _))
      · have acknowledged : call = (.acknowledgeAgentStateSynchronization binding, .ok .done) :=
          Prod.ext acknowledges accepted
        rw [acknowledged]
        exact .back (.acknowledged later (order.append (List.Sublist.refl _)))
  | back resynchronized => exact .back (resynchronized.later _)
  | dead exited =>
      apply AfterHuman.dead
      apply Bool.eq_false_iff.mpr
      intro living
      rw [flagged.alive living] at exited
      cases exited

theorem AfterHuman.step {id : String} {since : Nat} {calls : List TerminalCall}
    {first last : TerminalPtyAuthority} {call : TerminalCall}
    (phase : AfterHuman id since calls first) (step : TerminalStep config first call last) :
    AfterHuman id since (calls ++ [call]) last := by
  have flagged := step.flagged
  have move := step.move
  obtain ⟨op, outcome⟩ := call
  by_cases exited : last.sessionAlive = false
  · exact .dead exited
  cases phase with
  | dead gone => exact absurd (flagged.alive (Bool.not_eq_false _ ▸ exited)) (by simp [gone])
  | back resynchronized => exact .back (resynchronized.later _)
  | resumed later required order =>
      rcases flagged.required required with still | ⟨binding, rfl, rfl, _⟩
      · exact .resumed later still (order.trans (sublist_append_left _ _))
      · exact .back (.acknowledged later (order.append (List.Sublist.refl _)))
  | human active held same status epoch =>
      cases move with
      | refused error state =>
          exact AfterHuman.same (.human active held same status epoch) flagged state
      | observed observing state =>
          exact AfterHuman.same (.human active held same status epoch) flagged state
      | fenced admitted input transition =>
          cases transition with
          | begun _ idle =>
              rw [held] at idle
              cases idle
          | kept => exact .human active held same status epoch
      | claimed named | drained named | denied named | verified named =>
          cases held.symm.trans named.held
          cases status.symm.trans named.status
      | cancelled =>
          obtain ⟨_, current, named⟩ := step.cancels
          cases held.symm.trans named.held
          cases status.symm.trans named.status
      | resumed =>
          obtain ⟨current, named⟩ := step.resumes
          cases held.symm.trans named.held
          cases status.symm.trans named.status
      | doneFenced named transition =>
          cases transition with
          | completed current found =>
              cases held.symm.trans found
              exact .verifying _ rfl same rfl (Nat.lt_succ_of_le epoch) rfl
      | gone | exited => exact absurd (flagged.exited _ _ rfl rfl) exited
  | verifying active held same status fenced required =>
      cases move with
      | refused error state =>
          exact AfterHuman.same (.verifying active held same status fenced required) flagged state
      | observed observing state =>
          exact AfterHuman.same (.verifying active held same status fenced required) flagged state
      | fenced admitted input transition =>
          cases transition with
          | begun _ idle =>
              rw [held] at idle
              cases idle
          | kept => exact .verifying active held same status fenced required
      | drained | denied => exact .verifying active held same status fenced required
      | claimed named | doneFenced named =>
          cases held.symm.trans named.held
          cases status.symm.trans named.status
      | cancelled =>
          obtain ⟨_, current, named⟩ := step.cancels
          cases held.symm.trans named.held
          cases status.symm.trans named.status
      | resumed =>
          obtain ⟨current, named⟩ := step.resumes
          cases held.symm.trans named.held
          cases status.symm.trans named.status
      | @verified binding name epoch current intervention state named _ transition =>
          cases held.symm.trans named.held
          have reports : name = id := named.id.symm.trans same
          have turn : (active.epoch : Int) = epoch := named.epoch
          subst reports turn
          have reported := mem_append_right calls (mem_singleton_self
            ((.reportVerification binding name active.epoch true, .ok (.intervention intervention)) :
              TerminalCall))
          cases transition with
          | verified holder found =>
              cases held.symm.trans found
              exact .ready _ rfl rfl rfl fenced required binding _ reported
      | gone | exited => exact absurd (flagged.exited _ _ rfl rfl) exited
  | ready active held same status fenced required report verified mem =>
      have later := mem_append_left [((op, outcome) : TerminalCall)] mem
      cases move with
      | refused error state =>
          exact AfterHuman.same (.ready active held same status fenced required report verified mem)
            flagged state
      | observed observing state =>
          exact AfterHuman.same (.ready active held same status fenced required report verified mem)
            flagged state
      | fenced admitted input transition =>
          cases transition with
          | begun _ idle =>
              rw [held] at idle
              cases idle
          | kept => exact .ready active held same status fenced required report verified later
      | claimed named | doneFenced named | drained named | denied named | verified named =>
          cases held.symm.trans named.held
          cases status.symm.trans named.status
      | cancelled =>
          obtain ⟨_, current, named⟩ := step.cancels
          cases held.symm.trans named.held
          cases status.symm.trans named.status
      | @resumed binding name epoch decision state idle =>
          obtain ⟨current, named⟩ := step.resumes
          cases held.symm.trans named.held
          have resumes : name = id := named.id.symm.trans same
          have turn : (active.epoch : Int) = epoch := named.epoch
          subst resumes turn
          have order := (singleton_sublist.mpr mem).append (List.Sublist.refl
            [((.resumeAgent binding name active.epoch, .ok (.decision decision)) : TerminalCall)])
          exact .resumed fenced required order
      | gone | exited => exact absurd (flagged.exited _ _ rfl rfl) exited

theorem AfterHuman.run {id : String} {calls more : List TerminalCall}
    {first : TerminalPtyAuthority} (phase : AfterHuman id since calls first)
    (run : TerminalRun config first more last) : AfterHuman id since (calls ++ more) last := by
  induction run generalizing calls with
  | refl => rwa [append_nil]
  | step head _ ih =>
      rw [append_cons]
      exact ih (phase.step head)

/-! ## Epochs of a live session -/

/-- The epoch of an intervention that was not fenced yet has been issued. -/
def Issued (authority : TerminalPtyAuthority) : Prop :=
  authority.sessionAlive = true → ∀ active, authority.state.active = some active →
    active.status = .awaitingHuman ∨ active.status = .humanActive →
    active.epoch ≤ authority.state.epoch

theorem Issued.step {first last : TerminalPtyAuthority} {call : TerminalCall}
    (issued : Issued first) (step : TerminalStep config first call last) : Issued last := by
  have flagged := step.flagged
  have move := step.move
  intro alive active held status
  have before := issued (flagged.alive alive)
  obtain ⟨op, outcome⟩ := call
  cases move with
  | refused error state | observed observing state =>
      rw [state] at held ⊢
      exact before active held status
  | denied | drained => exact before active held status
  | fenced admitted input transition =>
      cases transition with
      | begun =>
          cases held
          exact Nat.le_refl _
      | kept => exact before active held status
  | claimed named transition =>
      cases transition with
      | reclaimed => exact before active held status
      | claimed current found waiting =>
          cases held
          refine before current found (.inl ?_)
          cases found.symm.trans named.held
          exact named.status
  | cancelled idle | resumed idle =>
      cases idle.symm.trans held
  | doneFenced named transition =>
      obtain ⟨_, _, _, _, left, _, verifying⟩ := transition.completion
      cases left.symm.trans held
      rw [verifying] at status
      rcases status with no | no <;> cases no
  | verified named drained transition =>
      obtain ⟨left, ready⟩ := transition.verification
      cases left.symm.trans held
      rw [ready] at status
      rcases status with no | no <;> cases no
  | gone | exited => cases (flagged.exited _ _ rfl rfl).symm.trans alive

/-- Whatever waits for a Human was begun by one of the calls, at a later epoch. -/
def BegunSince (since : Nat) (calls : List TerminalCall) (authority : TerminalPtyAuthority) :
    Prop :=
  authority.sessionAlive = true → since ≤ authority.state.epoch ∧
    ∀ active, authority.state.active = some active → active.status = .awaitingHuman →
      since < active.epoch ∧ ∃ fence,
        ((.beginFence fence, .ok (.intervention active)) : TerminalCall) ∈ calls

theorem BegunSince.step {since : Nat} {calls : List TerminalCall}
    {first last : TerminalPtyAuthority} {call : TerminalCall} (begun : BegunSince since calls first)
    (step : TerminalStep config first call last) : BegunSince since (calls ++ [call]) last := by
  have flagged := step.flagged
  have move := step.move
  intro alive
  obtain ⟨epoch, before⟩ := begun (flagged.alive alive)
  refine ⟨Nat.le_trans epoch flagged.epoch, fun active held awaiting => ?_⟩
  have later (found : first.state.active = some active) :
      since < active.epoch ∧ ∃ fence,
        ((.beginFence fence, .ok (.intervention active)) : TerminalCall) ∈ calls ++ [call] := by
    obtain ⟨turn, fence, mem⟩ := before active found awaiting
    exact ⟨turn, fence, mem_append_left _ mem⟩
  obtain ⟨op, outcome⟩ := call
  cases move with
  | refused error state | observed observing state => exact later (state ▸ held)
  | denied | drained => exact later held
  | @fenced binding intervention state admitted input transition =>
      cases transition with
      | begun =>
          cases held
          exact ⟨Nat.lt_succ_of_le epoch, binding,
            mem_append_right _ (mem_singleton_self _)⟩
      | kept => exact later held
  | claimed named transition =>
      obtain ⟨left, human⟩ := transition.claiming
      cases left.symm.trans held
      cases human.symm.trans awaiting
  | cancelled idle | resumed idle => cases idle.symm.trans held
  | doneFenced named transition =>
      obtain ⟨_, _, _, _, left, _, verifying⟩ := transition.completion
      cases left.symm.trans held
      cases verifying.symm.trans awaiting
  | verified named drained transition =>
      obtain ⟨left, ready⟩ := transition.verification
      cases left.symm.trans held
      cases ready.symm.trans awaiting
  | gone | exited => cases (flagged.exited _ _ rfl rfl).symm.trans alive

theorem BegunSince.run {calls more : List TerminalCall}
    {first : TerminalPtyAuthority} (begun : BegunSince since calls first)
    (run : TerminalRun config first more last) : BegunSince since (calls ++ more) last := by
  induction run generalizing calls with
  | refl => rwa [append_nil]
  | step head _ ih =>
      rw [append_cons]
      exact ih (begun.step head)

/-! ## The exit of the session -/

theorem exit_final {calls : List TerminalCall} {first : TerminalPtyAuthority}
    (run : TerminalRun config first calls last) {binding : TerminalPtyBinding}
    {reply : TerminalReply} (exited : (.noteSessionExit binding, .ok reply) ∈ calls) :
    last.sessionAlive = false := by
  obtain ⟨_, after, _, target, _, _, step, rest⟩ := run.exists_step_of_mem exited
  have dead : target.sessionAlive = false := step.flagged.exited _ _ rfl rfl
  have stays {source next : TerminalPtyAuthority} {call : TerminalCall}
      (head : TerminalStep config source call next) (gone : source.sessionAlive = false) :
      next.sessionAlive = false := by
    apply Bool.eq_false_iff.mpr
    intro living
    cases gone.symm.trans (head.flagged.alive living)
  exact rest.invariant stays dead

theorem effectiveAuthority_dead {authority : TerminalPtyAuthority}
    (dead : authority.sessionAlive = false) : authority.effectiveAuthority ≠ .agent := by
  unfold effectiveAuthority
  split
  · exact fun no => by cases no
  · rename_i other
    simpa [dead] using other

/-- After a Human period the agent's assertions wait for verification, resumption and
acknowledgement, and what is cancelled was begun since; an acknowledgement out of turn does
nothing; after the exit of the session no assertion succeeds. -/
theorem run_human_authority {before since : List TerminalCall} {first last : TerminalPtyAuthority}
    (reached : TerminalRun config initial before first) (run : TerminalRun config first since last) :
    (∀ active, first.state.active = some active → active.status = .humanActive →
      (∀ op reply after, assertsAgent op = true → TerminalStep config last (op, .ok reply) after →
        Resynchronized active.id active.epoch since) ∧
      ∀ binding id epoch reply after,
        TerminalStep config last (.cancelBeforeHuman binding id epoch, .ok reply) after →
        ∃ fence begun, ((.beginFence fence, .ok (.intervention begun)) : TerminalCall) ∈ since ∧
          begun.id = id ∧ (begun.epoch : Int) = epoch ∧ active.epoch < begun.epoch) ∧
    (∀ binding, last.state.getAuthority ≠ .agent ∨ last.sessionAlive = false →
      ∃ error, perform config (.acknowledgeAgentStateSynchronization binding) last =
        (.error error, last)) ∧
    ∀ binding reply, (.noteSessionExit binding, .ok reply) ∈ since →
      last.effectiveAuthority ≠ .agent ∧
        ∀ op reply after, asserts op = true → ¬ TerminalStep config last (op, .ok reply) after := by
  have issued : Issued first :=
    reached.invariant (fun step issued => issued.step step) fun _ _ no => by cases no
  refine ⟨fun active held human => ⟨?_, ?_⟩, fun binding early => acknowledge_refused binding early,
    fun binding reply exited => ?_⟩
  · intro op reply after agent step
    obtain ⟨alive, idle, synchronized⟩ := step.asserted agent
    have start : AfterHuman active.id active.epoch [] first := by
      by_cases living : first.sessionAlive = true
      · exact .human active held rfl human (issued living active held (.inr human))
      · exact .dead (Bool.eq_false_iff.mpr living)
    have phase : AfterHuman active.id active.epoch since last := start.run run
    cases phase with
    | human current found | verifying current found | ready current found =>
        cases idle.symm.trans found
    | resumed _ required => cases required.symm.trans synchronized
    | back resynchronized => exact resynchronized
    | dead exited => cases exited.symm.trans alive
  · intro binding id epoch reply after step
    obtain ⟨alive, current, named⟩ := step.cancels
    have start : BegunSince active.epoch [] first := by
      refine fun living => ⟨issued living active held (.inr human), fun other found awaiting => ?_⟩
      cases held.symm.trans found
      cases human.symm.trans awaiting
    have begun : BegunSince active.epoch since last := start.run run
    obtain ⟨turn, fence, mem⟩ := (begun alive).2 current named.held named.status
    exact ⟨fence, current, mem, named.id, named.epoch, turn⟩
  · have dead := exit_final run exited
    refine ⟨effectiveAuthority_dead dead, fun op reply after asserting step => ?_⟩
    cases dead.symm.trans (step.asserted_alive asserting)

/-- The sample Human is done, verified, resumed and acknowledged. -/
def sampleReturn : List TerminalOp :=
  [.markHumanDoneFence sampleTerminal "intervention-0" 1,
    .confirmHumanWritesDrained sampleTerminal "intervention-0" 2,
    .reportVerification sampleTerminal "intervention-0" 2 true,
    .resumeAgent sampleTerminal "intervention-0" 2,
    .acknowledgeAgentStateSynchronization sampleTerminal]

def sampleClaim : List TerminalCall × TerminalPtyAuthority :=
  sampleOutcome [.beginFence sampleTerminal,
    .claimHumanAfterAgentDrain sampleTerminal "intervention-0" 1]

def sampleReturned : List TerminalCall × TerminalPtyAuthority :=
  replayCalls (perform sampleTerminalConfig) sampleClaim.2 sampleReturn

theorem sampleReturned_resynchronized :
    Resynchronized "intervention-0" 1 sampleReturned.1 := by
  have accepted : perform sampleTerminalConfig (.assertAgentInput sampleTerminal) sampleReturned.2 =
      (.ok .done, sampleReturned.2) := by decide
  have human : ∃ active, sampleClaim.2.state.active = some active ∧
      active.status = .humanActive ∧ active.id = "intervention-0" ∧ active.epoch = 1 :=
    ⟨_, rfl, by decide⟩
  obtain ⟨active, held, status, id, epoch⟩ := human
  have authority := run_human_authority
    (replayCalls_run (perform sampleTerminalConfig) initial _)
    (replayCalls_run (perform sampleTerminalConfig) sampleClaim.2 sampleReturn)
  rw [← id, ← epoch]
  exact (authority.1 active held status).1 _ _ _ rfl accepted

end TerminalPtyAuthority

end ExecutionHandoff.Experimental
