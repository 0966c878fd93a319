import ExecutionHandoff.Broker.TakeoverBroker
import ExecutionHandoff.Takeover.SessionGentle

/-!
# The steps of the broker

What one event can do to the session manager, the running finalizations and the
log, said once.  A quiet step records nothing about a completion and mints no
session; what remains is a link that ensures a session, an accepted completion,
and the settling of what a finalization awaits.
-/

namespace ExecutionHandoff.Broker

open Library Takeover
open TakeoverSessionManager (Gentle Touches swept_read claimClient_touches perform
  validateLocator_touches isCompleted_touches verify_touches releaseClientGeneration_touches
  beginUse_touches endUse_touches isCompleted verify revoke revoke_eq beginBoundUse
  beginBoundUse_touches touches_ticked Ensured Completion validateLocator complete_outcome)
open TakeoverSessionManager.Touching (reply)

/-- The fact says nothing about a completion. -/
def BrokerFact.idle : BrokerFact → Bool
  | .linked .. | .input .. | .answered _ (.error ..) => true
  | _ => false

/-- A link comes to ask for a session of the principal. -/
def TakeoverBrokerConfig.linkable (config : TakeoverBrokerConfig)
    (intervention : TakeoverInterventionRef) (principalBinding : Option String) :
    Option (TakeoverInterventionRef × String) :=
  match config.enabled, truthy config.publicBaseUrl, truthy principalBinding with
  | true, some _, some principal => some (intervention, principal)
  | _, _, _ => none

/-- The session a link asks the manager for, if it comes to that. -/
def BrokerEvent.ensures (config : TakeoverBrokerConfig) :
    BrokerEvent → Option (TakeoverInterventionRef × String)
  | .createLink intervention principal => config.linkable intervention principal
  | .createNativeLink intervention principal =>
      if config.nativeRuntime then config.linkable intervention principal else none
  | .createWebRtcLink intervention principal inputPolicy terminalTargetBehavior =>
      if config.webRtcRuntime
          && (normalizeWebRtcInputPolicy (inputPolicy.getD allowAllWebRtcInput.object)).isSome
          && (TakeoverBroker.readTerminalTargetBehavior terminalTargetBehavior).isSome then
        config.linkable intervention principal
      else
        none
  | _ => none

namespace TakeoverBroker

variable {config : TakeoverBrokerConfig} {broker after : TakeoverBroker}

structure Quiet (config : TakeoverBrokerConfig) (broker after : TakeoverBroker) : Prop where
  gentle : TakeoverSessionManager.Gentle config.sessions broker.sessions after.sessions
  finalizations : after.completionFinalizations = broker.completionFinalizations
  log : ∃ more, after.log = more ++ broker.log ∧ ∀ fact ∈ more, fact.idle = true

theorem Quiet.refl (broker : TakeoverBroker) : Quiet config broker broker :=
  ⟨.refl _, rfl, [], rfl, by simp⟩

theorem Quiet.trans {middle : TakeoverBroker} (left : Quiet config broker middle)
    (right : Quiet config middle after) : Quiet config broker after := by
  obtain ⟨early, same, before⟩ := left.log
  obtain ⟨late, same', later⟩ := right.log
  constructor
  · exact left.gentle.trans right.gentle
  · exact right.finalizations.trans left.finalizations
  · refine ⟨late ++ early, ?_, ?_⟩
    · rw [same', same, List.append_assoc]
    · intro fact mem
      rcases List.mem_append.mp mem with here | there
      · exact later fact here
      · exact before fact there

/-- A step whose log and finalizations are those of before. -/
theorem Quiet.of_gentle
    (gentle : Gentle config.sessions broker.sessions after.sessions)
    (finalizations : after.completionFinalizations = broker.completionFinalizations)
    (log : after.log = broker.log) : Quiet config broker after :=
  ⟨gentle, finalizations, [], log, by simp⟩

theorem Quiet.of_touches {rebinds : Bool}
    (touches : Touches config.sessions rebinds broker.sessions
      after.sessions)
    (finalizations : after.completionFinalizations = broker.completionFinalizations)
    (log : after.log = broker.log) : Quiet config broker after :=
  .of_gentle (.touches touches) finalizations log

/-- A step that changes none of the three. -/
theorem Quiet.of_same (sessions : after.sessions = broker.sessions)
    (finalizations : after.completionFinalizations = broker.completionFinalizations)
    (log : after.log = broker.log) : Quiet config broker after :=
  .of_gentle (sessions ▸ .refl _) finalizations log

theorem Quiet.record (quiet : Quiet config broker after) {fact : BrokerFact}
    (idle : fact.idle = true) : Quiet config broker (after.record fact) := by
  apply quiet.trans
  refine ⟨.refl _, rfl, [fact], rfl, fun other mem => ?_⟩
  rw [List.mem_singleton.mp mem]
  exact idle

/-! ## Revocation and verified completion -/

theorem quiet_revokeSessions (broker : TakeoverBroker) (interventionId : String) :
    Quiet config broker (broker.revokeSessions interventionId) :=
  .of_gentle (.revokesIntervention _ interventionId) rfl rfl

theorem quiet_revokeForIntervention (broker : TakeoverBroker) (interventionId : String) :
    Quiet config broker (broker.revokeForIntervention interventionId) :=
  (quiet_revokeSessions broker interventionId).trans (.of_same rfl rfl rfl)

theorem quiet_revokeNativeForIntervention (broker : TakeoverBroker) (interventionId : String) :
    Quiet config broker (broker.revokeNativeForIntervention interventionId) :=
  (quiet_revokeSessions broker interventionId).trans (.of_same rfl rfl rfl)

theorem quiet_revokeWebRtcForIntervention (broker : TakeoverBroker) (interventionId : String) :
    Quiet config broker (broker.revokeWebRtcForIntervention interventionId) :=
  (quiet_revokeSessions broker interventionId).trans (.of_same rfl rfl rfl)

theorem quiet_verifyNext (broker : TakeoverBroker) (interventionId : String)
    (items : List TakeoverCompletionResult) :
    Quiet config broker (broker.verifyNext interventionId items) := by
  induction items with
  | nil => exact .refl broker
  | cons item remaining ih =>
      unfold verifyNext
      split
      · exact .of_same rfl rfl rfl
      · exact ih

theorem quiet_completeWebRtcAfterVerification (broker : TakeoverBroker)
    (intervention : TakeoverInterventionRef) :
    Quiet config broker (broker.completeWebRtcAfterVerification config intervention) := by
  have swept : Gentle config.sessions broker.sessions
      (TakeoverSessionManager.completeAfterVerification config.sessions intervention.id
        intervention.epoch broker.sessions).2 := by
    rw [TakeoverSessionManager.completeAfterVerification_eq]
    exact .trans (.sweeps broker.sessions)
      (.verifies (swept_read broker.sessions) _ _)
  unfold completeWebRtcAfterVerification
  split
  · rename_i completed sessions answered
    rw [answered] at swept
    have verified : Quiet config broker { broker with sessions } := .of_gentle swept rfl rfl
    exact verified.trans (quiet_verifyNext _ _ _)
  · rename_i sessions answered
    rw [answered] at swept
    exact .of_gentle swept rfl rfl

/-! ## Clients and runtime hooks -/

theorem touches_claimOrReconnect (manager : TakeoverSessionManager)
    (sessionId principal clientBinding : String) (reconnectHandle : Option String) :
    Touches config.sessions true manager
      (claimOrReconnect config sessionId principal clientBinding reconnectHandle manager).2 := by
  cases reconnectHandle with
  | none => exact claimClient_touches sessionId principal clientBinding
  | some handle =>
      exact TakeoverSessionManager.reconnectClient_touches sessionId principal handle clientBinding

theorem touches_client {manager : TakeoverSessionManager} {op : SessionOp}
    (client : isClientCall op = true) :
    Touches config.sessions false manager
      (perform config.sessions op manager).2 := by
  cases op with
  | validateLocator =>
      exact reply
        (validateLocator_touches _ _)
  | issueCompletionCapability =>
      exact reply
        (TakeoverSessionManager.issueCompletionCapability_touches _ _)
  | isCompleted =>
      exact reply (isCompleted_touches _ _)
  | verify =>
      exact reply (verify_touches _ _ _ _)
  | releaseClientGeneration =>
      exact reply
        (releaseClientGeneration_touches _ _ _ _)
  | beginUse =>
      exact reply (beginUse_touches _ _ _ _)
  | endUse =>
      exact reply (endUse_touches _ _ _ _)
  | _ => cases client

theorem quiet_prepareOpen (broker : TakeoverBroker) (sessionId principal clientBinding : String)
    (reconnectHandle : Option String) :
    Quiet config broker
      (broker.prepareOpen config sessionId principal clientBinding reconnectHandle) := by
  unfold prepareOpen
  split
  · exact @Quiet.of_touches _ _ _ false
      (validateLocator_touches sessionId principal) rfl rfl
  · split
    · exact .of_touches (touches_claimOrReconnect _ _ _ _ _) rfl rfl
    · exact .refl broker

theorem quiet_prepare (broker : TakeoverBroker) (sessionId principal clientBinding : String)
    (reconnectHandle : Option String) :
    Quiet config broker
      (broker.prepare config sessionId principal clientBinding reconnectHandle) := by
  have asked : Touches config.sessions false broker.sessions
      (isCompleted config.sessions sessionId principal broker.sessions).2 :=
    isCompleted_touches sessionId principal
  unfold prepare
  split
  · split
    · rename_i sessions answered
      rw [answered] at asked
      have passed : Quiet config broker { broker with sessions } := .of_touches asked rfl rfl
      exact passed.trans (quiet_prepareOpen _ _ _ _ _)
    · rename_i sessions _ answered
      rw [answered] at asked
      exact .of_touches asked rfl rfl
  · exact quiet_prepareOpen _ _ _ _ _

theorem quiet_connect (broker : TakeoverBroker)
    (sessionId capability principal clientBinding : String) :
    Quiet config broker (broker.connect config sessionId capability principal clientBinding) := by
  have verified : Touches config.sessions false broker.sessions
      (verify config.sessions sessionId capability principal clientBinding
        broker.sessions).2 :=
    verify_touches sessionId capability principal clientBinding
  unfold connect
  split
  all_goals
    rename_i sessions answered
    rw [answered] at verified
    exact .of_touches verified rfl rfl

theorem quiet_bootstrap (broker : TakeoverBroker) (sessionId principal clientBinding : String) :
    Quiet config broker (broker.bootstrap config sessionId principal clientBinding) := by
  unfold bootstrap
  split
  · exact .refl broker
  · exact @Quiet.of_touches _ _ _ false
      (claimClient_touches sessionId principal clientBinding) rfl rfl

theorem quiet_claimNative (broker : TakeoverBroker) (request : NativeRequest) :
    Quiet config broker (broker.claimNative config request) := by
  have claimed := @touches_claimOrReconnect config broker.sessions request.sessionId
    request.principalBinding request.clientBinding request.reconnectHandle
  unfold claimNative
  split
  · rename_i sessions answered
    rw [answered] at claimed
    exact .of_touches claimed rfl rfl
  · rename_i sessions answered
    rw [answered] at claimed
    split
    · exact .of_touches claimed rfl rfl
    · exact .of_touches claimed rfl rfl

theorem quiet_requestNative (broker : TakeoverBroker) (request : NativeRequest) :
    Quiet config broker (broker.requestNative config request) := by
  unfold requestNative
  split
  · exact .refl broker
  · split
    · exact .of_same rfl rfl rfl
    · exact quiet_claimNative broker request

theorem quiet_revokeSession (broker : TakeoverBroker) (sessionId : String) :
    Quiet config broker (broker.revokeSession sessionId) := by
  refine .of_gentle ?_ rfl rfl
  change Gentle _ _ (revoke sessionId
    broker.sessions).2
  rw [revoke_eq]
  exact .revokesRecord _ sessionId

theorem quiet_failNativeBegin (broker : TakeoverBroker) (sessionId : String) :
    Quiet config broker (broker.failNativeBegin sessionId) :=
  (quiet_revokeSession broker sessionId).trans (.of_same rfl rfl rfl)

theorem quiet_close (broker : TakeoverBroker)
    (sessionId capability principal clientBinding : String) :
    Quiet config broker (broker.close config sessionId capability principal clientBinding) := by
  have verified : Touches config.sessions false broker.sessions
      (verify config.sessions sessionId capability principal clientBinding
        broker.sessions).2 :=
    verify_touches sessionId capability principal clientBinding
  unfold close
  split
  · rename_i sessions answered
    rw [answered] at verified
    exact .of_touches verified rfl rfl
  · rename_i sessions answered
    rw [answered] at verified
    have checked : Quiet config broker { broker with sessions } := .of_touches verified rfl rfl
    exact (checked.trans (quiet_revokeSession _ sessionId)).trans (.of_same rfl rfl rfl)

theorem quiet_releaseBinding (broker : TakeoverBroker) (binding : WebRtcTakeoverRuntimeBinding) :
    Quiet config broker (broker.releaseBinding config binding) :=
  @Quiet.of_touches _ _ _ false
    (releaseClientGeneration_touches _ _ _ _) rfl rfl

theorem quiet_beginInput (broker : TakeoverBroker) (binding : WebRtcTakeoverRuntimeBinding)
    (kind : WebRtcHumanInputKind) : Quiet config broker (broker.beginInput config binding kind) := by
  have begun : Touches config.sessions false broker.sessions
      (beginBoundUse config.sessions binding.takeoverSessionId
        binding.principalBinding binding.clientBinding binding.clientGeneration
        broker.sessions).2 :=
    beginBoundUse_touches _ _ _ _
  unfold beginInput
  split
  · exact .refl broker
  · split
    · rename_i sessions answered
      rw [answered] at begun
      exact .of_touches begun rfl rfl
    · rename_i sessions answered
      rw [answered] at begun
      have used : Quiet config broker { broker with sessions } := .of_touches begun rfl rfl
      exact used.record rfl

theorem quiet_terminal (broker : TakeoverBroker) (binding : WebRtcTakeoverRuntimeBinding)
    (cause : WebRtcRuntimeEndCause) : Quiet config broker (broker.terminal config binding cause) := by
  unfold terminal
  split
  · apply Quiet.trans _ (quiet_releaseBinding _ binding)
    exact .of_same rfl rfl rfl
  · exact .refl broker

/-! ## Timers -/

theorem quiet_fire {cleanup : Cleanup} (fired : broker.fire config cleanup = some after) :
    Quiet config broker after := by
  unfold fire at fired
  split at fired
  · cases fired
    have ticked : Quiet config broker { broker with
        sessions := broker.sessions.ticked, cleanups := broker.cleanups.erase cleanup } :=
      .of_touches (touches_ticked false broker.sessions) rfl rfl
    apply ticked.trans
    cases cleanup.kind with
    | native | webRtcMedia | webRtcCompletion => exact .of_same rfl rfl rfl
  · cases fired

/-! ## Every step -/

/-- What one event does to the session manager, the running finalizations and the log. -/
inductive Effect (config : TakeoverBrokerConfig) (broker : TakeoverBroker) :
    BrokerEvent → TakeoverBroker → Prop where
  | quiet {event : BrokerEvent} {after : TakeoverBroker} (quiet : Quiet config broker after) :
      Effect config broker event after
  | linked {event : BrokerEvent} {after : TakeoverBroker} {intervention : TakeoverInterventionRef}
      {principal : String} {locator : TakeoverLocator} {sessions : TakeoverSessionManager}
      (asked : event.ensures config = some (intervention, principal))
      (ensured : TakeoverSessionManager.Ensured config.sessions broker.sessions intervention.id
        intervention.epoch principal locator sessions)
      (quiet : Quiet config { broker with sessions } after) : Effect config broker event after
  | accepted {request : CompletionRequest} {principal : String}
      {completion : TakeoverCompletionResult} {sessions : TakeoverSessionManager}
      (outcome : TakeoverSessionManager.Completion config.sessions broker.sessions
        request.sessionId principal (.ok completion) sessions)
      (open' : request.sessionId ∉ broker.verifyingWebRtcSessions) :
      Effect config broker (.complete request)
        (({ broker with sessions }.record (.accepted request.sessionId completion.interventionId
          completion.epoch (broker.nativeOnlySessions.contains request.sessionId)
          (broker.webRtcOnlySessions.contains request.sessionId))).joinFinalization completion
            request.sessionId (broker.nativeOnlySessions.contains request.sessionId)
            (broker.webRtcOnlySessions.contains request.sessionId))
  | revoked {runtime : RuntimeKind} {sessionId : String} {succeeded : Bool} {after : TakeoverBroker}
      (settled : broker.settleRevoke runtime sessionId succeeded = some after) :
      Effect config broker (.settleRevoke runtime sessionId succeeded) after
  | returned {sessionId : String} {succeeded : Bool} {after : TakeoverBroker}
      (settled : broker.settleHook sessionId succeeded = some after) :
      Effect config broker (.settleHook sessionId succeeded) after

/-! ### Links -/

/-- The session of a link that was ensured is what `ensure` returned. -/
theorem ensureSession_cases (config : TakeoverBrokerConfig) (broker : TakeoverBroker)
    (intervention : TakeoverInterventionRef) (principalBinding : Option String) :
    broker.ensureSession config intervention principalBinding = (none, broker) ∨
      ∃ principal locator sessions,
        config.linkable intervention principalBinding = some (intervention, principal) ∧
        Ensured config.sessions broker.sessions intervention.id
          intervention.epoch principal locator sessions ∧
        broker.ensureSession config intervention principalBinding =
          (some locator, { broker with sessions }) := by
  unfold ensureSession TakeoverBrokerConfig.linkable
  split
  · rename_i principal on based given
    right
    obtain ⟨locator, sessions, same, ensured⟩ :=
      @TakeoverSessionManager.ensure_outcome config.sessions broker.sessions intervention.id
        intervention.epoch principal
    exact ⟨principal, locator, sessions, by simp [on, based, given], ensured, by rw [same]⟩
  · exact .inl rfl

theorem quiet_arm (broker : TakeoverBroker) (kind : CleanupKind) (sessionId : String)
    (delay : Int) : Quiet config broker (broker.arm config kind sessionId delay) :=
  .of_touches (touches_ticked false broker.sessions) rfl rfl

theorem quiet_linkWebRtc (broker : TakeoverBroker) (interventionId sessionId : String)
    (policy : WebRtcHumanInputPolicy) (terminalVerification : Bool) :
    Quiet config broker
      (broker.linkWebRtc config interventionId sessionId policy terminalVerification) := by
  unfold linkWebRtc
  split
  · exact .refl broker
  · dsimp only
    split
    · exact .of_same rfl rfl rfl
    · apply Quiet.record _ rfl
      apply Quiet.trans _ (quiet_arm _ _ _ _)
      apply Quiet.trans _ (quiet_arm _ _ _ _)
      exact .of_same rfl rfl rfl

theorem effect_createLink (broker : TakeoverBroker) (intervention : TakeoverInterventionRef)
    (principalBinding : Option String) :
    Effect config broker (.createLink intervention principalBinding)
      (broker.createLink config intervention principalBinding) := by
  unfold createLink
  rcases ensureSession_cases config broker intervention principalBinding with
    same | ⟨principal, locator, sessions, asked, ensured, same⟩
  · rw [same]
    exact .quiet (.refl broker)
  · rw [same]
    exact .linked asked ensured (.refl _)

theorem effect_createNativeLink (broker : TakeoverBroker) (intervention : TakeoverInterventionRef)
    (principalBinding : Option String) :
    Effect config broker (.createNativeLink intervention principalBinding)
      (broker.createNativeLink config intervention principalBinding) := by
  unfold createNativeLink
  split
  · exact .quiet (.refl broker)
  · rename_i runtime
    rcases ensureSession_cases config broker intervention principalBinding with
      same | ⟨principal, locator, sessions, asked, ensured, same⟩
    · rw [same]
      exact .quiet (.refl broker)
    · rw [same]
      have native : (BrokerEvent.createNativeLink intervention principalBinding).ensures config =
          some (intervention, principal) := by
        rw [BrokerEvent.ensures, if_pos (Bool.not_eq_false _ ▸ runtime)]
        exact asked
      dsimp only
      split
      · exact .linked native ensured (.refl _)
      · apply Effect.linked native ensured
        apply Quiet.trans _ (quiet_arm _ _ _ _)
        exact .of_same rfl rfl rfl

theorem effect_createWebRtcLink (broker : TakeoverBroker) (intervention : TakeoverInterventionRef)
    (principalBinding : Option String) (inputPolicy : Option PolicyObject)
    (terminalTargetBehavior : Option String) :
    Effect config broker
      (.createWebRtcLink intervention principalBinding inputPolicy terminalTargetBehavior)
      (broker.createWebRtcLink config intervention principalBinding inputPolicy
        terminalTargetBehavior) := by
  unfold createWebRtcLink
  split
  · exact .quiet (.refl broker)
  · rename_i runtime
    split
    · rename_i policy terminalVerification normal read
      rcases ensureSession_cases config broker intervention principalBinding with
        same | ⟨principal, locator, sessions, asked, ensured, same⟩
      · rw [same]
        exact .quiet (.refl broker)
      · rw [same]
        have webRtc : (BrokerEvent.createWebRtcLink intervention principalBinding inputPolicy
            terminalTargetBehavior).ensures config = some (intervention, principal) := by
          simp only [BrokerEvent.ensures, normal, read, Option.isSome_some, Bool.and_true]
          rw [if_pos (Bool.not_eq_false _ ▸ runtime)]
          exact asked
        exact .linked webRtc ensured (quiet_linkWebRtc _ _ _ _ _)
    · exact .quiet (.refl broker)

/-! ### Completion requests -/

/-- The session manager would accept the completion that the request presents. -/
def presents (config : TakeoverBrokerConfig) (broker : TakeoverBroker)
    (request : CompletionRequest) : Option TakeoverCompletionResult :=
  match config.enabled, truthy request.boundPrincipal, routableId request.sessionId with
  | true, some principal, true =>
      if request.method ≠ "POST" then
        none
      else if config.publicOrigin = none ∨ request.origin ≠ config.publicOrigin then
        none
      else
        match readCompletionCapability request.completionCapability with
        | none => none
        | some capability =>
            (TakeoverSessionManager.complete config.sessions request.sessionId capability principal
              broker.sessions).1.toOption
  | _, _, _ => none

/-- A request is refused with an error, or its completion is accepted and joins a finalization. -/
theorem complete_cases (broker : TakeoverBroker) (request : CompletionRequest) :
    ((broker.presents config request = none ∨
        request.sessionId ∈ broker.verifyingWebRtcSessions) ∧
      ∃ sessions status error,
        Gentle config.sessions broker.sessions sessions ∧
        broker.complete config request =
          { broker with sessions }.answer request.sessionId (.error status error)) ∨
    ∃ principal completion sessions,
      broker.presents config request = some completion ∧
      request.sessionId ∉ broker.verifyingWebRtcSessions ∧
      Completion config.sessions broker.sessions request.sessionId principal
        (.ok completion) sessions ∧
      broker.complete config request =
        ({ broker with sessions }.record (.accepted request.sessionId completion.interventionId
          completion.epoch (broker.nativeOnlySessions.contains request.sessionId)
          (broker.webRtcOnlySessions.contains request.sessionId))).joinFinalization completion
            request.sessionId (broker.nativeOnlySessions.contains request.sessionId)
            (broker.webRtcOnlySessions.contains request.sessionId) := by
  have refused {status : Nat} {error : String} :
      ∃ sessions status' error',
        Gentle config.sessions broker.sessions sessions ∧
        broker.answer request.sessionId (.error status error) =
          { broker with sessions }.answer request.sessionId (.error status' error') :=
    ⟨broker.sessions, status, error, .refl _, rfl⟩
  unfold presents complete
  dsimp only
  generalize config.enabled = enabled, truthy request.boundPrincipal = bound,
    routableId request.sessionId = routable
  match enabled, bound, routable with
  | false, _, _ | true, none, _ | true, some _, false => exact .inl ⟨.inl rfl, refused⟩
  | true, some principal, true =>
      dsimp only
      by_cases method : request.method ≠ "POST"
      · simp only [if_pos method]
        exact .inl ⟨.inl trivial, refused⟩
      simp only [if_neg method]
      by_cases origin : config.publicOrigin = none ∨ request.origin ≠ config.publicOrigin
      · simp only [if_pos origin]
        exact .inl ⟨.inl trivial, refused⟩
      simp only [if_neg origin]
      by_cases verifying : request.sessionId ∈ broker.verifyingWebRtcSessions
      · have located : Touches config.sessions false broker.sessions
            (validateLocator config.sessions request.sessionId principal
              broker.sessions).2 :=
          validateLocator_touches request.sessionId principal
        simp only [if_pos verifying]
        left
        refine ⟨.inr verifying, ?_⟩
        split
        all_goals
          rename_i sessions answered
          rw [answered] at located
          exact ⟨sessions, _, _, .touches located, rfl⟩
      simp only [if_neg verifying]
      cases readCompletionCapability request.completionCapability with
      | none => exact .inl ⟨.inl rfl, refused⟩
      | some capability =>
          have outcome : Completion config.sessions broker.sessions
              request.sessionId principal
              (TakeoverSessionManager.complete config.sessions request.sessionId capability
                principal broker.sessions).1
              (TakeoverSessionManager.complete config.sessions request.sessionId capability
                principal broker.sessions).2 :=
            complete_outcome broker.sessions request.sessionId capability
              principal
          unfold acceptCompletion
          dsimp only
          split
          · rename_i sessions answered
            rw [answered] at outcome ⊢
            cases outcome with
            | refused _ wait => exact .inl ⟨.inl rfl, sessions, _, _, .touches wait.touches, rfl⟩
          · rename_i completion sessions answered
            rw [answered] at outcome ⊢
            exact .inr ⟨principal, completion, sessions, rfl, verifying, outcome, rfl⟩

theorem effect_complete (broker : TakeoverBroker) (request : CompletionRequest) :
    Effect config broker (.complete request) (broker.complete config request) := by
  rcases complete_cases broker request with
    ⟨_, sessions, status, error, gentle, same⟩ | ⟨_, _, sessions, _, unverified, outcome, same⟩
  · rw [same]
    have answered : Quiet config broker { broker with sessions } := .of_gentle gentle rfl rfl
    exact .quiet (answered.record rfl)
  · rw [same]
    exact .accepted outcome unverified

theorem Step.effect {event : BrokerEvent} (step : Step config broker event after) :
    Effect config broker event after := by
  cases event with
  | createLink intervention principal =>
      cases step
      exact effect_createLink _ _ _
  | createNativeLink intervention principal =>
      cases step
      exact effect_createNativeLink _ _ _
  | createWebRtcLink intervention principal inputPolicy terminalTargetBehavior =>
      cases step
      exact effect_createWebRtcLink _ _ _ _ _
  | revokeForIntervention interventionId =>
      cases step
      exact .quiet (quiet_revokeForIntervention _ _)
  | revokeNativeForIntervention interventionId =>
      cases step
      exact .quiet (quiet_revokeNativeForIntervention _ _)
  | revokeWebRtcForIntervention interventionId =>
      cases step
      exact .quiet (quiet_revokeWebRtcForIntervention _ _)
  | completeWebRtcAfterVerification intervention =>
      cases step
      exact .quiet (quiet_completeWebRtcAfterVerification _ _)
  | resumeVerification verification =>
      simp only [Step, StepOf, next] at step
      split at step
      · cases step
        apply Effect.quiet
        apply Quiet.trans _ (quiet_verifyNext _ _ _)
        exact .of_same rfl rfl rfl
      · cases step
  | complete request =>
      cases step
      exact effect_complete _ _
  | settleRevoke runtime sessionId succeeded => exact .revoked step
  | settleHook sessionId succeeded => exact .returned step
  | prepare sessionId principal clientBinding reconnectHandle =>
      cases step
      exact .quiet (quiet_prepare _ _ _ _ _)
  | connect sessionId capability principal clientBinding =>
      cases step
      exact .quiet (quiet_connect _ _ _ _ _)
  | bootstrap sessionId principal clientBinding =>
      cases step
      exact .quiet (quiet_bootstrap _ _ _ _)
  | requestNative request =>
      cases step
      exact .quiet (quiet_requestNative _ _)
  | resumeNative request =>
      simp only [Step, StepOf, next] at step
      split at step
      · cases step
        apply Effect.quiet
        apply Quiet.trans _ (quiet_claimNative _ _)
        exact .of_same rfl rfl rfl
      · cases step
  | settleNativeBegin sessionId ends =>
      simp only [Step, StepOf, next] at step
      split at step
      · cases step
        apply Effect.quiet
        have settled : Quiet config broker
            { broker with nativeBegins := broker.nativeBegins.erase sessionId } :=
          .of_same rfl rfl rfl
        split
        · exact settled.trans (quiet_failNativeBegin _ _)
        · exact settled
      · cases step
  | close sessionId capability principal clientBinding =>
      cases step
      exact .quiet (quiet_close _ _ _ _ _)
  | client op =>
      simp only [Step, StepOf, next] at step
      split at step
      · rename_i client
        cases step
        exact .quiet (.of_touches (touches_client client) rfl rfl)
      · cases step
  | beginInput binding kind =>
      simp only [Step, StepOf, next] at step
      split at step
      · cases step
        exact .quiet (quiet_beginInput _ _ _)
      · cases step
  | terminal binding cause =>
      simp only [Step, StepOf, next] at step
      split at step
      · cases step
        exact .quiet (quiet_terminal _ _ _)
      · cases step
  | disconnected binding =>
      simp only [Step, StepOf, next] at step
      split at step
      · cases step
        exact .quiet (quiet_releaseBinding _ _)
      · cases step
  | fire cleanup => exact .quiet (quiet_fire step)

end TakeoverBroker

end ExecutionHandoff.Broker
