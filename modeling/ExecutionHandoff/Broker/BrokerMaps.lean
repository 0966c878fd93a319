import ExecutionHandoff.Broker.BrokerSteps

/-!
# The maps of the broker

Most steps only take entries out of the maps that route a session.  The others
are a link that marks the session it ensured, a terminal callback that makes a
session verify, and the timer that ends the retention of a completed session.
-/

namespace ExecutionHandoff.Broker

open Library
open Takeover
open OrderedMap (get?_of_get?_deleteAll get?_of_get?_delete)

/-- The events that do more to the maps than taking entries out are left out. -/
def BrokerEvent.takesOut : BrokerEvent → Bool
  | .createNativeLink .. | .createWebRtcLink .. | .complete _ | .settleRevoke .. | .settleHook ..
  | .terminal .. => false
  | .fire cleanup => cleanup.kind != .webRtcCompletion
  | _ => true

/-- The events that put a session on a route. -/
def BrokerEvent.routes : BrokerEvent → Bool
  | .createNativeLink .. | .createWebRtcLink .. => true
  | _ => false

namespace TakeoverBroker

variable {config : TakeoverBrokerConfig} {broker after : TakeoverBroker}

/-- Sessions are only taken off the routes, and no timer is armed. -/
structure FewerRoutes (broker after : TakeoverBroker) : Prop where
  native : ∀ id owner, after.nativeOnlySessions.get? id = some owner →
    broker.nativeOnlySessions.get? id = some owner
  routed : ∀ id owner, after.webRtcOnlySessions.get? id = some owner →
    broker.webRtcOnlySessions.get? id = some owner
  tracked : ∀ id owner, after.webRtcSessionInterventions.get? id = some owner →
    broker.webRtcSessionInterventions.get? id = some owner
  cleanups : ∀ cleanup ∈ after.cleanups, cleanup ∈ broker.cleanups

/-- Nor does a session start to verify, or the delivery of an unrouted one get forgotten. -/
structure Fewer (broker after : TakeoverBroker) : Prop extends FewerRoutes broker after where
  verifying : after.verifyingWebRtcSessions ⊆ broker.verifyingWebRtcSessions
  delivered : after.completionDelivered ⊆ broker.completionDelivered
  keeps : ∀ id ∈ broker.completionDelivered, broker.webRtcOnlySessions.get? id = none →
    id ∈ after.completionDelivered

theorem FewerRoutes.refl (broker : TakeoverBroker) : FewerRoutes broker broker :=
  ⟨fun _ _ found => found, fun _ _ found => found, fun _ _ found => found, fun _ mem => mem⟩

theorem FewerRoutes.trans {middle : TakeoverBroker} (left : FewerRoutes broker middle)
    (right : FewerRoutes middle after) : FewerRoutes broker after := by
  constructor
  · exact fun id owner found => left.native id owner (right.native id owner found)
  · exact fun id owner found => left.routed id owner (right.routed id owner found)
  · exact fun id owner found => left.tracked id owner (right.tracked id owner found)
  · exact fun cleanup mem => left.cleanups cleanup (right.cleanups cleanup mem)

theorem Fewer.refl (broker : TakeoverBroker) : Fewer broker broker :=
  { FewerRoutes.refl broker with
    verifying := fun _ mem => mem, delivered := fun _ mem => mem, keeps := fun _ mem _ => mem }

theorem Fewer.trans {middle : TakeoverBroker} (left : Fewer broker middle)
    (right : Fewer middle after) : Fewer broker after := by
  refine { left.toFewerRoutes.trans right.toFewerRoutes with
    verifying := fun id mem => left.verifying (right.verifying mem)
    delivered := fun id mem => left.delivered (right.delivered mem)
    keeps := ?_ }
  intro id mem unrouted
  apply right.keeps id (left.keeps id mem unrouted)
  apply Option.eq_none_iff_forall_ne_some.mpr
  intro owner found
  exact absurd (unrouted.symm.trans (left.routed id owner found)) (by simp)

/-! ## Revocation and verified completion -/

theorem fewer_forgetNativeOnlyIntervention (broker : TakeoverBroker) (interventionId : String) :
    Fewer broker (broker.forgetNativeOnlyIntervention interventionId) :=
  { Fewer.refl broker with native := fun _ _ found => get?_of_get?_deleteAll found }

theorem fewer_forgetVerifiedCompletedWebRtcIntervention (broker : TakeoverBroker)
    (interventionId : String) :
    Fewer broker (broker.forgetVerifiedCompletedWebRtcIntervention interventionId) :=
  { Fewer.refl broker with
    tracked := fun _ _ found => get?_of_get?_deleteAll found
    verifying := Finset.filter_subset _ _ }

theorem fewer_forgetWebRtcOnlyIntervention (broker : TakeoverBroker) (interventionId : String) :
    Fewer broker (broker.forgetWebRtcOnlyIntervention interventionId) := by
  refine { Fewer.refl broker with
    routed := fun _ _ found => get?_of_get?_deleteAll found
    verifying := Finset.filter_subset _ _
    delivered := Finset.filter_subset _ _
    keeps := ?_ }
  intro id mem unrouted
  apply Finset.mem_filter.mpr
  refine ⟨mem, fun listed => ?_⟩
  obtain ⟨owner, found, _⟩ := OrderedMap.mem_keysOf_iff.mp listed
  exact absurd (unrouted.symm.trans found) (by simp)

theorem fewer_revokeSessions (broker : TakeoverBroker) (interventionId : String) :
    Fewer broker (broker.revokeSessions interventionId) :=
  { Fewer.refl broker with }

theorem fewer_revokeForIntervention (broker : TakeoverBroker) (interventionId : String) :
    Fewer broker (broker.revokeForIntervention interventionId) := by
  apply Fewer.trans _ (fewer_forgetWebRtcOnlyIntervention _ interventionId)
  apply Fewer.trans _ (fewer_forgetVerifiedCompletedWebRtcIntervention _ interventionId)
  apply Fewer.trans _ (fewer_forgetNativeOnlyIntervention _ interventionId)
  exact fewer_revokeSessions broker interventionId

theorem fewer_revokeNativeForIntervention (broker : TakeoverBroker) (interventionId : String) :
    Fewer broker (broker.revokeNativeForIntervention interventionId) :=
  (fewer_revokeSessions broker interventionId).trans
    (fewer_forgetNativeOnlyIntervention _ interventionId)

theorem fewer_revokeWebRtcForIntervention (broker : TakeoverBroker) (interventionId : String) :
    Fewer broker (broker.revokeWebRtcForIntervention interventionId) := by
  apply Fewer.trans _ (fewer_forgetWebRtcOnlyIntervention _ interventionId)
  apply Fewer.trans _ (fewer_forgetVerifiedCompletedWebRtcIntervention _ interventionId)
  exact fewer_revokeSessions broker interventionId

theorem fewer_markVerified (broker : TakeoverBroker) (sessionId : String) :
    Fewer broker (broker.markVerified sessionId) :=
  { Fewer.refl broker with verifying := Finset.erase_subset _ _ }

theorem fewer_verifyNext (broker : TakeoverBroker) (interventionId : String)
    (items : List TakeoverCompletionResult) :
    Fewer broker (broker.verifyNext interventionId items) := by
  induction items with
  | nil => exact .refl broker
  | cons item remaining ih =>
      unfold verifyNext
      split
      · exact { fewer_markVerified broker item.id with }
      · exact ih

theorem fewer_completeWebRtcAfterVerification (broker : TakeoverBroker)
    (intervention : TakeoverInterventionRef) :
    Fewer broker (broker.completeWebRtcAfterVerification config intervention) := by
  unfold completeWebRtcAfterVerification
  split
  · exact { fewer_verifyNext _ intervention.id _ with }
  · exact { Fewer.refl broker with }

/-! ## Clients, runtime hooks and timers -/

theorem fewer_callSessions {α : Type} (broker : TakeoverBroker) (call : SessionM α) :
    Fewer broker (broker.callSessions call) :=
  { Fewer.refl broker with }

theorem fewer_prepareOpen (broker : TakeoverBroker) (sessionId principal clientBinding : String)
    (reconnectHandle : Option String) :
    Fewer broker
      (broker.prepareOpen config sessionId principal clientBinding reconnectHandle) := by
  unfold prepareOpen
  split
  · exact fewer_callSessions _ _
  · split
    · exact fewer_callSessions _ _
    · exact .refl broker

theorem fewer_prepare (broker : TakeoverBroker) (sessionId principal clientBinding : String)
    (reconnectHandle : Option String) :
    Fewer broker (broker.prepare config sessionId principal clientBinding reconnectHandle) := by
  unfold prepare
  split
  · split
    · exact { fewer_prepareOpen _ sessionId principal clientBinding reconnectHandle with }
    · exact { Fewer.refl broker with }
  · exact fewer_prepareOpen _ _ _ _ _

theorem fewer_connect (broker : TakeoverBroker)
    (sessionId capability principal clientBinding : String) :
    Fewer broker (broker.connect config sessionId capability principal clientBinding) := by
  unfold connect
  split
  · exact { Fewer.refl broker with }
  · exact { Fewer.refl broker with }

theorem fewer_bootstrap (broker : TakeoverBroker) (sessionId principal clientBinding : String) :
    Fewer broker (broker.bootstrap config sessionId principal clientBinding) := by
  unfold bootstrap
  split
  · exact .refl broker
  · exact fewer_callSessions _ _

theorem fewer_claimNative (broker : TakeoverBroker) (request : NativeRequest) :
    Fewer broker (broker.claimNative config request) := by
  unfold claimNative
  split
  · exact { Fewer.refl broker with }
  · split
    · exact { Fewer.refl broker with }
    · exact { Fewer.refl broker with }

theorem fewer_requestNative (broker : TakeoverBroker) (request : NativeRequest) :
    Fewer broker (broker.requestNative config request) := by
  unfold requestNative
  split
  · exact .refl broker
  · split
    · exact { Fewer.refl broker with }
    · exact fewer_claimNative broker request

theorem fewer_failNativeBegin (broker : TakeoverBroker) (sessionId : String) :
    Fewer broker (broker.failNativeBegin sessionId) :=
  { Fewer.refl broker with native := fun _ _ found => get?_of_get?_delete found }

theorem fewer_close (broker : TakeoverBroker)
    (sessionId capability principal clientBinding : String) :
    Fewer broker (broker.close config sessionId capability principal clientBinding) := by
  unfold close
  split
  · exact { Fewer.refl broker with }
  · exact { Fewer.refl broker with
      native := fun _ _ found => get?_of_get?_delete found
      routed := fun _ _ found => get?_of_get?_delete found }

theorem fewer_beginInput (broker : TakeoverBroker) (binding : WebRtcTakeoverRuntimeBinding)
    (kind : WebRtcHumanInputKind) : Fewer broker (broker.beginInput config binding kind) := by
  unfold beginInput
  split
  · exact .refl broker
  · split
    · exact { Fewer.refl broker with }
    · exact { Fewer.refl broker with }

theorem fewerRoutes_terminal (broker : TakeoverBroker) (binding : WebRtcTakeoverRuntimeBinding)
    (cause : WebRtcRuntimeEndCause) :
    FewerRoutes broker (broker.terminal config binding cause) := by
  unfold terminal
  split
  · exact { FewerRoutes.refl broker with }
  · exact .refl broker

/-- The timer does not end the retention of a completed session. -/
theorem fewer_cleanUp (broker : TakeoverBroker) {kind : CleanupKind} (sessionId : String)
    (early : kind ≠ .webRtcCompletion) : Fewer broker (broker.cleanUp kind sessionId) := by
  cases kind with
  | native =>
      exact { Fewer.refl broker with
        native := fun _ _ found => get?_of_get?_delete found }
  | webRtcMedia => exact { Fewer.refl broker with }
  | webRtcCompletion => exact absurd rfl early

theorem fewerRoutes_cleanUp (broker : TakeoverBroker) (kind : CleanupKind) (sessionId : String) :
    FewerRoutes broker (broker.cleanUp kind sessionId) := by
  by_cases last : kind = .webRtcCompletion
  · subst last
    exact { FewerRoutes.refl broker with
      routed := fun _ _ found => get?_of_get?_delete found
      tracked := fun _ _ found => get?_of_get?_delete found }
  · exact (fewer_cleanUp broker sessionId last).toFewerRoutes

theorem fewer_ended (broker : TakeoverBroker) (cleanup : Cleanup) :
    Fewer broker { broker with
      sessions := broker.sessions.ticked, cleanups := broker.cleanups.erase cleanup } :=
  { Fewer.refl broker with cleanups := fun _ mem => List.mem_of_mem_erase mem }

/-! ## Finalizations -/

theorem fewerRoutes_forgetSession (broker : TakeoverBroker) (sessionId : String) :
    FewerRoutes broker (broker.forgetSession sessionId) :=
  { FewerRoutes.refl broker with
    native := fun _ _ found => get?_of_get?_delete found
    routed := fun _ _ found => get?_of_get?_delete found }

theorem fewerRoutes_deliver (broker : TakeoverBroker) (sessionId : String)
    (finalization : Finalization) : FewerRoutes broker (broker.deliver sessionId finalization) := by
  unfold deliver
  dsimp only
  split
  · exact { fewerRoutes_forgetSession broker sessionId with }
  · exact { fewerRoutes_forgetSession broker sessionId with }

theorem fewerRoutes_finalizeWebRtc (broker : TakeoverBroker) (sessionId : String)
    (finalization : Finalization) (wasWebRtc : Bool) :
    FewerRoutes broker (broker.finalizeWebRtc sessionId finalization wasWebRtc) := by
  unfold finalizeWebRtc
  split
  · exact { FewerRoutes.refl broker with }
  · exact fewerRoutes_deliver broker sessionId finalization

theorem fewerRoutes_join (broker : TakeoverBroker) (completion : TakeoverCompletionResult)
    (sessionId : String) (wasNative wasWebRtc : Bool) :
    FewerRoutes broker (broker.joinFinalization completion sessionId wasNative wasWebRtc) := by
  unfold joinFinalization
  split
  · exact { FewerRoutes.refl broker with }
  · unfold finalizeCompletion
    split
    · exact { FewerRoutes.refl broker with }
    · exact fewerRoutes_finalizeWebRtc _ _ _ _

theorem fewerRoutes_complete (broker : TakeoverBroker) (request : CompletionRequest) :
    FewerRoutes broker (broker.complete config request) := by
  unfold complete
  dsimp only
  split
  · split
    · exact { FewerRoutes.refl broker with }
    · split
      · exact { FewerRoutes.refl broker with }
      · split
        · split
          · exact { FewerRoutes.refl broker with }
          · exact { FewerRoutes.refl broker with }
        · split
          · exact { FewerRoutes.refl broker with }
          · unfold acceptCompletion
            dsimp only
            split
            · exact { FewerRoutes.refl broker with }
            · exact { fewerRoutes_join _ _ request.sessionId _ _ with }
  · exact { FewerRoutes.refl broker with }

theorem fewerRoutes_settleRevoke {runtime : RuntimeKind} {sessionId : String} {succeeded : Bool}
    (settled : broker.settleRevoke runtime sessionId succeeded = some after) :
    FewerRoutes broker after := by
  unfold settleRevoke at settled
  split at settled
  · cases settled
  · split at settled
    · cases settled
      split
      · exact { fewerRoutes_finalizeWebRtc _ sessionId _ _ with }
      · exact { FewerRoutes.refl broker with }
    · cases settled
      split
      · exact { fewerRoutes_deliver _ sessionId _ with }
      · exact { FewerRoutes.refl broker with }
    · cases settled

theorem fewerRoutes_settleHook {sessionId : String} {succeeded : Bool}
    (settled : broker.settleHook sessionId succeeded = some after) : FewerRoutes broker after := by
  unfold settleHook at settled
  split at settled
  · cases settled
  · split at settled
    · cases settled
    · split at settled
      · cases settled
        exact { FewerRoutes.refl broker with }
      · cases settled
        exact { FewerRoutes.refl broker with }

/-! ## Steps -/

theorem Step.fewer {event : BrokerEvent} (step : Step config broker event after)
    (takesOut : event.takesOut = true) : Fewer broker after := by
  cases event with
  | createNativeLink | createWebRtcLink | complete | settleRevoke | settleHook | terminal =>
      cases takesOut
  | createLink intervention principal =>
      cases step
      unfold createLink
      rcases ensureSession_cases config broker intervention principal with
        same | ⟨_, _, sessions, _, _, same⟩
      · rw [same]
        exact .refl broker
      · rw [same]
        exact { Fewer.refl broker with }
  | revokeForIntervention interventionId =>
      cases step
      exact fewer_revokeForIntervention _ _
  | revokeNativeForIntervention interventionId =>
      cases step
      exact fewer_revokeNativeForIntervention _ _
  | revokeWebRtcForIntervention interventionId =>
      cases step
      exact fewer_revokeWebRtcForIntervention _ _
  | completeWebRtcAfterVerification intervention =>
      cases step
      exact fewer_completeWebRtcAfterVerification _ _
  | resumeVerification verification =>
      simp only [Step, StepOf, next] at step
      split at step
      · cases step
        exact { fewer_verifyNext _ verification.interventionId verification.remaining with }
      · cases step
  | prepare sessionId principal clientBinding reconnectHandle =>
      cases step
      exact fewer_prepare _ _ _ _ _
  | connect sessionId capability principal clientBinding =>
      cases step
      exact fewer_connect _ _ _ _ _
  | bootstrap sessionId principal clientBinding =>
      cases step
      exact fewer_bootstrap _ _ _ _
  | requestNative request =>
      cases step
      exact fewer_requestNative _ _
  | resumeNative request =>
      simp only [Step, StepOf, next] at step
      split at step
      · cases step
        exact { fewer_claimNative _ request with }
      · cases step
  | settleNativeBegin sessionId ends =>
      simp only [Step, StepOf, next] at step
      split at step
      · cases step
        split
        · exact { fewer_failNativeBegin _ sessionId with }
        · exact { Fewer.refl broker with }
      · cases step
  | close sessionId capability principal clientBinding =>
      cases step
      exact fewer_close _ _ _ _ _
  | client op =>
      simp only [Step, StepOf, next] at step
      split at step
      · cases step
        exact fewer_callSessions _ _
      · cases step
  | beginInput binding kind =>
      simp only [Step, StepOf, next] at step
      split at step
      · cases step
        exact fewer_beginInput _ _ _
      · cases step
  | disconnected binding =>
      simp only [Step, StepOf, next] at step
      split at step
      · cases step
        exact fewer_callSessions _ _
      · cases step
  | fire cleanup =>
      have early : cleanup.kind ≠ .webRtcCompletion := by simpa [BrokerEvent.takesOut] using takesOut
      simp only [Step, StepOf, next, fire] at step
      split at step
      · cases step
        exact (fewer_ended broker cleanup).trans (fewer_cleanUp _ _ early)
      · cases step

/-- Only a native or a WebRTC link puts a session on a route. -/
theorem Step.fewerRoutes {event : BrokerEvent} (step : Step config broker event after)
    (unrouting : event.routes = false) : FewerRoutes broker after := by
  cases event with
  | createNativeLink | createWebRtcLink => cases unrouting
  | complete request =>
      cases step
      exact fewerRoutes_complete _ _
  | settleRevoke runtime sessionId succeeded => exact fewerRoutes_settleRevoke step
  | settleHook sessionId succeeded => exact fewerRoutes_settleHook step
  | terminal binding cause =>
      simp only [Step, StepOf, next] at step
      split at step
      · cases step
        exact fewerRoutes_terminal _ _ _
      · cases step
  | fire cleanup =>
      simp only [Step, StepOf, next, fire] at step
      split at step
      · cases step
        exact (fewer_ended broker cleanup).toFewerRoutes.trans (fewerRoutes_cleanUp _ _ _)
      · cases step
  | createLink | revokeForIntervention | revokeNativeForIntervention
  | revokeWebRtcForIntervention | completeWebRtcAfterVerification | resumeVerification | prepare
  | connect | bootstrap | requestNative | resumeNative | settleNativeBegin | close | client
  | beginInput | disconnected => exact (step.fewer rfl).toFewerRoutes

end TakeoverBroker

end ExecutionHandoff.Broker
