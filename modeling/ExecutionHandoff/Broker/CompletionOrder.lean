import ExecutionHandoff.Broker.BrokerSound
import ExecutionHandoff.Library.Histories

/-!
# Exactly one delivery

A completion needs two things that may fail on their own: the runtimes that the
session was routed to are revoked, and the completed hook returns.  The route
markers and the set of delivered sessions remember what is left to do.  As long
as a request finds the marker of every runtime that is still owed a revocation,
the hook comes after the revocations, succeeds at most once, and a retry takes
up what has not succeeded yet.
-/

namespace ExecutionHandoff.Broker

open Library Takeover Option Bool
open TakeoverSessionManager (Progress Completion Ensured evolves_ticked)

/-! ## What the log says -/

namespace BrokerFact

/-- The fact accepts a completion of the session, whose runtime was marked. -/
def requires (runtime : RuntimeKind) (id : String) : BrokerFact → Bool
  | .accepted sessionId _ _ wasNative wasWebRtc =>
      sessionId == id && (match runtime with
        | .native => wasNative
        | .webRtc => wasWebRtc)
  | _ => false

/-- The fact changes nothing that is owed to the session. -/
def aside (id : String) : BrokerFact → Bool
  | .accepted sessionId .. | .revoked _ sessionId | .hookReturned sessionId true => sessionId != id
  | _ => true

end BrokerFact

/-- The events that may start a finalization, or let one go on. -/
def BrokerEvent.finalizes : BrokerEvent → Bool
  | .complete _ | .settleRevoke .. | .settleHook .. => true
  | _ => false

/-- The runtime was marked at an accepted completion of the session. -/
def required (log : List BrokerFact) (runtime : RuntimeKind) (id : String) : Bool :=
  log.any (·.requires runtime id)

/-- The runtime still has to be revoked for the session. -/
def owed (log : List BrokerFact) (runtime : RuntimeKind) (id : String) : Bool :=
  required log runtime id && decide (.revoked runtime id ∉ log)

/-- What must have been so when a fact was recorded. -/
def CompletionTurn : BrokerFact → List BrokerFact → Prop
  | .hookInvoked id _ _, past => ∀ runtime, owed past runtime id = false
  | .hookReturned id true, past => .hookReturned id true ∉ past
  | .answered id (.done _), past =>
      .hookReturned id true ∈ past ∧ ∀ runtime, owed past runtime id = false
  | _, _ => True

section Log

variable {log more : List BrokerFact} {id : String}

theorem required_aside (aside : ∀ fact ∈ more, fact.aside id = true) (runtime : RuntimeKind) :
    required (more ++ log) runtime id = required log runtime id := by
  have none : more.any (·.requires runtime id) = false := by
    rw [List.any_eq_false]
    intro fact mem
    have other := aside fact mem
    cases fact with
    | accepted sessionId =>
        have ne : sessionId ≠ id := bne_iff_ne.mp other
        simp [BrokerFact.requires, ne]
    | _ => exact Bool.false_ne_true
  rw [required, List.any_append, none, Bool.false_or]
  rfl

theorem revoked_aside (aside : ∀ fact ∈ more, fact.aside id = true) (runtime : RuntimeKind) :
    .revoked runtime id ∈ more ++ log ↔ .revoked runtime id ∈ log := by
  constructor
  · intro mem
    rcases List.mem_append.mp mem with new | old
    · exact absurd rfl (bne_iff_ne.mp (aside _ new))
    · exact old
  · exact List.mem_append_right _

theorem returned_aside (aside : ∀ fact ∈ more, fact.aside id = true) :
    .hookReturned id true ∈ more ++ log ↔ .hookReturned id true ∈ log := by
  constructor
  · intro mem
    rcases List.mem_append.mp mem with new | old
    · exact absurd rfl (bne_iff_ne.mp (aside _ new))
    · exact old
  · exact List.mem_append_right _

theorem owed_aside (aside : ∀ fact ∈ more, fact.aside id = true) (runtime : RuntimeKind) :
    owed (more ++ log) runtime id = owed log runtime id := by
  unfold owed
  rw [required_aside aside, decide_eq_decide.mpr (not_congr (revoked_aside aside runtime))]

theorem idle_aside {fact : BrokerFact} (idle : fact.idle = true) (id : String) :
    fact.aside id = true := by
  cases fact with
  | accepted | revoked | hookReturned => cases idle
  | _ => rfl

theorem idle_turn {fact : BrokerFact} (idle : fact.idle = true) (past : List BrokerFact) :
    CompletionTurn fact past := by
  cases fact with
  | answered id reply =>
      cases reply with
      | error => trivial
      | done => cases idle
  | hookInvoked | hookReturned => cases idle
  | _ => trivial

end Log

/-- A finalization at this stage goes on only after the runtime is revoked. -/
def FinalizationStage.covers : FinalizationStage → RuntimeKind → Bool
  | .revokingNative _, .native | .revokingWebRtc, .webRtc => true
  | _, _ => false

namespace TakeoverBroker

variable {config : TakeoverBrokerConfig} {broker after : TakeoverBroker} {id : String}

/-! ## What is left to do -/

/-- The session is routed to the runtime. -/
def marker (broker : TakeoverBroker) : RuntimeKind → String → Bool
  | .native, id => broker.nativeOnlySessions.contains id
  | .webRtc, id => broker.webRtcOnlySessions.contains id

/-- The media lease of the session has been over for two completion graces. -/
def Closed (config : TakeoverBrokerConfig) (broker : TakeoverBroker) (id : String) : Prop :=
  ∃ time, ∃ count < broker.sessions.reads, broker.sessions.EndsBy config.sessions time id ∧
    time + 2 * config.sessions.completionGraceMs ≤ config.sessions.now count

/-- What the markers and the set of delivered sessions remember of the session. -/
structure Remembers (config : TakeoverBrokerConfig) (broker : TakeoverBroker) (id : String) :
    Prop where
  exclusive : broker.marker .native id = true → broker.marker .webRtc id = false
  noted : broker.Accepted id → ∀ runtime, broker.marker runtime id = true →
    required broker.log runtime id = true
  revoked : ∀ runtime, .revoked runtime id ∈ broker.log →
    broker.Accepted id ∧ ∀ other, broker.marker other id = false
  delivered : id ∈ broker.completionDelivered → .hookReturned id true ∈ broker.log
  returned : .hookReturned id true ∈ broker.log →
    broker.Accepted id ∧ (∀ runtime, broker.marker runtime id = false) ∧
      (∀ runtime, owed broker.log runtime id = false) ∧
      (id ∈ broker.completionDelivered ∨ Closed config broker id)

/-- A running finalization revokes whatever is left to revoke, and delivers for the first time. -/
structure Running (broker : TakeoverBroker) (id : String) (stage : FinalizationStage) : Prop where
  first : .hookReturned id true ∉ broker.log
  -- no session is routed to both runtimes
  single : stage ≠ .revokingNative true
  owed : ∀ runtime, owed broker.log runtime id = true → stage.covers runtime = true
  marked : ∀ runtime, broker.marker runtime id = true → stage.covers runtime = true

structure OrderedAt (config : TakeoverBrokerConfig) (broker : TakeoverBroker) (id : String) :
    Prop where
  remembers : Remembers config broker id
  running : ∀ finalization, broker.completionFinalizations.get? id = some finalization →
    Running broker id finalization.stage

theorem Closed.progress (closed : Closed config broker id)
    (progress : Progress config.sessions broker.sessions after.sessions) :
    Closed config after id := by
  obtain ⟨time, count, below, ends, passed⟩ := closed
  exact ⟨time, count, Nat.lt_of_lt_of_le below progress.reads, ends.progress progress, passed⟩

/-- Nothing is completed that long after its media lease. -/
theorem Closed.not_completed (closed : Closed config broker id) (sound : Sound config broker)
    {principal : String} {completion : TakeoverCompletionResult} {sessions : TakeoverSessionManager}
    (outcome : Completion config.sessions broker.sessions id principal
      (.ok completion) sessions) : False := by
  obtain ⟨time, count, below, ends, passed⟩ := closed
  cases outcome with
  | accepted record stored completable =>
      have lease : record.expiresAt ≤ time := ends.stored record stored
      have bounded := (sound.dated id record stored).bounded
      have grace := config.sessions.completionGrace_valid.1
      have later : config.sessions.now count ≤ config.sessions.now broker.sessions.reads :=
        config.sessions.now_monotone (Nat.le_of_lt below)
      have window := (TakeoverRecord.completable_iff.mp completable).2
      simp only [TakeoverRecord.inWindow, or_eq_true, and_eq_true,
        decide_eq_true_eq] at window
      omega

theorem accepted_aside {more : List BrokerFact} (log : after.log = more ++ broker.log)
    (aside : ∀ fact ∈ more, fact.aside id = true) : after.Accepted id ↔ broker.Accepted id := by
  apply accepted_append log
  intro fact mem
  have other := aside fact mem
  cases fact with
  | accepted => exact beq_false_of_ne (bne_iff_ne.mp other)
  | _ => rfl

/-! ## Steps that finalize nothing -/

/-- The markers shrink where a completion was accepted, and what was delivered is not forgotten
before its time. -/
structure Routing (config : TakeoverBrokerConfig) (broker after : TakeoverBroker) (id : String) :
    Prop where
  exclusive : (broker.marker .native id = true → broker.marker .webRtc id = false) →
    after.marker .native id = true → after.marker .webRtc id = false
  markers : broker.Accepted id → ∀ runtime, after.marker runtime id = true →
    broker.marker runtime id = true
  delivered : id ∈ after.completionDelivered → id ∈ broker.completionDelivered
  kept : broker.marker .webRtc id = false → id ∈ broker.completionDelivered →
    id ∈ after.completionDelivered ∨ Closed config after id

/-- A step that owes nothing and marks no completed session keeps what is remembered. -/
theorem Remembers.transfer (remembers : Remembers config broker id)
    (progress : Progress config.sessions broker.sessions after.sessions)
    (log : ∃ more, after.log = more ++ broker.log ∧ ∀ fact ∈ more, fact.aside id = true)
    (routing : Routing config broker after id) : Remembers config after id := by
  obtain ⟨more, same, aside⟩ := log
  have accepted := accepted_aside same aside
  have unmarked (was : broker.Accepted id) (none : ∀ runtime, broker.marker runtime id = false)
      (runtime : RuntimeKind) : after.marker runtime id = false := by
    apply eq_false_iff.mpr
    intro marked
    have before := routing.markers was runtime marked
    rw [none runtime] at before
    cases before
  constructor
  · exact routing.exclusive remembers.exclusive
  · intro was runtime marked
    rw [same, required_aside aside]
    exact remembers.noted (accepted.mp was) runtime (routing.markers (accepted.mp was) _ marked)
  · intro runtime mem
    rw [same, revoked_aside aside] at mem
    obtain ⟨was, none⟩ := remembers.revoked runtime mem
    exact ⟨accepted.mpr was, unmarked was none⟩
  · intro mem
    rw [same, returned_aside aside]
    exact remembers.delivered (routing.delivered mem)
  · intro mem
    rw [same, returned_aside aside] at mem
    obtain ⟨was, none, clear, kept⟩ := remembers.returned mem
    refine ⟨accepted.mpr was, unmarked was none, fun runtime => ?_, ?_⟩
    · rw [same, owed_aside aside]
      exact clear runtime
    · rcases kept with kept | closed
      · exact routing.kept (none .webRtc) kept
      · exact .inr (closed.progress progress)

theorem Running.transfer {stage : FinalizationStage} (running : Running broker id stage)
    (log : ∃ more, after.log = more ++ broker.log ∧ ∀ fact ∈ more, fact.aside id = true)
    (markers : ∀ runtime, after.marker runtime id = true → broker.marker runtime id = true) :
    Running after id stage := by
  obtain ⟨more, same, aside⟩ := log
  constructor
  · rw [same, returned_aside aside]
    exact running.first
  · exact running.single
  · intro runtime left
    rw [same, owed_aside aside] at left
    exact running.owed runtime left
  · exact fun runtime marked => running.marked runtime (markers runtime marked)

theorem OrderedAt.transfer (ordered : OrderedAt config broker id) (sound : Sound config broker)
    (progress : Progress config.sessions broker.sessions after.sessions)
    (log : ∃ more, after.log = more ++ broker.log ∧ ∀ fact ∈ more, fact.aside id = true)
    (finalization : after.completionFinalizations.get? id = broker.completionFinalizations.get? id)
    (routing : Routing config broker after id) : OrderedAt config after id := by
  constructor
  · exact ordered.remembers.transfer progress log routing
  · intro running found
    rw [finalization] at found
    exact (ordered.running running found).transfer log
      (routing.markers (sound.finalizing id running found))

theorem contains_of_get? {left right : OrderedMap String String}
    (fewer : ∀ id owner, right.get? id = some owner → left.get? id = some owner)
    (found : right.contains id = true) : left.contains id = true := by
  obtain ⟨owner, stored⟩ := isSome_iff_exists.mp found
  exact isSome_iff_exists.mpr ⟨owner, fewer id owner stored⟩

theorem FewerRoutes.marker (fewer : FewerRoutes broker after) (runtime : RuntimeKind)
    (marked : after.marker runtime id = true) : broker.marker runtime id = true := by
  cases runtime with
  | native => exact contains_of_get? fewer.native marked
  | webRtc => exact contains_of_get? fewer.routed marked

theorem FewerRoutes.exclusive (fewer : FewerRoutes broker after)
    (before : broker.marker .native id = true → broker.marker .webRtc id = false)
    (native : after.marker .native id = true) : after.marker .webRtc id = false := by
  apply eq_false_iff.mpr
  intro webRtc
  have both := fewer.marker .webRtc webRtc
  rw [before (fewer.marker .native native)] at both
  cases both

theorem Fewer.routing (fewer : Fewer broker after) (id : String) :
    Routing config broker after id := by
  constructor
  · exact fewer.toFewerRoutes.exclusive
  · exact fun _ runtime marked => fewer.toFewerRoutes.marker runtime marked
  · exact fun mem => fewer.delivered mem
  · intro unrouted mem
    have none : ¬ broker.marker .webRtc id = true := eq_false_iff.mp unrouted
    exact .inl (fewer.keeps id mem (not_isSome_iff_eq_none.mp none))

/-- A step that only takes sessions off the routes, and delivers and forgets nothing. -/
theorem FewerRoutes.routing (fewer : FewerRoutes broker after)
    (delivered : after.completionDelivered = broker.completionDelivered) (id : String) :
    Routing config broker after id := by
  constructor
  · exact fewer.exclusive
  · exact fun _ runtime marked => fewer.marker runtime marked
  · exact fun mem => delivered ▸ mem
  · exact fun _ mem => .inl (delivered ▸ mem)

theorem Routing.refl (broker : TakeoverBroker) (id : String) : Routing config broker broker id :=
  (Fewer.refl broker).routing id

/-! ### Links -/

/-- A session that a link ensured has no accepted completion. -/
theorem Sound.ensured_unaccepted (sound : Sound config broker) {interventionId : String}
    {epoch : Int} {principal : String} {locator : TakeoverLocator}
    {sessions : TakeoverSessionManager}
    (ensured : Ensured config.sessions broker.sessions interventionId epoch
      principal locator sessions) : ¬ broker.Accepted locator.id := fun accepted =>
  ensured.not_withdrawn sound.sessions (sound.accepted locator.id accepted) rfl

theorem routing_markNative {interventionId sessionId : String}
    (unaccepted : ¬ broker.Accepted sessionId)
    (unrouted : broker.webRtcOnlySessions.contains sessionId = false) (id : String) :
    Routing config broker (broker.markNative interventionId sessionId) id := by
  have elsewhere (ne : id ≠ sessionId)
      (marked : (broker.markNative interventionId sessionId).marker .native id = true) :
      broker.marker .native id = true := by
    obtain ⟨owner, stored⟩ := isSome_iff_exists.mp marked
    rw [markNative, OrderedMap.get?_set_ne _ _ ne] at stored
    exact isSome_iff_exists.mpr ⟨owner, OrderedMap.get?_of_get?_deleteAll stored⟩
  constructor
  · intro before native
    by_cases here : id = sessionId
    · exact here ▸ unrouted
    · exact before (elsewhere here native)
  · intro accepted runtime marked
    cases runtime with
    | native => exact elsewhere (fun here => unaccepted (here ▸ accepted)) marked
    | webRtc => exact marked
  · exact fun mem => mem
  · exact fun _ mem => .inl mem

theorem routing_markWebRtc {interventionId sessionId : String} {policy : WebRtcHumanInputPolicy}
    {terminalVerification : Bool} (unaccepted : ¬ broker.Accepted sessionId)
    (unrouted : broker.nativeOnlySessions.contains sessionId = false) (id : String) :
    Routing config broker
      (broker.markWebRtc interventionId sessionId policy terminalVerification) id := by
  have elsewhere (ne : id ≠ sessionId)
      (marked : (broker.markWebRtc interventionId sessionId policy
        terminalVerification).marker .webRtc id = true) : broker.marker .webRtc id = true := by
    obtain ⟨owner, stored⟩ := isSome_iff_exists.mp marked
    rw [markWebRtc, OrderedMap.get?_set_ne _ _ ne] at stored
    exact isSome_iff_exists.mpr ⟨owner, stored⟩
  constructor
  · intro before native
    have ne : id ≠ sessionId := by
      rintro rfl
      exact absurd (unrouted.symm.trans native) Bool.false_ne_true
    apply eq_false_iff.mpr
    intro webRtc
    have both := elsewhere ne webRtc
    rw [before native] at both
    cases both
  · intro accepted runtime marked
    cases runtime with
    | native => exact marked
    | webRtc => exact elsewhere (fun here => unaccepted (here ▸ accepted)) marked
  · exact fun mem => mem
  · exact fun _ mem => .inl mem

theorem routing_createNativeLink (sound : Sound config broker)
    (intervention : TakeoverInterventionRef) (principalBinding : Option String) (id : String) :
    Routing config broker (broker.createNativeLink config intervention principalBinding) id := by
  unfold createNativeLink
  split
  · exact .refl broker id
  · rcases ensureSession_cases config broker intervention principalBinding with
      same | ⟨principal, locator, sessions, _, ensured, same⟩
    · rw [same]
      exact .refl broker id
    · rw [same]
      dsimp only
      split
      · have fewer : FewerRoutes broker { broker with sessions } :=
          { FewerRoutes.refl broker with }
        exact fewer.routing rfl id
      · rename_i unrouted
        have marked : Routing config broker (broker.markNative intervention.id locator.id) id :=
          routing_markNative (sound.ensured_unaccepted ensured) (eq_false_iff.mpr unrouted) id
        exact { marked with kept := fun _ mem => .inl mem }

theorem routing_linkWebRtc {interventionId sessionId : String}
    (unaccepted : ¬ broker.Accepted sessionId) (policy : WebRtcHumanInputPolicy)
    (terminalVerification : Bool) (id : String) :
    Routing config broker
      (broker.linkWebRtc config interventionId sessionId policy terminalVerification) id := by
  unfold linkWebRtc
  split
  · exact .refl broker id
  · rename_i unrouted
    dsimp only
    split
    · have fewer : FewerRoutes broker (broker.dropOtherPolicies interventionId sessionId) :=
        { FewerRoutes.refl broker with }
      exact fewer.routing rfl id
    · have marked : Routing config broker
          (broker.markWebRtc interventionId sessionId policy terminalVerification) id :=
        routing_markWebRtc unaccepted (eq_false_iff.mpr unrouted) id
      exact { marked with kept := fun _ mem => .inl mem }

theorem routing_createWebRtcLink (sound : Sound config broker)
    (intervention : TakeoverInterventionRef) (principalBinding : Option String)
    (inputPolicy : Option PolicyObject) (terminalTargetBehavior : Option String) (id : String) :
    Routing config broker (broker.createWebRtcLink config intervention principalBinding inputPolicy
      terminalTargetBehavior) id := by
  unfold createWebRtcLink
  split
  · exact .refl broker id
  · split
    · rename_i policy terminalVerification _ _
      rcases ensureSession_cases config broker intervention principalBinding with
        same | ⟨principal, locator, sessions, _, ensured, same⟩
      · rw [same]
        exact .refl broker id
      · rw [same]
        have unaccepted : ¬ { broker with sessions }.Accepted locator.id :=
          sound.ensured_unaccepted ensured
        have linked : Routing config { broker with sessions }
            ({ broker with sessions }.linkWebRtc config intervention.id locator.id policy
              terminalVerification) id :=
          routing_linkWebRtc unaccepted policy terminalVerification id
        exact { linked with }
    · exact .refl broker id

/-! ### Timers -/

/-- The last timer of a session forgets its delivery, when it can no longer be completed. -/
theorem routing_fire (sound : Sound config broker) {cleanup : Cleanup}
    (fired : broker.fire config cleanup = some after) (id : String) :
    Routing config broker after id := by
  have fewer : FewerRoutes broker after := @Step.fewerRoutes _ _ _ (.fire cleanup) fired rfl
  unfold fire at fired
  split at fired
  · rename_i armed
    obtain ⟨mem, due⟩ := armed
    have ends := sound.cleanups cleanup mem
    have progress := ((evolves_ticked broker.sessions).invariant_progress
      sound.sessions).2
    cases fired
    by_cases last : cleanup.kind = .webRtcCompletion ∧ cleanup.sessionId = id
    · obtain ⟨kind, rfl⟩ := last
      refine ⟨fewer.exclusive, fun _ runtime => fewer.marker runtime, ?_, ?_⟩
      · intro mem
        rw [kind] at mem
        exact Finset.mem_of_mem_erase mem
      · intro _ _
        right
        rw [kind] at ends ⊢
        have grace : CleanupKind.grace config .webRtcCompletion =
            2 * config.sessions.completionGraceMs := rfl
        refine ⟨_, broker.sessions.reads, Nat.lt_succ_self _, ends.progress progress, ?_⟩
        omega
    · have kept : id ∈ broker.completionDelivered ↔ id ∈ ({ broker with
          sessions := broker.sessions.ticked, cleanups := broker.cleanups.erase cleanup }.cleanUp
            cleanup.kind cleanup.sessionId).completionDelivered := by
        cases kind : cleanup.kind with
        | native | webRtcMedia => exact Iff.rfl
        | webRtcCompletion =>
            have ne : id ≠ cleanup.sessionId := fun here => last ⟨kind, here.symm⟩
            exact ⟨fun mem => Finset.mem_erase.mpr ⟨ne, mem⟩, Finset.mem_of_mem_erase⟩
      exact ⟨fewer.exclusive, fun _ runtime => fewer.marker runtime, kept.mpr,
        fun _ mem => .inl (kept.mp mem)⟩
  · cases fired

/-! ### Every event that finalizes nothing -/

theorem Step.routing {event : BrokerEvent} (step : Step config broker event after)
    (sound : Sound config broker) (plain : event.finalizes = false) (id : String) :
    Routing config broker after id := by
  cases event with
  | complete | settleRevoke | settleHook => cases plain
  | createNativeLink intervention principal =>
      cases step
      exact routing_createNativeLink sound _ _ id
  | createWebRtcLink intervention principal inputPolicy terminalTargetBehavior =>
      cases step
      exact routing_createWebRtcLink sound _ _ _ _ id
  | terminal binding cause =>
      have fewer : FewerRoutes broker after := step.fewerRoutes rfl
      simp only [Step, StepOf, next] at step
      split at step
      · cases step
        apply fewer.routing
        unfold terminal
        split
        · rfl
        · rfl
      · cases step
  | fire cleanup => exact routing_fire sound step id
  | createLink | revokeForIntervention | revokeNativeForIntervention
  | revokeWebRtcForIntervention | completeWebRtcAfterVerification | resumeVerification | prepare
  | connect | bootstrap | requestNative | resumeNative | settleNativeBegin | close | client
  | beginInput | disconnected => exact (step.fewer rfl).routing id

/-- What an event that finalizes nothing leaves alone. -/
theorem Step.plain {event : BrokerEvent} (step : Step config broker event after)
    (sound : Sound config broker) (plain : event.finalizes = false) :
    Progress config.sessions broker.sessions after.sessions ∧
      after.completionFinalizations = broker.completionFinalizations ∧
      ∃ more, after.log = more ++ broker.log ∧ ∀ fact ∈ more, fact.idle = true := by
  cases step.effect with
  | quiet quiet =>
      exact ⟨(quiet.gentle.evolves.invariant_progress sound.sessions).2, quiet.finalizations,
        quiet.log⟩
  | linked _ ensured quiet =>
      have evolves := ensured.evolves.trans quiet.gentle.evolves
      exact ⟨(evolves.invariant_progress sound.sessions).2, quiet.finalizations, quiet.log⟩
  | accepted | revoked | returned => cases plain

end TakeoverBroker

end ExecutionHandoff.Broker
