import ExecutionHandoff.Broker.BrokerMaps
import ExecutionHandoff.Broker.Finalizations

/-!
# What every broker state satisfies

The session manager's own invariant, and what the broker's routes, timers,
running finalizations and accepted completions say about the records.  Records
only advance, so each of these survives any call of the session manager.
-/

namespace ExecutionHandoff.Broker

open Library Takeover
open TakeoverSessionManager (initial_invariant Evolves Completion Ensured settled_of_stored
  evolves_ticked)

/-- The fact accepts a completion of the session. -/
def BrokerFact.acceptsSession (id : String) : BrokerFact → Bool
  | .accepted sessionId .. => sessionId == id
  | _ => false

/-- How long after the media lease a timer waits at least. -/
def CleanupKind.grace (config : TakeoverBrokerConfig) : CleanupKind → Int
  | .native | .webRtcMedia => 0
  | .webRtcCompletion => 2 * config.sessions.completionGraceMs

namespace TakeoverBroker

variable {config : TakeoverBrokerConfig} {broker after : TakeoverBroker}

/-- A completion of the session was accepted. -/
def Accepted (broker : TakeoverBroker) (sessionId : String) : Prop :=
  ∃ fact ∈ broker.log, fact.acceptsSession sessionId = true

instance (broker : TakeoverBroker) (sessionId : String) : Decidable (broker.Accepted sessionId) :=
  inferInstanceAs (Decidable (∃ fact ∈ broker.log, _))

structure Sound (config : TakeoverBrokerConfig) (broker : TakeoverBroker) : Prop where
  sessions : broker.sessions.Invariant config.sessions
  dated : broker.sessions.AllDated config.sessions
  accepted : ∀ id, broker.Accepted id → broker.sessions.Withdrawn config.sessions id
  finalizing : ∀ id finalization, broker.completionFinalizations.get? id = some finalization →
    broker.Accepted id
  routed : ∀ id interventionId, broker.webRtcOnlySessions.get? id = some interventionId →
    broker.sessions.OwnedBy config.sessions interventionId id
  tracked : ∀ id interventionId, broker.webRtcSessionInterventions.get? id = some interventionId →
    broker.sessions.OwnedBy config.sessions interventionId id
  cleanups : ∀ cleanup ∈ broker.cleanups,
    broker.sessions.EndsBy config.sessions (cleanup.due - cleanup.kind.grace config)
      cleanup.sessionId

theorem initial_sound : Sound config initial := by
  constructor
  · exact initial_invariant
  · intro id record stored
    cases stored
  · rintro id ⟨_, mem, _⟩
    cases mem
  · intro id finalization running
    cases running
  · intro id interventionId routed
    cases routed
  · intro id interventionId tracked
    cases tracked
  · intro cleanup mem
    cases mem

theorem accepted_append {more : List BrokerFact} {id : String}
    (log : after.log = more ++ broker.log)
    (none : ∀ fact ∈ more, fact.acceptsSession id = false) :
    after.Accepted id ↔ broker.Accepted id := by
  unfold Accepted
  rw [log]
  constructor
  · rintro ⟨fact, mem, accepts⟩
    rcases List.mem_append.mp mem with new | old
    · rw [none fact new] at accepts
      cases accepts
    · exact ⟨fact, old, accepts⟩
  · rintro ⟨fact, mem, accepts⟩
    exact ⟨fact, List.mem_append_right _ mem, accepts⟩

/-- A step that accepts no completion and puts no session on a route. -/
theorem Sound.step (sound : Sound config broker)
    (evolves : Evolves config.sessions broker.sessions after.sessions)
    (finalizations : ∀ id finalization, after.completionFinalizations.get? id = some finalization →
      broker.Accepted id)
    (log : ∃ more, after.log = more ++ broker.log ∧
      ∀ fact ∈ more, ∀ id, fact.acceptsSession id = false)
    (routes : FewerRoutes broker after) : Sound config after := by
  obtain ⟨inv, progress⟩ := evolves.invariant_progress sound.sessions
  obtain ⟨more, added, none⟩ := log
  have same id := accepted_append added fun fact mem => none fact mem id
  constructor
  · exact inv
  · exact evolves.dated sound.dated
  · exact fun id accepted => (sound.accepted id ((same id).mp accepted)).progress progress
  · exact fun id finalization running => (same id).mpr (finalizations id finalization running)
  · exact fun id owner found => (sound.routed id owner (routes.routed id owner found)).progress
      progress
  · exact fun id owner found => (sound.tracked id owner (routes.tracked id owner found)).progress
      progress
  · exact fun cleanup mem => (sound.cleanups cleanup (routes.cleanups cleanup mem)).progress progress

theorem idle_acceptsSession {fact : BrokerFact} (idle : fact.idle = true) (id : String) :
    fact.acceptsSession id = false := by
  cases fact with
  | accepted => cases idle
  | _ => rfl

theorem Sound.quiet (sound : Sound config broker) (quiet : Quiet config broker after)
    (routes : FewerRoutes broker after) : Sound config after := by
  apply sound.step quiet.gentle.evolves _ _ routes
  · rw [quiet.finalizations]
    exact sound.finalizing
  · obtain ⟨more, same, idle⟩ := quiet.log
    exact ⟨more, same, fun fact mem => idle_acceptsSession (idle fact mem)⟩

variable {sessions : TakeoverSessionManager} {sessionId : String}

theorem Sound.evolve (sound : Sound config broker)
    (evolves : Evolves config.sessions broker.sessions sessions) :
    Sound config { broker with sessions } :=
  sound.step evolves sound.finalizing ⟨[], rfl, by simp⟩ { FewerRoutes.refl broker with }

theorem Sound.finalizes (sound : Sound config broker) {interventionId : String}
    {epoch : Int} (accepted : broker.Accepted sessionId)
    (finalizing : Finalizing sessionId interventionId epoch broker after)
    (routes : FewerRoutes broker after) : Sound config after := by
  apply sound.step _ _ _ routes
  · rw [finalizing.sessions]
    exact .refl _
  · intro id finalization running
    rcases finalizing.finalizations id finalization running with ⟨earlier, found, _⟩ | ⟨rfl, _⟩
    · exact sound.finalizing id earlier found
    · exact accepted
  · obtain ⟨more, same, within⟩ := finalizing.log
    refine ⟨more, same, fun fact mem id => ?_⟩
    have inside := within fact mem
    cases fact with
    | accepted => cases inside
    | _ => rfl

/-- An accepted completion is recorded; its session is withdrawn. -/
theorem Sound.accepts (sound : Sound config broker) {id principal : String}
    {completion : TakeoverCompletionResult}
    (outcome : Completion config.sessions broker.sessions id principal
      (.ok completion) sessions) (wasNative wasWebRtc : Bool) :
    Sound config ({ broker with sessions }.record
      (.accepted id completion.interventionId completion.epoch wasNative wasWebRtc)) := by
  have evolved : Sound config { broker with sessions } := sound.evolve outcome.evolves
  refine { evolved with accepted := ?_, finalizing := ?_ }
  · rintro other ⟨fact, mem, accepts⟩
    rcases List.mem_cons.mp mem with rfl | old
    · cases eq_of_beq accepts
      exact outcome.withdrawn evolved.sessions
    · exact evolved.accepted other ⟨fact, old, accepts⟩
  · intro other finalization running
    obtain ⟨fact, mem, accepts⟩ := sound.finalizing other finalization running
    exact ⟨fact, .tail _ mem, accepts⟩

/-! ## Links -/

/-- What an ensured session satisfies: it belongs to the intervention, and its lease is recent. -/
theorem Sound.ensured (sound : Sound config broker) {interventionId : String} {epoch : Int}
    {principal : String} {locator : TakeoverLocator}
    (ensured : Ensured config.sessions broker.sessions interventionId epoch
      principal locator sessions) :
    sessions.OwnedBy config.sessions interventionId locator.id ∧
      sessions.EndsBy config.sessions (config.sessions.now sessions.reads + config.sessions.ttlMs)
        locator.id := by
  have after : Sound config { broker with sessions } := sound.evolve ensured.evolves
  obtain ⟨record, stored, _, owned, _⟩ := ensured.live sound.sessions
  obtain ⟨count, below, begun⟩ := (after.dated locator.id record stored).begun
  have earlier : config.sessions.now count ≤ config.sessions.now sessions.reads :=
    config.sessions.now_monotone (Nat.le_of_lt below)
  constructor
  · exact settled_of_stored after.sessions stored owned
  · apply settled_of_stored after.sessions stored
    omega

theorem Sound.tick (sound : Sound config broker) :
    Sound config { broker with sessions := broker.sessions.ticked } :=
  sound.evolve (evolves_ticked broker.sessions)

theorem Sound.arm (sound : Sound config broker) {kind : CleanupKind} {sessionId : String}
    {delay : Int} (ends : broker.sessions.EndsBy config.sessions
      (config.sessions.now broker.sessions.reads + delay - kind.grace config) sessionId) :
    Sound config (broker.arm config kind sessionId delay) := by
  have ticked := sound.tick
  have progress := ((evolves_ticked broker.sessions).invariant_progress
    sound.sessions).2
  refine { ticked with cleanups := ?_ }
  intro cleanup mem
  rcases List.mem_append.mp mem with old | new
  · exact ticked.cleanups cleanup old
  · rw [List.mem_singleton.mp new]
    exact ends.progress progress

theorem Sound.markNative (sound : Sound config broker) (interventionId sessionId : String) :
    Sound config (broker.markNative interventionId sessionId) :=
  { sound with }

theorem Sound.dropOtherPolicies (sound : Sound config broker) (interventionId sessionId : String) :
    Sound config (broker.dropOtherPolicies interventionId sessionId) :=
  { sound with }

theorem Sound.markWebRtc (sound : Sound config broker) {interventionId : String}
    (owned : broker.sessions.OwnedBy config.sessions interventionId sessionId)
    (policy : WebRtcHumanInputPolicy) (terminalVerification : Bool) :
    Sound config (broker.markWebRtc interventionId sessionId policy terminalVerification) := by
  refine { sound with routed := ?_, tracked := ?_ }
  · intro id current found
    rw [TakeoverBroker.markWebRtc, OrderedMap.get?_set] at found
    split at found
    · rename_i same
      cases found
      exact same ▸ owned
    · exact sound.routed id current found
  · intro id current found
    rw [TakeoverBroker.markWebRtc, OrderedMap.get?_set] at found
    split at found
    · rename_i same
      cases found
      exact same ▸ owned
    · exact sound.tracked id current found

/-- Both markers of a lease wait a second longer than the lease. -/
theorem media_ends {time lease : Int}
    (ends : sessions.EndsBy config.sessions (time + lease) sessionId) :
    sessions.EndsBy config.sessions (time + (lease + 1000) - 0) sessionId := by
  apply ends.mono
  omega

theorem Sound.linkWebRtc (sound : Sound config broker) {interventionId : String}
    (owned : broker.sessions.OwnedBy config.sessions interventionId sessionId)
    (ends : broker.sessions.EndsBy config.sessions
      (config.sessions.now broker.sessions.reads + config.sessions.ttlMs) sessionId)
    (policy : WebRtcHumanInputPolicy) (terminalVerification : Bool) :
    Sound config (broker.linkWebRtc config interventionId sessionId policy terminalVerification) := by
  have dropped := sound.dropOtherPolicies interventionId sessionId
  unfold TakeoverBroker.linkWebRtc
  split
  · exact sound
  · dsimp only
    split
    · exact dropped
    · have marked := dropped.markWebRtc owned policy terminalVerification
      have media := @Sound.arm config _ marked .webRtcMedia sessionId
        (config.sessions.ttlMs + 1000) (media_ends ends)
      apply Sound.quiet _ ((Quiet.refl _).record rfl) { FewerRoutes.refl _ with }
      apply media.arm
      have progress := ((evolves_ticked broker.sessions).invariant_progress
        sound.sessions).2
      apply (TakeoverSessionManager.EndsBy.progress ends progress).mono
      have later : config.sessions.now broker.sessions.reads ≤
          config.sessions.now (broker.sessions.reads + 1) :=
        config.sessions.now_monotone (Nat.le_succ _)
      change _ ≤ config.sessions.now (broker.sessions.reads + 1) + _ -
        2 * config.sessions.completionGraceMs
      omega

theorem Sound.createNativeLink (sound : Sound config broker)
    (intervention : TakeoverInterventionRef) (principalBinding : Option String) :
    Sound config (broker.createNativeLink config intervention principalBinding) := by
  unfold TakeoverBroker.createNativeLink
  split
  · exact sound
  · rcases ensureSession_cases config broker intervention principalBinding with
      same | ⟨principal, locator, sessions, _, ensured, same⟩
    · rw [same]
      exact sound
    · rw [same]
      have after : Sound config { broker with sessions } := sound.evolve ensured.evolves
      dsimp only
      split
      · exact after
      · apply (after.markNative intervention.id locator.id).arm
        exact media_ends (sound.ensured ensured).2

theorem Sound.createWebRtcLink (sound : Sound config broker)
    (intervention : TakeoverInterventionRef) (principalBinding : Option String)
    (inputPolicy : Option PolicyObject) (terminalTargetBehavior : Option String) :
    Sound config (broker.createWebRtcLink config intervention principalBinding inputPolicy
      terminalTargetBehavior) := by
  unfold TakeoverBroker.createWebRtcLink
  split
  · exact sound
  · split
    · rcases ensureSession_cases config broker intervention principalBinding with
        same | ⟨principal, locator, sessions, _, ensured, same⟩
      · rw [same]
        exact sound
      · rw [same]
        have after : Sound config { broker with sessions } := sound.evolve ensured.evolves
        obtain ⟨owned, ends⟩ := sound.ensured ensured
        exact after.linkWebRtc owned ends _ _
    · exact sound

/-! ## Every step -/

theorem step_sound {event : BrokerEvent} (step : Step config broker event after)
    (sound : Sound config broker) : Sound config after := by
  cases routes : event.routes with
  | true =>
      cases event with
      | createNativeLink intervention principal =>
          cases step
          exact sound.createNativeLink _ _
      | createWebRtcLink intervention principal inputPolicy terminalTargetBehavior =>
          cases step
          exact sound.createWebRtcLink _ _ _ _
      | _ => cases routes
  | false =>
      have fewer := step.fewerRoutes routes
      cases step.effect with
      | quiet quiet => exact sound.quiet quiet fewer
      | linked _ ensured quiet =>
          have ensuredSound := sound.evolve ensured.evolves
          exact ensuredSound.quiet quiet { fewer with }
      | @accepted request principal completion sessions outcome _ =>
          have accepted := sound.accepts outcome
            (broker.nativeOnlySessions.contains request.sessionId)
            (broker.webRtcOnlySessions.contains request.sessionId)
          apply accepted.finalizes _ (finalizing_join _ _ _ _ _) (fewerRoutes_join _ _ _ _ _)
          exact ⟨_, .head _, beq_self_eq_true _⟩
      | revoked settled =>
          obtain ⟨finalization, running, finalizing⟩ := finalizing_settleRevoke settled
          exact sound.finalizes (sound.finalizing _ finalization running) finalizing fewer
      | returned settled =>
          obtain ⟨finalization, running, finalizing⟩ := finalizing_settleHook settled
          exact sound.finalizes (sound.finalizing _ finalization running) finalizing fewer

theorem run_sound {events : List BrokerEvent} (run : Run (Step config) initial events broker) :
    Sound config broker :=
  run.invariant (fun step sound => step_sound step sound) initial_sound

theorem Step.evolves {event : BrokerEvent} (step : Step config broker event after) :
    Evolves config.sessions broker.sessions after.sessions := by
  cases step.effect with
  | quiet quiet => exact quiet.gentle.evolves
  | linked _ ensured quiet => exact ensured.evolves.trans quiet.gentle.evolves
  | accepted outcome =>
      rw [(finalizing_join _ _ _ _ _).sessions]
      exact outcome.evolves
  | revoked settled =>
      obtain ⟨_, _, finalizing⟩ := finalizing_settleRevoke settled
      exact finalizing.sessions ▸ .refl _
  | returned settled =>
      obtain ⟨_, _, finalizing⟩ := finalizing_settleHook settled
      exact finalizing.sessions ▸ .refl _

end TakeoverBroker

end ExecutionHandoff.Broker
