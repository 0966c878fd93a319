import ExecutionHandoff.Broker.Finalizations
import ExecutionHandoff.Takeover.SessionDone

/-!
# Completion fences the Human

A completion is accepted by session, and a session stays completable past its
media lease, while `ensure` mints a fresh session for the same intervention and
epoch.  As long as no link does that beside a completable session, or after a
completion was accepted, an invoked hook finds no live session, and none is
live later.
-/

namespace ExecutionHandoff.Broker

open Library Takeover Bool List

/-- The fact accepts a completion of the intervention and epoch. -/
def BrokerFact.accepts (interventionId : String) (epoch : Int) : BrokerFact → Bool
  | .accepted _ owner turn _ _ => owner == interventionId && turn == epoch
  | _ => false

namespace TakeoverBroker

variable {config : TakeoverBrokerConfig} {broker after : TakeoverBroker}

/-- A completion of the intervention and epoch was accepted. -/
def hasCompleted (broker : TakeoverBroker) (interventionId : String) (epoch : Int) : Bool :=
  broker.log.any (·.accepts interventionId epoch)

/-- The event mints a session of an intervention and epoch that has a completable one, or whose
completion was accepted before. -/
def remints (config : TakeoverBrokerConfig) (broker : TakeoverBroker) (event : BrokerEvent) : Bool :=
  match event.ensures config with
  | none => false
  | some (intervention, principal) =>
      TakeoverSessionManager.mints config.sessions broker.sessions intervention.id
          intervention.epoch principal
        && (TakeoverSessionManager.leavesCompletable config.sessions broker.sessions intervention.id
            intervention.epoch
          || broker.hasCompleted intervention.id intervention.epoch)

structure Fences (config : TakeoverBrokerConfig) (broker : TakeoverBroker) : Prop where
  sessions : broker.sessions.Invariant config.sessions
  dated : broker.sessions.AllDated config.sessions
  alone : broker.sessions.CompletionAlone config.sessions
  completed : ∀ interventionId epoch, broker.hasCompleted interventionId epoch = true →
    TakeoverSessionManager.NoneLive config.sessions broker.sessions interventionId epoch
  finalizing : ∀ id finalization, broker.completionFinalizations.get? id = some finalization →
    broker.hasCompleted finalization.interventionId finalization.epoch = true
  invoked : ∀ id interventionId epoch, .hookInvoked id interventionId epoch ∈ broker.log →
    broker.hasCompleted interventionId epoch = true

theorem initial_fences : Fences config initial := by
  constructor
  · exact TakeoverSessionManager.initial_invariant
  · intro id record stored
    cases stored
  · intro time _ id record other current stored
    cases stored
  · intro interventionId epoch completed
    cases completed
  · intro id finalization running
    cases running
  · intro id interventionId epoch mem
    cases mem

/-! ## Quiet steps and links -/

theorem idle_accepts {fact : BrokerFact} (idle : fact.idle = true) (interventionId : String)
    (epoch : Int) : fact.accepts interventionId epoch = false := by
  cases fact with
  | accepted => cases idle
  | _ => rfl

theorem Quiet.hasCompleted (quiet : Quiet config broker after) (interventionId : String)
    (epoch : Int) :
    after.hasCompleted interventionId epoch = broker.hasCompleted interventionId epoch := by
  obtain ⟨more, same, idle⟩ := quiet.log
  have none : more.any (·.accepts interventionId epoch) = false := by
    rw [any_eq_false]
    exact fun fact mem => not_eq_true _ ▸ idle_accepts (idle fact mem) interventionId epoch
  rw [TakeoverBroker.hasCompleted, same, any_append, none, Bool.false_or]
  rfl

theorem Fences.quiet (fences : Fences config broker) (quiet : Quiet config broker after) :
    Fences config after := by
  have evolves := quiet.gentle.evolves
  constructor
  · exact (evolves.invariant_progress fences.sessions).1
  · exact evolves.dated fences.dated
  · exact quiet.gentle.completionAlone fences.sessions fences.dated fences.alone
  · intro interventionId epoch completed
    rw [quiet.hasCompleted] at completed
    exact (fences.completed interventionId epoch completed).kept
      (quiet.gentle.kept fences.sessions)
  · intro id finalization running
    rw [quiet.finalizations] at running
    rw [quiet.hasCompleted]
    exact fences.finalizing id finalization running
  · intro id interventionId epoch mem
    rw [quiet.hasCompleted]
    obtain ⟨more, same, idle⟩ := quiet.log
    rw [same] at mem
    rcases mem_append.mp mem with new | old
    · cases idle _ new
    · exact fences.invoked id interventionId epoch old

/-- A link that ensures a session, unless it mints one it should not. -/
theorem Fences.ensured (fences : Fences config broker) {intervention : TakeoverInterventionRef}
    {principal : String} {locator : TakeoverLocator} {sessions : TakeoverSessionManager}
    (ensured : TakeoverSessionManager.Ensured config.sessions broker.sessions intervention.id
      intervention.epoch principal locator sessions)
    (spares : TakeoverSessionManager.mints config.sessions broker.sessions intervention.id
        intervention.epoch principal = true →
      TakeoverSessionManager.leavesCompletable config.sessions broker.sessions intervention.id
          intervention.epoch = false ∧
        broker.hasCompleted intervention.id intervention.epoch = false) :
    Fences config { broker with sessions } := by
  have evolves := ensured.evolves
  constructor
  · exact (evolves.invariant_progress fences.sessions).1
  · exact evolves.dated fences.dated
  · exact ensured.completionAlone fences.alone fun mints => (spares mints).1
  · intro interventionId epoch completed
    apply ensured.noneLive (fences.completed interventionId epoch completed)
    -- a minted session is of another intervention or epoch than a completed one
    rintro mints rfl rfl
    exact absurd completed (not_eq_true _ ▸ (spares mints).2)
  · exact fences.finalizing
  · exact fences.invoked

/-! ## Runs -/

theorem Finalizing.hasCompleted {sessionId interventionId : String} {epoch : Int}
    (finalizing : Finalizing sessionId interventionId epoch broker after) (owner : String) (turn : Int) :
    after.hasCompleted owner turn = broker.hasCompleted owner turn := by
  obtain ⟨more, same, within⟩ := finalizing.log
  have none : more.any (·.accepts owner turn) = false := by
    rw [any_eq_false]
    intro fact mem
    have inside := within fact mem
    cases fact with
    | accepted => cases inside
    | _ => exact Bool.false_ne_true
  rw [TakeoverBroker.hasCompleted, same, any_append, none, Bool.false_or]
  rfl

theorem Fences.finalizes (fences : Fences config broker) {sessionId interventionId : String}
    {epoch : Int} (completed : broker.hasCompleted interventionId epoch = true)
    (finalizing : Finalizing sessionId interventionId epoch broker after) : Fences config after := by
  have same := finalizing.sessions
  constructor
  · rw [same]
    exact fences.sessions
  · rw [same]
    exact fences.dated
  · rw [same]
    exact fences.alone
  · intro owner turn done
    rw [finalizing.hasCompleted] at done
    rw [same]
    exact fences.completed owner turn done
  · intro id finalization running
    rw [finalizing.hasCompleted]
    rcases finalizing.finalizations id finalization running with
      ⟨earlier, found, owned, turn⟩ | ⟨_, owned, turn⟩
    · rw [← owned, ← turn]
      exact fences.finalizing id earlier found
    · rw [owned, turn]
      exact completed
  · intro id owner turn mem
    rw [finalizing.hasCompleted]
    obtain ⟨more, added, within⟩ := finalizing.log
    rw [added] at mem
    rcases mem_append.mp mem with new | old
    · obtain ⟨rfl, rfl⟩ := within _ new
      exact completed
    · exact fences.invoked id owner turn old

/-- An accepted completion is recorded, after it has fenced its intervention and epoch. -/
theorem Fences.accepts (fences : Fences config broker) {id principal : String}
    {completion : TakeoverCompletionResult} {sessions : TakeoverSessionManager}
    (outcome : TakeoverSessionManager.Completion config.sessions broker.sessions id principal
      (.ok completion) sessions) (wasNative wasWebRtc : Bool) :
    Fences config ({ broker with sessions }.record
      (.accepted id completion.interventionId completion.epoch wasNative wasWebRtc)) := by
  have evolves := outcome.evolves
  have kept := outcome.kept fences.sessions
  have grows : ∀ owner turn, broker.hasCompleted owner turn = true →
      ({ broker with sessions }.record (.accepted id completion.interventionId completion.epoch
        wasNative wasWebRtc)).hasCompleted owner turn = true :=
    fun owner turn done => or_eq_true_iff.mpr (.inr done)
  constructor
  · exact (evolves.invariant_progress fences.sessions).1
  · exact evolves.dated fences.dated
  · exact fences.alone.completion outcome fences.sessions
  · intro owner turn done
    rcases or_eq_true_iff.mp done with new | old
    · simp only [BrokerFact.accepts, and_eq_true, beq_iff_eq] at new
      obtain ⟨rfl, rfl⟩ := new
      exact fences.alone.completed outcome
    · exact (fences.completed owner turn old).kept kept
  · exact fun other finalization running => grows _ _ (fences.finalizing other finalization running)
  · intro other owner turn mem
    rcases mem_cons.mp mem with new | old
    · cases new
    · exact grows _ _ (fences.invoked other owner turn old)

theorem step_fences {event : BrokerEvent} (step : Step config broker event after)
    (spares : broker.remints config event = false) (fences : Fences config broker) :
    Fences config after := by
  cases step.effect with
  | quiet quiet => exact fences.quiet quiet
  | linked asked ensured quiet =>
      refine Fences.quiet (fences.ensured ensured fun mints => ?_) quiet
      simpa [remints, asked, mints] using spares
  | @accepted request principal completion sessions outcome unverified =>
      have accepted := fences.accepts outcome
        (broker.nativeOnlySessions.contains request.sessionId)
        (broker.webRtcOnlySessions.contains request.sessionId)
      apply accepted.finalizes _ (finalizing_join _ _ _ _ _)
      apply or_eq_true_iff.mpr
      simp [BrokerFact.accepts]
  | revoked settled =>
      obtain ⟨finalization, running, finalizing⟩ := finalizing_settleRevoke settled
      exact fences.finalizes (fences.finalizing _ finalization running) finalizing
  | returned settled =>
      obtain ⟨finalization, running, finalizing⟩ := finalizing_settleHook settled
      exact fences.finalizes (fences.finalizing _ finalization running) finalizing

/-- In a run that never mints beside a completable session or after an accepted completion, an
invoked completed hook leaves no live session of its intervention and epoch: not when it is
invoked, and not in any later state, where no client passes `beginUse` or `beginBoundUse`. -/
theorem run_completion_fence {events : List BrokerEvent}
    (run : Run (Guarded (Step config) fun source event => source.remints config event = false)
      initial events broker) {id interventionId : String} {epoch : Int}
    (invoked : .hookInvoked id interventionId epoch ∈ broker.log) :
    TakeoverSessionManager.NoneLive config.sessions broker.sessions interventionId epoch ∧
      ∀ other record, broker.sessions.records.get? other = some record →
        record.interventionId = interventionId → record.epoch = epoch →
        (∀ capability principal clientBinding use,
          (TakeoverSessionManager.beginUse config.sessions other capability principal clientBinding
            broker.sessions).1 ≠ .ok use) ∧
        ∀ principal clientBinding clientGeneration use,
          (TakeoverSessionManager.beginBoundUse config.sessions other principal clientBinding
            clientGeneration broker.sessions).1 ≠ .ok use := by
  have fences : Fences config broker := run.invariant
    (fun step fences => step_fences step.1 step.2 fences) initial_fences
  have none := fences.completed interventionId epoch (fences.invoked id interventionId epoch invoked)
  refine ⟨none, fun other record stored owned turn => ⟨?_, ?_⟩⟩
  · intro capability principal clientBinding use admitted
    obtain ⟨current, active⟩ := TakeoverSessionManager.beginUse_admits admitted
    cases stored.symm.trans active.stored
    exact none.not_active active owned turn
  · intro principal clientBinding clientGeneration use admitted
    obtain ⟨current, active, _⟩ := TakeoverSessionManager.beginBoundUse_admits admitted
    cases stored.symm.trans active.stored
    exact none.not_active active owned turn

/-! ### A fenced completion, and one that leaves a session live -/

section Samples

open TakeoverSessionManager (holderConfig sampleBinding sampleCompletionCapability)

def sampleBroker (sessions : TakeoverSessionConfig) : TakeoverBrokerConfig where
  enabled := true
  publicBaseUrl := some "https://broker.test"
  origin := id
  pageUrl := fun base sessionId => base ++ "/takeover/" ++ sessionId
  nativeRuntime := true
  webRtcRuntime := true
  sessions := sessions

/-- The same holder, whose media lease is over by the sixth read of the clock. -/
def lapsedConfig : TakeoverSessionConfig :=
  { holderConfig with
    now := fun reads => Int.ofNat (if reads < 6 then reads else 1200 + reads)
    now_monotone := by
      intro early late le
      apply Int.ofNat_le.mpr
      split <;> split <;> omega }

def sampleLink : BrokerEvent := .createWebRtcLink ⟨"intervention", 1⟩ (some "principal") none none

def sampleClaimed : List BrokerEvent :=
  [sampleLink, .prepare "takeover-0" "principal" sampleBinding none]

def sampleRequest : CompletionRequest where
  method := "POST"
  sessionId := "takeover-0"
  boundPrincipal := some "principal"
  origin := some "https://broker.test"
  completionCapability := some sampleCompletionCapability

def sampleCompleted : List BrokerEvent :=
  [.complete sampleRequest, .settleRevoke .webRtc "takeover-0" true]

theorem sampleCompleted_fenced :
    ∃ broker, Run (Guarded (Step (sampleBroker lapsedConfig)) fun source event =>
        source.remints (sampleBroker lapsedConfig) event = false) initial
        (sampleClaimed ++ sampleCompleted) broker ∧
      .hookInvoked "takeover-0" "intervention" 1 ∈ broker.log ∧
      TakeoverSessionManager.NoneLive lapsedConfig broker.sessions "intervention" 1 := by
  have invoked : (execute (permitted (next (sampleBroker lapsedConfig)) fun source event =>
      source.remints (sampleBroker lapsedConfig) event = false) initial
      (sampleClaimed ++ sampleCompleted)).map TakeoverBroker.log =
        some [.hookInvoked "takeover-0" "intervention" 1, .revoked .webRtc "takeover-0",
          .revoking .webRtc "takeover-0", .accepted "takeover-0" "intervention" 1 false true,
          .linked "takeover-0" allowAllWebRtcInput] := by decide
  obtain ⟨broker, executed, log⟩ := Option.map_eq_some_iff.mp invoked
  have hook : .hookInvoked "takeover-0" "intervention" 1 ∈ broker.log := log ▸ .head _
  have run := run_guarded_of_execute executed
  exact ⟨broker, run, hook, (run_completion_fence run hook).1⟩

/-- A second link mints a session while the first one is still completable. -/
theorem sampleRelinked_live :
    ¬ ∀ (config : TakeoverBrokerConfig) (events : List BrokerEvent) (broker : TakeoverBroker),
      Run (Step config) initial events broker → ∀ id interventionId epoch,
        .hookInvoked id interventionId epoch ∈ broker.log →
        TakeoverSessionManager.NoneLive config.sessions broker.sessions interventionId epoch := by
  intro claimed
  have second : (execute (next (sampleBroker lapsedConfig)) initial
      (sampleClaimed ++ [sampleLink] ++ sampleCompleted)).any (fun broker =>
        decide (.hookInvoked "takeover-0" "intervention" 1 ∈ broker.log) &&
          (broker.sessions.records.get? "takeover-1").any fun record =>
            record.interventionId == "intervention" && record.epoch == 1 && !record.revoked
              && decide (lapsedConfig.now broker.sessions.reads < record.expiresAt)) = true := by
    decide
  obtain ⟨broker, executed, facts⟩ := Option.any_eq_true _ _ |>.mp second
  simp only [Bool.and_eq_true, decide_eq_true_eq, Option.any_eq_true] at facts
  obtain ⟨hook, record, stored, ⟨⟨owned, turn⟩, live⟩, early⟩ := facts
  have none := claimed _ _ broker ((run_iff_execute _ _ _ _).mpr executed) _ _ _ hook
  exact none _ (TakeoverSessionManager.reached_now _) "takeover-1" record stored
    (eq_of_beq owned) (eq_of_beq turn) ⟨Bool.not_eq_true' _ |>.mp live, early⟩

end Samples

end TakeoverBroker

end ExecutionHandoff.Broker
