import ExecutionHandoff.Transport.ManagedRace

/-!
# Revocation of a managed session

A revocation forgets the session and queues a revoke of the stored lease.  When
no fallback finds a further transport past that point, nothing is left of the
session once everything has settled.  A fallback that does find one leaves its
driver active under a lease the queued revoke no longer matches.
-/

namespace ExecutionHandoff.Transport

open Library List

namespace ManagedHandoffSession

open ManagedBrowserHandoffTransportCoordinator (leaseOf_active lookup_snoc)

variable {config : ManagedRuntimeConfig} {session last : ManagedHandoffSession}
  {event : ManagedEvent}

/-- Leases of finished fallbacks whose requests have not gone on. -/
def unstored (session : ManagedHandoffSession) : List ManagedBrowserHandoffTransportLease :=
  session.requests.entries.filterMap fun entry =>
    match entry.2, session.coordinator.outcomes.lookup entry.1 with
    | .falling _ _, some (.ok next) => next
    | _, _ => none

/-- No revoke of a driver fails. -/
def revokesSucceed : ManagedEvent → Bool
  | .transport event => event.revokes
  | _ => true

/-- A revocation finds no lease to be stored, and after it no start finds a transport session. -/
def fallbackEnds (config : ManagedRuntimeConfig) (session : ManagedHandoffSession) :
    ManagedEvent → Bool
  | .revoke | .revokeUnclaimed =>
      session.unstored.all fun lease => (config.takeoverSessionIdFromLocator lease.locator).isNone
  | .transport (.startSettled (some locator)) =>
      session.registered || (config.takeoverSessionIdFromLocator locator).isNone
  | _ => true

/-- Somebody will revoke the lease, or has the session that holds it. -/
inductive Tended (session : ManagedHandoffSession) (lease : ManagedBrowserHandoffTransportLease) :
    Prop where
  | stored (registered : session.registered = true) (same : lease = session.lease)
  | busy (running : session.coordinator.running ≠ none)
  | queued (ticket : Nat) (mem : (ticket, .revoke (some lease)) ∈ session.coordinator.queue)
  | unstored (ticket : Nat) (sessionId : String) (oldLease : ManagedBrowserHandoffTransportLease)
      (falling : session.Falling ticket sessionId oldLease)
      (found : session.coordinator.outcomes.lookup ticket = some (.ok (some lease)))

/-- The invariant of runs in which the revocation meets no fallback that goes on. -/
structure Covered (config : ManagedRuntimeConfig) (session : ManagedHandoffSession) : Prop where
  consistent : Consistent session
  tended : ∀ lease, session.coordinator.leaseOf = some lease → session.Tended lease
  inert : session.registered = false → ∀ ticket sessionId oldLease lease,
    session.Falling ticket sessionId oldLease →
      session.coordinator.outcomes.lookup ticket = some (.ok (some lease)) →
        config.takeoverSessionIdFromLocator lease.locator = none
  forgotten : session.registered = false → session.transports = []

theorem mem_unstored {ticket : Nat} {sessionId : String}
    {oldLease lease : ManagedBrowserHandoffTransportLease}
    (falling : session.Falling ticket sessionId oldLease)
    (found : session.coordinator.outcomes.lookup ticket = some (.ok (some lease))) :
    lease ∈ session.unstored := by
  refine mem_filterMap.mpr ⟨(ticket, .falling sessionId oldLease), ?_, ?_⟩
  · exact OrderedMap.get?_eq_some_iff.mp falling
  · simp only [found]

/-! ## Steps -/

theorem Covered.transport (covered : Covered config session) {inner : CoordinatorEvent}
    {coordinator : ManagedBrowserHandoffTransportCoordinator}
    (chained : session.coordinator.Chained inner coordinator) (revokes : inner.revokes = true)
    (ends : session.fallbackEnds config (.transport inner) = true) :
    Covered config { session with coordinator } := by
  have consistent := covered.consistent
  have keep : coordinator.active = session.coordinator.active → ∀ lease,
      coordinator.leaseOf = some lease → session.Tended lease := by
    intro active lease current
    refine covered.tended lease ?_
    rw [← current]
    exact (congrArg (Option.map _) active).symm
  refine ⟨consistent.transport chained, ?_, ?_, covered.forgotten⟩
  · intro lease current
    cases chained.flow with
    | apart running queue outcomes active =>
        cases keep active lease current with
        | stored registered same => exact .stored registered same
        | busy busy => exact .busy (running ▸ busy)
        | queued ticket mem => exact .queued ticket (queue ▸ mem)
        | unstored ticket sessionId oldLease falling found =>
            exact .unstored ticket sessionId oldLease falling (outcomes ▸ found)
    | begins ticket operation rest phase quiet queued running =>
        exact .busy (by change coordinator.running ≠ none; rw [running]; simp)
    | advances ticket phase next before running =>
        exact .busy (by change coordinator.running ≠ none; rw [running]; simp)
    | refused other operation rest outcome quiet queued running queue outcomes active rejects
        unmatched =>
        cases keep active lease current with
        | stored registered same => exact .stored registered same
        | busy busy => exact absurd quiet busy
        | queued ticket mem =>
            rw [queued] at mem
            rcases mem_cons.mp mem with same | later
            · cases same
              obtain ⟨driver, serving, rfl⟩ := Option.map_eq_some_iff.mp current
              exact absurd ⟨rfl, rfl⟩
                (unmatched driver.lease driver rfl (active.symm.trans serving))
            · exact .queued ticket (queue ▸ later)
        | unstored ticket sessionId oldLease falling found =>
            refine .unstored ticket sessionId oldLease falling ?_
            change coordinator.outcomes.lookup ticket = _
            rw [outcomes, lookup_snoc, found]
            rfl
    | settles other phase outcome before running queue outcomes leased released =>
        by_cases answered : ∃ next, outcome = .ok (some next)
        · obtain ⟨next, rfl⟩ := answered
          obtain ⟨_, idle, _, _, index, active⟩ := leased next rfl
          cases current.symm.trans (leaseOf_active active)
          rcases consistent.running other phase before with ⟨kind, _⟩ | ⟨_, sessionId, falling⟩
          · cases phase with
            | revoke | revoking => cases idle
            | attempt index mode | starting index generation mode | failed index generation mode
            | cleaning call index generation mode | blank index generation mode =>
                cases mode <;> cases kind
          · refine .unstored other sessionId session.lease falling ?_
            change coordinator.outcomes.lookup other = _
            rw [outcomes, lookup_snoc, consistent.launched.running_unsettled before]
            simp
        · have inactive : coordinator.active = none := by
            rcases released fun next no => answered ⟨next, no⟩ with inactive | ⟨fails, _⟩
            · exact inactive
            · cases fails.symm.trans revokes
          cases current.symm.trans (congrArg (Option.map _) inactive)
  · intro unregistered ticket sessionId oldLease lease falling found
    rcases consistent.answers chained.flow falling found with before | answers
    · exact covered.inert unregistered ticket sessionId oldLease lease falling before
    · have located := answers.located lease rfl
      subst located
      unfold fallbackEnds at ends
      rw [show session.registered = false from unregistered] at ends
      simpa using ends

/-- A request without a lease to store is answered, and the active session id may change. -/
theorem Covered.answer (covered : Covered config session) {ticket : Nat}
    {response : ManagedResponse} {activeSessionId : Option String}
    (consistent : Consistent ({ session with activeSessionId }.answer ticket response))
    (empty : ∀ sessionId oldLease lease, session.Falling ticket sessionId oldLease →
      session.coordinator.outcomes.lookup ticket ≠ some (.ok (some lease))) :
    Covered config ({ session with activeSessionId }.answer ticket response) := by
  refine ⟨consistent, ?_, ?_, covered.forgotten⟩
  · intro lease current
    cases covered.tended lease current with
    | stored registered same => exact .stored registered same
    | busy busy => exact .busy busy
    | queued other mem => exact .queued other mem
    | unstored other sessionId oldLease falling found =>
        have ne : other ≠ ticket := by
          rintro rfl
          exact empty sessionId oldLease lease falling found
        exact .unstored other sessionId oldLease
          ((OrderedMap.get?_delete_ne session.requests ne).trans falling) found
  · intro unregistered other sessionId oldLease lease falling found
    exact covered.inert unregistered other sessionId oldLease lease
      (OrderedMap.get?_of_get?_delete falling) found

theorem Covered.afterFallback (covered : Covered config session) {ticket : Nat}
    {sessionId : String} {oldLease : ManagedBrowserHandoffTransportLease}
    {outcome : Except Failure (Option ManagedBrowserHandoffTransportLease)}
    (falling : session.Falling ticket sessionId oldLease)
    (found : session.coordinator.outcomes.lookup ticket = some outcome) :
    Covered config (session.afterFallback config ticket sessionId outcome) := by
  have consistent := @Consistent.afterFallback config session covered.consistent ticket sessionId
    oldLease outcome falling found
  have emptied : session.registered = false →
      (session.rotate config sessionId).transports = [] := by
    intro unregistered
    rw [show (session.rotate config sessionId).transports =
      session.transports.filter (· ≠ sessionId) from rfl, covered.forgotten unregistered]
    rfl
  match outcome with
  | .error failure =>
      refine covered.answer consistent fun _ _ _ _ settled => ?_
      cases found.symm.trans settled
  | .ok none =>
      have standing := covered.consistent.standing ticket sessionId oldLease none falling found
      refine ⟨consistent, ?_, ?_, emptied⟩
      · intro lease current
        cases standing.active.symm.trans current
      · intro unregistered other id old lease mem settled
        exact covered.inert unregistered other id old lease
          (OrderedMap.get?_of_get?_delete mem) settled
  | .ok (some lease) =>
      have standing := covered.consistent.standing ticket sessionId oldLease _ falling found
      unfold ManagedHandoffSession.afterFallback at consistent ⊢
      dsimp only at consistent ⊢
      cases known : config.takeoverSessionIdFromLocator lease.locator with
      | none =>
          rw [known] at consistent
          dsimp only at consistent ⊢
          refine ⟨consistent, ?_, ?_, emptied⟩
          · intro other current
            cases standing.active.symm.trans current
            exact .queued session.coordinator.tickets
              (mem_append_right _ (mem_singleton_self _))
          · intro unregistered other id old next mem settled
            have new : other ≠ session.coordinator.tickets := by
              rintro rfl
              cases (OrderedMap.get?_set_self _ _ _).symm.trans mem
            have before := (OrderedMap.get?_set_ne _ _ new).symm.trans mem
            exact covered.inert unregistered other id old next
              (OrderedMap.get?_of_get?_delete before) settled
      | some nextSessionId =>
          rw [known] at consistent
          dsimp only at consistent ⊢
          have registered : session.registered = true := by
            by_contra unregistered
            have none := covered.inert (Bool.not_eq_true _ ▸ unregistered) ticket sessionId
              oldLease lease falling found
            cases known.symm.trans none
          have impossible : session.registered ≠ false := by simp [registered]
          refine ⟨consistent, ?_, fun no => absurd no impossible, fun no => absurd no impossible⟩
          intro other current
          cases standing.active.symm.trans current
          exact .stored registered rfl

theorem Covered.revoke (covered : Covered config session)
    (ends : session.fallbackEnds config .revoke = true) : Covered config session.revoke := by
  have consistent := covered.consistent.revoke
  unfold ManagedHandoffSession.revoke at consistent ⊢
  split
  · rename_i registered
    rw [if_pos registered] at consistent
    refine ⟨consistent, ?_, ?_, ?_⟩
    · intro lease current
      cases covered.tended lease current with
      | stored _ same =>
          subst same
          exact .queued session.coordinator.tickets
            (mem_append_right _ (mem_singleton_self _))
      | busy busy => exact .busy busy
      | queued other mem => exact .queued other (mem_append_left _ mem)
      | unstored other sessionId oldLease falling found =>
          exact .unstored other sessionId oldLease falling found
    · intro _ ticket sessionId oldLease lease falling found
      have all := all_eq_true.mp ends lease (mem_unstored falling found)
      simpa using all
    · intro _
      apply filter_eq_nil_iff.mpr
      intro id mem
      simp [covered.consistent.mapped id mem]
  · exact covered

/-- Steps that leave the coordinator, the lease and the registration alone. -/
theorem Covered.keep (covered : Covered config session) (consistent : Consistent last)
    (coordinator : last.coordinator = session.coordinator) (lease : last.lease = session.lease)
    (registered : last.registered = session.registered)
    (requests : last.requests = session.requests)
    (fewer : ∀ id ∈ last.transports, id ∈ session.transports) : Covered config last := by
  have same : ∀ {ticket sessionId oldLease}, last.Falling ticket sessionId oldLease ↔
      session.Falling ticket sessionId oldLease := by
    intro ticket sessionId oldLease
    unfold Falling
    rw [requests]
  refine ⟨consistent, ?_, ?_, ?_⟩
  · intro active current
    rw [coordinator] at current
    cases covered.tended active current with
    | stored known equal => exact .stored (registered.trans known) (equal.trans lease.symm)
    | busy busy => exact .busy (coordinator ▸ busy)
    | queued ticket mem => exact .queued ticket (coordinator ▸ mem)
    | unstored ticket sessionId oldLease falling found =>
        exact .unstored ticket sessionId oldLease (same.mpr falling) (coordinator ▸ found)
  · intro unregistered ticket sessionId oldLease active falling found
    exact covered.inert (registered.symm.trans unregistered) ticket sessionId oldLease active
      (same.mp falling) (coordinator ▸ found)
  · intro unregistered
    refine eq_nil_iff_forall_not_mem.mpr fun id mem => ?_
    have before := fewer id mem
    rw [covered.forgotten (registered.symm.trans unregistered)] at before
    cases before

theorem Covered.handleFallback (covered : Covered config session) (request : FallbackRequest)
    (sessionId : String) :
    Covered config (session.handleFallback config request sessionId) := by
  have consistent := @Consistent.handleFallback config session covered.consistent request sessionId
  have respond : ∀ response, Covered config (session.respond response) := fun response =>
    covered.keep (covered.consistent.keep rfl rfl rfl (fun _ mem => mem)
      covered.consistent.mapped) rfl rfl rfl rfl fun _ mem => mem
  unfold ManagedHandoffSession.handleFallback at consistent ⊢
  split
  · exact respond _
  · rename_i known
    rw [if_neg known] at consistent
    split
    · exact respond _
    · rename_i method
      rw [if_neg method] at consistent
      split
      · exact respond _
      · rename_i origin
        rw [if_neg origin] at consistent
        split
        · exact respond _
        · rename_i capability
          rw [if_neg capability] at consistent
          have mapped := not_not.mp (not_or.mp known).1
          have registered : session.registered ≠ false := by
            intro unregistered
            rw [covered.forgotten unregistered] at mapped
            cases mapped
          refine ⟨consistent, ?_, fun no => absurd no registered, fun no => absurd no registered⟩
          intro lease current
          cases covered.tended lease current with
          | stored known equal => exact .stored known equal
          | busy busy => exact .busy busy
          | queued ticket mem => exact .queued ticket (mem_append_left _ mem)
          | unstored ticket id oldLease falling found =>
              have older := covered.consistent.launched.outcome_issued found
              exact .unstored ticket id oldLease
                ((OrderedMap.get?_set_ne _ _ (Nat.ne_of_lt older)).trans falling) found

/-- The steps of runs in which revokes succeed and a revocation ends the fallbacks. -/
abbrev RevocationStep (config : ManagedRuntimeConfig) : ManagedHandoffSession → ManagedEvent →
    ManagedHandoffSession → Prop :=
  Guarded (StepOf (next config)) fun session event =>
    revokesSucceed event = true ∧ session.fallbackEnds config event = true

theorem RevocationStep.covered (step : RevocationStep config session event last)
    (covered : Covered config session) : Covered config last := by
  obtain ⟨stepped, succeed, ends⟩ := step
  have consistent := covered.consistent.step stepped
  cases event with
  | transport inner =>
      simp only [StepOf, next] at stepped
      split at stepped
      · rename_i internal
        obtain ⟨coordinator, moved, rfl⟩ := Option.map_eq_some_iff.mp stepped
        exact covered.transport (covered.consistent.launched.chained internal moved) succeed ends
      · cases stepped
  | handle request =>
      simp only [StepOf, next] at stepped
      split at stepped
      · cases stepped
        exact covered.handleFallback request _
      · cases stepped
        exact covered
  | resume ticket =>
      simp only [StepOf, next] at stepped
      split at stepped
      · rename_i pending found
        cases stepped
        exact covered.afterFallback pending found
      · rename_i discarding found
        cases stepped
        refine covered.answer consistent fun sessionId oldLease lease falling => ?_
        cases discarding.symm.trans falling
      · cases stepped
  | revoke | revokeUnclaimed =>
      cases stepped
      exact covered.revoke ends
  | acceptDone =>
      cases stepped
      exact covered.keep consistent rfl rfl rfl rfl fun _ mem => mem
  | completion =>
      simp only [StepOf, next] at stepped
      split at stepped <;> cases stepped
      exact covered.keep consistent rfl rfl rfl rfl fun _ mem => mem
  | displaced sessionId =>
      cases stepped
      exact covered.keep consistent rfl rfl rfl rfl fun _ mem => mem_of_mem_filter mem

/-! ## What is left -/

/-- Every call and every request has gone to its end. -/
structure Settled (session : ManagedHandoffSession) : Prop where
  idle : session.coordinator.queue = []
  quiet : session.coordinator.running = none
  answered : session.requests = .empty

/-- The session is over: nothing leads to it and no driver is active. -/
structure Over (session : ManagedHandoffSession) : Prop where
  launched : session.coordinator.Launched
  settled : session.Settled
  registered : session.registered = false
  unmapped : session.transports = []
  inactive : session.coordinator.active = none

theorem Over.step (stepped : StepOf (next config) session event last) (ended : Over session) :
    Over last ∧ starts last.coordinator.log = starts session.coordinator.log := by
  have keep : ∀ {last : ManagedHandoffSession}, last.coordinator = session.coordinator →
      last.requests = session.requests → last.registered = session.registered →
      last.transports = session.transports →
      Over last ∧ starts last.coordinator.log = starts session.coordinator.log := by
    intro last coordinator requests registered transports
    obtain ⟨launched, ⟨idle, quiet, answered⟩, unregistered, unmapped, inactive⟩ := ended
    rw [← coordinator] at launched idle quiet inactive
    exact ⟨⟨launched, ⟨idle, quiet, requests.trans answered⟩, registered.trans unregistered,
      transports.trans unmapped, inactive⟩, by rw [coordinator]⟩
  have unmapped : ∀ keep : String → Bool, session.transports.filter keep = session.transports := by
    intro keep
    rw [ended.unmapped]
    rfl
  cases event with
  | transport inner =>
      simp only [StepOf, next] at stepped
      split at stepped
      · rename_i internal
        obtain ⟨coordinator, moved, rfl⟩ := Option.map_eq_some_iff.mp stepped
        have chained := ended.launched.chained internal moved
        have begun := chained.starts fun index =>
          ManagedBrowserHandoffTransportCoordinator.not_attempting fun call running => by
            cases ended.settled.quiet.symm.trans running
        refine ⟨⟨chained.launched, ?_, ended.registered, ended.unmapped, ?_⟩, begun⟩
        all_goals
          cases chained.flow with
          | begins _ _ _ _ _ queued | refused _ _ _ _ _ queued =>
              cases ended.settled.idle.symm.trans queued
          | advances _ _ _ running | settles _ _ _ running =>
              cases ended.settled.quiet.symm.trans running
          | apart running queue outcomes active => ?_
        · exact ⟨queue.trans ended.settled.idle, running.trans ended.settled.quiet,
            ended.settled.answered⟩
        · exact active.trans ended.inactive
      · cases stepped
  | handle request =>
      simp only [StepOf, next] at stepped
      split at stepped
      · rename_i sessionId _
        have gone : sessionId ∉ session.transports := by
          rw [ended.unmapped]
          exact not_mem_nil
        rw [handleFallback, if_pos (.inl gone)] at stepped
        cases stepped
        exact keep rfl rfl rfl rfl
      · cases stepped
        exact keep rfl rfl rfl rfl
  | resume ticket =>
      simp only [StepOf, next] at stepped
      rw [ended.settled.answered] at stepped
      cases stepped
  | revoke | revokeUnclaimed =>
      have same : session.revoke = session := by
        rw [ManagedHandoffSession.revoke, ended.registered]
        rfl
      simp only [StepOf, next, revokeUnclaimed, same] at stepped
      cases stepped
      exact keep rfl rfl rfl rfl
  | acceptDone =>
      cases stepped
      exact keep rfl rfl rfl rfl
  | completion =>
      simp only [StepOf, next] at stepped
      split at stepped <;> cases stepped
      exact keep rfl rfl rfl rfl
  | displaced sessionId =>
      cases stepped
      exact keep rfl rfl rfl (unmapped _)

/-- The session is over, and no driver was started since `first`. -/
structure Ended (first session : ManagedHandoffSession) : Prop where
  state : Over session
  starts : starts session.coordinator.log = starts first.coordinator.log

theorem Ended.step {first : ManagedHandoffSession}
    (stepped : StepOf (next config) session event last) (ended : Ended first session) :
    Ended first last :=
  ⟨(ended.state.step stepped).1, (ended.state.step stepped).2.trans ended.starts⟩

theorem Fresh.covered (fresh : Fresh session) : Covered config session where
  consistent := fresh.consistent
  tended := by
    intro lease current
    cases fresh.active.symm.trans current
    exact .stored fresh.registered rfl
  inert := fun unregistered => by cases fresh.registered.symm.trans unregistered
  forgotten := fun unregistered => by cases fresh.registered.symm.trans unregistered

/-- Once a revoked session has settled, no driver is active, none is started again and no
transport-session id leads to it, provided revokes succeed and no fallback finds a further
transport session from the revocation on. -/
theorem run_revocation_final {principalBinding : String} {plan : TransportPlan}
    {result : StartResult} {first second : LooseResult} {events : List ManagedEvent}
    (started : start config principalBinding plan result first second = .ok session)
    (run : Run (RevocationStep config) session events last) (revoked : last.registered = false)
    (settled : last.Settled) :
    (last.coordinator.active = none ∧ last.transports = []) ∧
      ∀ after final, Run (StepOf (next config)) last after final →
        starts final.coordinator.log = starts last.coordinator.log ∧
          final.coordinator.active = none ∧ final.transports = [] := by
  have covered : Covered config last :=
    run.invariant RevocationStep.covered (start_fresh started).covered
  have inactive : last.coordinator.active = none := by
    cases current : last.coordinator.active with
    | none => rfl
    | some active =>
        cases covered.tended active.lease (leaseOf_active current) with
        | stored registered => cases registered.symm.trans revoked
        | busy busy => exact absurd settled.quiet busy
        | queued ticket mem =>
            rw [settled.idle] at mem
            cases mem
        | unstored ticket sessionId oldLease falling =>
            unfold Falling at falling
            rw [settled.answered] at falling
            cases falling
  have ended : Over last := ⟨covered.consistent.launched, settled, revoked,
    covered.forgotten revoked, inactive⟩
  refine ⟨⟨inactive, ended.unmapped⟩, fun after final continued => ?_⟩
  have ended : Ended last final := continued.invariant Ended.step ⟨ended, rfl⟩
  exact ⟨ended.starts, ended.state.inactive, ended.state.unmapped⟩

/-! ## Two concrete runs -/

/-- The revocation comes while the fallback awaits its first driver's revoke. -/
def racedEvents : List ManagedEvent :=
  [.handle sampleRequest, .transport .begin, .transport (.invokeRevoke false), .revoke,
    .transport (.revokeSettled true), .transport (.invokeStart false),
    .transport (.startSettled (some "https://takeover.example/takeover/session-0002")),
    .resume 1, .transport .begin]

def racedState : ManagedHandoffSession :=
  (execute (next sampleConfig) sampleSession racedEvents).getD sampleSession

/-- The queued revoke meets a stale lease, and the fallback's session stays live and mapped. -/
theorem raced_revocation :
    (Run (StepOf (next sampleConfig)) sampleSession racedEvents racedState ∧
      racedEvents.all revokesSucceed = true ∧ racedState.registered = false ∧
      racedState.Settled) ∧
      racedState.coordinator.active ≠ none ∧ racedState.transports = ["session-0002"] :=
  ⟨⟨(run_iff_execute _ _ _ _).mpr (by decide), by decide, by decide,
    ⟨by decide, by decide, by decide⟩⟩, by decide, by decide⟩

/-- The same race with both remaining drivers failing to start. -/
def exhaustedEvents : List ManagedEvent :=
  [.handle sampleRequest, .transport .begin, .transport (.invokeRevoke false), .revoke,
    .transport (.revokeSettled true), .transport (.invokeStart false),
    .transport (.startSettled none), .transport (.invokeRevoke false),
    .transport (.revokeSettled true), .transport (.invokeStart true),
    .transport (.invokeRevoke false), .transport (.revokeSettled true), .resume 1,
    .transport .begin]

def exhaustedState : ManagedHandoffSession :=
  (execute (next sampleConfig) sampleSession exhaustedEvents).getD sampleSession

theorem exhausted_revocation :
    (exhaustedState.coordinator.active = none ∧ exhaustedState.transports = []) ∧
      starts exhaustedState.coordinator.log = [1, 2, 3] ∧
      (exhaustedState.handleFallback sampleConfig sampleRequest "session-0001").transports =
        [] := by
  have run : Run (RevocationStep sampleConfig) sampleSession exhaustedEvents exhaustedState :=
    run_guarded_of_execute (by decide)
  have final := run_revocation_final sampleSession_started run (by decide)
    ⟨by decide, by decide, by decide⟩
  have again : Run (StepOf (next sampleConfig)) exhaustedState [.handle sampleRequest]
      (exhaustedState.handleFallback sampleConfig sampleRequest "session-0001") :=
    (run_iff_execute _ _ _ _).mpr (by decide)
  exact ⟨final.1, by decide, (final.2 _ _ again).2.2⟩

end ManagedHandoffSession

end ExecutionHandoff.Transport
