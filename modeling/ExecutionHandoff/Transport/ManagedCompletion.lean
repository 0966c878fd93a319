import ExecutionHandoff.Transport.ManagedRace

/-!
# Done and fallback

Between an accepted Done and the completion hook the session is not marked as
completed, and the gate of the fallback route only looks at that mark.  No
driver is started after Done as long as no fallback that still has a transport
ahead of it is under way at the acceptance or passes the gate before the hook.
-/

namespace ExecutionHandoff.Transport

open Library List

namespace ManagedHandoffSession

open ManagedBrowserHandoffTransportCoordinator (leaseOf_active lookup_snoc)

variable {config : ManagedRuntimeConfig} {session last : ManagedHandoffSession}
  {event : ManagedEvent}

/-- The gate of the fallback route. -/
def admits (config : ManagedRuntimeConfig) (session : ManagedHandoffSession)
    (request : FallbackRequest) : Bool :=
  match fallbackRoute request.pathname with
  | none => false
  | some sessionId =>
      decide (sessionId ∈ session.transports) && !session.completed
        && decide (request.boundPrincipal = some session.principalBinding)
        && decide (request.method = "POST")
        && decide (request.origin = some config.publicOrigin)
        && safeCapabilityEqual request.capability session.fallbackCapability

/-- A fallback from the lease would find its driver active and a later one in the plan. -/
def advances (session : ManagedHandoffSession) (lease : ManagedBrowserHandoffTransportLease) :
    Bool :=
  match session.coordinator.active with
  | none => false
  | some active =>
      decide (active.lease.Matches lease) &&
        decide (active.index + 1 < session.coordinator.order.length)

/-- A running call that is a revoke, or revokes the last driver of the plan. -/
def runsOut (session : ManagedHandoffSession) (phase : Phase) : Bool :=
  decide (phase.kind = .revoke) ||
    match phase.withdrawing with
    | none => false
    | some active => decide (session.coordinator.order.length ≤ active.index + 1)

def queuedAdvances (session : ManagedHandoffSession) : Operation → Bool
  | .fallback lease _ => session.advances lease
  | _ => false

/-- No fallback under way can start a driver or store a transport session. -/
def noneUnderWay (config : ManagedRuntimeConfig) (session : ManagedHandoffSession) : Bool :=
  (match session.coordinator.running with
    | none => true
    | some (_, phase) => session.runsOut phase) &&
  session.coordinator.queue.all (fun entry => !session.queuedAdvances entry.2) &&
  session.requests.entries.all fun entry =>
    match entry.2, session.coordinator.outcomes.lookup entry.1 with
    | .falling _ _, some (.ok (some lease)) =>
        (config.takeoverSessionIdFromLocator lease.locator).isNone
    | _, _ => true

/-- Done is accepted with no fallback under way, and none passes the gate before the hook. -/
def doneEnds (config : ManagedRuntimeConfig) (session : ManagedHandoffSession) :
    ManagedEvent → Bool
  | .acceptDone => session.accepted || session.noneUnderWay config
  | .handle request =>
      !(session.accepted && session.admits config request && session.advances session.lease)
  | _ => true

/-- What holds from the acceptance of Done on. -/
structure Concluded (config : ManagedRuntimeConfig) (session : ManagedHandoffSession) : Prop where
  consistent : Consistent session
  accepted : session.accepted = true
  running : ∀ ticket phase, session.coordinator.running = some (ticket, phase) →
    session.runsOut phase = true
  queue : ∀ ticket lease reason, (ticket, .fallback lease reason) ∈ session.coordinator.queue →
    session.advances lease = false
  inert : ∀ ticket sessionId oldLease lease, session.Falling ticket sessionId oldLease →
    session.coordinator.outcomes.lookup ticket = some (.ok (some lease)) →
      config.takeoverSessionIdFromLocator lease.locator = none

theorem withdrawing_of_runsOut {phase : Phase} (out : session.runsOut phase = true) :
    phase.withdrawing ≠ none := by
  cases phase with
  | revoke | revoking => simp [Phase.withdrawing]
  | attempt index mode | starting index generation mode | failed index generation mode
  | cleaning call index generation mode | blank index generation mode =>
      cases mode <;> simp [runsOut, Phase.kind, Mode.kind, Phase.withdrawing] at out

/-- While every running call runs out, no lease becomes active. -/
theorem Concluded.transport (concluded : Concluded config session) {inner : CoordinatorEvent}
    {coordinator : ManagedBrowserHandoffTransportCoordinator}
    (chained : session.coordinator.Chained inner coordinator) :
    Concluded config { session with coordinator } ∧
      starts coordinator.log = starts session.coordinator.log := by
  have consistent := concluded.consistent
  have busy : ∀ call, session.coordinator.running = some call → call.2.withdrawing ≠ none :=
    fun call running => withdrawing_of_runsOut (concluded.running call.1 call.2 running)
  have active : coordinator.active = session.coordinator.active ∨ coordinator.active = none := by
    cases chained.flow with
    | apart _ _ _ active => exact .inl active
    | begins _ _ _ _ _ _ _ _ _ active => exact .inl active
    | refused _ _ _ _ _ _ _ _ _ active => exact .inl active
    | advances _ _ _ _ _ _ _ _ held => exact held
    | settles ticket phase outcome running _ _ _ leased released =>
        by_cases answered : ∃ next, outcome = .ok (some next)
        · obtain ⟨next, same⟩ := answered
          exact absurd (leased next same).2.1 (busy _ running)
        · rcases released fun next no => answered ⟨next, no⟩ with inactive | ⟨_, same, _⟩
          · exact .inr inactive
          · exact .inl same
  have spent : ∀ lease, session.advances lease = false →
      ({ session with coordinator } : ManagedHandoffSession).advances lease = false := by
    intro lease before
    unfold advances at before ⊢
    dsimp only
    rw [chained.order]
    rcases active with same | none
    · rwa [same]
    · rw [none]
  refine ⟨⟨consistent.transport chained, concluded.accepted, ?_, ?_, ?_⟩,
    chained.starts fun index =>
      ManagedBrowserHandoffTransportCoordinator.not_attempting busy⟩
  · intro ticket phase current
    have same : ({ session with coordinator } : ManagedHandoffSession).runsOut phase =
        session.runsOut phase := by
      unfold runsOut
      rw [chained.order]
    rw [same]
    cases chained.flow with
    | apart running => exact concluded.running ticket phase (running.symm.trans current)
    | begins other operation rest first quiet queued running queue outcomes active kind checked =>
        cases running.symm.trans current
        have mem : (ticket, operation) ∈ session.coordinator.queue := queued ▸ .head _
        cases consistent.queue ticket operation mem with
        | revoke lease issued apart => simp [runsOut, kind, Operation.kind]
        | fallback sessionId oldLease reason pending =>
            obtain ⟨driver, serving, matched, withdrawing⟩ := checked oldLease rfl
            have ended := concluded.queue ticket oldLease reason mem
            unfold advances at ended
            rw [serving] at ended
            simp only [matched, decide_true, Bool.true_and, decide_eq_false_iff_not] at ended
            simp only [runsOut, withdrawing, Bool.or_eq_true, decide_eq_true_eq]
            exact .inr (by omega)
    | refused other operation rest outcome quiet queued running =>
        cases running.symm.trans current
    | advances other before next was running queue outcomes kind held withdrawing =>
        cases running.symm.trans current
        have out := concluded.running ticket before was
        simp only [runsOut, Bool.or_eq_true, decide_eq_true_eq] at out ⊢
        rcases out with revoke | ended
        · exact .inl (kind.trans revoke)
        · cases driver : before.withdrawing with
          | none => simp [driver] at ended
          | some active =>
              simp only [driver, decide_eq_true_eq] at ended
              rcases withdrawing active driver with held | more
              · rw [held]
                exact .inr (decide_eq_true ended)
              · omega
    | settles other before outcome was running => cases running.symm.trans current
  · intro ticket lease reason mem
    exact spent lease (concluded.queue ticket lease reason (chained.flow.queue_subset _ mem))
  · intro ticket sessionId oldLease lease falling found
    rcases consistent.answers chained.flow falling found with before | answers
    · exact concluded.inert ticket sessionId oldLease lease falling before
    · obtain ⟨phase, current, _, idle⟩ := answers.running
      exact absurd (idle lease rfl) (busy _ current)

/-! ## Steps -/

/-- Steps that call no fallback, and settle nothing. -/
theorem Concluded.keep (concluded : Concluded config session) (consistent : Consistent last)
    (accepted : last.accepted = true)
    (running : last.coordinator.running = session.coordinator.running)
    (active : last.coordinator.active = session.coordinator.active)
    (order : last.coordinator.order = session.coordinator.order)
    (outcomes : last.coordinator.outcomes = session.coordinator.outcomes)
    (queue : ∀ ticket lease reason, (ticket, .fallback lease reason) ∈ last.coordinator.queue →
      (ticket, .fallback lease reason) ∈ session.coordinator.queue)
    (requests : ∀ ticket sessionId oldLease lease, last.Falling ticket sessionId oldLease →
      session.coordinator.outcomes.lookup ticket = some (.ok (some lease)) →
        session.Falling ticket sessionId oldLease) : Concluded config last := by
  refine ⟨consistent, accepted, ?_, ?_, ?_⟩
  · intro ticket phase current
    have out := concluded.running ticket phase (running.symm.trans current)
    unfold runsOut at out ⊢
    rwa [order]
  · intro ticket lease reason mem
    have ended := concluded.queue ticket lease reason (queue ticket lease reason mem)
    unfold advances at ended ⊢
    rwa [order, active]
  · intro ticket sessionId oldLease lease falling found
    rw [outcomes] at found
    exact concluded.inert ticket sessionId oldLease lease
      (requests ticket sessionId oldLease lease falling found) found

theorem Concluded.afterFallback (concluded : Concluded config session) {ticket : Nat}
    {sessionId : String} {oldLease : ManagedBrowserHandoffTransportLease}
    {outcome : Except Failure (Option ManagedBrowserHandoffTransportLease)}
    (falling : session.Falling ticket sessionId oldLease)
    (found : session.coordinator.outcomes.lookup ticket = some outcome) :
    Concluded config (session.afterFallback config ticket sessionId outcome) ∧
      (session.afterFallback config ticket sessionId outcome).coordinator.log =
        session.coordinator.log ∧
      ∀ id ∈ (session.afterFallback config ticket sessionId outcome).transports,
        id ∈ session.transports := by
  have consistent := @Consistent.afterFallback config session concluded.consistent ticket sessionId
    oldLease outcome falling found
  match outcome with
  | .error failure =>
      exact ⟨concluded.keep consistent concluded.accepted rfl rfl rfl rfl (fun _ _ _ mem => mem)
        fun _ _ _ _ falling _ => falling.of_answer, rfl, fun _ mem => mem⟩
  | .ok none =>
      exact ⟨concluded.keep consistent concluded.accepted rfl rfl rfl rfl (fun _ _ _ mem => mem)
        fun _ _ _ _ mem _ => OrderedMap.get?_of_get?_delete mem, rfl,
        fun _ mem => mem_of_mem_filter mem⟩
  | .ok (some lease) =>
      have unknown := concluded.inert ticket sessionId oldLease lease falling found
      unfold ManagedHandoffSession.afterFallback at consistent ⊢
      dsimp only at consistent ⊢
      rw [unknown] at consistent ⊢
      dsimp only at consistent ⊢
      refine ⟨concluded.keep consistent concluded.accepted rfl rfl rfl rfl ?_ ?_, rfl,
        fun _ mem => mem_of_mem_filter mem⟩
      · intro other old reason mem
        rcases mem_append.mp mem with before | new
        · exact before
        · cases mem_singleton.mp new
      · intro other id old next mem settled
        have older := concluded.consistent.launched.outcome_issued settled
        exact OrderedMap.get?_of_get?_delete
          ((OrderedMap.get?_set_ne _ _ (Nat.ne_of_lt older)).symm.trans mem)

theorem Concluded.revoke (concluded : Concluded config session) :
    Concluded config session.revoke ∧
      session.revoke.coordinator.log = session.coordinator.log ∧
      ∀ id ∈ session.revoke.transports, id ∈ session.transports := by
  have consistent := concluded.consistent.revoke
  unfold ManagedHandoffSession.revoke at consistent ⊢
  split
  · rename_i registered
    rw [if_pos registered] at consistent
    refine ⟨concluded.keep consistent concluded.accepted rfl rfl rfl rfl ?_
      fun _ _ _ _ falling _ => falling, rfl, fun _ mem => mem_of_mem_filter mem⟩
    intro ticket lease reason mem
    rcases mem_append.mp mem with before | new
    · exact before
    · cases mem_singleton.mp new
  · exact ⟨concluded, rfl, fun _ mem => mem⟩

/-- The gate of `handleFallback` is the one the condition speaks about. -/
theorem handleFallback_admits {request : FallbackRequest} {sessionId : String}
    (route : fallbackRoute request.pathname = some sessionId) :
    (∃ response, session.handleFallback config request sessionId = session.respond response) ∨
      session.admits config request = true ∧
        session.handleFallback config request sessionId =
          { session with
            coordinator :=
              session.coordinator.call (.fallback session.lease .transportUnavailable)
            requests := session.requests.set session.coordinator.tickets
              (.falling sessionId session.lease) } := by
  unfold handleFallback
  split
  · exact .inl ⟨_, rfl⟩
  · rename_i known
    split
    · exact .inl ⟨_, rfl⟩
    · split
      · exact .inl ⟨_, rfl⟩
      · split
        · exact .inl ⟨_, rfl⟩
        · refine .inr ⟨?_, rfl⟩
          unfold admits
          rw [route]
          simp_all

theorem Concluded.handleFallback (concluded : Concluded config session)
    {request : FallbackRequest} {sessionId : String}
    (route : fallbackRoute request.pathname = some sessionId)
    (ends : session.doneEnds config (.handle request) = true) :
    Concluded config (session.handleFallback config request sessionId) ∧
      (session.handleFallback config request sessionId).coordinator.log =
        session.coordinator.log ∧
      (session.handleFallback config request sessionId).transports = session.transports := by
  have consistent := @Consistent.handleFallback config session concluded.consistent request
    sessionId
  rcases @handleFallback_admits config session request sessionId route with
    ⟨response, same⟩ | ⟨admitted, same⟩
  · rw [same] at consistent ⊢
    exact ⟨concluded.keep consistent concluded.accepted rfl rfl rfl rfl (fun _ _ _ mem => mem)
      fun _ _ _ _ falling _ => falling, rfl, rfl⟩
  · have spent : session.advances session.lease = false := by
      simpa [doneEnds, concluded.accepted, admitted] using ends
    rw [same] at consistent ⊢
    refine ⟨⟨consistent, concluded.accepted, concluded.running, ?_, ?_⟩, rfl, rfl⟩
    · intro ticket lease reason mem
      rcases mem_append.mp mem with before | new
      · exact concluded.queue ticket lease reason before
      · cases mem_singleton.mp new
        exact spent
    · intro ticket id oldLease lease falling found
      have older := concluded.consistent.launched.outcome_issued found
      exact concluded.inert ticket id oldLease lease
        ((OrderedMap.get?_set_ne _ _ (Nat.ne_of_lt older)).symm.trans falling) found

/-- The steps of runs in which Done ends the fallbacks. -/
abbrev CompletionStep (config : ManagedRuntimeConfig) : ManagedHandoffSession → ManagedEvent →
    ManagedHandoffSession → Prop :=
  Guarded (StepOf (next config)) fun session event => session.doneEnds config event = true

/-- Done was accepted in `first` or before, and no driver was started and no transport session
mapped since. -/
structure Shut (config : ManagedRuntimeConfig) (first session : ManagedHandoffSession) : Prop where
  concluded : Concluded config session
  silent : starts session.coordinator.log = starts first.coordinator.log
  fewer : ∀ id ∈ session.transports, id ∈ first.transports

theorem Shut.step {first : ManagedHandoffSession} (step : CompletionStep config session event last)
    (shut : Shut config first session) : Shut config first last := by
  obtain ⟨stepped, ends⟩ := step
  obtain ⟨concluded, begun, fewer⟩ := shut
  have consistent := concluded.consistent.step stepped
  have keep : last.accepted = true → last.coordinator = session.coordinator →
      (∀ ticket sessionId oldLease, last.Falling ticket sessionId oldLease →
        session.Falling ticket sessionId oldLease) →
      (∀ id ∈ last.transports, id ∈ session.transports) → Shut config first last := by
    intro accepted same requests less
    refine ⟨concluded.keep consistent accepted (by rw [same]) (by rw [same]) (by rw [same])
      (by rw [same]) (fun _ _ _ mem => same ▸ mem)
      (fun ticket sessionId oldLease _ falling _ => requests ticket sessionId oldLease falling),
      ?_, fun id mem => fewer id (less id mem)⟩
    rw [same]
    exact begun
  cases event with
  | transport inner =>
      simp only [StepOf, next] at stepped
      split at stepped
      · rename_i internal
        obtain ⟨coordinator, moved, rfl⟩ := Option.map_eq_some_iff.mp stepped
        have after := concluded.transport (concluded.consistent.launched.chained internal moved)
        exact ⟨after.1, after.2.trans begun, fewer⟩
      · cases stepped
  | handle request =>
      simp only [StepOf, next] at stepped
      split at stepped
      · rename_i sessionId route
        cases stepped
        obtain ⟨after, log, transports⟩ := concluded.handleFallback route ends
        exact ⟨after, (congrArg starts log).trans begun, fun id mem => fewer id (transports ▸ mem)⟩
      · cases stepped
        exact ⟨concluded, begun, fewer⟩
  | resume ticket =>
      simp only [StepOf, next] at stepped
      split at stepped
      · rename_i pending found
        cases stepped
        obtain ⟨after, log, less⟩ := concluded.afterFallback pending found
        exact ⟨after, (congrArg starts log).trans begun, fun id mem => fewer id (less id mem)⟩
      · cases stepped
        exact keep concluded.accepted rfl
          (fun _ _ _ mem => OrderedMap.get?_of_get?_delete mem) fun _ mem => mem
      · cases stepped
  | revoke | revokeUnclaimed =>
      cases stepped
      obtain ⟨after, log, less⟩ := concluded.revoke
      exact ⟨after, (congrArg starts log).trans begun, fun id mem => fewer id (less id mem)⟩
  | acceptDone =>
      cases stepped
      exact keep rfl rfl (fun _ _ _ falling => falling) fun _ mem => mem
  | completion =>
      simp only [StepOf, next] at stepped
      split at stepped <;> cases stepped
      exact keep concluded.accepted rfl (fun _ _ _ falling => falling) fun _ mem => mem
  | displaced sessionId =>
      cases stepped
      exact keep concluded.accepted rfl (fun _ _ _ falling => falling)
        fun _ mem => mem_of_mem_filter mem

theorem step_accepted (stepped : StepOf (next config) session event last) :
    last.accepted = session.accepted ∨ event = .acceptDone := by
  cases event with
  | acceptDone => exact .inr rfl
  | transport inner =>
      simp only [StepOf, next] at stepped
      split at stepped
      · obtain ⟨coordinator, _, rfl⟩ := Option.map_eq_some_iff.mp stepped
        exact .inl rfl
      · cases stepped
  | handle request =>
      simp only [StepOf, next] at stepped
      split at stepped
      · rename_i sessionId route
        cases stepped
        rcases @handleFallback_admits config session request sessionId route with
          ⟨response, same⟩ | ⟨_, same⟩ <;> rw [same] <;> exact .inl rfl
      · cases stepped
        exact .inl rfl
  | resume ticket =>
      simp only [StepOf, next] at stepped
      split at stepped
      · cases stepped
        unfold afterFallback
        split
        · exact .inl rfl
        · exact .inl rfl
        · split <;> exact .inl rfl
      · cases stepped
        exact .inl rfl
      · cases stepped
  | revoke | revokeUnclaimed =>
      cases stepped
      simp only [revokeUnclaimed, ManagedHandoffSession.revoke]
      split <;> exact .inl rfl
  | completion =>
      simp only [StepOf, next] at stepped
      split at stepped <;> cases stepped
      exact .inl rfl
  | displaced sessionId =>
      cases stepped
      exact .inl rfl

theorem Consistent.concluded (consistent : Consistent session)
    (none : session.noneUnderWay config = true) :
    Concluded config { session with accepted := true } := by
  obtain ⟨⟨running, queue⟩, requests⟩ : (_ ∧ _) ∧ _ := by
    simpa only [noneUnderWay, Bool.and_eq_true, all_eq_true] using none
  refine ⟨consistent.keep rfl rfl rfl (fun _ mem => mem) consistent.mapped, rfl, ?_, ?_, ?_⟩
  · intro ticket phase current
    rw [show session.coordinator.running = some (ticket, phase) from current] at running
    exact running
  · intro ticket lease reason mem
    have ended : session.advances lease = false := by
      simpa [queuedAdvances] using queue _ mem
    exact ended
  · intro ticket sessionId oldLease lease falling found
    have known := requests _ (OrderedMap.get?_eq_some_iff.mp falling)
    rw [show session.coordinator.outcomes.lookup ticket = some (.ok (some lease)) from found]
      at known
    simpa using known

/-- A session is consistent, and concluded once Done was accepted. -/
structure Answerable (config : ManagedRuntimeConfig) (session : ManagedHandoffSession) : Prop where
  consistent : Consistent session
  concluded : session.accepted = true → Concluded config session

theorem Answerable.step (step : CompletionStep config session event last)
    (answerable : Answerable config session) : Answerable config last := by
  refine ⟨answerable.consistent.step step.1, fun accepted => ?_⟩
  by_cases before : session.accepted = true
  · have shut : Shut config session session :=
      ⟨answerable.concluded before, rfl, fun _ mem => mem⟩
    exact (shut.step step).concluded
  · rcases step_accepted step.1 with same | rfl
    · exact absurd (same.symm.trans accepted) before
    · obtain ⟨stepped, ends⟩ := step
      cases stepped
      have none : session.noneUnderWay config = true := by
        simpa [doneEnds, before] using ends
      exact answerable.consistent.concluded none

/-- After an accepted Done no driver is started and no further transport session is mapped,
provided Done meets no fallback that goes on and none passes the gate before the hook. -/
theorem run_done_final {principalBinding : String} {plan : TransportPlan} {result : StartResult}
    {first second : LooseResult} {before : List ManagedEvent} {middle : ManagedHandoffSession}
    (started : start config principalBinding plan result first second = .ok session)
    (run : Run (CompletionStep config) session before middle)
    (accepted : middle.accepted = true) :
    ∀ after final, Run (CompletionStep config) middle after final →
      starts final.coordinator.log = starts middle.coordinator.log ∧
        ∀ id ∈ final.transports, id ∈ middle.transports := by
  have fresh := start_fresh started
  have answerable : Answerable config middle := by
    refine run.invariant Answerable.step ⟨fresh.consistent, fun done => ?_⟩
    cases fresh.unaccepted.symm.trans done
  intro after final continued
  have shut : Shut config middle final :=
    continued.invariant Shut.step ⟨answerable.concluded accepted, rfl, fun _ mem => mem⟩
  exact ⟨shut.silent, shut.fewer⟩

/-! ## Two concrete runs -/

/-- Done is accepted, and a fallback arrives while its completion hook is still to be called. -/
def overtakenDone : List ManagedEvent :=
  [.handle sampleRequest, .transport .begin, .transport (.invokeRevoke false),
    .transport (.revokeSettled true), .transport (.invokeStart false),
    .transport (.startSettled (some "https://takeover.example/takeover/session-0002")),
    .resume 1, .completion]

def acceptedState : ManagedHandoffSession := { sampleSession with accepted := true }

def overtakenState : ManagedHandoffSession :=
  (execute (next sampleConfig) acceptedState overtakenDone).getD sampleSession

/-- The fallback starts the next driver and maps its session although Done was accepted before. -/
theorem overtaken_done :
    Run (StepOf (next sampleConfig)) sampleSession [.acceptDone] acceptedState ∧
      Run (StepOf (next sampleConfig)) acceptedState overtakenDone overtakenState ∧
      starts acceptedState.coordinator.log = [1] ∧
      starts overtakenState.coordinator.log = [1, 2] ∧
      acceptedState.transports = ["session-0001"] ∧
      overtakenState.transports = ["session-0002"] :=
  ⟨(run_iff_execute _ _ _ _).mpr (by decide), (run_iff_execute _ _ _ _).mpr (by decide),
    by decide, by decide, by decide, by decide⟩

/-- The hook is called before the fallback arrives. -/
def orderlyDone : List ManagedEvent :=
  [.completion, .handle sampleRequest, .revoke, .transport .begin,
    .transport (.invokeRevoke false), .transport (.revokeSettled true)]

def orderlyState : ManagedHandoffSession :=
  (execute (next sampleConfig) acceptedState orderlyDone).getD sampleSession

theorem orderly_done :
    orderlyState.responses = [⟨404, .error "takeover_unavailable"⟩] ∧
      starts orderlyState.coordinator.log = starts acceptedState.coordinator.log ∧
      ∀ id ∈ orderlyState.transports, id ∈ acceptedState.transports := by
  have before : Run (CompletionStep sampleConfig) sampleSession [.acceptDone] acceptedState :=
    run_guarded_of_execute (by decide)
  have after : Run (CompletionStep sampleConfig) acceptedState orderlyDone orderlyState :=
    run_guarded_of_execute (by decide)
  exact ⟨by decide,
    run_done_final sampleSession_started before (by decide) orderlyDone orderlyState after⟩

end ManagedHandoffSession

end ExecutionHandoff.Transport
