import ExecutionHandoff.Transport.ManagedSession

/-!
# Requests racing on one session

The lease a session has stored may lag behind the coordinator while a finished
fallback has not been resumed.  Whatever the interleaving, such a request is the
only one of its kind, it presented the stored lease, and nothing that waits on
the promise chain matches the lease it is about to store.
-/

namespace ExecutionHandoff.Transport

open Library List
open OrderedMap (get?_set_ne get?_set_self get?_of_get?_delete get?_delete_ne get?_delete_self)

namespace ManagedHandoffSession

open ManagedBrowserHandoffTransportCoordinator (leaseOf_active lookup_snoc)

variable {config : ManagedRuntimeConfig} {session last : ManagedHandoffSession}
  {event : ManagedEvent}

/-- The request with this ticket awaits a fallback from the lease. -/
def Falling (session : ManagedHandoffSession) (ticket : Nat) (sessionId : String)
    (oldLease : ManagedBrowserHandoffTransportLease) : Prop :=
  session.requests.get? ticket = some (.falling sessionId oldLease)

/-- Calls that wait on the promise chain: fallbacks of pending requests, and revokes. -/
inductive Awaited (session : ManagedHandoffSession) (ticket : Nat) : Operation → Prop where
  | fallback (sessionId : String) (oldLease : ManagedBrowserHandoffTransportLease)
      (reason : ManagedBrowserHandoffFallbackReason)
      (pending : session.Falling ticket sessionId oldLease) :
      Awaited session ticket (.fallback oldLease reason)
  | revoke (lease : ManagedBrowserHandoffTransportLease)
      (issued : lease.generation ≤ session.coordinator.generation)
      (apart : ∀ sessionId oldLease, ¬ session.Falling ticket sessionId oldLease) :
      Awaited session ticket (.revoke (some lease))

/-- A fallback is over, with `next`, and its request has not gone on. -/
structure Standing (session : ManagedHandoffSession)
    (oldLease : ManagedBrowserHandoffTransportLease)
    (next : Option ManagedBrowserHandoffTransportLease) : Prop where
  quiet : session.coordinator.running = none
  stored : oldLease = session.lease
  active : session.coordinator.leaseOf = next
  above : ∀ lease, next = some lease → session.lease.generation < lease.generation ∧
    ∀ ticket old, (ticket, .revoke (some old)) ∈ session.coordinator.queue →
      old.generation < lease.generation

/-- The session leads nowhere any more, and no pending fallback can change that. -/
structure Barren (session : ManagedHandoffSession) : Prop where
  unmapped : session.transports = []
  active : ∀ lease, session.coordinator.leaseOf = some lease →
    session.lease.generation < lease.generation
  running : ∀ ticket phase, session.coordinator.running = some (ticket, phase) →
    phase.kind = .revoke
  settled : ∀ ticket sessionId oldLease next, session.Falling ticket sessionId oldLease →
    session.coordinator.outcomes.lookup ticket ≠ some (.ok next)

/-- What holds of a session in every run. -/
structure Consistent (session : ManagedHandoffSession) : Prop where
  launched : session.coordinator.Launched
  issued : ∀ ticket request, session.requests.get? ticket = some request →
    ticket < session.coordinator.tickets
  stored : session.lease.generation ≤ session.coordinator.generation
  active : ∀ lease, session.coordinator.leaseOf = some lease →
    lease.generation ≤ session.coordinator.generation ∧
      (lease = session.lease ∨ session.lease.generation < lease.generation)
  mapped : ∀ id ∈ session.transports, session.activeSessionId = some id
  falling : ∀ ticket sessionId oldLease, session.Falling ticket sessionId oldLease →
    oldLease.generation < session.lease.generation ∨
      oldLease = session.lease ∧ ∀ id ∈ session.transports, id = sessionId
  queue : ∀ ticket operation, (ticket, operation) ∈ session.coordinator.queue →
    session.Awaited ticket operation
  running : ∀ ticket phase, session.coordinator.running = some (ticket, phase) →
    phase.kind = .revoke ∧ (∀ sessionId oldLease, ¬ session.Falling ticket sessionId oldLease) ∨
      phase.kind = .fallback ∧ ∃ sessionId, session.Falling ticket sessionId session.lease
  standing : ∀ ticket sessionId oldLease next, session.Falling ticket sessionId oldLease →
    session.coordinator.outcomes.lookup ticket = some (.ok next) →
      session.Standing oldLease next
  unique : ∀ ticket sessionId oldLease next other sessionId' oldLease' next',
    session.Falling ticket sessionId oldLease →
    session.coordinator.outcomes.lookup ticket = some (.ok next) →
    session.Falling other sessionId' oldLease' →
    session.coordinator.outcomes.lookup other = some (.ok next') → ticket = other
  discarding : ∀ ticket, session.requests.get? ticket = some .discarding → session.Barren

/-! ## A step of the coordinator -/

variable {ticket : Nat} {operation : Operation} {sessionId : String}
  {oldLease : ManagedBrowserHandoffTransportLease}

theorem Consistent.presented (consistent : Consistent session)
    (queued : (ticket, operation) ∈ session.coordinator.queue) :
    ∃ lease, operation.lease = some lease := by
  cases consistent.queue ticket operation queued with
  | fallback sessionId oldLease reason pending => exact ⟨oldLease, rfl⟩
  | revoke lease => exact ⟨lease, rfl⟩

/-- A queued fallback presents the stored lease or an older one. -/
theorem Consistent.presents_old (consistent : Consistent session)
    (falling : session.Falling ticket sessionId oldLease) :
    oldLease.generation ≤ session.lease.generation := by
  rcases consistent.falling ticket sessionId oldLease falling with less | ⟨rfl, _⟩
  · exact Nat.le_of_lt less
  · exact Nat.le_refl _

/-- A queued call that begins on the active driver is no bystander of a finished fallback. -/
theorem Standing.unmatched
    {next : Option ManagedBrowserHandoffTransportLease} (standing : session.Standing oldLease next)
    (consistent : Consistent session)
    (queued : (ticket, operation) ∈ session.coordinator.queue)
    {lease : ManagedBrowserHandoffTransportLease} (presented : operation.lease = some lease)
    {active : ActiveManagedTransport} (current : session.coordinator.active = some active) :
    ¬ active.lease.Matches lease := by
  intro same
  have held := standing.active.symm.trans (leaseOf_active current)
  obtain ⟨above, revokes⟩ := standing.above active.lease held
  cases consistent.queue ticket operation queued with
  | fallback sessionId old reason pending =>
      cases presented
      have older := consistent.presents_old pending
      have equal := same.2
      omega
  | revoke old =>
      cases presented
      have below := revokes ticket lease queued
      have equal := same.2
      omega

variable {coordinator : ManagedBrowserHandoffTransportCoordinator} {inner : CoordinatorEvent}

/-- A fallback that was over before the step is still over, and nothing has begun since. -/
theorem Standing.chained
    {next : Option ManagedBrowserHandoffTransportLease} (standing : session.Standing oldLease next)
    (consistent : Consistent session)
    (flow : session.coordinator.Flow inner coordinator) :
    ({ session with coordinator } : ManagedHandoffSession).Standing oldLease next := by
  have keep : coordinator.running = none → coordinator.active = session.coordinator.active →
      (∀ entry ∈ coordinator.queue, entry ∈ session.coordinator.queue) →
      ({ session with coordinator } : ManagedHandoffSession).Standing oldLease next := by
    intro quiet active queue
    refine ⟨quiet, standing.stored, ?_, ?_⟩
    · rw [← standing.active]
      exact congrArg (Option.map _) active
    · intro lease same
      obtain ⟨above, revokes⟩ := standing.above lease same
      exact ⟨above, fun ticket old mem => revokes ticket old (queue _ mem)⟩
  cases flow with
  | apart running queue outcomes active =>
      exact keep (running.trans standing.quiet) active fun entry mem => queue ▸ mem
  | begins ticket operation rest phase quiet queued running queue outcomes active kind checked =>
      have mem : (ticket, operation) ∈ session.coordinator.queue := queued ▸ .head _
      obtain ⟨lease, presented⟩ := consistent.presented mem
      obtain ⟨active, current, same, _⟩ := checked lease presented
      exact absurd same (standing.unmatched consistent mem presented current)
  | refused ticket operation rest outcome quiet queued running queue outcomes active =>
      refine keep running active fun entry mem => ?_
      rw [queued, ← queue]
      exact .tail _ mem
  | advances ticket phase next current => exact absurd (standing.quiet.symm.trans current) (by simp)
  | settles ticket phase outcome current =>
      exact absurd (standing.quiet.symm.trans current) (by simp)

/-- A fallback that answers in this step: its call was running and the rest of the chain waits. -/
structure Answers (session : ManagedHandoffSession) (inner : CoordinatorEvent)
    (coordinator : ManagedBrowserHandoffTransportCoordinator) (ticket : Nat)
    (next : Option ManagedBrowserHandoffTransportLease) : Prop where
  running : ∃ phase, session.coordinator.running = some (ticket, phase) ∧ phase.kind = .fallback ∧
    ∀ lease, next = some lease → phase.withdrawing = none
  quiet : coordinator.running = none
  queue : coordinator.queue = session.coordinator.queue
  active : coordinator.leaseOf = next
  fresh : ∀ lease, next = some lease → lease.generation = session.coordinator.generation + 1
  located : ∀ lease, next = some lease → inner = .startSettled (some lease.locator)

theorem Consistent.answers (consistent : Consistent session)
    (flow : session.coordinator.Flow inner coordinator)
    {next : Option ManagedBrowserHandoffTransportLease}
    (falling : session.Falling ticket sessionId oldLease)
    (found : coordinator.outcomes.lookup ticket = some (.ok next)) :
    session.coordinator.outcomes.lookup ticket = some (.ok next) ∨
      session.Answers inner coordinator ticket next := by
  have appended : ∀ other outcome,
      coordinator.outcomes = session.coordinator.outcomes ++ [(other, outcome)] →
      session.coordinator.outcomes.lookup ticket = some (.ok next) ∨
        ticket = other ∧ outcome = .ok next := by
    intro other outcome outcomes
    rw [outcomes, lookup_snoc] at found
    cases before : session.coordinator.outcomes.lookup ticket with
    | some value =>
        rw [before] at found
        exact .inl found
    | none =>
        rw [before] at found
        by_cases same : ticket = other
        · rw [if_pos same] at found
          cases found
          exact .inr ⟨same, rfl⟩
        · rw [if_neg same] at found
          cases found
  cases flow with
  | apart running queue outcomes => exact .inl (outcomes ▸ found)
  | begins ticket operation rest phase quiet queued running queue outcomes =>
      exact .inl (outcomes ▸ found)
  | advances ticket phase next current running queue outcomes => exact .inl (outcomes ▸ found)
  | refused other operation rest outcome quiet queued running queue outcomes active rejects =>
      rcases appended other outcome outcomes with before | ⟨rfl, rfl⟩
      · exact .inl before
      -- A refused fallback rejects, so this is a revoke, whose ticket no fallback awaits.
      · rcases rejects with ⟨failure, no⟩ | ⟨_, kind⟩
        · cases no
        · have mem : (ticket, operation) ∈ session.coordinator.queue := queued ▸ .head _
          cases consistent.queue ticket operation mem with
          | fallback => cases kind
          | revoke lease issued apart => exact absurd falling (apart sessionId oldLease)
  | settles other phase outcome current running queue outcomes leased released =>
      rcases appended other outcome outcomes with before | ⟨rfl, rfl⟩
      · exact .inl before
      · refine .inr ⟨⟨phase, current, ?_, fun lease same => (leased lease (same ▸ rfl)).2.1⟩,
          running, queue, ?_, ?_, ?_⟩
        · rcases consistent.running ticket phase current with ⟨_, apart⟩ | ⟨kind, _⟩
          · exact absurd falling (apart sessionId oldLease)
          · exact kind
        · cases next with
          | none =>
              rcases released (by simp) with inactive | ⟨_, _, failure, no⟩
              · exact congrArg (Option.map _) inactive
              · cases no
          | some lease =>
              obtain ⟨_, _, _, _, index, active⟩ := leased lease rfl
              exact leaseOf_active active
        · rintro lease rfl
          exact (leased lease rfl).2.2.1
        · rintro lease rfl
          exact (leased lease rfl).1

theorem Awaited.chained (awaited : session.Awaited ticket operation)
    (generation : session.coordinator.generation ≤ coordinator.generation) :
    ({ session with coordinator } : ManagedHandoffSession).Awaited ticket operation := by
  cases awaited with
  | fallback sessionId oldLease reason pending => exact .fallback sessionId oldLease reason pending
  | revoke lease issued apart => exact .revoke lease (Nat.le_trans issued generation) apart

theorem Barren.chained (barren : Barren session) (consistent : Consistent session)
    (chained : session.coordinator.Chained inner coordinator) :
    ({ session with coordinator } : ManagedHandoffSession).Barren := by
  have unanswered : ∀ ticket next, ¬ session.Answers inner coordinator ticket next := by
    intro ticket next answers
    obtain ⟨phase, current, kind, _⟩ := answers.running
    cases kind.symm.trans (barren.running ticket phase current)
  refine ⟨barren.unmapped, ?_, ?_, ?_⟩
  · intro lease current
    rcases chained.leaseOf current with before | ⟨fresh, _⟩
    · exact barren.active lease before
    · change session.lease.generation < lease.generation
      rw [fresh]
      exact Nat.lt_succ_of_le consistent.stored
  · intro ticket phase current
    cases chained.flow with
    | apart running => exact barren.running ticket phase (running.symm.trans current)
    | begins other operation rest first quiet queued running queue outcomes active kind checked =>
        cases running.symm.trans current
        have mem : (ticket, operation) ∈ session.coordinator.queue := queued ▸ .head _
        cases consistent.queue ticket operation mem with
        | revoke lease issued apart => exact kind
        | fallback sessionId oldLease reason pending =>
            obtain ⟨driver, serving, same, _⟩ := checked oldLease rfl
            have above := barren.active driver.lease (leaseOf_active serving)
            have old := consistent.presents_old pending
            have equal := same.2
            omega
    | refused other operation rest outcome quiet queued running =>
        cases running.symm.trans current
    | advances other phase' next before running queue outcomes kind =>
        cases running.symm.trans current
        rw [kind]
        exact barren.running ticket phase' before
    | settles other phase' outcome before running => cases running.symm.trans current
  · intro ticket sessionId oldLease next falling found
    rcases consistent.answers chained.flow falling found with before | answers
    · exact barren.settled ticket sessionId oldLease next falling before
    · exact unanswered ticket next answers

theorem Consistent.transport (consistent : Consistent session)
    (chained : session.coordinator.Chained inner coordinator) :
    Consistent { session with coordinator } where
  launched := chained.launched
  issued := fun ticket request found => by
    rw [chained.tickets]
    exact consistent.issued ticket request found
  stored := Nat.le_trans consistent.stored chained.generation
  active := by
    intro lease current
    rcases chained.leaseOf current with before | ⟨fresh, generation⟩
    · obtain ⟨bounded, order⟩ := consistent.active lease before
      exact ⟨Nat.le_trans bounded chained.generation, order⟩
    · have above : session.lease.generation < lease.generation := by
        rw [fresh]
        exact Nat.lt_succ_of_le consistent.stored
      exact ⟨Nat.le_of_eq (fresh.trans generation.symm), .inr above⟩
  mapped := consistent.mapped
  falling := consistent.falling
  queue := fun ticket operation mem =>
    (consistent.queue ticket operation (chained.flow.queue_subset _ mem)).chained
      chained.generation
  running := by
    intro ticket phase current
    cases chained.flow with
    | apart running => exact consistent.running ticket phase (running.symm.trans current)
    | begins other operation rest first quiet queued running queue outcomes active kind checked =>
        cases running.symm.trans current
        have mem : (ticket, operation) ∈ session.coordinator.queue := queued ▸ .head _
        cases consistent.queue ticket operation mem with
        | revoke lease issued apart => exact .inl ⟨kind, apart⟩
        | fallback sessionId oldLease reason pending =>
            -- The call began, so its lease is active and hence the stored one.
            obtain ⟨driver, serving, same, _⟩ := checked oldLease rfl
            obtain ⟨_, order⟩ := consistent.active driver.lease (leaseOf_active serving)
            have equal := same.2
            rcases consistent.falling ticket sessionId oldLease pending with less | ⟨rfl, _⟩
            · rcases order with stored | later
              · rw [stored] at equal
                omega
              · omega
            · exact .inr ⟨kind, sessionId, pending⟩
    | refused other operation rest outcome quiet queued running =>
        cases running.symm.trans current
    | advances other phase' next before running queue outcomes kind =>
        cases running.symm.trans current
        rw [kind]
        exact consistent.running ticket phase' before
    | settles other phase' outcome before running => cases running.symm.trans current
  standing := by
    intro ticket sessionId oldLease next falling found
    rcases consistent.answers chained.flow falling found with before | answers
    · exact (consistent.standing ticket sessionId oldLease next falling before).chained consistent
        chained.flow
    · obtain ⟨phase, current, kind, _⟩ := answers.running
      refine ⟨answers.quiet, ?_, answers.active, ?_⟩
      · rcases consistent.running ticket phase current with ⟨revoke, _⟩ | ⟨_, id, pending⟩
        · cases kind.symm.trans revoke
        · cases falling.symm.trans pending
          rfl
      · intro lease same
        have fresh := answers.fresh lease same
        have stored := consistent.stored
        refine ⟨by change session.lease.generation < _; omega, ?_⟩
        intro other old mem
        rw [show ({ session with coordinator } : ManagedHandoffSession).coordinator.queue =
          session.coordinator.queue from answers.queue] at mem
        cases consistent.queue other _ mem with
        | revoke _ issued => omega
  unique := by
    intro ticket sessionId oldLease next other sessionId' oldLease' next' falling found
      falling' found'
    have clash : ∀ {ticket sessionId oldLease next other next'},
        session.Falling ticket sessionId oldLease →
        session.coordinator.outcomes.lookup ticket = some (.ok next) →
        session.Answers inner coordinator other next' → False := by
      intro ticket sessionId oldLease next other next' falling found answers
      obtain ⟨phase, current, _⟩ := answers.running
      have quiet := (consistent.standing ticket sessionId oldLease next falling found).quiet
      cases quiet.symm.trans current
    rcases consistent.answers chained.flow falling found with before | answers
    · rcases consistent.answers chained.flow falling' found' with before' | answers'
      · exact consistent.unique ticket sessionId oldLease next other sessionId' oldLease' next'
          falling before falling' before'
      · exact (clash falling before answers').elim
    · rcases consistent.answers chained.flow falling' found' with before' | answers'
      · exact (clash falling' before' answers).elim
      · obtain ⟨phase, current, _⟩ := answers.running
        obtain ⟨phase', current', _⟩ := answers'.running
        cases current.symm.trans current'
        rfl
  discarding := fun ticket discarding =>
    (consistent.discarding ticket discarding).chained consistent chained

/-! ## Steps of the runtime -/

/-- A step that keeps the coordinator and the stored lease, drops no request that waits, and maps
no new transport-session id. -/
structure Frame (session last : ManagedHandoffSession) : Prop where
  coordinator : last.coordinator = session.coordinator
  lease : last.lease = session.lease
  issued : ∀ ticket request, last.requests.get? ticket = some request →
    ticket < session.coordinator.tickets
  before : ∀ ticket sessionId oldLease, last.Falling ticket sessionId oldLease →
    session.Falling ticket sessionId oldLease
  after : ∀ ticket sessionId oldLease, session.Falling ticket sessionId oldLease →
    session.coordinator.outcomes.lookup ticket = none → last.Falling ticket sessionId oldLease
  fewer : ∀ id ∈ last.transports, id ∈ session.transports

theorem Frame.standing (frame : Frame session last)
    {next : Option ManagedBrowserHandoffTransportLease}
    (standing : session.Standing oldLease next) : last.Standing oldLease next := by
  obtain ⟨quiet, stored, active, above⟩ := standing
  constructor
  · rw [frame.coordinator]
    exact quiet
  · rw [frame.lease]
    exact stored
  · rw [frame.coordinator]
    exact active
  · rw [frame.lease, frame.coordinator]
    exact above

theorem Frame.barren (frame : Frame session last) (barren : Barren session) : Barren last where
  unmapped := eq_nil_iff_forall_not_mem.mpr fun id mem => by
    have before := frame.fewer id mem
    rw [barren.unmapped] at before
    cases before
  active := by
    rw [frame.coordinator, frame.lease]
    exact barren.active
  running := by
    rw [frame.coordinator]
    exact barren.running
  settled := by
    rw [frame.coordinator]
    exact fun ticket sessionId oldLease next falling =>
      barren.settled ticket sessionId oldLease next (frame.before _ _ _ falling)

theorem Consistent.frame (consistent : Consistent session) (frame : Frame session last)
    (mapped : ∀ id ∈ last.transports, last.activeSessionId = some id)
    (discarding : ∀ ticket, last.requests.get? ticket = some .discarding → Barren last) :
    Consistent last where
  launched := by
    rw [frame.coordinator]
    exact consistent.launched
  issued := by
    rw [frame.coordinator]
    exact frame.issued
  stored := by
    rw [frame.coordinator, frame.lease]
    exact consistent.stored
  active := by
    rw [frame.coordinator, frame.lease]
    exact consistent.active
  mapped := mapped
  falling := by
    intro ticket sessionId oldLease falling
    rw [frame.lease]
    rcases consistent.falling ticket sessionId oldLease (frame.before _ _ _ falling) with
      less | ⟨same, only⟩
    · exact .inl less
    · exact .inr ⟨same, fun id mem => only id (frame.fewer id mem)⟩
  queue := by
    intro ticket operation queued
    rw [frame.coordinator] at queued
    cases consistent.queue ticket operation queued with
    | fallback sessionId oldLease reason pending =>
        exact .fallback sessionId oldLease reason
          (frame.after _ _ _ pending (consistent.launched.queue_unsettled queued))
    | revoke lease issued apart =>
        refine .revoke lease (frame.coordinator ▸ issued) ?_
        exact fun sessionId oldLease falling => apart _ _ (frame.before _ _ _ falling)
  running := by
    intro ticket phase running
    rw [frame.coordinator] at running
    rw [frame.lease]
    rcases consistent.running ticket phase running with ⟨kind, apart⟩ | ⟨kind, sessionId, pending⟩
    · exact .inl ⟨kind, fun _ _ falling => apart _ _ (frame.before _ _ _ falling)⟩
    · exact .inr ⟨kind, sessionId,
        frame.after _ _ _ pending (consistent.launched.running_unsettled running)⟩
  standing := by
    intro ticket sessionId oldLease next falling settled
    rw [frame.coordinator] at settled
    exact frame.standing
      (consistent.standing ticket sessionId oldLease next (frame.before _ _ _ falling) settled)
  unique := by
    intro ticket sessionId oldLease next other sessionId' oldLease' next' falling settled
      falling' settled'
    rw [frame.coordinator] at settled settled'
    exact consistent.unique ticket sessionId oldLease next other sessionId' oldLease' next'
      (frame.before _ _ _ falling) settled (frame.before _ _ _ falling') settled'
  discarding := discarding

/-- Requests stay as they are. -/
theorem Frame.of_requests (consistent : Consistent session)
    (coordinator : last.coordinator = session.coordinator) (lease : last.lease = session.lease)
    (requests : last.requests = session.requests)
    (fewer : ∀ id ∈ last.transports, id ∈ session.transports) : Frame session last where
  coordinator := coordinator
  lease := lease
  issued := fun ticket request found => consistent.issued ticket request (requests ▸ found)
  before := fun ticket sessionId oldLease falling => by
    unfold Falling at falling ⊢
    rwa [requests] at falling
  after := fun ticket sessionId oldLease falling _ => by
    unfold Falling at falling ⊢
    rwa [requests]
  fewer := fewer

theorem Consistent.keep (consistent : Consistent session)
    (coordinator : last.coordinator = session.coordinator) (lease : last.lease = session.lease)
    (requests : last.requests = session.requests)
    (fewer : ∀ id ∈ last.transports, id ∈ session.transports)
    (mapped : ∀ id ∈ last.transports, last.activeSessionId = some id) : Consistent last := by
  have frame := Frame.of_requests consistent coordinator lease requests fewer
  refine consistent.frame frame mapped fun ticket discarding => ?_
  exact frame.barren (consistent.discarding ticket (requests ▸ discarding))

theorem Falling.of_answer {other : Nat} {response : ManagedResponse}
    (falling : (session.answer other response).Falling ticket sessionId oldLease) :
    session.Falling ticket sessionId oldLease :=
  get?_of_get?_delete falling

/-- A settled request leaves. -/
theorem Consistent.answer (consistent : Consistent session)
    {outcome : Except Failure (Option ManagedBrowserHandoffTransportLease)}
    (found : session.coordinator.outcomes.lookup ticket = some outcome)
    (response : ManagedResponse) : Consistent (session.answer ticket response) := by
  have frame : Frame session (session.answer ticket response) := by
    refine ⟨rfl, rfl, ?_, fun _ _ _ falling => falling.of_answer, ?_, fun _ mem => mem⟩
    · intro other request mem
      exact consistent.issued other request (get?_of_get?_delete mem)
    · intro other sessionId oldLease falling unsettled
      have ne : other ≠ ticket := by
        rintro rfl
        cases unsettled.symm.trans found
      exact (get?_delete_ne session.requests ne).trans falling
  refine consistent.frame frame consistent.mapped fun other discarding => ?_
  exact frame.barren (consistent.discarding other (get?_of_get?_delete discarding))

theorem Consistent.rotate (consistent : Consistent session) (config : ManagedRuntimeConfig)
    (sessionId : String) : Consistent (session.rotate config sessionId) := by
  have fewer : ∀ id ∈ (session.rotate config sessionId).transports, id ∈ session.transports :=
    fun id mem => mem_of_mem_filter mem
  exact consistent.keep rfl rfl rfl fewer fun id mem =>
    consistent.mapped id (fewer id mem)

/-- What a request that presented the stored lease leaves mapped: nothing. -/
theorem Consistent.rotate_transports (consistent : Consistent session) {ticket : Nat}
    {sessionId : String} (falling : session.Falling ticket sessionId session.lease) :
    (session.rotate config sessionId).transports = [] := by
  apply filter_eq_nil_iff.mpr
  intro id mem
  rcases consistent.falling ticket sessionId session.lease falling with less | ⟨_, only⟩
  · exact absurd less (Nat.lt_irrefl _)
  · simpa using only id mem

/-- The lease of the finished fallback is stored, once its request has gone on. -/
theorem Consistent.adopt (consistent : Consistent session)
    {lease : ManagedBrowserHandoffTransportLease} (empty : session.transports = [])
    (active : session.coordinator.leaseOf = some lease)
    (quiet : session.coordinator.running = none)
    (above : session.lease.generation < lease.generation)
    (settled : ∀ ticket sessionId oldLease next, session.Falling ticket sessionId oldLease →
      session.coordinator.outcomes.lookup ticket ≠ some (.ok next))
    (undiscarding : ∀ ticket, session.requests.get? ticket ≠ some .discarding)
    (sessionId : String) : Consistent (session.adopt sessionId lease) where
  launched := consistent.launched
  issued := consistent.issued
  stored := (consistent.active lease active).1
  active := by
    intro other current
    cases active.symm.trans current
    exact ⟨(consistent.active lease active).1, .inl rfl⟩
  mapped := by
    intro id mem
    have single : id ∈ [sessionId] := by
      rw [show (session.adopt sessionId lease).transports =
        sessionId :: session.transports.filter (· ≠ sessionId) from rfl, empty] at mem
      exact mem
    rw [mem_singleton.mp single]
    rfl
  falling := by
    intro ticket id oldLease falling
    refine .inl ?_
    rcases consistent.falling ticket id oldLease falling with less | ⟨rfl, _⟩
    · exact Nat.lt_trans less above
    · exact above
  queue := by
    intro ticket operation queued
    cases consistent.queue ticket operation queued with
    | fallback id oldLease reason pending => exact .fallback id oldLease reason pending
    | revoke old issued apart => exact .revoke old issued apart
  running := fun ticket phase running => absurd (quiet.symm.trans running) (by simp)
  standing := fun ticket id oldLease next falling found =>
    absurd found (settled ticket id oldLease next falling)
  unique := fun ticket id oldLease next _ _ _ _ falling found =>
    absurd found (settled ticket id oldLease next falling)
  discarding := fun ticket discarding => absurd discarding (undiscarding ticket)

theorem Consistent.fresh (consistent : Consistent session)
    :
    ¬ session.Falling session.coordinator.tickets sessionId oldLease := fun falling =>
  Nat.lt_irrefl _ (consistent.issued _ _ falling)

/-- A revoke with an old lease joins the queue. -/
theorem Consistent.callRevoke (consistent : Consistent session)
    {lease : ManagedBrowserHandoffTransportLease}
    (issued : lease.generation ≤ session.coordinator.generation)
    (older : ∀ ticket sessionId oldLease next, session.Falling ticket sessionId oldLease →
      session.coordinator.outcomes.lookup ticket = some (.ok (some next)) →
        lease.generation < next.generation) :
    Consistent
      { session with coordinator := session.coordinator.call (.revoke (some lease)) } where
  launched := consistent.launched.call _
  issued := fun ticket request found =>
    Nat.lt_succ_of_lt (consistent.issued ticket request found)
  stored := consistent.stored
  active := consistent.active
  mapped := consistent.mapped
  falling := consistent.falling
  queue := by
    intro ticket operation queued
    rcases mem_append.mp queued with before | new
    · cases consistent.queue ticket operation before with
      | fallback sessionId oldLease reason pending =>
          exact .fallback sessionId oldLease reason pending
      | revoke old issued apart => exact .revoke old issued apart
    · cases mem_singleton.mp new
      exact .revoke lease issued fun _ _ => consistent.fresh
  running := consistent.running
  standing := by
    intro ticket sessionId oldLease next falling settled
    obtain ⟨quiet, stored, active, above⟩ :=
      consistent.standing ticket sessionId oldLease next falling settled
    refine ⟨quiet, stored, active, ?_⟩
    rintro next rfl
    refine ⟨(above next rfl).1, fun other old queued => ?_⟩
    rcases mem_append.mp queued with before | new
    · exact (above next rfl).2 other old before
    · cases mem_singleton.mp new
      exact older ticket sessionId oldLease next falling settled
  unique := consistent.unique
  discarding := by
    intro ticket discarding
    obtain ⟨unmapped, active, running, settled⟩ := consistent.discarding ticket discarding
    exact ⟨unmapped, active, running, settled⟩

/-- A request that passed the gate joins the queue with the stored lease. -/
theorem Consistent.callFallback (consistent : Consistent session)
    (mapped : sessionId ∈ session.transports) :
    Consistent
      { session with
        coordinator := session.coordinator.call (.fallback session.lease .transportUnavailable)
        requests := session.requests.set session.coordinator.tickets
          (.falling sessionId session.lease) } := by
  have same : ∀ {ticket}, ticket ≠ session.coordinator.tickets →
      (session.requests.set session.coordinator.tickets
        (.falling sessionId session.lease)).get? ticket = session.requests.get? ticket :=
    fun ne => get?_set_ne session.requests _ ne
  -- The new request has no outcome yet, so a request with one was there before.
  have settled : ∀ {ticket id oldLease next},
      (session.requests.set session.coordinator.tickets
        (.falling sessionId session.lease)).get? ticket = some (.falling id oldLease) →
      session.coordinator.outcomes.lookup ticket = some (.ok next) →
        session.Falling ticket id oldLease := by
    intro ticket id oldLease next falling found
    have older := consistent.launched.outcome_issued found
    exact (same (Nat.ne_of_lt older)).symm.trans falling
  constructor
  · exact consistent.launched.call _
  · intro ticket request found
    by_cases new : ticket = session.coordinator.tickets
    · rw [new]
      exact Nat.lt_succ_self _
    · exact Nat.lt_succ_of_lt (consistent.issued ticket request ((same new).symm.trans found))
  · exact consistent.stored
  · exact consistent.active
  · exact consistent.mapped
  · intro ticket id oldLease falling
    by_cases new : ticket = session.coordinator.tickets
    · subst new
      cases (get?_set_self session.requests _ _).symm.trans falling
      refine .inr ⟨rfl, fun other mem => ?_⟩
      exact Option.some.inj ((consistent.mapped other mem).symm.trans
        (consistent.mapped sessionId mapped))
    · exact consistent.falling ticket id oldLease ((same new).symm.trans falling)
  · intro ticket operation queued
    rcases mem_append.mp queued with before | new
    · have ne := Nat.ne_of_lt (consistent.launched.queue_issued before)
      cases consistent.queue ticket operation before with
      | fallback id oldLease reason pending =>
          exact .fallback id oldLease reason ((same ne).trans pending)
      | revoke lease issued apart =>
          exact .revoke lease issued fun id oldLease falling =>
            apart id oldLease ((same ne).symm.trans falling)
    · cases mem_singleton.mp new
      exact .fallback sessionId session.lease _ (get?_set_self ..)
  · intro ticket phase running
    have ne := Nat.ne_of_lt (consistent.launched.running_issued running)
    rcases consistent.running ticket phase running with ⟨kind, apart⟩ | ⟨kind, id, pending⟩
    · exact .inl ⟨kind, fun id oldLease falling => apart id oldLease ((same ne).symm.trans falling)⟩
    · exact .inr ⟨kind, id, (same ne).trans pending⟩
  · intro ticket id oldLease next falling found
    obtain ⟨quiet, stored, active, above⟩ :=
      consistent.standing ticket id oldLease next (settled falling found) found
    refine ⟨quiet, stored, active, fun lease held => ⟨(above lease held).1, ?_⟩⟩
    intro other old queued
    rcases mem_append.mp queued with before | new
    · exact (above lease held).2 other old before
    · cases mem_singleton.mp new
  · intro ticket id oldLease next other id' oldLease' next' falling found falling' found'
    exact consistent.unique ticket id oldLease next other id' oldLease' next'
      (settled falling found) found (settled falling' found') found'
  · intro ticket discarding
    by_cases new : ticket = session.coordinator.tickets
    · subst new
      cases (get?_set_self session.requests _ _).symm.trans discarding
    · have barren := consistent.discarding ticket ((same new).symm.trans discarding)
      rw [barren.unmapped] at mapped
      cases mapped

theorem Consistent.handleFallback (consistent : Consistent session) (request : FallbackRequest)
    (sessionId : String) : Consistent (session.handleFallback config request sessionId) := by
  have respond : ∀ response, Consistent (session.respond response) := fun response =>
    consistent.keep rfl rfl rfl (fun _ mem => mem) consistent.mapped
  unfold ManagedHandoffSession.handleFallback
  split
  · exact respond _
  · rename_i known
    split
    · exact respond _
    · split
      · exact respond _
      · split
        · exact respond _
        · exact consistent.callFallback (not_not.mp (not_or.mp known).1)

/-- Once its request has gone on, no other fallback is over. -/
theorem Consistent.alone (consistent : Consistent session)
    {next : Option ManagedBrowserHandoffTransportLease}
    (falling : session.Falling ticket sessionId oldLease)
    (found : session.coordinator.outcomes.lookup ticket = some (.ok next)) {other : Nat}
    {sessionId' : String} {oldLease' : ManagedBrowserHandoffTransportLease}
    {next' : Option ManagedBrowserHandoffTransportLease}
    (deleted : (session.requests.delete ticket).get? other =
      some (.falling sessionId' oldLease')) :
    session.coordinator.outcomes.lookup other ≠ some (.ok next') := by
  intro found'
  cases consistent.unique ticket sessionId oldLease next other sessionId' oldLease' next' falling
    found (get?_of_get?_delete deleted) found'
  rw [get?_delete_self] at deleted
  cases deleted

/-- A lease that leads to no session id is revoked before the request is answered. -/
theorem Consistent.discard (consistent : Consistent session)
    {lease : ManagedBrowserHandoffTransportLease}
    (falling : session.Falling ticket sessionId oldLease)
    (found : session.coordinator.outcomes.lookup ticket = some (.ok (some lease))) :
    Consistent
      { session.rotate config sessionId with
        coordinator := session.coordinator.call (.revoke (some lease))
        requests := (session.requests.delete ticket).set session.coordinator.tickets
          .discarding } := by
  have standing := consistent.standing ticket sessionId oldLease (some lease) falling found
  have empty := @Consistent.rotate_transports config session consistent ticket sessionId
    (standing.stored ▸ falling)
  have left : Consistent
      { session.rotate config sessionId with requests := session.requests.delete ticket } := by
    have answered := (consistent.rotate config sessionId).answer found ⟨0, .error ""⟩
    exact answered.keep rfl rfl rfl (fun _ mem => mem) answered.mapped
  have called := left.callRevoke (consistent.active lease standing.active).1
    fun other id old next deleted settled => absurd settled (consistent.alone falling found deleted)
  have back : ∀ {other request}, request ≠ .discarding →
      ((session.requests.delete ticket).set session.coordinator.tickets .discarding).get? other =
        some request → (session.requests.delete ticket).get? other = some request := by
    intro other request falls mem
    by_cases new : other = session.coordinator.tickets
    · rw [new] at mem
      cases (get?_set_self _ _ _).symm.trans mem
      exact absurd rfl falls
    · exact (get?_set_ne _ _ new).symm.trans mem
  refine called.frame ⟨rfl, rfl, ?_, fun _ _ _ mem => back (by simp) mem, ?_, fun _ mem => mem⟩
    called.mapped ?_
  · intro other request mem
    by_cases new : other = session.coordinator.tickets
    · rw [new]
      exact Nat.lt_succ_self _
    · exact called.issued other request ((get?_set_ne _ _ new).symm.trans mem)
  · intro other id old mem _
    have new : other ≠ session.coordinator.tickets := by
      rintro rfl
      exact left.fresh mem
    exact (get?_set_ne _ _ new).trans mem
  · intro _ _
    refine ⟨empty, ?_, fun other phase running =>
      absurd (standing.quiet.symm.trans running) (by simp), ?_⟩
    · intro other current
      cases standing.active.symm.trans current
      exact (standing.above lease rfl).1
    · intro other id old next mem
      exact consistent.alone falling found (back (by simp) mem)

theorem Consistent.afterFallback (consistent : Consistent session) {ticket : Nat}
    {sessionId : String} {oldLease : ManagedBrowserHandoffTransportLease}
    {outcome : Except Failure (Option ManagedBrowserHandoffTransportLease)}
    (falling : session.Falling ticket sessionId oldLease)
    (found : session.coordinator.outcomes.lookup ticket = some outcome) :
    Consistent (session.afterFallback config ticket sessionId outcome) := by
  have rotated := consistent.rotate config sessionId
  match outcome with
  | .error failure => exact consistent.answer found _
  | .ok none =>
      have standing := consistent.standing ticket sessionId oldLease none falling found
      have empty := @Consistent.rotate_transports config session consistent ticket sessionId
        (standing.stored ▸ falling)
      have cleared : Consistent { session.rotate config sessionId with activeSessionId := none } :=
        rotated.keep rfl rfl rfl (fun _ mem => mem) fun id mem => by
          rw [show ({ session.rotate config sessionId with activeSessionId := none } :
            ManagedHandoffSession).transports = [] from empty] at mem
          cases mem
      exact cleared.answer found _
  | .ok (some lease) =>
      have standing := consistent.standing ticket sessionId oldLease (some lease) falling found
      have empty := @Consistent.rotate_transports config session consistent ticket sessionId
        (standing.stored ▸ falling)
      unfold ManagedHandoffSession.afterFallback
      dsimp only
      cases config.takeoverSessionIdFromLocator lease.locator with
      | none =>
          exact consistent.discard falling found
      | some nextSessionId =>
          dsimp only
          have answered := rotated.answer found
            ⟨200, .path ((config.pathname lease.locator).getD "")⟩
          exact answered.adopt empty standing.active standing.quiet
            (standing.above lease rfl).1
            (fun other id old next deleted => consistent.alone falling found deleted)
            (fun other discarding =>
              (consistent.discarding other (get?_of_get?_delete discarding)).settled
                ticket sessionId oldLease _ falling found)
            nextSessionId

theorem Consistent.revoke (consistent : Consistent session) : Consistent session.revoke := by
  unfold ManagedHandoffSession.revoke
  split
  · have fewer : ∀ id ∈ session.forgetSession.transports, id ∈ session.transports :=
      fun id mem => mem_of_mem_filter mem
    have forgotten : Consistent session.forgetSession :=
      consistent.keep rfl rfl rfl fewer fun id mem =>
        consistent.mapped id (fewer id mem)
    exact forgotten.callRevoke consistent.stored fun ticket sessionId oldLease next falling found =>
      ((consistent.standing ticket sessionId oldLease _ falling found).above next rfl).1
  · exact consistent

/-- Every step keeps a session consistent. -/
theorem Consistent.step (stepped : StepOf (next config) session event last)
    (consistent : Consistent session) : Consistent last := by
  have keep : ∀ {last : ManagedHandoffSession}, last.coordinator = session.coordinator →
      last.lease = session.lease → last.requests = session.requests →
      (∀ id ∈ last.transports, id ∈ session.transports) →
      last.activeSessionId = session.activeSessionId → Consistent last := by
    intro last coordinator lease requests fewer activeId
    refine consistent.keep coordinator lease requests fewer ?_
    intro id mem
    rw [activeId]
    exact consistent.mapped id (fewer id mem)
  cases event with
  | transport inner =>
      simp only [StepOf, next] at stepped
      split at stepped
      · rename_i internal
        obtain ⟨coordinator, moved, rfl⟩ := Option.map_eq_some_iff.mp stepped
        exact consistent.transport (consistent.launched.chained internal moved)
      · cases stepped
  | handle request =>
      simp only [StepOf, next] at stepped
      split at stepped
      · cases stepped
        exact consistent.handleFallback request _
      · cases stepped
        exact consistent
  | resume ticket =>
      simp only [StepOf, next] at stepped
      split at stepped
      · rename_i pending found
        cases stepped
        exact consistent.afterFallback pending found
      · rename_i discarding found
        cases stepped
        have unmapped := (consistent.discarding ticket discarding).unmapped
        have cleared : Consistent { session with activeSessionId := none } :=
          consistent.keep rfl rfl rfl (fun _ mem => mem) fun id mem => by
            rw [show ({ session with activeSessionId := none } :
              ManagedHandoffSession).transports = [] from unmapped] at mem
            cases mem
        exact cleared.answer found _
      · cases stepped
  | revoke | revokeUnclaimed =>
      cases stepped
      exact consistent.revoke
  | acceptDone =>
      cases stepped
      exact keep rfl rfl rfl (fun _ mem => mem) rfl
  | completion =>
      simp only [StepOf, next] at stepped
      split at stepped <;> cases stepped
      exact keep rfl rfl rfl (fun _ mem => mem) rfl
  | displaced sessionId =>
      cases stepped
      exact keep rfl rfl rfl (fun _ mem => mem_of_mem_filter mem) rfl

/-! ## The start -/

/-- What `start` leaves: one driver active under the stored lease, nothing waiting. -/
structure Fresh (session : ManagedHandoffSession) : Prop where
  launched : session.coordinator.Launched
  quiet : session.coordinator.running = none
  idle : session.coordinator.queue = []
  active : session.coordinator.leaseOf = some session.lease
  generation : session.lease.generation = session.coordinator.generation
  registered : session.registered = true
  unaccepted : session.accepted = false
  mapped : ∀ id ∈ session.transports, session.activeSessionId = some id
  requests : session.requests = .empty

theorem start_fresh {principalBinding : String} {plan : TransportPlan} {result : StartResult}
    {first second : LooseResult}
    (started : start config principalBinding plan result first second = .ok session) :
    Fresh session := by
  unfold start at started
  dsimp only at started
  split at started
  · rename_i lease leased
    split at started
    · obtain ⟨launched, quiet, idle, active, generation⟩ :=
        ManagedBrowserHandoffTransportCoordinator.startSync_leased leased
      cases started
      refine ⟨launched, quiet, idle, active, generation, rfl, rfl, ?_, rfl⟩
      intro id mem
      rw [mem_singleton.mp mem]
    · cases started
  · cases started

theorem Fresh.consistent (fresh : Fresh session) : Consistent session := by
  have empty : ∀ ticket request, session.requests.get? ticket ≠ some request := by
    intro ticket request found
    rw [fresh.requests] at found
    cases found
  constructor
  · exact fresh.launched
  · exact fun ticket request found => absurd found (empty ticket request)
  · exact Nat.le_of_eq fresh.generation
  · intro lease current
    cases fresh.active.symm.trans current
    exact ⟨Nat.le_of_eq fresh.generation, .inl rfl⟩
  · exact fresh.mapped
  · exact fun ticket sessionId oldLease falling => absurd falling (empty ticket _)
  · intro ticket operation queued
    rw [fresh.idle] at queued
    cases queued
  · exact fun ticket phase running => absurd (fresh.quiet.symm.trans running) (by simp)
  · exact fun ticket sessionId oldLease next falling => absurd falling (empty ticket _)
  · exact fun ticket sessionId oldLease next _ _ _ _ falling => absurd falling (empty ticket _)
  · exact fun ticket discarding => absurd discarding (empty ticket _)

end ManagedHandoffSession

end ExecutionHandoff.Transport
