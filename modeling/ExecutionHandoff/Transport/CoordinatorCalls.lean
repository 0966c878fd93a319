import ExecutionHandoff.Transport.CoordinatorGenerations

/-!
# Calls and their outcomes

The promise chain serves the calls of the coordinator in the order of their
tickets: settled, running and waiting calls are together exactly the tickets
handed out.  Each step of the chain begins, refuses, advances or settles one
call, and what it says about that call does not depend on the others.
-/

namespace ExecutionHandoff.Transport

open Library List

/-- What a call is about; `start` and `advance` make one attempt, the fallback a loop of them. -/
inductive CallKind where
  | single
  | fallback
  | revoke
  deriving DecidableEq

def Operation.kind : Operation → CallKind
  | .start | .advance _ => .single
  | .fallback _ _ => .fallback
  | .revoke _ => .revoke

/-- The lease a call presents. -/
def Operation.lease : Operation → Option ManagedBrowserHandoffTransportLease
  | .start => none
  | .advance lease => some lease
  | .fallback lease _ => some lease
  | .revoke lease => lease

def Purpose.kind : Purpose → CallKind
  | .advance => .single
  | .fallback _ => .fallback
  | .revoke => .revoke

def Mode.kind : Mode → CallKind
  | .single => .single
  | .loop => .fallback

def Phase.kind : Phase → CallKind
  | .attempt _ mode | .starting _ _ mode | .failed _ _ mode | .cleaning _ _ _ mode
  | .blank _ _ mode => mode.kind
  | .revoke purpose _ | .revoking _ purpose _ => purpose.kind

/-- The driver a call is revoking. -/
def Phase.withdrawing : Phase → Option ActiveManagedTransport
  | .revoke _ active | .revoking _ _ active => some active
  | _ => none

/-- The coordinator tells leases apart by transport and generation. -/
def ManagedBrowserHandoffTransportLease.Matches (left right : ManagedBrowserHandoffTransportLease) :
    Prop :=
  left.transport = right.transport ∧ left.generation = right.generation

instance (left right : ManagedBrowserHandoffTransportLease) : Decidable (left.Matches right) :=
  inferInstanceAs (Decidable (_ ∧ _))

/-- The events that are not calls of the coordinator's methods. -/
def CoordinatorEvent.internal : CoordinatorEvent → Bool
  | .call _ | .startSync _ _ _ => false
  | _ => true

/-- No revoke of a driver fails in this event. -/
def CoordinatorEvent.revokes : CoordinatorEvent → Bool
  | .invokeRevoke throws => !throws
  | .revokeSettled succeeded | .looseSettled _ _ succeeded | .looseRevoke (.settled succeeded) =>
      succeeded
  | .looseRevoke .throws => false
  | _ => true

namespace ManagedBrowserHandoffTransportCoordinator

variable {coordinator last : ManagedBrowserHandoffTransportCoordinator} {event : CoordinatorEvent}

/-- Every ticket handed out so far: settled, running, waiting. -/
def ledger (coordinator : ManagedBrowserHandoffTransportCoordinator) : List Nat :=
  coordinator.outcomes.map Prod.fst ++ (coordinator.running.map Prod.fst).toList ++
    coordinator.queue.map Prod.fst

/-- A call of an asynchronous method. -/
def call (coordinator : ManagedBrowserHandoffTransportCoordinator) (operation : Operation) :
    ManagedBrowserHandoffTransportCoordinator :=
  { coordinator with
    queue := coordinator.queue ++ [(coordinator.tickets, operation)]
    tickets := coordinator.tickets + 1 }

/-- One step of the promise chain. -/
inductive Flow (coordinator : ManagedBrowserHandoffTransportCoordinator)
    (event : CoordinatorEvent) (last : ManagedBrowserHandoffTransportCoordinator) : Prop where
  | apart (running : last.running = coordinator.running) (queue : last.queue = coordinator.queue)
      (outcomes : last.outcomes = coordinator.outcomes)
      (active : last.active = coordinator.active)
  | begins (ticket : Nat) (operation : Operation) (rest : List (Nat × Operation)) (phase : Phase)
      (quiet : coordinator.running = none) (queued : coordinator.queue = (ticket, operation) :: rest)
      (running : last.running = some (ticket, phase)) (queue : last.queue = rest)
      (outcomes : last.outcomes = coordinator.outcomes)
      (active : last.active = coordinator.active) (kind : phase.kind = operation.kind)
      (checked : ∀ lease, operation.lease = some lease → ∃ active,
        coordinator.active = some active ∧ active.lease.Matches lease ∧
          phase.withdrawing = some active)
  | refused (ticket : Nat) (operation : Operation) (rest : List (Nat × Operation))
      (outcome : Except Failure (Option ManagedBrowserHandoffTransportLease))
      (quiet : coordinator.running = none) (queued : coordinator.queue = (ticket, operation) :: rest)
      (running : last.running = none) (queue : last.queue = rest)
      (outcomes : last.outcomes = coordinator.outcomes ++ [(ticket, outcome)])
      (active : last.active = coordinator.active)
      (rejects : (∃ failure, outcome = .error failure) ∨
        outcome = .ok none ∧ operation.kind = .revoke)
      (unmatched : ∀ lease active, operation.lease = some lease →
        coordinator.active = some active → ¬ active.lease.Matches lease)
  | advances (ticket : Nat) (phase next : Phase)
      (current : coordinator.running = some (ticket, phase))
      (running : last.running = some (ticket, next)) (queue : last.queue = coordinator.queue)
      (outcomes : last.outcomes = coordinator.outcomes) (kind : next.kind = phase.kind)
      (held : last.active = coordinator.active ∨ last.active = none)
      (withdrawing : ∀ active, phase.withdrawing = some active →
        next.withdrawing = some active ∨ active.index + 1 < coordinator.order.length)
  | settles (ticket : Nat) (phase : Phase)
      (outcome : Except Failure (Option ManagedBrowserHandoffTransportLease))
      (current : coordinator.running = some (ticket, phase))
      (running : last.running = none) (queue : last.queue = coordinator.queue)
      (outcomes : last.outcomes = coordinator.outcomes ++ [(ticket, outcome)])
      (leased : ∀ lease, outcome = .ok (some lease) →
        event = .startSettled (some lease.locator) ∧ phase.withdrawing = none ∧
          lease.generation = coordinator.generation + 1 ∧
          last.generation = coordinator.generation + 1 ∧
          ∃ index, last.active = some ⟨index, lease⟩)
      (released : (∀ lease, outcome ≠ .ok (some lease)) → last.active = none ∨
        event.revokes = false ∧ last.active = coordinator.active ∧
          ∃ failure, outcome = .error failure)

theorem Flow.ledger_eq (flow : Flow coordinator event last) : last.ledger = coordinator.ledger := by
  unfold ledger
  cases flow with
  | apart running queue outcomes => rw [running, queue, outcomes]
  | begins ticket operation rest phase quiet queued running queue outcomes =>
      rw [quiet, queued, running, queue, outcomes]
      simp
  | refused ticket operation rest outcome quiet queued running queue outcomes =>
      rw [quiet, queued, running, queue, outcomes]
      simp
  | advances ticket phase next current running queue outcomes =>
      rw [current, running, queue, outcomes]
      rfl
  | settles ticket phase outcome current running queue outcomes =>
      rw [current, running, queue, outcomes]
      simp

/-! ## Every internal step is a step of the chain -/

theorem flow_settle (base : ManagedBrowserHandoffTransportCoordinator) (ticket : Nat)
    {phase : Phase} (outcome : Except Failure (Option ManagedBrowserHandoffTransportLease))
    (current : coordinator.running = some (ticket, phase))
    (queue : base.queue = coordinator.queue) (outcomes : base.outcomes = coordinator.outcomes)
    (leaseless : ∀ lease, outcome ≠ .ok (some lease))
    (released : base.active = none ∨ event.revokes = false ∧
      base.active = coordinator.active ∧ ∃ failure, outcome = .error failure) :
    Flow coordinator event (base.settle ticket outcome) := by
  have appended : (base.settle ticket outcome).outcomes =
      coordinator.outcomes ++ [(ticket, outcome)] := by
    rw [← outcomes]
    rfl
  exact .settles ticket phase outcome current rfl queue appended
    (fun lease same => absurd same (leaseless lease)) fun _ => released

theorem flow_afterFailure (base : ManagedBrowserHandoffTransportCoordinator) (ticket index : Nat)
    (failure : Failure) (mode : Mode) {phase : Phase} (inactive : base.active = none)
    (current : coordinator.running = some (ticket, phase)) (kind : phase.kind = mode.kind)
    (quiet : phase.withdrawing = none) (queue : base.queue = coordinator.queue)
    (outcomes : base.outcomes = coordinator.outcomes) :
    Flow coordinator event (base.afterFailure ticket index failure mode) := by
  cases mode with
  | single =>
      exact flow_settle base ticket (.error failure) current queue outcomes (by simp)
        (.inl inactive)
  | loop =>
      by_cases more : index + 1 < base.order.length
      · rw [show base.afterFailure ticket index failure .loop = _ from if_pos more]
        refine .advances ticket phase (.attempt (index + 1) .loop) current rfl queue outcomes
          kind.symm (.inr inactive) ?_
        intro active withdrawing
        rw [quiet] at withdrawing
        cases withdrawing
      · rw [show base.afterFailure ticket index failure .loop = _ from if_neg more]
        exact flow_settle base ticket (.ok none) current queue outcomes (by simp) (.inl inactive)

theorem flow_afterRevoke (base : ManagedBrowserHandoffTransportCoordinator) (ticket : Nat)
    (purpose : Purpose) (active : ActiveManagedTransport) {phase : Phase}
    (current : coordinator.running = some (ticket, phase)) (kind : phase.kind = purpose.kind)
    (withdrawing : phase.withdrawing = some active) (order : base.order = coordinator.order)
    (queue : base.queue = coordinator.queue) (outcomes : base.outcomes = coordinator.outcomes) :
    Flow coordinator event (base.afterRevoke ticket purpose active) := by
  have more : ¬ base.order.length ≤ active.index + 1 → ∀ captured,
      phase.withdrawing = some captured →
      (none : Option ActiveManagedTransport) = some captured ∨
        captured.index + 1 < coordinator.order.length := by
    intro left captured same
    cases withdrawing.symm.trans same
    exact .inr (by rw [← order]; omega)
  cases purpose with
  | revoke => exact flow_settle _ ticket (.ok none) current queue outcomes (by simp) (.inl rfl)
  | advance =>
      by_cases ended : base.order.length ≤ active.index + 1
      · rw [show base.afterRevoke ticket .advance active = _ from if_pos ended]
        exact flow_settle _ ticket (.ok none) current queue outcomes (by simp) (.inl rfl)
      · rw [show base.afterRevoke ticket .advance active = _ from if_neg ended]
        exact .advances ticket phase _ current rfl queue outcomes kind.symm (.inr rfl) (more ended)
  | fallback reason =>
      by_cases ended : base.order.length ≤ active.index + 1
      · rw [show base.afterRevoke ticket (.fallback reason) active = _ from if_pos ended]
        exact flow_settle _ ticket (.ok none) current queue outcomes (by simp) (.inl rfl)
      · rw [show base.afterRevoke ticket (.fallback reason) active = _ from if_neg ended]
        exact .advances ticket phase _ current rfl queue outcomes kind.symm (.inr rfl) (more ended)

theorem assertActive_unmatched {lease : ManagedBrowserHandoffTransportLease}
    {error : ManagedBrowserHandoffTransportCoordinatorError}
    (failed : coordinator.assertActive lease = .error error) {active : ActiveManagedTransport}
    (current : coordinator.active = some active) : ¬ active.lease.Matches lease := by
  intro same
  unfold assertActive at failed
  rw [current] at failed
  simp [same.1, same.2] at failed

/-- The coordinator once its next call has left the queue. -/
structure Popped (coordinator : ManagedBrowserHandoffTransportCoordinator) (ticket : Nat)
    (operation : Operation) (base : ManagedBrowserHandoffTransportCoordinator) : Prop where
  quiet : coordinator.running = none
  queued : coordinator.queue = (ticket, operation) :: base.queue
  idle : base.running = none
  outcomes : base.outcomes = coordinator.outcomes
  active : base.active = coordinator.active

variable {ticket : Nat} {operation : Operation} {base : ManagedBrowserHandoffTransportCoordinator}

theorem Popped.refused (popped : Popped coordinator ticket operation base)
    (outcome : Except Failure (Option ManagedBrowserHandoffTransportLease))
    (rejects : (∃ failure, outcome = .error failure) ∨
      outcome = .ok none ∧ operation.kind = .revoke)
    (unmatched : ∀ lease active, operation.lease = some lease → base.active = some active →
      ¬ active.lease.Matches lease) :
    Flow coordinator event (base.settle ticket outcome) := by
  have appended : (base.settle ticket outcome).outcomes =
      coordinator.outcomes ++ [(ticket, outcome)] := by
    rw [← popped.outcomes]
    rfl
  rw [popped.active] at unmatched
  exact .refused ticket operation base.queue outcome popped.quiet popped.queued rfl rfl appended
    popped.active rejects unmatched

theorem Popped.begins (popped : Popped coordinator ticket operation base) (phase : Phase)
    (kind : phase.kind = operation.kind)
    (checked : ∀ lease, operation.lease = some lease → ∃ active, base.active = some active ∧
      active.lease.Matches lease ∧ phase.withdrawing = some active) :
    Flow coordinator event (base.enter ticket phase) := by
  rw [popped.active] at checked
  exact .begins ticket operation base.queue phase popped.quiet popped.queued rfl rfl
    popped.outcomes popped.active kind checked

/-- A call that presents a lease starts by checking it. -/
theorem Popped.checked (popped : Popped coordinator ticket operation base)
    {lease : ManagedBrowserHandoffTransportLease} {purpose : Purpose}
    (presented : operation.lease = some lease) (kind : purpose.kind = operation.kind)
    (refuses : ∀ error, base.assertActive lease = .error error →
      last = base.settle ticket (.error (.coordinator error)))
    (passes : ∀ active, base.assertActive lease = .ok active →
      last = base.enter ticket (.revoke purpose active)) :
    Flow coordinator event last := by
  cases checked : base.assertActive lease with
  | error error =>
      rw [refuses error checked]
      refine popped.refused _ (.inl ⟨_, rfl⟩) ?_
      intro other active same current
      cases presented.symm.trans same
      exact assertActive_unmatched checked current
  | ok active =>
      rw [passes active checked]
      refine popped.begins (.revoke purpose active) kind ?_
      intro other same
      cases presented.symm.trans same
      exact ⟨active, (assertActive_ok checked).1, (assertActive_ok checked).2, rfl⟩

theorem Popped.beginOperation (popped : Popped coordinator ticket operation base) :
    Flow coordinator event (base.beginOperation ticket operation) := by
  cases operation with
  | start =>
      by_cases begun : base.started = true
      · rw [show base.beginOperation ticket .start = _ from if_pos begun]
        exact popped.refused _ (.inl ⟨_, rfl⟩) fun _ _ no => by cases no
      · rw [show base.beginOperation ticket .start = _ from if_neg begun]
        have marked : Popped coordinator ticket .start { base with started := true } :=
          ⟨popped.quiet, popped.queued, popped.idle, popped.outcomes, popped.active⟩
        exact marked.begins (.attempt 0 .single) rfl fun _ no => by cases no
  | advance lease =>
      refine @Popped.checked _ _ _ _ _ _ popped lease .advance rfl rfl ?_ ?_
      · intro error failed
        rw [ManagedBrowserHandoffTransportCoordinator.beginOperation, failed]
      · intro active passed
        rw [ManagedBrowserHandoffTransportCoordinator.beginOperation, passed]
  | fallback lease reason =>
      refine @Popped.checked _ _ _ _ _ _ popped lease (.fallback reason) rfl rfl ?_ ?_
      · intro error failed
        rw [ManagedBrowserHandoffTransportCoordinator.beginOperation, failed]
      · intro active passed
        rw [ManagedBrowserHandoffTransportCoordinator.beginOperation, passed]
  | revoke presented =>
      rw [ManagedBrowserHandoffTransportCoordinator.beginOperation]
      cases current : base.active with
      | none =>
          refine popped.refused _ (.inr ⟨rfl, rfl⟩) fun _ _ _ some => ?_
          cases current.symm.trans some
      | some active =>
          cases presented with
          | none => exact popped.begins (.revoke .revoke active) rfl fun _ no => by cases no
          | some lease =>
              refine @Popped.checked _ _ _ _ _ _ popped lease .revoke rfl rfl ?_ ?_
              · intro error failed
                simp only [Option.map_some, failed]
              · intro other passed
                cases current.symm.trans (assertActive_ok passed).1
                simp only [Option.map_some, passed]

/-- The events of the running call. -/
theorem resume_flow (coherent : Coherent coordinator) {phase : Phase}
    (current : coordinator.running = some (ticket, phase))
    (stepped : coordinator.resume ticket phase event = some last) :
    Flow coordinator event last := by
  have agrees := (coherent.running ticket phase current).2
  -- A phase that revokes no active driver has nothing to say about `withdrawing`.
  have moves : ∀ (base : ManagedBrowserHandoffTransportCoordinator) (next : Phase),
      base.queue = coordinator.queue → base.outcomes = coordinator.outcomes →
      base.active = coordinator.active → next.kind = phase.kind →
      next.withdrawing = phase.withdrawing → Flow coordinator event (base.enter ticket next) := by
    intro base next queue outcomes active kind same
    refine .advances ticket phase next current rfl queue outcomes kind (.inl active) ?_
    intro captured withdrawing
    exact .inl (same.trans withdrawing)
  cases event with
  | invokeStart throws =>
      cases phase with
      | attempt index mode =>
          cases stepped
          cases throws with
          | true => exact moves _ (.failed index _ mode) rfl rfl rfl rfl rfl
          | false => exact moves _ (.starting index _ mode) rfl rfl rfl rfl rfl
      | _ => cases stepped
  | startSettled result =>
      cases phase with
      | starting index generation mode =>
          cases result with
          | none =>
              cases stepped
              exact moves coordinator (.failed index generation mode) rfl rfl rfl rfl rfl
          | some locator =>
              by_cases empty : isBlank locator = true
              · rw [resume, if_pos empty] at stepped
                cases stepped
                exact moves coordinator (.blank index generation mode) rfl rfl rfl rfl rfl
              · rw [resume, if_neg empty] at stepped
                cases stepped
                refine .settles ticket _ (.ok (some ⟨coordinator.kindAt index, generation,
                  locator⟩)) current rfl rfl rfl ?_ fun no => absurd rfl (no _)
                rintro _ ⟨⟩
                exact ⟨rfl, rfl, agrees.2, agrees.2, index, rfl⟩
      | _ => cases stepped
  | invokeRevoke throws =>
      cases phase with
      | failed index generation mode =>
          cases throws with
          | true =>
              cases stepped
              exact flow_afterFailure _ ticket index .driver mode agrees.1 current rfl rfl rfl rfl
          | false =>
              cases stepped
              exact moves _ (.cleaning _ index generation mode) rfl rfl rfl rfl rfl
      | revoke purpose active =>
          cases throws with
          | true =>
              cases stepped
              exact flow_settle _ ticket (.error .driver) current rfl rfl (by simp)
                (.inr ⟨rfl, rfl, .driver, rfl⟩)
          | false =>
              cases stepped
              exact moves _ (.revoking _ purpose active) rfl rfl rfl rfl rfl
      | _ => cases stepped
  | revokeSettled succeeded =>
      cases phase with
      | cleaning call index generation mode =>
          cases stepped
          exact flow_afterFailure _ ticket index .driver mode agrees.1 current rfl rfl rfl rfl
      | revoking call purpose active =>
          cases succeeded with
          | true =>
              cases stepped
              exact flow_afterRevoke _ ticket purpose active current rfl rfl rfl rfl rfl
          | false =>
              cases stepped
              exact flow_settle _ ticket (.error .driver) current rfl rfl (by simp)
                (.inr ⟨rfl, rfl, .driver, rfl⟩)
      | _ => cases stepped
  | looseRevoke result =>
      cases phase with
      | blank index generation mode =>
          cases stepped
          cases result with
          | throws =>
              exact flow_afterFailure _ ticket index _ mode agrees.1 current rfl rfl rfl rfl
          | settled succeeded =>
              exact flow_afterFailure _ ticket index _ mode agrees.1 current rfl rfl rfl rfl
          | pending =>
              exact flow_afterFailure _ ticket index _ mode agrees.1 current rfl rfl rfl rfl
      | _ => cases stepped
  | call | begin | startSync | looseSettled => cases stepped

/-- Every internal step of the coordinator is a step of its promise chain. -/
theorem next_flow (coherent : Coherent coordinator) (internal : event.internal = true)
    (stepped : coordinator.next event = some last) : Flow coordinator event last := by
  cases event with
  | call | startSync => cases internal
  | begin =>
      rw [next] at stepped
      split at stepped
      · rename_i ticket operation rest quiet queued
        cases stepped
        have popped : Popped coordinator ticket operation { coordinator with queue := rest } :=
          ⟨quiet, queued, quiet, rfl, rfl⟩
        exact popped.beginOperation
      · cases stepped
  | looseSettled call index succeeded =>
      rw [next] at stepped
      split at stepped
      · cases stepped
        exact .apart rfl rfl rfl rfl
      · cases stepped
  | invokeStart | startSettled | invokeRevoke | revokeSettled | looseRevoke =>
      cases current : coordinator.running with
      | none => simp only [next, current, reduceCtorEq] at stepped
      | some call =>
          simp only [next, current] at stepped
          exact resume_flow coherent current stepped

/-! ## What every step keeps -/

theorem callLoose_tickets (index generation : Nat) (result : LooseResult) :
    (coordinator.callLoose index generation result).tickets = coordinator.tickets := by
  cases result <;> rfl

theorem afterFailure_tickets (index : Nat) (failure : Failure) (mode : Mode) :
    (coordinator.afterFailure ticket index failure mode).tickets = coordinator.tickets := by
  unfold afterFailure
  cases mode with
  | single => rfl
  | loop => dsimp only; split <;> rfl

theorem afterRevoke_tickets (purpose : Purpose) (active : ActiveManagedTransport) :
    (coordinator.afterRevoke ticket purpose active).tickets = coordinator.tickets := by
  unfold afterRevoke
  cases purpose with
  | revoke => rfl
  | advance => dsimp only; split <;> rfl
  | fallback reason => dsimp only; split <;> rfl

theorem beginOperation_tickets :
    (coordinator.beginOperation ticket operation).tickets = coordinator.tickets := by
  unfold beginOperation
  cases operation with
  | start => dsimp only; split <;> rfl
  | advance lease => dsimp only; split <;> rfl
  | fallback lease reason => dsimp only; split <;> rfl
  | revoke lease =>
      dsimp only
      split
      · rfl
      · split <;> rfl

theorem resume_tickets {phase : Phase}
    (stepped : coordinator.resume ticket phase event = some last) :
    last.tickets = coordinator.tickets := by
  unfold resume at stepped
  split at stepped
  · split at stepped <;> cases stepped
    rfl
  · split at stepped
    · cases stepped
      rfl
    · split at stepped <;> cases stepped <;> rfl
    · cases stepped
  · split at stepped
    · dsimp only at stepped
      split at stepped <;> cases stepped
      · exact afterFailure_tickets ..
      · rfl
    · dsimp only at stepped
      split at stepped <;> cases stepped <;> rfl
    · cases stepped
  · split at stepped
    · cases stepped
      exact afterFailure_tickets ..
    · dsimp only at stepped
      split at stepped <;> cases stepped
      · exact afterRevoke_tickets ..
      · rfl
    · cases stepped
  · split at stepped <;> cases stepped
    exact (afterFailure_tickets ..).trans (callLoose_tickets ..)
  · cases stepped

theorem next_tickets (internal : event.internal = true)
    (stepped : coordinator.next event = some last) : last.tickets = coordinator.tickets := by
  cases event with
  | call | startSync => cases internal
  | begin =>
      rw [next] at stepped
      split at stepped
      · cases stepped
        exact beginOperation_tickets
      · cases stepped
  | looseSettled =>
      rw [next] at stepped
      split at stepped <;> cases stepped
      rfl
  | invokeStart | startSettled | invokeRevoke | revokeSettled | looseRevoke =>
      cases current : coordinator.running with
      | none => simp only [next, current, reduceCtorEq] at stepped
      | some call =>
          simp only [next, current] at stepped
          exact resume_tickets stepped

/-- What a move does once the coordinator has started: the generation does not fall, and only an
attempt starts a driver. -/
structure Onward (coordinator : ManagedBrowserHandoffTransportCoordinator) (after : View) :
    Prop where
  begun : after.position ≠ .idle
  generation : coordinator.generation ≤ after.generation
  starts : (∀ index, coordinator.position ≠ .attempting index) →
    starts after.log = starts coordinator.log

theorem Ending.begun {length index : Nat} {position : Position}
    (ending : Ending length index position) : position ≠ .idle := by
  cases ending <;> simp

theorem Move.onward {after : View} (move : Move coordinator event after)
    (begun : coordinator.position ≠ .idle) : Onward coordinator after := by
  have same : Nat.le coordinator.generation coordinator.generation := Nat.le_refl _
  have raised : coordinator.generation ≤ coordinator.generation + 1 := Nat.le_succ _
  have twice : ∀ first second : DriverEvent, Startless [first] → Startless [second] →
      starts (coordinator.log ++ [first] ++ [second]) = starts coordinator.log :=
    fun _ _ left right => (starts_append right).trans (starts_append left)
  have revokes : ∀ call index, Startless [.revoke call index] := fun call index =>
    startless_singleton (by simp)
  have settles : ∀ call index succeeded, Startless [.settled call index succeeded] :=
    fun call index succeeded => startless_singleton (by simp)
  cases move with
  | stay => exact ⟨begun, same, fun _ => rfl⟩
  | first idle | activateSync _ idle | failSync _ _ _ idle => exact absurd idle begun
  | invoke index attempting => exact ⟨by simp, same, fun no => absurd attempting (no index)⟩
  | activate index locator =>
      exact ⟨by simp, raised, fun _ => starts_append (startless_singleton (by simp))⟩
  | clean index call => exact ⟨by simp, same, fun _ => starts_append (revokes call index)⟩
  | cleaned index call succeeded position launched ending =>
      exact ⟨ending.begun, raised, fun _ => starts_append (settles call index succeeded)⟩
  | cleanedAtOnce index call succeeded position launched ending =>
      exact ⟨ending.begun, raised, fun _ => twice _ _ (revokes _ _) (settles _ _ _)⟩
  | threw index call position launched ending =>
      exact ⟨ending.begun, same, fun _ => twice _ _ (revokes _ _) (settles _ _ _)⟩
  | overlooked index call position launched ending =>
      exact ⟨ending.begun, raised, fun _ => starts_append (revokes call index)⟩
  | withdraw active call => exact ⟨by simp, same, fun _ => starts_append (revokes _ _)⟩
  | refusedAtOnce active call =>
      exact ⟨by simp, same, fun _ => twice _ _ (revokes _ _) (settles _ _ _)⟩
  | refused active call => exact ⟨by simp, same, fun _ => starts_append (settles _ _ _)⟩
  | withdrawn active call position generation serving ending stored =>
      exact ⟨ending.begun, stored, fun _ => starts_append (settles _ _ _)⟩
  | looseSettled call index succeeded =>
      exact ⟨begun, same, fun _ => starts_append (settles call index succeeded)⟩

/-- A coordinator that has started, with its tickets in order. -/
structure Launched (coordinator : ManagedBrowserHandoffTransportCoordinator) : Prop where
  coherent : Coherent coordinator
  begun : coordinator.position ≠ .idle
  distinct : coordinator.ledger.Nodup
  issued : ∀ ticket ∈ coordinator.ledger, ticket < coordinator.tickets

theorem call_ledger (operation : Operation) :
    (coordinator.call operation).ledger = coordinator.ledger ++ [coordinator.tickets] := by
  unfold ledger call
  simp

theorem Launched.call (launched : Launched coordinator) (operation : Operation) :
    Launched (coordinator.call operation) where
  coherent := ⟨launched.coherent.running, launched.coherent.active⟩
  begun := launched.begun
  distinct := by
    rw [call_ledger]
    refine nodup_append.mpr ⟨launched.distinct, nodup_singleton _, ?_⟩
    rintro ticket mem other single rfl
    rw [mem_singleton.mp single] at mem
    exact Nat.lt_irrefl _ (launched.issued _ mem)
  issued := by
    rw [call_ledger]
    intro ticket mem
    rcases mem_append.mp mem with old | new
    · exact Nat.lt_succ_of_lt (launched.issued ticket old)
    · rw [mem_singleton.mp new]
      exact Nat.lt_succ_self _

/-- One internal step, with everything that does not depend on the call it serves. -/
structure Chained (coordinator : ManagedBrowserHandoffTransportCoordinator)
    (event : CoordinatorEvent) (last : ManagedBrowserHandoffTransportCoordinator) : Prop where
  launched : Launched last
  flow : Flow coordinator event last
  order : last.order = coordinator.order
  tickets : last.tickets = coordinator.tickets
  generation : coordinator.generation ≤ last.generation
  starts : (∀ index, coordinator.position ≠ .attempting index) →
    starts last.log = starts coordinator.log

theorem Launched.chained (launched : Launched coordinator) (internal : event.internal = true)
    (stepped : coordinator.next event = some last) : Chained coordinator event last := by
  have moved := next_moved launched.coherent stepped
  have onward := moved.move.onward launched.begun
  have flow := next_flow launched.coherent internal stepped
  have tickets := next_tickets internal stepped
  refine ⟨⟨moved.coherent, onward.begun, ?_, ?_⟩, flow, moved.order, tickets, onward.generation,
    onward.starts⟩
  · rw [flow.ledger_eq]
    exact launched.distinct
  · rw [flow.ledger_eq, tickets]
    exact launched.issued

theorem leaseOf_active {active : ActiveManagedTransport}
    (current : coordinator.active = some active) : coordinator.leaseOf = some active.lease := by
  unfold leaseOf
  rw [current]
  rfl

theorem Flow.queue_subset (flow : Flow coordinator event last) :
    ∀ entry ∈ last.queue, entry ∈ coordinator.queue := by
  intro entry mem
  cases flow with
  | apart _ queue | advances _ _ _ _ _ queue | settles _ _ _ _ _ queue => exact queue ▸ mem
  | begins _ _ rest _ _ queued _ queue | refused _ _ rest _ _ queued _ queue =>
      rw [queued, ← queue]
      exact .tail _ mem

/-- A lease that becomes active is the newest one. -/
theorem Chained.leaseOf (chained : Chained coordinator event last)
    {lease : ManagedBrowserHandoffTransportLease} (current : last.leaseOf = some lease) :
    coordinator.leaseOf = some lease ∨
      lease.generation = coordinator.generation + 1 ∧
        last.generation = coordinator.generation + 1 := by
  have same : last.active = coordinator.active → coordinator.leaseOf = some lease := by
    intro active
    rw [← current]
    exact (congrArg (Option.map _) active).symm
  have gone : last.active ≠ none := by
    intro inactive
    cases current.symm.trans (congrArg (Option.map _) inactive)
  cases chained.flow with
  | apart running queue outcomes active => exact .inl (same active)
  | begins ticket operation rest phase quiet queued running queue outcomes active =>
      exact .inl (same active)
  | refused ticket operation rest outcome quiet queued running queue outcomes active =>
      exact .inl (same active)
  | advances ticket phase next running queued queue outcomes kind held =>
      rcases held with active | inactive
      · exact .inl (same active)
      · exact absurd inactive gone
  | settles ticket phase outcome running queued queue outcomes leased released =>
      by_cases answered : ∃ next, outcome = .ok (some next)
      · obtain ⟨next, rfl⟩ := answered
        obtain ⟨_, _, fresh, generation, index, active⟩ := leased next rfl
        cases current.symm.trans (leaseOf_active active)
        exact .inr ⟨fresh, generation⟩
      · rcases released fun next no => answered ⟨next, no⟩ with inactive | ⟨_, active, _⟩
        · exact absurd inactive gone
        · exact .inl (same active)

/-- A running call that revokes the active driver, or any call waiting for one, starts nothing. -/
theorem not_attempting {index : Nat}
    (busy : ∀ call, coordinator.running = some call → call.2.withdrawing ≠ none) :
    coordinator.position ≠ .attempting index := by
  unfold position
  cases current : coordinator.running with
  | none =>
      dsimp only
      split
      · simp
      · split <;> simp
  | some call =>
      have withdrawing := busy call current
      obtain ⟨ticket, phase⟩ := call
      cases phase with
      | attempt => exact absurd rfl withdrawing
      | starting | failed | cleaning | blank | revoke | revoking => simp [Phase.position]

/-- A synchronous start that returns a lease leaves its driver active and nothing waiting. -/
theorem startSync_leased {plan : TransportPlan} {result : StartResult} {first second : LooseResult}
    {lease : ManagedBrowserHandoffTransportLease}
    (leased : (initial plan).startSyncOutcome result first second = .ok (some lease)) :
    Launched ((initial plan).startSync result first second) ∧
      ((initial plan).startSync result first second).running = none ∧
      ((initial plan).startSync result first second).queue = [] ∧
      ((initial plan).startSync result first second).leaseOf = some lease ∧
      lease.generation = ((initial plan).startSync result first second).generation := by
  cases result with
  | throws => cases leased
  | promise =>
      unfold startSyncOutcome at leased
      dsimp only at leased
      split at leased <;> cases leased
  | locator text =>
      by_cases empty : isBlank text = true
      · unfold startSyncOutcome at leased
        dsimp only at leased
        rw [if_pos empty] at leased
        split at leased <;> cases leased
      · have moved : Moved (initial plan) .begin
            ((initial plan).startSync (.locator text) first second) :=
          startSync_moved (initial_coherent plan) _ _ _
        have state : (initial plan).startSync (.locator text) first second =
            { ({ initial plan with tickets := 1, started := true }.logged (.start 0 1)).activated
                0 1 text with
              outcomes := [(0, .ok (some ⟨(initial plan).kindAt 0, 1, text⟩))] } := by
          simp only [startSync, startSyncState, startSyncOutcome, initial, if_neg empty]
          rfl
        have lease_eq : lease = ⟨(initial plan).kindAt 0, 1, text⟩ := by
          simp only [startSyncOutcome, startSyncState, if_neg empty] at leased
          cases leased
          rfl
        have coherent := moved.coherent
        rw [state] at coherent ⊢
        subst lease_eq
        refine ⟨⟨coherent, ?_, ?_, ?_⟩, rfl, rfl, rfl, rfl⟩
        · rw [position_serving rfl rfl]
          simp
        · exact nodup_singleton 0
        · intro ticket mem
          rw [mem_singleton.mp mem]
          exact Nat.zero_lt_one

theorem lookup_fresh {α : Type*} {entries : List (Nat × α)}
    (fresh : ticket ∉ entries.map Prod.fst) : entries.lookup ticket = none := by
  rw [lookup_eq_none_iff]
  intro entry mem
  apply bne_iff_ne.mpr
  rintro rfl
  exact fresh (mem_map_of_mem mem)

theorem Launched.queue_unsettled (launched : Launched coordinator)
    (queued : (ticket, operation) ∈ coordinator.queue) :
    coordinator.outcomes.lookup ticket = none := by
  apply lookup_fresh
  intro settled
  have distinct := launched.distinct
  unfold ledger at distinct
  exact (nodup_append.mp distinct).2.2 _ (mem_append_left _ settled) _
    (mem_map_of_mem queued) rfl

theorem Launched.running_unsettled (launched : Launched coordinator) {phase : Phase}
    (running : coordinator.running = some (ticket, phase)) :
    coordinator.outcomes.lookup ticket = none := by
  apply lookup_fresh
  intro settled
  have distinct := launched.distinct
  unfold ledger at distinct
  rw [running] at distinct
  exact (nodup_append.mp (nodup_append.mp distinct).1).2.2 _ settled _
    (mem_singleton_self _) rfl

theorem Launched.queue_issued (launched : Launched coordinator)
    (queued : (ticket, operation) ∈ coordinator.queue) : ticket < coordinator.tickets :=
  launched.issued ticket (mem_append_right _ (mem_map_of_mem queued))

theorem Launched.running_issued (launched : Launched coordinator) {phase : Phase}
    (running : coordinator.running = some (ticket, phase)) : ticket < coordinator.tickets := by
  apply launched.issued
  unfold ledger
  rw [running]
  exact mem_append_left _ (mem_append_right _ (mem_singleton_self _))

theorem Launched.outcome_issued (launched : Launched coordinator)
    {outcome : Except Failure (Option ManagedBrowserHandoffTransportLease)}
    (settled : coordinator.outcomes.lookup ticket = some outcome) :
    ticket < coordinator.tickets := by
  by_contra fresh
  have absent : ticket ∉ coordinator.outcomes.map Prod.fst := fun mem =>
    fresh (launched.issued ticket (mem_append_left _ (mem_append_left _ mem)))
  rw [lookup_fresh absent] at settled
  cases settled

theorem lookup_snoc {α : Type*} (entries : List (Nat × α)) (ticket other : Nat) (value : α) :
    (entries ++ [(ticket, value)]).lookup other =
      (entries.lookup other).or (if other = ticket then some value else none) := by
  rw [lookup_append]
  by_cases same : other = ticket
  · simp [same]
  · have different : (other == ticket) = false := by simpa using same
    simp [lookup_cons, same, different]

end ManagedBrowserHandoffTransportCoordinator

end ExecutionHandoff.Transport
