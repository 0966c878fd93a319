import ExecutionHandoff.Transport.Coordinator

/-!
# The life cycle behind the coordinator

Whatever call is running, the coordinator is in one of five positions: idle,
about to start a driver, started one, serving one, or finished.  Each step of
the coordinator is one move of that life cycle, and the move says what was
logged.  Invariants are proved on the moves.
-/

namespace ExecutionHandoff.Transport

open Library List

/-! ## The log of driver calls -/

/-- One entry's effect on the revokes that have been called and have not settled. -/
def trackRevoke (pending : List (Nat × Nat)) : DriverEvent → List (Nat × Nat)
  | .revoke call index => pending ++ [(call, index)]
  | .settled call index _ => pending.erase (call, index)
  | .start _ _ | .activated _ => pending

def pendingFrom (pending : List (Nat × Nat)) (log : List DriverEvent) : List (Nat × Nat) :=
  log.foldl trackRevoke pending

/-- The revokes a log leaves unsettled. -/
def pendingRevokes (log : List DriverEvent) : List (Nat × Nat) := pendingFrom [] log

theorem trackRevoke_perm {left right : List (Nat × Nat)} (same : left.Perm right)
    (entry : DriverEvent) : (trackRevoke left entry).Perm (trackRevoke right entry) := by
  cases entry with
  | revoke call index => exact same.append_right _
  | settled call index succeeded => exact same.erase _
  | start | activated => exact same

theorem pendingFrom_perm {left right : List (Nat × Nat)} (same : left.Perm right)
    (log : List DriverEvent) : (pendingFrom left log).Perm (pendingFrom right log) := by
  induction log generalizing left right with
  | nil => exact same
  | cons entry rest ih => exact ih (trackRevoke_perm same entry)

theorem pendingFrom_append (pending : List (Nat × Nat)) (early late : List DriverEvent) :
    pendingFrom pending (early ++ late) = pendingFrom (pendingFrom pending early) late :=
  foldl_append ..

theorem pendingRevokes_snoc (log : List DriverEvent) (entry : DriverEvent) :
    pendingRevokes (log ++ [entry]) = trackRevoke (pendingRevokes log) entry :=
  pendingFrom_append [] log [entry]

/-- A revoke that settles at once leaves nothing pending. -/
theorem erase_snoc_perm (pending : List (Nat × Nat)) (call : Nat × Nat) :
    ((pending ++ [call]).erase call).Perm pending := by
  have front : (pending ++ [call]).Perm (call :: pending) := perm_append_singleton call pending
  simpa using front.erase call

/-- The number of the revoke call being awaited, if any, is part of the position. -/
inductive Position where
  | idle
  | attempting (index : Nat)
  | launched (index : Nat) (awaited : Option Nat)
  | serving (active : ActiveManagedTransport) (awaited : Option Nat)
  | finished
  deriving DecidableEq

def Phase.position : Phase → Position
  | .attempt index _ => .attempting index
  | .starting index _ _ | .failed index _ _ | .blank index _ _ => .launched index none
  | .cleaning call index _ _ => .launched index (some call)
  | .revoke _ active => .serving active none
  | .revoking call _ active => .serving active (some call)

/-- The part of the coordinator its life cycle is about. -/
structure View where
  position : Position
  generation : Nat
  loose : List (Nat × Nat)
  log : List DriverEvent

namespace ManagedBrowserHandoffTransportCoordinator

variable {coordinator after : ManagedBrowserHandoffTransportCoordinator} {event : CoordinatorEvent}

def position (coordinator : ManagedBrowserHandoffTransportCoordinator) : Position :=
  match coordinator.running with
  | some call => call.2.position
  | none =>
      match coordinator.active with
      | some active => .serving active none
      | none => if coordinator.started then .finished else .idle

def view (coordinator : ManagedBrowserHandoffTransportCoordinator) : View :=
  ⟨coordinator.position, coordinator.generation, coordinator.loose, coordinator.log⟩

/-- A running call agrees with the fields: an attempt runs with nothing active and under the
next generation, a revoke runs on the active driver. -/
def PhaseCoherent (coordinator : ManagedBrowserHandoffTransportCoordinator) : Phase → Prop
  | .attempt _ _ => coordinator.active = none
  | .starting _ generation _ | .failed _ generation _ | .cleaning _ _ generation _
  | .blank _ generation _ =>
      coordinator.active = none ∧ generation = coordinator.generation + 1
  | .revoke _ active | .revoking _ _ active => coordinator.active = some active

structure Coherent (coordinator : ManagedBrowserHandoffTransportCoordinator) : Prop where
  running : ∀ ticket phase, coordinator.running = some (ticket, phase) →
    coordinator.started = true ∧ coordinator.PhaseCoherent phase
  active : ∀ active, coordinator.active = some active → coordinator.started = true

/-- A clean-up revoke in the fallback loop throws although a later transport is left. -/
def cleanupThrows (coordinator : ManagedBrowserHandoffTransportCoordinator)
    (event : CoordinatorEvent) : Bool :=
  match coordinator.running, event with
  | some (_, .failed index _ .loop), .invokeRevoke true =>
      decide (index + 1 < coordinator.order.length)
  | some (_, .blank index _ .loop), .looseRevoke .throws =>
      decide (index + 1 < coordinator.order.length)
  | _, _ => false

/-- The revoke after a blank locator in the fallback loop is left pending although a later
transport is left. -/
def cleanupOvertaken (coordinator : ManagedBrowserHandoffTransportCoordinator)
    (event : CoordinatorEvent) : Bool :=
  match coordinator.running, event with
  | some (_, .blank index _ .loop), .looseRevoke .pending =>
      decide (index + 1 < coordinator.order.length)
  | _, _ => false

/-- Where an attempt of the driver at `index` leads when it fails. -/
inductive Ending (length index : Nat) : Position → Prop where
  | next (more : index + 1 < length) : Ending length index (.attempting (index + 1))
  | finished : Ending length index .finished

/-- The clean-ups of a failed synchronous start: revokes of its driver, the unsettled of which
are loose. -/
structure Cleanup (before : List (Nat × Nat)) (suffix : List DriverEvent)
    (loose : List (Nat × Nat)) : Prop where
  shape : ∀ entry ∈ suffix, (∃ call, entry = .revoke call 0) ∨
    ∃ call succeeded, entry = .settled call 0 succeeded
  pending : (pendingFrom before suffix).Perm loose

/-- One step of the coordinator, as a move of its life cycle. -/
inductive Move (coordinator : ManagedBrowserHandoffTransportCoordinator)
    (event : CoordinatorEvent) : View → Prop where
  | stay : Move coordinator event coordinator.view
  | first (idle : coordinator.position = .idle) :
      Move coordinator event { coordinator.view with position := .attempting 0 }
  | invoke (index : Nat) (attempting : coordinator.position = .attempting index) :
      Move coordinator event
        { coordinator.view with
          position := .launched index none
          log := coordinator.log ++ [.start index (coordinator.generation + 1)] }
  | activate (index : Nat) (locator : String)
      (launched : coordinator.position = .launched index none) :
      Move coordinator event
        { coordinator.view with
          position := .serving ⟨index,
            ⟨coordinator.kindAt index, coordinator.generation + 1, locator⟩⟩ none
          generation := coordinator.generation + 1
          log := coordinator.log ++ [.activated index] }
  | clean (index call : Nat) (launched : coordinator.position = .launched index none) :
      Move coordinator event
        { coordinator.view with
          position := .launched index (some call)
          log := coordinator.log ++ [.revoke call index] }
  | cleaned (index call : Nat) (succeeded : Bool) (position : Position)
      (launched : coordinator.position = .launched index (some call))
      (ending : Ending coordinator.order.length index position) :
      Move coordinator event
        { coordinator.view with
          position
          generation := coordinator.generation + 1
          log := coordinator.log ++ [.settled call index succeeded] }
  | cleanedAtOnce (index call : Nat) (succeeded : Bool) (position : Position)
      (launched : coordinator.position = .launched index none)
      (ending : Ending coordinator.order.length index position) :
      Move coordinator event
        { coordinator.view with
          position
          generation := coordinator.generation + 1
          log := coordinator.log ++ [.revoke call index] ++ [.settled call index succeeded] }
  | threw (index call : Nat) (position : Position)
      (launched : coordinator.position = .launched index none)
      (ending : Ending coordinator.order.length index position)
      (cause : position = .finished ∨ coordinator.cleanupThrows event = true) :
      Move coordinator event
        { coordinator.view with
          position
          log := coordinator.log ++ [.revoke call index] ++ [.settled call index false] }
  | overlooked (index call : Nat) (position : Position)
      (launched : coordinator.position = .launched index none)
      (ending : Ending coordinator.order.length index position)
      (cause : position = .finished ∨ coordinator.cleanupOvertaken event = true) :
      Move coordinator event
        { position
          generation := coordinator.generation + 1
          loose := coordinator.loose ++ [(call, index)]
          log := coordinator.log ++ [.revoke call index] }
  | withdraw (active : ActiveManagedTransport) (call : Nat)
      (serving : coordinator.position = .serving active none) :
      Move coordinator event
        { coordinator.view with
          position := .serving active (some call)
          log := coordinator.log ++ [.revoke call active.index] }
  | refusedAtOnce (active : ActiveManagedTransport) (call : Nat)
      (serving : coordinator.position = .serving active none) :
      Move coordinator event
        { coordinator.view with
          position := .serving active none
          log := coordinator.log ++ [.revoke call active.index] ++
            [.settled call active.index false] }
  | refused (active : ActiveManagedTransport) (call : Nat)
      (serving : coordinator.position = .serving active (some call)) :
      Move coordinator event
        { coordinator.view with
          position := .serving active none
          log := coordinator.log ++ [.settled call active.index false] }
  | withdrawn (active : ActiveManagedTransport) (call : Nat) (position : Position)
      (generation : Nat) (serving : coordinator.position = .serving active (some call))
      (ending : Ending coordinator.order.length active.index position)
      (stored : coordinator.generation ≤ generation) :
      Move coordinator event
        { coordinator.view with
          position
          generation
          log := coordinator.log ++ [.settled call active.index true] }
  | looseSettled (call index : Nat) (succeeded : Bool)
      (pending : (call, index) ∈ coordinator.loose) :
      Move coordinator event
        { coordinator.view with
          loose := coordinator.loose.erase (call, index)
          log := coordinator.log ++ [.settled call index succeeded] }
  | activateSync (locator : String) (idle : coordinator.position = .idle) :
      Move coordinator event
        { coordinator.view with
          position := .serving ⟨0, ⟨coordinator.kindAt 0, coordinator.generation + 1, locator⟩⟩
            none
          generation := coordinator.generation + 1
          log := coordinator.log ++ [.start 0 (coordinator.generation + 1)] ++ [.activated 0] }
  | failSync (suffix : List DriverEvent) (loose : List (Nat × Nat)) (generation : Nat)
      (idle : coordinator.position = .idle)
      (cleanup : Cleanup coordinator.loose suffix loose) :
      Move coordinator event
        { position := .finished
          generation
          loose
          log := coordinator.log ++ [.start 0 (coordinator.generation + 1)] ++ suffix }

/-! ## Every step is a move -/

/-- A step keeps the plan and the coherence, and is one move. -/
structure Moved (coordinator : ManagedBrowserHandoffTransportCoordinator)
    (event : CoordinatorEvent) (after : ManagedBrowserHandoffTransportCoordinator) : Prop where
  coherent : Coherent after
  order : after.order = coordinator.order
  move : Move coordinator event after.view

theorem initial_coherent (plan : TransportPlan) : Coherent (initial plan) :=
  ⟨fun _ _ no => (nomatch no), fun _ no => (nomatch no)⟩

theorem Coherent.settle (coherent : Coherent coordinator) (ticket : Nat)
    (outcome : Except Failure (Option ManagedBrowserHandoffTransportLease)) :
    Coherent (coordinator.settle ticket outcome) :=
  ⟨fun _ _ no => (nomatch no), coherent.active⟩

theorem coherent_enter (coordinator : ManagedBrowserHandoffTransportCoordinator)
    (started : coordinator.started = true) (ticket : Nat) {phase : Phase}
    (agrees : coordinator.PhaseCoherent phase) : Coherent (coordinator.enter ticket phase) := by
  refine ⟨?_, fun _ _ => started⟩
  rintro _ _ ⟨⟩
  exact ⟨started, agrees⟩

theorem position_serving {active : ActiveManagedTransport} (quiet : coordinator.running = none)
    (current : coordinator.active = some active) : coordinator.position = .serving active none := by
  unfold position
  rw [quiet, current]

theorem position_finished (started : coordinator.started = true)
    (quiet : coordinator.running = none) (inactive : coordinator.active = none) :
    coordinator.position = .finished := by
  unfold position
  rw [quiet, inactive, started]
  rfl

theorem view_serving (coordinator : ManagedBrowserHandoffTransportCoordinator)
    {active : ActiveManagedTransport} (quiet : coordinator.running = none)
    (current : coordinator.active = some active) :
    coordinator.view =
      ⟨.serving active none, coordinator.generation, coordinator.loose, coordinator.log⟩ := by
  unfold view
  rw [position_serving quiet current]

/-- A failed attempt ends in a position `Ending` allows, and nothing else changes. -/
theorem afterFailure_moved (started : coordinator.started = true)
    (inactive : coordinator.active = none) (ticket index : Nat) (failure : Failure) (mode : Mode) :
    ∃ position, Ending coordinator.order.length index position ∧
      (position = .finished ∨ mode = .loop ∧ index + 1 < coordinator.order.length) ∧
      (coordinator.afterFailure ticket index failure mode).view =
        { coordinator.view with position } ∧
      Coherent (coordinator.afterFailure ticket index failure mode) ∧
      (coordinator.afterFailure ticket index failure mode).order = coordinator.order := by
  have settled : ∀ outcome, (coordinator.settle ticket outcome).view =
      { coordinator.view with position := .finished } := by
    intro outcome
    unfold view
    rw [show (coordinator.settle ticket outcome).position = .finished from
      position_finished started rfl inactive]
    rfl
  have quiet : ∀ outcome, Coherent (coordinator.settle ticket outcome) := fun outcome =>
    ⟨fun _ _ no => (nomatch no), fun _ _ => started⟩
  cases mode with
  | single => exact ⟨.finished, .finished, .inl rfl, settled _, quiet _, rfl⟩
  | loop =>
      by_cases more : index + 1 < coordinator.order.length
      · rw [show coordinator.afterFailure ticket index failure .loop = _ from if_pos more]
        exact ⟨.attempting (index + 1), .next more, .inr ⟨rfl, more⟩, rfl,
          coherent_enter _ (by exact started) ticket (by exact inactive), rfl⟩
      · rw [show coordinator.afterFailure ticket index failure .loop = _ from if_neg more]
        exact ⟨.finished, .finished, .inl rfl, settled _, quiet _, rfl⟩

/-- After the active driver is revoked the next attempt follows, or nothing does. -/
theorem afterRevoke_moved (coordinator : ManagedBrowserHandoffTransportCoordinator)
    (started : coordinator.started = true) (ticket : Nat)
    (purpose : Purpose) (active : ActiveManagedTransport) :
    ∃ position generation, Ending coordinator.order.length active.index position ∧
      coordinator.generation ≤ generation ∧
      (coordinator.afterRevoke ticket purpose active).view =
        { coordinator.view with position, generation } ∧
      Coherent (coordinator.afterRevoke ticket purpose active) ∧
      (coordinator.afterRevoke ticket purpose active).order = coordinator.order := by
  have finished : ∀ next : ManagedBrowserHandoffTransportCoordinator, next.started = true →
      next.running = none → next.active = none → next.position = .finished ∧ Coherent next := by
    intro next begun quiet inactive
    exact ⟨position_finished begun quiet inactive,
      ⟨fun _ _ no => absurd (quiet.symm.trans no) (by simp), fun _ _ => begun⟩⟩
  have ended : ∀ next : ManagedBrowserHandoffTransportCoordinator, next.started = true →
      next.running = none → next.active = none → next.loose = coordinator.loose →
      next.log = coordinator.log → next.generation = coordinator.generation + 1 →
      next.order = coordinator.order →
      ∃ position generation, Ending coordinator.order.length active.index position ∧
        coordinator.generation ≤ generation ∧
        next.view = { coordinator.view with position, generation } ∧ Coherent next ∧
        next.order = coordinator.order := by
    intro next begun quiet inactive loose log generation order
    obtain ⟨position, coherent⟩ := finished next begun quiet inactive
    refine ⟨.finished, coordinator.generation + 1, .finished, Nat.le_succ _, ?_, coherent, order⟩
    unfold view
    rw [position, loose, log, generation]
  cases purpose with
  | revoke => exact ended _ started rfl rfl rfl rfl rfl rfl
  | advance =>
      unfold afterRevoke
      dsimp only
      split
      · exact ended _ started rfl rfl rfl rfl rfl rfl
      · rename_i more
        exact ⟨.attempting (active.index + 1), coordinator.generation, .next (by omega),
          Nat.le_refl _, rfl, coherent_enter _ (by exact started) ticket (by rfl), rfl⟩
  | fallback reason =>
      unfold afterRevoke
      dsimp only
      split
      · exact ended _ started rfl rfl rfl rfl rfl rfl
      · rename_i more
        exact ⟨.attempting (active.index + 1), coordinator.generation, .next (by omega),
          Nat.le_refl _, rfl, coherent_enter _ (by exact started) ticket (by rfl), rfl⟩

theorem assertActive_ok {lease : ManagedBrowserHandoffTransportLease}
    {active : ActiveManagedTransport} (passed : coordinator.assertActive lease = .ok active) :
    coordinator.active = some active ∧ active.lease.transport = lease.transport ∧
      active.lease.generation = lease.generation := by
  unfold assertActive at passed
  split at passed
  · cases passed
  · split at passed
    · cases passed
    · rename_i current same
      cases passed
      exact ⟨current, not_not.mp (not_or.mp same).1, not_not.mp (not_or.mp same).2⟩

theorem settle_view (quiet : coordinator.running = none) (ticket : Nat)
    (outcome : Except Failure (Option ManagedBrowserHandoffTransportLease)) :
    (coordinator.settle ticket outcome).view = coordinator.view := by
  unfold view position
  rw [quiet]
  rfl

/-- Beginning a call keeps the view, except that the first start leaves the idle position. -/
structure Began (coordinator after : ManagedBrowserHandoffTransportCoordinator) : Prop where
  coherent : Coherent after
  order : after.order = coordinator.order
  view : after.view = coordinator.view ∨
    coordinator.position = .idle ∧
      after.view = { coordinator.view with position := .attempting 0 }

theorem began_settle (coherent : Coherent coordinator) (quiet : coordinator.running = none)
    (ticket : Nat) (outcome : Except Failure (Option ManagedBrowserHandoffTransportLease)) :
    Began coordinator (coordinator.settle ticket outcome) :=
  ⟨coherent.settle ticket outcome, rfl, .inl (settle_view quiet ticket outcome)⟩

theorem began_revoke (coherent : Coherent coordinator) (quiet : coordinator.running = none)
    (ticket : Nat) (purpose : Purpose) {active : ActiveManagedTransport}
    (current : coordinator.active = some active) :
    Began coordinator (coordinator.enter ticket (.revoke purpose active)) := by
  refine ⟨coherent_enter _ (coherent.active active current) ticket current, rfl, .inl ?_⟩
  unfold view
  rw [position_serving quiet current]
  rfl

theorem position_idle (coherent : Coherent coordinator) (fresh : ¬ coordinator.started = true) :
    coordinator.running = none ∧ coordinator.active = none ∧ coordinator.position = .idle := by
  have quiet : coordinator.running = none := by
    cases current : coordinator.running with
    | none => rfl
    | some call => exact absurd (coherent.running call.1 call.2 current).1 fresh
  have inactive : coordinator.active = none := by
    cases current : coordinator.active with
    | none => rfl
    | some active => exact absurd (coherent.active active current) fresh
  refine ⟨quiet, inactive, ?_⟩
  unfold position
  rw [quiet, inactive]
  exact if_neg fresh

theorem beginOperation_began (coherent : Coherent coordinator)
    (quiet : coordinator.running = none) (ticket : Nat) (operation : Operation) :
    Began coordinator (coordinator.beginOperation ticket operation) := by
  cases operation with
  | start =>
      by_cases begun : coordinator.started = true
      · rw [show coordinator.beginOperation ticket .start = _ from if_pos begun]
        exact began_settle coherent quiet ticket _
      · rw [show coordinator.beginOperation ticket .start = _ from if_neg begun]
        obtain ⟨_, inactive, idle⟩ := position_idle coherent begun
        exact ⟨coherent_enter _ rfl ticket inactive, rfl, .inr ⟨idle, rfl⟩⟩
  | advance lease =>
      cases checked : coordinator.assertActive lease with
      | error error =>
          rw [show coordinator.beginOperation ticket (.advance lease) =
            coordinator.settle ticket (.error (.coordinator error)) by
            rw [beginOperation, checked]]
          exact began_settle coherent quiet ticket _
      | ok active =>
          rw [show coordinator.beginOperation ticket (.advance lease) =
            coordinator.enter ticket (.revoke .advance active) by rw [beginOperation, checked]]
          exact began_revoke coherent quiet ticket _ (assertActive_ok checked).1
  | fallback lease reason =>
      cases checked : coordinator.assertActive lease with
      | error error =>
          rw [show coordinator.beginOperation ticket (.fallback lease reason) =
            coordinator.settle ticket (.error (.coordinator error)) by
            rw [beginOperation, checked]]
          exact began_settle coherent quiet ticket _
      | ok active =>
          rw [show coordinator.beginOperation ticket (.fallback lease reason) =
            coordinator.enter ticket (.revoke (.fallback reason) active) by
            rw [beginOperation, checked]]
          exact began_revoke coherent quiet ticket _ (assertActive_ok checked).1
  | revoke lease =>
      rw [beginOperation]
      split
      · exact began_settle coherent quiet ticket _
      · rename_i current
        split
        · exact began_settle coherent quiet ticket _
        · exact began_revoke coherent quiet ticket _ current

/-- A failed start cleans up: only its driver's revokes are logged, and nothing runs. -/
structure CleanedUp (coordinator after : ManagedBrowserHandoffTransportCoordinator)
    (suffix : List DriverEvent) : Prop where
  log : after.log = coordinator.log ++ suffix
  cleanup : Cleanup coordinator.loose suffix after.loose
  running : after.running = coordinator.running
  active : after.active = coordinator.active
  started : after.started = coordinator.started
  order : after.order = coordinator.order

theorem CleanedUp.trans {middle : ManagedBrowserHandoffTransportCoordinator}
    {early late : List DriverEvent} (left : CleanedUp coordinator middle early)
    (right : CleanedUp middle after late) : CleanedUp coordinator after (early ++ late) where
  log := by rw [right.log, left.log, append_assoc]
  cleanup := by
    refine ⟨?_, ?_⟩
    · intro entry mem
      rcases mem_append.mp mem with before | later
      · exact left.cleanup.shape entry before
      · exact right.cleanup.shape entry later
    · rw [pendingFrom_append]
      exact (pendingFrom_perm left.cleanup.pending late).trans right.cleanup.pending
  running := right.running.trans left.running
  active := right.active.trans left.active
  started := right.started.trans left.started
  order := right.order.trans left.order

theorem callLoose_cleanedUp (coordinator : ManagedBrowserHandoffTransportCoordinator)
    (generation : Nat) (result : LooseResult) :
    ∃ suffix, CleanedUp coordinator (coordinator.callLoose 0 generation result) suffix := by
  have settledAtOnce : ∀ succeeded, Cleanup coordinator.loose
      [.revoke coordinator.revokes 0, .settled coordinator.revokes 0 succeeded]
      coordinator.loose := by
    intro succeeded
    refine ⟨?_, erase_snoc_perm coordinator.loose _⟩
    intro entry mem
    rcases mem_pair.mp mem with rfl | rfl
    · exact .inl ⟨_, rfl⟩
    · exact .inr ⟨_, _, rfl⟩
  cases result with
  | throws =>
      exact ⟨_, append_assoc .., settledAtOnce false, rfl, rfl, rfl, rfl⟩
  | settled succeeded =>
      exact ⟨_, append_assoc .., settledAtOnce succeeded, rfl, rfl, rfl, rfl⟩
  | pending =>
      refine ⟨[.revoke coordinator.revokes 0], rfl, ⟨?_, .refl _⟩, rfl, rfl, rfl, rfl⟩
      intro entry mem
      exact .inl ⟨_, mem_singleton.mp mem⟩

theorem startSync_moved (coherent : Coherent coordinator) (result : StartResult)
    (first second : LooseResult) :
    Moved coordinator event (coordinator.startSync result first second) := by
  by_cases begun : coordinator.started = true
  · rw [show coordinator.startSync result first second = _ from if_pos begun]
    exact ⟨⟨coherent.running, coherent.active⟩, rfl, .stay⟩
  · rw [show coordinator.startSync result first second = _ from if_neg begun]
    obtain ⟨quiet, inactive, idle⟩ := position_idle coherent begun
    have failed : ∀ next outcomes suffix,
        CleanedUp ({ coordinator with
          tickets := coordinator.tickets + 1, started := true }.logged
            (.start 0 (coordinator.generation + 1))) next suffix →
        Moved coordinator event { next with outcomes } := by
      intro next outcomes suffix cleaned
      have stopped : next.running = none := cleaned.running.trans quiet
      have begun' : next.started = true := cleaned.started
      have finished : next.position = .finished :=
        position_finished begun' stopped (cleaned.active.trans inactive)
      refine ⟨⟨fun _ _ no => absurd (stopped.symm.trans no) (by simp), fun _ _ => begun'⟩,
        cleaned.order, ?_⟩
      have same : ({ next with outcomes } : ManagedBrowserHandoffTransportCoordinator).view =
          ⟨.finished, next.generation, next.loose,
            coordinator.log ++ [.start 0 (coordinator.generation + 1)] ++ suffix⟩ := by
        rw [← finished, ← show next.log = coordinator.log ++ _ ++ suffix from cleaned.log]
        rfl
      rw [same]
      exact .failSync suffix next.loose next.generation idle cleaned.cleanup
    cases result with
    | throws =>
        obtain ⟨suffix, cleaned⟩ := callLoose_cleanedUp _ (coordinator.generation + 1) first
        exact failed _ _ suffix cleaned
    | promise =>
        obtain ⟨early, cleaned⟩ := callLoose_cleanedUp _ (coordinator.generation + 1) first
        obtain ⟨late, cleanedAgain⟩ := callLoose_cleanedUp _ (coordinator.generation + 1) second
        exact failed _ _ _ (cleaned.trans cleanedAgain)
    | locator text =>
        by_cases empty : isBlank text = true
        · obtain ⟨suffix, cleaned⟩ := callLoose_cleanedUp _ (coordinator.generation + 1) first
          have same : ({ coordinator with tickets := coordinator.tickets + 1 } :
              ManagedBrowserHandoffTransportCoordinator).startSyncState (.locator text) first
                second = _ := if_pos empty
          rw [same]
          exact failed _ _ suffix cleaned
        · have same : ({ coordinator with tickets := coordinator.tickets + 1 } :
              ManagedBrowserHandoffTransportCoordinator).startSyncState (.locator text) first
                second = _ := if_neg empty
          rw [same]
          refine ⟨⟨fun _ _ no => absurd (quiet.symm.trans no) (by simp), fun _ _ => rfl⟩, rfl, ?_⟩
          have serving : ∀ outcomes, ({ { { coordinator with
                tickets := coordinator.tickets + 1, started := true }.logged
                  (.start 0 (coordinator.generation + 1)) with }.activated 0
                    (coordinator.generation + 1) text with outcomes } :
              ManagedBrowserHandoffTransportCoordinator).view =
              { coordinator.view with
                position := .serving ⟨0, ⟨coordinator.kindAt 0, coordinator.generation + 1, text⟩⟩
                  none
                generation := coordinator.generation + 1
                log := coordinator.log ++ [.start 0 (coordinator.generation + 1)] ++
                  [.activated 0] } := by
            intro outcomes
            exact view_serving _ quiet rfl
          rw [serving]
          exact .activateSync text idle

theorem position_running {ticket : Nat} {phase : Phase}
    (current : coordinator.running = some (ticket, phase)) :
    coordinator.position = phase.position := by
  unfold position
  rw [current]

/-- A step that leaves its call in a phase. -/
theorem moved_enter (base : ManagedBrowserHandoffTransportCoordinator) (ticket : Nat)
    (phase : Phase) (started : base.started = true) (fits : base.PhaseCoherent phase)
    (order : base.order = coordinator.order)
    (move : Move coordinator event ⟨phase.position, base.generation, base.loose, base.log⟩) :
    Moved coordinator event (base.enter ticket phase) :=
  ⟨coherent_enter base started ticket fits, order, move⟩

/-- A step that ends its call with a driver active. -/
theorem moved_settle (base : ManagedBrowserHandoffTransportCoordinator) (ticket : Nat)
    (outcome : Except Failure (Option ManagedBrowserHandoffTransportLease))
    {active : ActiveManagedTransport} (started : base.started = true)
    (current : base.active = some active) (order : base.order = coordinator.order)
    (move : Move coordinator event
      ⟨.serving active none, base.generation, base.loose, base.log⟩) :
    Moved coordinator event (base.settle ticket outcome) := by
  refine ⟨⟨fun _ _ no => (nomatch no), fun _ _ => started⟩, order, ?_⟩
  rw [view_serving (base.settle ticket outcome) rfl current]
  exact move

/-- A step that ends an attempt without a driver. -/
theorem moved_afterFailure (base : ManagedBrowserHandoffTransportCoordinator)
    (ticket index : Nat) (failure : Failure) (mode : Mode) (started : base.started = true)
    (inactive : base.active = none) (order : base.order = coordinator.order)
    (move : ∀ position, Ending coordinator.order.length index position →
      (position = .finished ∨ mode = .loop ∧ index + 1 < coordinator.order.length) →
      Move coordinator event ⟨position, base.generation, base.loose, base.log⟩) :
    Moved coordinator event (base.afterFailure ticket index failure mode) := by
  obtain ⟨position, ending, cause, view, coherent, order'⟩ :=
    afterFailure_moved started inactive ticket index failure mode
  refine ⟨coherent, order'.trans order, ?_⟩
  rw [view]
  exact move position (order ▸ ending) (order ▸ cause)

/-- The events of the running call. -/
theorem resume_moved (coherent : Coherent coordinator) {ticket : Nat} {phase : Phase}
    (current : coordinator.running = some (ticket, phase))
    (stepped : coordinator.resume ticket phase event = some after) :
    Moved coordinator event after := by
  have position := position_running current
  have stay : ∀ phase' : Phase, phase'.position = phase.position →
      Move coordinator event
        ⟨phase'.position, coordinator.generation, coordinator.loose, coordinator.log⟩ := by
    intro phase' same
    rw [same, ← position]
    exact .stay
  obtain ⟨started, agrees⟩ := coherent.running ticket phase current
  cases event with
  | invokeStart throws =>
      cases phase with
      | attempt index mode =>
          cases throws with
          | true =>
              cases stepped
              exact moved_enter _ ticket (.failed index _ mode) started ⟨agrees, rfl⟩ rfl
                (.invoke index position)
          | false =>
              cases stepped
              exact moved_enter _ ticket (.starting index _ mode) started ⟨agrees, rfl⟩ rfl
                (.invoke index position)
      | _ => cases stepped
  | startSettled result =>
      cases phase with
      | starting index generation mode =>
          cases result with
          | none =>
              cases stepped
              exact moved_enter coordinator ticket (.failed index generation mode) started agrees
                rfl (stay _ rfl)
          | some locator =>
              obtain ⟨inactive, rfl⟩ := agrees
              by_cases empty : isBlank locator = true
              · rw [resume, if_pos empty] at stepped
                cases stepped
                exact moved_enter coordinator ticket (.blank index _ mode) started
                  ⟨inactive, rfl⟩ rfl (stay _ rfl)
              · rw [resume, if_neg empty] at stepped
                cases stepped
                exact moved_settle _ ticket _ started rfl rfl (.activate index locator position)
      | _ => cases stepped
  | invokeRevoke throws =>
      cases phase with
      | failed index generation mode =>
          cases throws with
          | true =>
              cases stepped
              refine moved_afterFailure _ ticket index .driver mode started agrees.1 rfl ?_
              intro ended ending cause
              refine .threw index coordinator.revokes ended position ending ?_
              rcases cause with ended | ⟨rfl, more⟩
              · exact .inl ended
              · exact .inr (by simpa [cleanupThrows, current] using more)
          | false =>
              cases stepped
              exact moved_enter _ ticket (.cleaning _ index generation mode) started agrees rfl
                (.clean index _ position)
      | revoke purpose active =>
          cases throws with
          | true =>
              cases stepped
              refine moved_settle _ ticket _ started agrees rfl ?_
              exact .refusedAtOnce active coordinator.revokes position
          | false =>
              cases stepped
              exact moved_enter _ ticket (.revoking _ purpose active) started agrees rfl
                (.withdraw active _ position)
      | _ => cases stepped
  | revokeSettled succeeded =>
      cases phase with
      | cleaning call index generation mode =>
          cases stepped
          obtain ⟨inactive, rfl⟩ := agrees
          refine moved_afterFailure _ ticket index .driver mode started inactive rfl ?_
          intro ended ending _
          exact .cleaned index call succeeded ended position ending
      | revoking call purpose active =>
          cases succeeded with
          | true =>
              cases stepped
              obtain ⟨ended, generation, ending, stored, view, coherent', order⟩ :=
                afterRevoke_moved (coordinator.logged (.settled call active.index true)) started
                  ticket purpose active
              refine ⟨coherent', order, ?_⟩
              rw [view]
              exact .withdrawn active call ended generation position ending stored
          | false =>
              cases stepped
              exact moved_settle _ ticket _ started agrees rfl (.refused active call position)
      | _ => cases stepped
  | looseRevoke result =>
      cases phase with
      | blank index generation mode =>
          cases stepped
          obtain ⟨inactive, rfl⟩ := agrees
          cases result with
          | throws =>
              refine moved_afterFailure _ ticket index _ mode started inactive rfl ?_
              intro ended ending cause
              refine .threw index coordinator.revokes ended position ending ?_
              rcases cause with ended | ⟨rfl, more⟩
              · exact .inl ended
              · exact .inr (by simpa [cleanupThrows, current] using more)
          | settled succeeded =>
              refine moved_afterFailure _ ticket index _ mode started inactive rfl ?_
              intro ended ending cause
              exact .cleanedAtOnce index coordinator.revokes succeeded ended position ending
          | pending =>
              refine moved_afterFailure _ ticket index _ mode started inactive rfl ?_
              intro ended ending cause
              refine .overlooked index coordinator.revokes ended position ending ?_
              rcases cause with ended | ⟨rfl, more⟩
              · exact .inl ended
              · exact .inr (by simpa [cleanupOvertaken, current] using more)
      | _ => cases stepped
  | call | begin | startSync | looseSettled => cases stepped

/-- Every step of the coordinator is a move of its life cycle. -/
theorem next_moved (coherent : Coherent coordinator)
    (stepped : coordinator.next event = some after) : Moved coordinator event after := by
  cases event with
  | call operation =>
      cases stepped
      exact ⟨⟨coherent.running, coherent.active⟩, rfl, .stay⟩
  | begin =>
      rw [next] at stepped
      split at stepped
      · rename_i ticket operation rest quiet queued
        cases stepped
        have began := @beginOperation_began { coordinator with queue := rest }
          ⟨coherent.running, coherent.active⟩ quiet ticket operation
        refine ⟨began.coherent, began.order, ?_⟩
        rcases began.view with same | ⟨idle, first⟩
        · rw [same]
          exact .stay
        · rw [first]
          exact .first idle
      · cases stepped
  | startSync result first second =>
      cases stepped
      exact startSync_moved coherent result first second
  | looseSettled call index succeeded =>
      rw [next] at stepped
      split at stepped
      · rename_i pending
        cases stepped
        exact ⟨⟨coherent.running, coherent.active⟩, rfl, .looseSettled call index succeeded pending⟩
      · cases stepped
  | invokeStart | startSettled | invokeRevoke | revokeSettled | looseRevoke =>
      cases current : coordinator.running with
      | none => simp only [next, current, reduceCtorEq] at stepped
      | some call =>
          simp only [next, current] at stepped
          exact resume_moved coherent current stepped

end ManagedBrowserHandoffTransportCoordinator

end ExecutionHandoff.Transport
