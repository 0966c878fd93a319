import ExecutionHandoff.Transport.CoordinatorMoves

/-!
# Revoke before start

A driver is started only when every revoke called before has settled, and at
most one driver is active.  The one way to miss this is the blank locator in the
fallback loop, whose clean-up nobody awaits before the loop goes on.
-/

namespace ExecutionHandoff.Transport

open Library List

/-- Wherever the log starts a driver, every revoke called before has settled. -/
def RevokeBeforeStart (log : List DriverEvent) : Prop :=
  ∀ before index generation rest, log = before ++ .start index generation :: rest →
    pendingRevokes before = []

/-- A driver is active from its accepted locator until one of its revokes succeeds. -/
def trackActive (active : List Nat) : DriverEvent → List Nat
  | .activated index => active ++ [index]
  | .settled _ index true => active.filter (· ≠ index)
  | _ => active

def activeDrivers (log : List DriverEvent) : List Nat := log.foldl trackActive []

theorem activeDrivers_snoc (log : List DriverEvent) (entry : DriverEvent) :
    activeDrivers (log ++ [entry]) = trackActive (activeDrivers log) entry :=
  foldl_append ..

/-- Appending an entry keeps the order unless it is a start with a revoke pending. -/
theorem RevokeBeforeStart.snoc {log : List DriverEvent} {entry : DriverEvent}
    (ordered : RevokeBeforeStart log)
    (allowed : ∀ index generation, entry = .start index generation → pendingRevokes log = []) :
    RevokeBeforeStart (log ++ [entry]) := by
  intro before index generation rest split
  rcases eq_nil_or_concat rest with rfl | ⟨front, final, rfl⟩
  · obtain ⟨rfl, same⟩ := append_inj' split rfl
    exact allowed index generation (singleton_inj.mp same)
  · have longer : log ++ [entry] = before ++ .start index generation :: front ++ [final] := by
      simpa using split
    obtain ⟨shorter, _⟩ := append_inj' longer rfl
    exact ordered before index generation front shorter

theorem RevokeBeforeStart.append {log suffix : List DriverEvent}
    (ordered : RevokeBeforeStart log)
    (quiet : ∀ entry ∈ suffix, ∀ index generation, entry ≠ .start index generation) :
    RevokeBeforeStart (log ++ suffix) := by
  induction suffix generalizing log with
  | nil => rwa [append_nil]
  | cons entry rest ih =>
      rw [append_cons]
      refine ih (ordered.snoc fun index generation start => ?_) fun later mem =>
        quiet later (.tail _ mem)
      exact absurd start (quiet entry (.head _) index generation)

namespace Position

/-- The awaited revoke call of a position. -/
def awaited : Position → List (Nat × Nat)
  | .launched index (some call) => [(call, index)]
  | .serving active (some call) => [(call, active.index)]
  | _ => []

/-- The driver a position serves. -/
def served : Position → List Nat
  | .serving active _ => [active.index]
  | _ => []

end Position

/-- A view whose log is in order and agrees with its position. -/
structure Orderly (view : View) : Prop where
  pending : (pendingRevokes view.log).Perm (view.position.awaited ++ view.loose)
  stranded : view.loose ≠ [] → view.position = .finished
  fresh : view.position = .idle → view.log = []
  active : activeDrivers view.log = view.position.served
  ordered : RevokeBeforeStart view.log

theorem Orderly.not_stranded {view : View} (orderly : Orderly view)
    (unfinished : view.position ≠ .finished) : view.loose = [] := by
  by_contra stranded
  exact unfinished (orderly.stranded stranded)

/-- An entry that is not a start, at a position that is not idle. -/
theorem Orderly.snoc {view : View} (orderly : Orderly view) {position : Position}
    {generation : Nat} {loose : List (Nat × Nat)} {entry : DriverEvent}
    (notStart : ∀ index generation, entry ≠ .start index generation) (begun : position ≠ .idle)
    (pending : (trackRevoke (pendingRevokes view.log) entry).Perm (position.awaited ++ loose))
    (active : trackActive (activeDrivers view.log) entry = position.served)
    (stranded : loose ≠ [] → position = .finished) :
    Orderly ⟨position, generation, loose, view.log ++ [entry]⟩ where
  pending := by
    rw [pendingRevokes_snoc]
    exact pending
  stranded := stranded
  fresh := fun idle => absurd idle begun
  active := by
    rw [activeDrivers_snoc]
    exact active
  ordered := orderly.ordered.snoc fun index generation start =>
    absurd start (notStart index generation)

theorem Position.awaited_cases (position : Position) :
    position.awaited = [] ∨ ∃ call, position.awaited = [call] := by
  cases position with
  | launched index awaited =>
      cases awaited with
      | none => exact .inl rfl
      | some call => exact .inr ⟨(call, index), rfl⟩
  | serving active awaited =>
      cases awaited with
      | none => exact .inl rfl
      | some call => exact .inr ⟨(call, active.index), rfl⟩
  | idle | attempting | finished => exact .inl rfl

/-- A position other than the finished one has no loose revoke, so it awaits all that is pending. -/
theorem Orderly.awaits {view : View} (orderly : Orderly view) {position : Position}
    (current : view.position = position) (unfinished : position ≠ .finished) :
    view.loose = [] ∧ pendingRevokes view.log = position.awaited ∧
      activeDrivers view.log = position.served := by
  subst current
  have none := orderly.not_stranded unfinished
  have pending := orderly.pending
  rw [none, append_nil] at pending
  refine ⟨none, ?_, orderly.active⟩
  rcases view.position.awaited_cases with nothing | ⟨call, single⟩
  · rw [nothing] at pending ⊢
    exact perm_nil.mp pending
  · rw [single] at pending ⊢
    exact perm_singleton.mp pending

/-- One entry at an unfinished position, where nothing is loose. -/
theorem Orderly.advance {view : View} (orderly : Orderly view) {position next : Position}
    {generation : Nat} {entry : DriverEvent} (current : view.position = position)
    (unfinished : position ≠ .finished)
    (notStart : ∀ index generation, entry ≠ .start index generation) (begun : next ≠ .idle)
    (pending : trackRevoke position.awaited entry = next.awaited)
    (active : trackActive position.served entry = next.served) :
    Orderly ⟨next, generation, view.loose, view.log ++ [entry]⟩ := by
  obtain ⟨loose, awaited, served⟩ := orderly.awaits current unfinished
  refine orderly.snoc notStart begun ?_ ?_ fun stranded => absurd loose stranded
  · rw [awaited, pending, loose, append_nil]
  · rw [served, active]

/-- A start where nothing is pending. -/
theorem Orderly.start {view : View} (orderly : Orderly view) {position : Position}
    (current : view.position = position) (awaitless : position.awaited = [])
    (unserving : position.served = []) (unfinished : position ≠ .finished)
    (generation index startGeneration : Nat) :
    Orderly ⟨.launched index none, generation, view.loose,
      view.log ++ [.start index startGeneration]⟩ := by
  obtain ⟨loose, pending, active⟩ := orderly.awaits current unfinished
  refine ⟨?_, fun stranded => absurd loose stranded, fun no => (nomatch no), ?_,
    orderly.ordered.snoc fun _ _ _ => pending.trans awaitless⟩
  · rw [pendingRevokes_snoc]
    exact .of_eq (pending.trans (awaitless.trans loose.symm))
  · rw [activeDrivers_snoc]
    exact active.trans unserving

/-- Cleaning up a failed start does not touch the active drivers when there are none. -/
theorem ManagedBrowserHandoffTransportCoordinator.Cleanup.inactive {before loose : List (Nat × Nat)} {suffix : List DriverEvent}
    (cleanup : ManagedBrowserHandoffTransportCoordinator.Cleanup before suffix loose) :
    suffix.foldl trackActive [] = [] := by
  have shape := cleanup.shape
  clear cleanup
  induction suffix with
  | nil => rfl
  | cons entry rest ih =>
      have quiet : trackActive [] entry = [] := by
        rcases shape entry (.head _) with ⟨call, rfl⟩ | ⟨call, succeeded, rfl⟩
        · rfl
        · cases succeeded <;> rfl
      rw [foldl_cons, quiet]
      exact ih fun later mem => shape later (.tail _ mem)

namespace ManagedBrowserHandoffTransportCoordinator

variable {coordinator : ManagedBrowserHandoffTransportCoordinator} {event : CoordinatorEvent}

theorem Ending.quiet {length index : Nat} {position : Position}
    (ending : Ending length index position) :
    position.served = [] ∧ position.awaited = [] ∧ position ≠ .idle := by
  cases ending with
  | next => exact ⟨rfl, rfl, by simp⟩
  | finished => exact ⟨rfl, rfl, by simp⟩

theorem Move.orderly {after : View} (move : Move coordinator event after)
    (awaits : coordinator.cleanupOvertaken event = false) (orderly : Orderly coordinator.view) :
    Orderly after := by
  cases move with
  | stay => exact orderly
  | first idle =>
      obtain ⟨loose, pending, active⟩ := orderly.awaits idle (by simp)
      exact ⟨by rw [pending, loose]; exact .refl _, fun stranded => absurd loose stranded,
        fun no => (nomatch no), active, orderly.ordered⟩
  | invoke index attempting =>
      exact orderly.start attempting rfl rfl (by simp) coordinator.generation index _
  | activate index locator launched =>
      exact orderly.advance launched (by simp) (by simp) (by simp) rfl rfl
  | clean index call launched =>
      exact orderly.advance launched (by simp) (by simp) (by simp) rfl rfl
  | cleaned index call succeeded position launched ending =>
      obtain ⟨served, awaited, begun⟩ := ending.quiet
      refine orderly.advance launched (by simp) (by simp) begun ?_ ?_
      · rw [awaited]
        exact erase_cons_head ..
      · rw [served]
        cases succeeded <;> rfl
  | cleanedAtOnce index call succeeded position launched ending =>
      obtain ⟨served, awaited, begun⟩ := ending.quiet
      have called : Orderly ⟨.launched index (some call), coordinator.generation,
          coordinator.loose, coordinator.log ++ [.revoke call index]⟩ :=
        orderly.advance launched (by simp) (by simp) (by simp) rfl rfl
      refine called.advance rfl (by simp) (by simp) begun ?_ ?_
      · rw [awaited]
        exact erase_cons_head ..
      · rw [served]
        cases succeeded <;> rfl
  | threw index call position launched ending =>
      obtain ⟨served, awaited, begun⟩ := ending.quiet
      have called : Orderly ⟨.launched index (some call), coordinator.generation,
          coordinator.loose, coordinator.log ++ [.revoke call index]⟩ :=
        orderly.advance launched (by simp) (by simp) (by simp) rfl rfl
      refine called.advance rfl (by simp) (by simp) begun ?_ ?_
      · rw [awaited]
        exact erase_cons_head ..
      · rw [served]
        rfl
  | overlooked index call position launched ending cause =>
      have finished : position = .finished := cause.resolve_right (by simp [awaits])
      obtain ⟨loose, pending, active⟩ := orderly.awaits launched (by simp)
      subst finished
      refine orderly.snoc (by simp) (by simp) ?_ ?_ fun _ => rfl
      · rw [pending, show coordinator.loose = [] from loose]
        exact .refl _
      · rw [active]
        rfl
  | withdraw active call serving =>
      exact orderly.advance serving (by simp) (by simp) (by simp) rfl rfl
  | refusedAtOnce active call serving =>
      have called : Orderly ⟨.serving active (some call), coordinator.generation,
          coordinator.loose, coordinator.log ++ [.revoke call active.index]⟩ :=
        orderly.advance serving (by simp) (by simp) (by simp) rfl rfl
      exact called.advance rfl (by simp) (by simp) (by simp) (erase_cons_head ..) rfl
  | refused active call serving =>
      exact orderly.advance serving (by simp) (by simp) (by simp) (erase_cons_head ..) rfl
  | withdrawn active call position generation serving ending =>
      obtain ⟨served, awaited, begun⟩ := ending.quiet
      refine orderly.advance serving (by simp) (by simp) begun ?_ ?_
      · rw [awaited]
        exact erase_cons_head ..
      · rw [served]
        simp [trackActive, Position.served]
  | looseSettled call index succeeded pending =>
      have finished := orderly.stranded (ne_nil_of_mem pending)
      have served := orderly.active
      have held := orderly.pending
      rw [finished] at served held
      change Orderly ⟨coordinator.position, _, _, _⟩
      rw [show coordinator.position = .finished from finished]
      refine orderly.snoc (by simp) (by simp) ?_ ?_ fun _ => rfl
      · exact held.erase (call, index)
      · rw [served]
        cases succeeded <;> rfl
  | activateSync locator idle =>
      have started := orderly.start idle rfl rfl (by simp) coordinator.generation 0
        (coordinator.generation + 1)
      exact started.advance rfl (by simp) (by simp) (by simp) rfl rfl
  | failSync suffix loose generation idle cleanup =>
      have started := orderly.start idle rfl rfl (by simp) coordinator.generation 0
        (coordinator.generation + 1)
      obtain ⟨none, awaited, served⟩ := started.awaits rfl (by simp)
      refine ⟨?_, fun _ => rfl, fun no => (nomatch no), ?_, started.ordered.append ?_⟩
      · have pending := cleanup.pending
        rw [show coordinator.loose = [] from none] at pending
        rw [pendingRevokes, pendingFrom_append]
        exact (congrArg (pendingFrom · suffix) awaited) ▸ pending
      · rw [activeDrivers, foldl_append]
        exact (congrArg (suffix.foldl trackActive) served).trans (cleanup.inactive)
      · intro entry mem index start
        rcases cleanup.shape entry mem with ⟨call, rfl⟩ | ⟨call, succeeded, rfl⟩ <;> simp

theorem initial_orderly (plan : TransportPlan) : Orderly (initial plan).view where
  pending := .refl _
  stranded := fun stranded => absurd rfl stranded
  fresh := fun _ => rfl
  active := rfl
  ordered := by
    intro before index generation rest split
    exact absurd split.symm (by simp [view, initial])

/-- The steps that leave no clean-up revoke behind. -/
abbrev AwaitedStep : ManagedBrowserHandoffTransportCoordinator → CoordinatorEvent →
    ManagedBrowserHandoffTransportCoordinator → Prop :=
  Guarded (StepOf next) fun coordinator event => coordinator.cleanupOvertaken event = false

/-- The invariant of runs without an overtaken clean-up. -/
structure InOrder (coordinator : ManagedBrowserHandoffTransportCoordinator) : Prop where
  coherent : Coherent coordinator
  orderly : Orderly coordinator.view

theorem AwaitedStep.inOrder {last : ManagedBrowserHandoffTransportCoordinator}
    (step : AwaitedStep coordinator event last) (inv : InOrder coordinator) : InOrder last := by
  have moved := next_moved inv.coherent step.1
  exact ⟨moved.coherent, moved.move.orderly step.2 inv.orderly⟩

/-- While no clean-up is overtaken, revokes settle before the next start and at most one driver
is active. -/
theorem run_revoke_before_start {plan : TransportPlan} {events : List CoordinatorEvent}
    {last : ManagedBrowserHandoffTransportCoordinator}
    (run : Run AwaitedStep (initial plan) events last) :
    RevokeBeforeStart last.log ∧ (activeDrivers last.log).length ≤ 1 := by
  have inv : InOrder last :=
    run.invariant AwaitedStep.inOrder ⟨initial_coherent plan, initial_orderly plan⟩
  refine ⟨inv.orderly.ordered, ?_⟩
  have served := inv.orderly.active
  change activeDrivers last.log = _ at served
  rw [served]
  cases last.view.position <;> simp [Position.served]

/-! ## Two concrete runs -/

/-- The relay answers a blank locator, its revoke stays pending, and the loop goes on. -/
def overtakenEvents : List CoordinatorEvent :=
  sampleFallback ++ [.startSettled (some " "), .looseRevoke .pending, .invokeStart false]

def overtakenState : ManagedBrowserHandoffTransportCoordinator :=
  (execute next (initial samplePlan) overtakenEvents).getD (initial samplePlan)

/-- In the run with the blank locator the third driver starts before the revoke of the second
has settled. -/
theorem overtaken_start :
    Run (StepOf next) (initial samplePlan) overtakenEvents overtakenState ∧
      ¬ RevokeBeforeStart overtakenState.log := by
  refine ⟨(run_iff_execute next _ _ _).mpr (by decide), fun ordered => ?_⟩
  have pending := ordered
    [.start 0 1, .activated 0, .revoke 0 0, .settled 0 0 true, .start 1 2, .revoke 1 1] 2 3 []
    (by decide)
  exact absurd pending (by decide)

/-- The same run with the clean-up settled at once. -/
def settledEvents : List CoordinatorEvent :=
  sampleFallback ++ [.startSettled (some " "), .looseRevoke (.settled true), .invokeStart false,
    .startSettled (some "https://takeover.example/takeover/session-0003")]

def settledState : ManagedBrowserHandoffTransportCoordinator :=
  (execute next (initial samplePlan) settledEvents).getD (initial samplePlan)

theorem settled_start :
    settledState.leaseOf =
        some ⟨.webrtcRelay, 3, "https://takeover.example/takeover/session-0003"⟩ ∧
      RevokeBeforeStart settledState.log ∧ (activeDrivers settledState.log).length ≤ 1 := by
  have run : Run AwaitedStep (initial samplePlan) settledEvents settledState :=
    run_guarded_of_execute (by decide)
  exact ⟨by decide, run_revoke_before_start run⟩

end ManagedBrowserHandoffTransportCoordinator

end ExecutionHandoff.Transport
