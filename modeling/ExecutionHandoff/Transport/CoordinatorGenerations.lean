import Mathlib.Data.List.GetD
import ExecutionHandoff.Transport.CoordinatorMoves

/-!
# Generations of the coordinator

Each start gets a larger generation than every start before it, unless a
clean-up revoke in the fallback loop throws before the counter is stored.  A
lease that stopped being active is refused for good in any case: no driver of a
plan is activated twice.
-/

namespace ExecutionHandoff.Transport

open Library List

/-- The generations passed to the drivers, in order. -/
def starts (log : List DriverEvent) : List Nat :=
  log.filterMap fun
    | .start _ generation => some generation
    | _ => none

theorem starts_snoc_start (log : List DriverEvent) (index generation : Nat) :
    starts (log ++ [.start index generation]) = starts log ++ [generation] :=
  filterMap_append ..

/-- Entries that start no driver. -/
def Startless (entries : List DriverEvent) : Prop :=
  ∀ entry ∈ entries, ∀ index generation, entry ≠ .start index generation

theorem starts_append {log entries : List DriverEvent} (startless : Startless entries) :
    starts (log ++ entries) = starts log := by
  rw [starts, filterMap_append]
  have none : entries.filterMap (fun
      | DriverEvent.start _ generation => some generation
      | _ => none) = [] := by
    refine filterMap_eq_nil_iff.mpr fun entry mem => ?_
    cases entry with
    | start index generation => exact absurd rfl (startless _ mem index generation)
    | activated | revoke | settled => rfl
  rw [none, append_nil]
  rfl

theorem startless_singleton {entry : DriverEvent}
    (notStart : ∀ index generation, entry ≠ .start index generation) : Startless [entry] := by
  intro other mem
  rw [mem_singleton.mp mem]
  exact notStart

theorem pairwise_snoc_lt {values : List Nat} {value : Nat} (rising : values.Pairwise (· < ·))
    (above : ∀ earlier ∈ values, earlier < value) : (values ++ [value]).Pairwise (· < ·) := by
  refine pairwise_append.mpr ⟨rising, pairwise_singleton _ _, ?_⟩
  intro earlier mem later single
  rw [mem_singleton.mp single]
  exact above earlier mem

namespace Position

/-- The largest generation in use: a launched attempt uses the next one. -/
def ceiling (generation : Nat) : Position → Nat
  | .launched _ _ => generation + 1
  | _ => generation

/-- No driver below this index will be active any more. -/
def reach (length : Nat) : Position → Nat
  | .idle => 0
  | .attempting index => index
  | .launched index _ => index
  | .serving active _ => active.index
  | .finished => length

end Position

/-- The started generations rise, and stay below the ceiling as long as more may follow. -/
structure Rising (view : View) : Prop where
  rising : (starts view.log).Pairwise (· < ·)
  bounded : view.position ≠ .finished →
    ∀ generation ∈ starts view.log, generation ≤ view.position.ceiling view.generation

/-- Entries without a start keep the rise while the ceiling does not fall. -/
theorem Rising.keep {view : View} (rising : Rising view) {position next : Position}
    {generation : Nat} {loose : List (Nat × Nat)} {entries : List DriverEvent}
    (current : view.position = position) (startless : Startless entries)
    (ceiling : next ≠ .finished → position ≠ .finished ∧
      position.ceiling view.generation ≤ next.ceiling generation) :
    Rising ⟨next, generation, loose, view.log ++ entries⟩ := by
  subst current
  refine ⟨?_, fun unfinished value mem => ?_⟩
  · rw [starts_append startless]
    exact rising.rising
  · obtain ⟨before, kept⟩ := ceiling unfinished
    rw [starts_append startless] at mem
    exact Nat.le_trans (rising.bounded before value mem) kept

/-- The next generation is above all started ones. -/
theorem Rising.start {view : View} (rising : Rising view) {position : Position}
    (current : view.position = position) (unfinished : position ≠ .finished)
    (ceiling : position.ceiling view.generation = view.generation) (index : Nat) :
    Rising ⟨.launched index none, view.generation, view.loose,
      view.log ++ [.start index (view.generation + 1)]⟩ := by
  subst current
  have below : ∀ value ∈ starts view.log, value ≤ view.generation := fun value mem =>
    ceiling ▸ rising.bounded unfinished value mem
  refine ⟨?_, fun _ value mem => ?_⟩
  · rw [starts_snoc_start]
    exact pairwise_snoc_lt rising.rising fun value mem => Nat.lt_succ_of_le (below value mem)
  · rw [starts_snoc_start, mem_append, mem_singleton] at mem
    rcases mem with old | rfl
    · exact Nat.le_succ_of_le (below value old)
    · exact Nat.le_refl _

namespace ManagedBrowserHandoffTransportCoordinator

variable {coordinator last : ManagedBrowserHandoffTransportCoordinator} {event : CoordinatorEvent}

theorem Ending.ceiling {length index : Nat} {position : Position}
    (ending : Ending length index position) (generation : Nat) :
    position.ceiling generation = generation := by
  cases ending <;> rfl

theorem Cleanup.startless {before loose : List (Nat × Nat)} {suffix : List DriverEvent}
    (cleanup : Cleanup before suffix loose) : Startless suffix := by
  intro entry mem index generation
  rcases cleanup.shape entry mem with ⟨call, rfl⟩ | ⟨call, succeeded, rfl⟩ <;> simp

theorem Move.rising {after : View} (move : Move coordinator event after)
    (quiet : coordinator.cleanupThrows event = false) (rising : Rising coordinator.view) :
    Rising after := by
  have revokes : ∀ call index, Startless [.revoke call index] := fun call index =>
    startless_singleton (by simp)
  have settles : ∀ call index succeeded, Startless [.settled call index succeeded] :=
    fun call index succeeded => startless_singleton (by simp)
  cases move with
  | stay => exact rising
  | first idle =>
      exact ⟨rising.rising, fun _ => by
        have bounded := rising.bounded
        rw [show coordinator.view.position = .idle from idle] at bounded
        exact bounded (by simp)⟩
  | invoke index attempting => exact rising.start attempting (by simp) rfl index
  | activate index locator launched =>
      exact rising.keep launched (startless_singleton (by simp)) fun _ => ⟨by simp, Nat.le_refl _⟩
  | clean index call launched =>
      exact rising.keep launched (revokes call index) fun _ => ⟨by simp, Nat.le_refl _⟩
  | cleaned index call succeeded position launched ending =>
      refine rising.keep launched (settles call index succeeded) fun _ => ⟨by simp, ?_⟩
      rw [ending.ceiling]
      exact Nat.le_refl _
  | cleanedAtOnce index call succeeded position launched ending =>
      have called : Rising ⟨.launched index none, coordinator.generation, coordinator.loose,
          coordinator.log ++ [.revoke call index]⟩ :=
        rising.keep launched (revokes call index) fun _ => ⟨by simp, Nat.le_refl _⟩
      refine called.keep rfl (settles call index succeeded) fun _ => ⟨by simp, ?_⟩
      rw [ending.ceiling]
      exact Nat.le_refl _
  | threw index call position launched ending cause =>
      have finished : position = .finished := cause.resolve_right (by simp [quiet])
      have called : Rising ⟨.launched index none, coordinator.generation, coordinator.loose,
          coordinator.log ++ [.revoke call index]⟩ :=
        rising.keep launched (revokes call index) fun _ => ⟨by simp, Nat.le_refl _⟩
      exact called.keep rfl (settles call index false) fun unfinished => absurd finished unfinished
  | overlooked index call position launched ending =>
      refine rising.keep launched (revokes call index) fun _ => ⟨by simp, ?_⟩
      rw [ending.ceiling]
      exact Nat.le_refl _
  | withdraw active call serving =>
      exact rising.keep serving (revokes call _) fun _ => ⟨by simp, Nat.le_refl _⟩
  | refusedAtOnce active call serving =>
      have called : Rising ⟨.serving active none, coordinator.generation, coordinator.loose,
          coordinator.log ++ [.revoke call active.index]⟩ :=
        rising.keep serving (revokes call _) fun _ => ⟨by simp, Nat.le_refl _⟩
      exact called.keep rfl (settles call _ false) fun _ => ⟨by simp, Nat.le_refl _⟩
  | refused active call serving =>
      exact rising.keep serving (settles call _ false) fun _ => ⟨by simp, Nat.le_refl _⟩
  | withdrawn active call position generation serving ending stored =>
      refine rising.keep serving (settles call _ true) fun _ => ⟨by simp, ?_⟩
      rw [ending.ceiling]
      exact stored
  | looseSettled call index succeeded pending =>
      exact rising.keep rfl (settles call index succeeded) fun unfinished =>
        ⟨unfinished, Nat.le_refl _⟩
  | activateSync locator idle =>
      have started := rising.start idle (by simp) rfl 0
      exact started.keep rfl (startless_singleton (by simp)) fun _ => ⟨by simp, Nat.le_refl _⟩
  | failSync suffix loose generation idle cleanup =>
      have started := rising.start idle (by simp) rfl 0
      exact started.keep rfl cleanup.startless fun unfinished => absurd rfl unfinished

/-! ## No driver is activated twice -/

/-- Positions speak about drivers of the plan, and a lease carries its driver's kind. -/
def Placed (coordinator : ManagedBrowserHandoffTransportCoordinator) : Position → Prop
  | .attempting index | .launched index _ => index < coordinator.order.length
  | .serving active _ =>
      active.index < coordinator.order.length ∧
        active.lease.transport = coordinator.kindAt active.index
  | .idle | .finished => True

theorem Ending.placed {index : Nat} {position : Position}
    (ending : Ending coordinator.order.length index position) : coordinator.Placed position := by
  cases ending with
  | next more => exact more
  | finished => trivial

theorem Ending.reach_lt {length index : Nat} {position : Position}
    (ending : Ending length index position) (inRange : index < length) :
    index < position.reach length := by
  cases ending with
  | next => exact Nat.lt_succ_self _
  | finished => exact inRange

/-- What a move does to the place of the coordinator in its plan. -/
structure Advanced (coordinator : ManagedBrowserHandoffTransportCoordinator) (next : Position) :
    Prop where
  placed : coordinator.Placed next
  reach : coordinator.position.reach coordinator.order.length ≤
    next.reach coordinator.order.length
  left : ∀ active awaited, coordinator.position = .serving active awaited →
    (∃ still, next = .serving active still) ∨ active.index < next.reach coordinator.order.length

theorem Move.advanced {after : View} (move : Move coordinator event after)
    (nonempty : 0 < coordinator.order.length) (placed : coordinator.Placed coordinator.position) :
    Advanced coordinator after.position := by
  have ended : ∀ index awaited position, coordinator.position = .launched index awaited →
      Ending coordinator.order.length index position → Advanced coordinator position := by
    intro index awaited position launched ending
    rw [launched] at placed
    refine ⟨ending.placed, ?_, ?_⟩
    · rw [launched]
      exact Nat.le_of_lt (ending.reach_lt placed)
    · rw [launched]
      exact fun _ _ no => (nomatch no)
  have opened : ∀ index awaited, coordinator.Placed (.launched index awaited) →
      (∀ active held, coordinator.position ≠ .serving active held) →
      coordinator.position.reach coordinator.order.length ≤ index →
      Advanced coordinator (.launched index awaited) := fun index awaited fits unserving le =>
    ⟨fits, le, fun active held serving => absurd serving (unserving active held)⟩
  have kept : ∀ active awaited still, coordinator.position = .serving active awaited →
      Advanced coordinator (.serving active still) := by
    intro active awaited still serving
    rw [serving] at placed
    refine ⟨placed, ?_, ?_⟩
    · rw [serving]
      exact Nat.le_refl _
    · rw [serving]
      rintro _ _ ⟨⟩
      exact .inl ⟨still, rfl⟩
  cases move with
  | stay | looseSettled =>
      exact ⟨placed, Nat.le_refl _, fun active awaited serving => .inl ⟨awaited, serving⟩⟩
  | first idle =>
      refine ⟨nonempty, ?_, ?_⟩
      · rw [idle]
        exact Nat.le_refl _
      · rw [idle]
        exact fun _ _ no => (nomatch no)
  | invoke index attempting =>
      rw [attempting] at placed
      exact opened index none placed (by simp [attempting]) (by rw [attempting]; exact Nat.le_refl _)
  | activate index locator launched =>
      rw [launched] at placed
      refine ⟨⟨placed, rfl⟩, ?_, ?_⟩
      · rw [launched]
        exact Nat.le_refl _
      · rw [launched]
        exact fun _ _ no => (nomatch no)
  | clean index call launched =>
      rw [launched] at placed
      exact opened index _ placed (by simp [launched]) (by rw [launched]; exact Nat.le_refl _)
  | cleaned index call succeeded position launched ending
  | cleanedAtOnce index call succeeded position launched ending =>
      exact ended index _ position launched ending
  | threw index call position launched ending | overlooked index call position launched ending =>
      exact ended index _ position launched ending
  | withdraw active call serving | refusedAtOnce active call serving
  | refused active call serving =>
      exact kept active _ _ serving
  | withdrawn active call position generation serving ending =>
      rw [serving] at placed
      have beyond := ending.reach_lt placed.1
      refine ⟨ending.placed, ?_, ?_⟩
      · rw [serving]
        exact Nat.le_of_lt beyond
      · rw [serving]
        rintro _ _ ⟨⟩
        exact .inr beyond
  | activateSync locator idle =>
      refine ⟨⟨nonempty, rfl⟩, ?_, ?_⟩
      · rw [idle]
        exact Nat.le_refl _
      · rw [idle]
        exact fun _ _ no => (nomatch no)
  | failSync suffix loose generation idle =>
      refine ⟨trivial, ?_, ?_⟩
      · rw [idle]
        exact Nat.zero_le _
      · rw [idle]
        exact fun _ _ no => (nomatch no)

theorem position_of_active (coherent : Coherent coordinator) {active : ActiveManagedTransport}
    (current : coordinator.active = some active) :
    ∃ awaited, coordinator.position = .serving active awaited := by
  cases running : coordinator.running with
  | none => exact ⟨none, position_serving running current⟩
  | some call =>
      obtain ⟨ticket, phase⟩ := call
      have agrees := (coherent.running ticket phase running).2
      have position := position_running running
      cases phase with
      | attempt => exact absurd (current.symm.trans agrees) (by simp)
      | starting | failed | cleaning | blank =>
          exact absurd (current.symm.trans agrees.1) (by simp)
      | revoke purpose captured =>
          cases current.symm.trans agrees
          exact ⟨none, position⟩
      | revoking number purpose captured =>
          cases current.symm.trans agrees
          exact ⟨some number, position⟩

theorem active_of_position (coherent : Coherent coordinator) {active : ActiveManagedTransport}
    {awaited : Option Nat} (position : coordinator.position = .serving active awaited) :
    coordinator.active = some active := by
  cases running : coordinator.running with
  | none =>
      cases current : coordinator.active with
      | none =>
          unfold ManagedBrowserHandoffTransportCoordinator.position at position
          rw [running, current] at position
          dsimp only at position
          split at position <;> cases position
      | some other =>
          rw [position_serving running current] at position
          cases position
          rfl
  | some call =>
      obtain ⟨ticket, phase⟩ := call
      have agrees := (coherent.running ticket phase running).2
      rw [position_running running] at position
      cases phase <;> cases position
      · exact agrees
      · exact agrees

/-- The facts about the plan that every step keeps. -/
structure Planned (coordinator : ManagedBrowserHandoffTransportCoordinator) : Prop where
  coherent : Coherent coordinator
  nonempty : 0 < coordinator.order.length
  nodup : coordinator.order.Nodup
  placed : coordinator.Placed coordinator.position

theorem initial_planned (plan : TransportPlan) : Planned (initial plan) :=
  ⟨initial_coherent plan, length_pos_iff.mpr plan.nonempty, plan.nodup, trivial⟩

theorem kindAt_eq (order : last.order = coordinator.order) (index : Nat) :
    last.kindAt index = coordinator.kindAt index := by
  unfold kindAt
  rw [order]

theorem Placed.congr {position : Position} (order : last.order = coordinator.order)
    (placed : coordinator.Placed position) : last.Placed position := by
  cases position with
  | attempting | launched => exact Nat.lt_of_lt_of_eq placed (by rw [order])
  | serving active awaited =>
      exact ⟨Nat.lt_of_lt_of_eq placed.1 (by rw [order]),
        placed.2.trans (kindAt_eq order active.index).symm⟩
  | idle | finished => trivial

theorem Planned.step (planned : Planned coordinator) (stepped : StepOf next coordinator event last) :
    Planned last ∧ Advanced coordinator last.position ∧ last.order = coordinator.order := by
  have moved := next_moved planned.coherent stepped
  have advanced := moved.move.advanced planned.nonempty planned.placed
  exact ⟨⟨moved.coherent, moved.order ▸ planned.nonempty, moved.order ▸ planned.nodup,
    advanced.placed.congr moved.order⟩, advanced, moved.order⟩

/-- The driver of the lease lies behind the coordinator. -/
def Superseded (coordinator : ManagedBrowserHandoffTransportCoordinator)
    (lease : ManagedBrowserHandoffTransportLease) : Prop :=
  ∃ index, index < coordinator.order.length ∧ coordinator.kindAt index = lease.transport ∧
    index < coordinator.position.reach coordinator.order.length

theorem Superseded.step {lease : ManagedBrowserHandoffTransportLease}
    (superseded : Superseded coordinator lease) (planned : Planned coordinator)
    (stepped : StepOf next coordinator event last) : Superseded last lease := by
  obtain ⟨index, inRange, kind, behind⟩ := superseded
  obtain ⟨_, advanced, order⟩ := planned.step stepped
  refine ⟨index, order ▸ inRange, (kindAt_eq order index).trans kind, ?_⟩
  rw [order]
  exact Nat.lt_of_lt_of_le behind advanced.reach

/-- A step keeps the active driver or leaves it behind. -/
theorem Planned.active_or_superseded (planned : Planned coordinator)
    (stepped : StepOf next coordinator event last) {active : ActiveManagedTransport}
    (current : coordinator.active = some active) :
    last.active = some active ∨ Superseded last active.lease := by
  obtain ⟨awaited, serving⟩ := position_of_active planned.coherent current
  obtain ⟨planned', advanced, order⟩ := planned.step stepped
  rcases advanced.left active awaited serving with ⟨still, same⟩ | beyond
  · exact .inl (active_of_position planned'.coherent same)
  · have placed := planned.placed
    rw [serving] at placed
    exact .inr ⟨active.index, order ▸ placed.1, (kindAt_eq order _).trans placed.2.symm,
      order ▸ beyond⟩

/-- A superseded lease fails the check: its driver's kind occurs once in the plan. -/
theorem Superseded.assertActive_error {lease : ManagedBrowserHandoffTransportLease}
    (superseded : Superseded coordinator lease) (planned : Planned coordinator) :
    ∃ error, coordinator.assertActive lease = .error error := by
  cases checked : coordinator.assertActive lease with
  | error error => exact ⟨error, rfl⟩
  | ok active =>
      obtain ⟨current, transport, _⟩ := assertActive_ok checked
      obtain ⟨awaited, serving⟩ := position_of_active planned.coherent current
      obtain ⟨index, inRange, kind, behind⟩ := superseded
      have placed := planned.placed
      rw [serving] at placed behind
      have sameKind : coordinator.kindAt index = coordinator.kindAt active.index :=
        kind.trans (transport.symm.trans placed.2)
      unfold kindAt at sameKind
      rw [getD_eq_getElem _ _ inRange, getD_eq_getElem _ _ placed.1] at sameKind
      have same := (planned.nodup.getElem_inj_iff).mp sameKind
      exact absurd behind (by simp [Position.reach, same])

/-- The lease is refused: `advance` and `fallback` reject with it, and `revoke` with it settles
without calling a driver. -/
structure Refuses (coordinator : ManagedBrowserHandoffTransportCoordinator)
    (lease : ManagedBrowserHandoffTransportLease) : Prop where
  advance : ∀ ticket, ∃ error, coordinator.beginOperation ticket (.advance lease) =
    coordinator.settle ticket (.error (.coordinator error))
  fallback : ∀ ticket reason, ∃ error,
    coordinator.beginOperation ticket (.fallback lease reason) =
      coordinator.settle ticket (.error (.coordinator error))
  revoke : ∀ ticket, ∃ outcome, coordinator.beginOperation ticket (.revoke (some lease)) =
    coordinator.settle ticket outcome

theorem Superseded.refuses {lease : ManagedBrowserHandoffTransportLease}
    (superseded : Superseded coordinator lease) (planned : Planned coordinator) :
    Refuses coordinator lease := by
  obtain ⟨error, failed⟩ := superseded.assertActive_error planned
  refine ⟨fun ticket => ⟨error, ?_⟩, fun ticket reason => ⟨error, ?_⟩, fun ticket => ?_⟩
  · rw [beginOperation, failed]
  · rw [beginOperation, failed]
  · cases current : coordinator.active with
    | none => exact ⟨.ok none, by rw [beginOperation, current]⟩
    | some active =>
        refine ⟨.error (.coordinator error), ?_⟩
        rw [beginOperation, current]
        simp only [Option.map_some, failed]

/-! ## Runs -/

/-- The steps whose clean-up revokes do not throw before the generation is stored. -/
abbrev StoredStep : ManagedBrowserHandoffTransportCoordinator → CoordinatorEvent →
    ManagedBrowserHandoffTransportCoordinator → Prop :=
  Guarded (StepOf next) fun coordinator event => coordinator.cleanupThrows event = false

/-- The invariant of runs whose generations are always stored. -/
structure Numbered (coordinator : ManagedBrowserHandoffTransportCoordinator) : Prop where
  planned : Planned coordinator
  rising : Rising coordinator.view

theorem StoredStep.numbered (step : StoredStep coordinator event last)
    (inv : Numbered coordinator) : Numbered last :=
  ⟨(inv.planned.step step.1).1,
    (next_moved inv.planned.coherent step.1).move.rising step.2 inv.rising⟩

theorem initial_numbered (plan : TransportPlan) : Numbered (initial plan) :=
  ⟨initial_planned plan, List.Pairwise.nil, fun _ _ mem => absurd mem not_mem_nil⟩

/-- What an active lease is later in a run. -/
structure Tracked (active : ActiveManagedTransport)
    (coordinator : ManagedBrowserHandoffTransportCoordinator) : Prop where
  planned : Planned coordinator
  status : coordinator.active = some active ∨ Superseded coordinator active.lease

theorem Tracked.step {active : ActiveManagedTransport}
    (stepped : StepOf next coordinator event last) (tracked : Tracked active coordinator) :
    Tracked active last := by
  refine ⟨(tracked.planned.step stepped).1, ?_⟩
  rcases tracked.status with current | superseded
  · exact tracked.planned.active_or_superseded stepped current
  · exact .inr (superseded.step tracked.planned stepped)

/-- What stays behind stays refused. -/
structure LeftBehind (lease : ManagedBrowserHandoffTransportLease)
    (coordinator : ManagedBrowserHandoffTransportCoordinator) : Prop where
  planned : Planned coordinator
  superseded : Superseded coordinator lease

theorem LeftBehind.step {lease : ManagedBrowserHandoffTransportLease}
    (stepped : StepOf next coordinator event last) (behind : LeftBehind lease coordinator) :
    LeftBehind lease last :=
  ⟨(behind.planned.step stepped).1, behind.superseded.step behind.planned stepped⟩

/-- Generations rise from start to start, and a lease that is no longer active is refused
ever after. -/
theorem run_generations_rise {plan : TransportPlan} {before : List CoordinatorEvent}
    {middle : ManagedBrowserHandoffTransportCoordinator}
    (run : Run StoredStep (initial plan) before middle) :
    (starts middle.log).Pairwise (· < ·) ∧
      ∀ active, middle.active = some active → ∀ during later,
        Run StoredStep middle during later → later.active ≠ some active →
        ∀ after final, Run StoredStep later after final → Refuses final active.lease := by
  have inv : Numbered middle := run.invariant StoredStep.numbered (initial_numbered plan)
  refine ⟨inv.rising.rising, ?_⟩
  intro active current during later continued gone after final rest
  have tracked : Tracked active later :=
    continued.of_guarded.invariant Tracked.step ⟨inv.planned, .inl current⟩
  have behind : LeftBehind active.lease final :=
    rest.of_guarded.invariant LeftBehind.step
      ⟨tracked.planned, tracked.status.resolve_left gone⟩
  exact behind.superseded.refuses behind.planned

/-- The relay's start rejects, its clean-up revoke throws, and the loop goes on. -/
def throwingEvents : List CoordinatorEvent :=
  sampleFallback ++ [.startSettled none, .invokeRevoke true, .invokeStart false]

def throwingState : ManagedBrowserHandoffTransportCoordinator :=
  (execute next (initial samplePlan) throwingEvents).getD (initial samplePlan)

/-- In the run with the throwing clean-up the third driver gets the generation of the second. -/
theorem throwing_generation :
    Run (StepOf next) (initial samplePlan) throwingEvents throwingState ∧
      starts throwingState.log = [1, 2, 2] ∧
      ¬ (starts throwingState.log).Pairwise (· < ·) :=
  ⟨(run_iff_execute next _ _ _).mpr (by decide), by decide, by decide⟩

/-- The same attempt with a clean-up that settles. -/
def failingEvents : List CoordinatorEvent :=
  [.call (.fallback sampleLease .transportUnavailable), .begin, .invokeRevoke false,
    .revokeSettled true, .invokeStart false, .startSettled none, .invokeRevoke false,
    .revokeSettled true, .invokeStart false]

def servingState : ManagedBrowserHandoffTransportCoordinator :=
  (initial samplePlan).startSync (.locator sampleLease.locator) .pending .pending

def failingState : ManagedBrowserHandoffTransportCoordinator :=
  (execute next servingState failingEvents).getD servingState

theorem failing_generations :
    (starts failingState.log = [1, 2, 3] ∧ (starts failingState.log).Pairwise (· < ·)) ∧
      Refuses failingState sampleLease := by
  have begun : Run StoredStep (initial samplePlan)
      [.startSync (.locator sampleLease.locator) .pending .pending] servingState :=
    run_guarded_of_execute (by decide)
  have failed : Run StoredStep servingState failingEvents failingState :=
    run_guarded_of_execute (by decide)
  have whole := run_generations_rise (begun.append failed)
  have lease := (run_generations_rise begun).2 ⟨0, sampleLease⟩ (by decide) _ _ failed (by decide)
    _ _ (.refl failingState)
  exact ⟨⟨by decide, whole.1⟩, lease⟩

end ManagedBrowserHandoffTransportCoordinator

end ExecutionHandoff.Transport
