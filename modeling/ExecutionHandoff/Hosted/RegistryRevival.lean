import ExecutionHandoff.Hosted.RegistryInvariant

/-!
# Leases that are over

A released or invalidated lease is dead: the route of its intervention is at a
later epoch, at a later generation of the same epoch, or closed.  One call
undoes that: binding the intervention again at the epoch and generation at which
its route was closed.
-/

namespace ExecutionHandoff.Hosted

open Library
open OrderedMap (get?_mapValues get?_set_ne get?_set_self)

namespace HostedWorkerRegistry

variable {clock : Nat → Int}

/-- The intervention has moved past the lease, or its route is closed. -/
def Dead (lease : HostedWorkerRouteLease) (registry : HostedWorkerRegistry) : Prop :=
  ∃ route, registry.routes.get? lease.interventionId = some route ∧
    (lease.epoch < route.epoch ∨
      lease.epoch = route.epoch ∧ (lease.workerGeneration < route.workerGeneration ∨
        lease.workerGeneration = route.workerGeneration ∧ route.active = false))

/-- The call is accepted and opens a closed route at the epoch and generation it was closed at. -/
def revives (registry : HostedWorkerRegistry) : RegistryOp → Bool
  | .bindIntervention request =>
      request.wellFormed
        && ((registry.activeWorkers.get? request.workerId).any fun worker =>
          worker.registration.generation == request.workerGeneration
            && worker.registration.principalBinding == request.principalBinding)
        && (registry.routes.get? request.interventionId).any fun existing =>
          !existing.active && existing.principalBinding == request.principalBinding
            && existing.workerId == request.workerId && existing.epoch == request.epoch
            && existing.workerGeneration == request.workerGeneration
  | _ => false

/-- The call revives no lease. -/
def sparesEnded (registry : HostedWorkerRegistry) (op : RegistryOp) : Bool := !revives registry op

theorem Dead.not_current {lease : HostedWorkerRouteLease} {registry : HostedWorkerRegistry}
    (dead : Dead lease registry) : registry.current lease = false := by
  obtain ⟨route, stored, past⟩ := dead
  apply Bool.eq_false_iff.mpr
  intro holds
  simp only [current, stored, Option.any_some, Bool.and_eq_true, beq_iff_eq] at holds
  obtain ⟨_, ⟨⟨⟨active, epoch⟩, _⟩, _⟩, turn⟩ := holds
  rcases past with later | ⟨_, later | ⟨_, closed⟩⟩
  · omega
  · omega
  · rw [active] at closed
    cases closed

theorem Dead.sameRoute {lease : HostedWorkerRouteLease} {first last : HostedWorkerRegistry}
    (dead : Dead lease first)
    (same : last.routes.get? lease.interventionId = first.routes.get? lease.interventionId) :
    Dead lease last := by
  obtain ⟨route, stored, past⟩ := dead
  exact ⟨route, same.trans stored, past⟩

/-- A connected worker is at least at the generation of every route it ever had. -/
theorem Invariant.generation_le {registry : HostedWorkerRegistry} (inv : Invariant registry)
    {id : String} {route : RouteHistory} (stored : registry.routes.get? id = some route)
    {worker : ActiveWorker} (held : registry.activeWorkers.get? route.workerId = some worker) :
    route.workerGeneration ≤ worker.registration.generation := by
  obtain ⟨_, _, generation, known, le⟩ := inv.routed id route stored
  have same := known.symm.trans (inv.connected _ worker held).2.2
  cases same
  exact le

/-- A dead lease stays dead under a change that does not revive its route. -/
theorem Dead.change {lease : HostedWorkerRouteLease} {first last : HostedWorkerRegistry}
    {op : RegistryOp} {outcome : Except HostedWorkerRegistryError RegistryReply}
    (dead : Dead lease first) (inv : Invariant first) (change : Change first op outcome last)
    (spares : ∀ request, op = .bindIntervention request →
      request.interventionId = lease.interventionId → revives first op = false) :
    Dead lease last := by
  cases change with
  | refused error same => exact dead.sameRoute (by rw [same.routes])
  | reconnected | repeated | asserted | admitted => exact dead
  | @disconnected workerId generation =>
      obtain ⟨route, stored, past⟩ := dead
      refine ⟨invalidate workerId generation route, ?_, ?_⟩
      · rw [get?_mapValues, stored]
        rfl
      · rw [invalidate_lease]
        rcases past with later | ⟨epoch, later | ⟨turn, closed⟩⟩
        · exact .inl later
        · exact .inr ⟨epoch, .inl later⟩
        · refine .inr ⟨epoch, .inr ⟨turn, ?_⟩⟩
          apply Bool.eq_false_iff.mpr
          intro open'
          rw [(invalidate_active open').1] at closed
          cases closed
  | @bound request connected fresh =>
      apply dead.sameRoute
      apply get?_set_ne
      intro same
      obtain ⟨route, stored, _⟩ := dead
      rw [same, fresh] at stored
      cases stored
  | @rebound request existing wellFormed connected stored owner worker epoch idle =>
      by_cases here : lease.interventionId = request.interventionId
      · obtain ⟨route, found, past⟩ := dead
        rw [here] at found
        cases stored.symm.trans found
        obtain ⟨active, held, turn, principal⟩ := connected
        have reached : existing.workerGeneration ≤ request.workerGeneration :=
          turn ▸ inv.generation_le stored (worker ▸ held)
        refine ⟨_, (congrArg _ here).trans (get?_set_self _ _ _), ?_⟩
        by_cases newer : existing.epoch < request.epoch
        · left
          rcases past with later | ⟨same, _⟩
          · exact Int.lt_trans later newer
          · exact same ▸ newer
        · have level : existing.epoch = request.epoch := by omega
          -- the route is closed at this epoch, and its generation is an earlier one
          have moved : existing.workerGeneration ≠ request.workerGeneration := by
            intro same
            have revived := spares request rfl here.symm
            simp [revives, wellFormed, held, turn, principal, stored, idle level, owner, worker,
              level, same] at revived
          rcases past with later | ⟨same, past⟩
          · exact .inl (level ▸ later)
          · refine .inr ⟨same.trans level, .inl ?_⟩
            change lease.workerGeneration < request.workerGeneration
            rcases past with later | ⟨turn, _⟩ <;> omega
      · exact dead.sameRoute (get?_set_ne _ _ here)
  | @released request existing stored active epoch owner worker turn =>
      by_cases here : lease.interventionId = request.interventionId
      · obtain ⟨route, found, past⟩ := dead
        rw [here] at found
        cases stored.symm.trans found
        refine ⟨_, (congrArg _ here).trans (get?_set_self _ _ _), ?_⟩
        rcases past with later | ⟨same, later | ⟨turn, _⟩⟩
        · exact .inl later
        · exact .inr ⟨same, .inl later⟩
        · exact .inr ⟨same, .inr ⟨turn, rfl⟩⟩
      · exact dead.sameRoute (get?_set_ne _ _ here)

theorem Dead.step {lease : HostedWorkerRouteLease} {first last : HostedWorkerRegistry}
    {call : RegistryCall} (dead : Dead lease first) (inv : Invariant first)
    (step : RegistryStep clock first call last) (spares : sparesEnded first call.1 = true) :
    Dead lease last := by
  apply dead.change inv step.change
  intro request _ _
  simpa [sparesEnded] using spares

theorem Dead.run {lease : HostedWorkerRouteLease} {first last : HostedWorkerRegistry}
    {calls : List RegistryCall} (dead : Dead lease first) (inv : Invariant first)
    (run : Run (Guarded (RegistryStep clock) fun registry call =>
      sparesEnded registry call.1 = true) first calls last) : Dead lease last := by
  induction run with
  | refl => exact dead
  | step head _ ih =>
      obtain ⟨step, spares⟩ := head
      exact ih (dead.step inv step spares) (step.change.invariant inv)

/-- The ways a lease ends: its release, and the disconnection of its worker. -/
inductive Ended (clock : Nat → Int) (lease : HostedWorkerRouteLease)
    (registry after : HostedWorkerRegistry) : Prop where
  | released {request : HostedWorkerRouteRequest} (same : request.toHostedWorkerRouteLease = lease)
      (step : RegistryStep clock registry (.releaseIntervention request, .ok .done) after)
  | disconnected {workerId channelBinding : String} {generation : Int}
      {leases : List HostedWorkerRouteLease}
      (step : RegistryStep clock registry
        (.disconnect workerId generation channelBinding, .ok (.leases leases)) after)
      (mem : lease ∈ leases)

theorem Ended.dead {lease : HostedWorkerRouteLease} {registry after : HostedWorkerRegistry}
    (ended : Ended clock lease registry after) (inv : Invariant registry) : Dead lease after := by
  cases ended with
  | @released request same step =>
      subst same
      have change := step.change
      cases change with
      | released stored active epoch owner worker turn =>
          exact ⟨_, get?_set_self _ _ _, .inr ⟨epoch.symm, .inr ⟨turn.symm, rfl⟩⟩⟩
  | @disconnected workerId channelBinding generation leases step mem =>
      have gone := disconnection inv step.change
      obtain ⟨id, route, stored, active, worker, turn, rfl⟩ := (gone.exact lease).mp mem
      obtain ⟨later, found, _, same, _⟩ := step.change.forward.route id route stored
      have own := (inv.routed id route stored).1
      have change := step.change
      cases change with
      | disconnected =>
          refine ⟨invalidate workerId generation route, ?_, .inr ⟨?_, .inr ⟨?_, ?_⟩⟩⟩
          · change (registry.routes.mapValues _).get? route.interventionId = _
            rw [get?_mapValues, own, stored]
            rfl
          · rw [invalidate_lease]
            rfl
          · rw [invalidate_lease]
            rfl
          · apply Bool.eq_false_iff.mpr
            intro open'
            exact (invalidate_active open').2 ⟨worker, turn⟩

/-- Along every run that revives no closed route, a lease that ended is never current again. -/
theorem run_ended_lease {calls more : List RegistryCall}
    {registry ended last : HostedWorkerRegistry} {lease : HostedWorkerRouteLease}
    (reached : RegistryRun clock initial calls registry) (end' : Ended clock lease registry ended)
    (continued : Run (Guarded (RegistryStep clock) fun registry call =>
      sparesEnded registry call.1 = true) ended more last) {request : HostedWorkerRouteRequest}
    (same : request.toHostedWorkerRouteLease = lease) :
    ∃ error, (assertCurrent request last).1 = .error error := by
  have inv : Invariant registry := reached.invariant initial_invariant
  have endedInv : Invariant ended := by
    cases end' with
    | released _ step => exact step.change.invariant inv
    | disconnected step => exact step.change.invariant inv
  have dead : Dead lease last := (end'.dead inv).run endedInv continued
  subst same
  have spec : StateExcept.Ensures (assertCurrent request) last fun result _ =>
      ∃ error, result = .error error := by
    refine ensures_parseRouteRequest (fun error => ⟨error, rfl⟩) fun _ => ?_
    apply StateExcept.Ensures.reading
    unfold StateExcept.require
    rw [dead.not_current]
    exact ⟨_, rfl⟩
  exact spec

/-! ## A sample lease -/

/-- The route is released and the worker reconnects. -/
def sampleReleased : List RegistryOp :=
  sampleRouted ++ [.releaseIntervention (sampleLease 1).request]

def sampleReconnection : List RegistryOp :=
  [.disconnect "worker-a" 1 "channel-binding-a", .register sampleWorker,
    .bindIntervention (sampleLease 2).request]

theorem sampleReconnection_spares :
    meetCalls (perform sampleClock) sparesEnded (sampleRegistry sampleReleased)
      sampleReconnection = true := by
  decide

theorem sampleRelease :
    RegistryStep sampleClock (sampleRegistry sampleRouted)
      (.releaseIntervention (sampleLease 1).request, .ok .done)
      (sampleRegistry sampleReleased) := by
  decide

theorem sampleLease_ended :
    ∃ error, (assertCurrent (sampleLease 1).request
      (replayCalls (perform sampleClock) (sampleRegistry sampleReleased) sampleReconnection).2).1 =
        .error error := by
  have reached : RegistryRun sampleClock initial _ (sampleRegistry sampleRouted) :=
    replayCalls_run _ initial sampleRouted
  have continued : Run (Guarded (RegistryStep sampleClock) fun registry call =>
      sparesEnded registry call.1 = true) (sampleRegistry sampleReleased) _ _ :=
    replayCalls_guarded (perform sampleClock) sampleReconnection_spares
  exact run_ended_lease reached (.released rfl sampleRelease) continued rfl

/-- Binding the intervention again revives the lease that was released. -/
theorem sampleLease_revived :
    ∃ calls registry released more last,
      RegistryRun sampleClock initial calls registry ∧
      Ended sampleClock (sampleLease 1) registry released ∧
      RegistryRun sampleClock released more last ∧
      (assertCurrent (sampleLease 1).request last).1 = .ok () := by
  refine ⟨_, sampleRegistry sampleRouted, sampleRegistry sampleReleased, _,
    (replayCalls (perform sampleClock) (sampleRegistry sampleReleased)
      [.bindIntervention (sampleLease 1).request]).2, replayCalls_run _ initial sampleRouted,
    .released rfl sampleRelease, replayCalls_run _ _ _, ?_⟩
  rfl

end HostedWorkerRegistry

end ExecutionHandoff.Hosted
