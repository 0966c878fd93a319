import ExecutionHandoff.Hosted.ChannelSteps

/-!
# Agreement of a gate with the registry

The gate of a worker agrees with the registry up to the revocations of its
channel that are still to be sent: it holds every route that is active on the
worker, and beyond these only routes whose revocation is under way.
-/

namespace ExecutionHandoff.Hosted

open Library
open OrderedMap (get?_set_ne get?_set_self get?_of_get?_delete get?_mapValues get?_delete_ne get?_delete_self)

namespace HostedWorkerRouteGate

variable {gate : HostedWorkerRouteGate} {generation : Int}

theorem receive_registered (exact : isSafeInteger generation = true) (positive : 0 < generation) :
    initial.receive ⟨1, generation, .registered⟩ = ⟨some generation, OrderedMap.empty⟩ := by
  have accepted : (isSafeInteger generation && decide (0 < generation)) = true := by
    simp [exact, positive]
  simp only [receive, applyControl]
  simp [bind, StateExcept.andThen, StateExcept.require, StateExcept.succeed, StateExcept.read,
    StateExcept.update, accepted, initial]

variable {id : String}

theorem receive_bind (known : gate.workerGeneration = some generation) {epoch : Int}
    (newer : ∀ route, gate.routes.get? id = some route → route.epoch ≤ epoch) :
    gate.receive ⟨1, generation, .bind id epoch⟩ =
      { gate with routes := gate.routes.set id ⟨id, epoch, generation⟩ } := by
  have accepted : ((gate.routes.get? id).all fun existing => decide (existing.epoch ≤ epoch)) =
      true := by
    simpa [Option.all_eq_true] using newer
  simp only [receive, applyControl]
  simp [bind, StateExcept.andThen, StateExcept.require, StateExcept.succeed, StateExcept.read,
    StateExcept.update, accepted, known]

theorem receive_revoke (known : gate.workerGeneration = some generation)
    {epoch : Int} {route : WorkerRouteState} (held : gate.routes.get? id = some route)
    (same : route.epoch = epoch) (turn : route.workerGeneration = generation) :
    gate.receive ⟨1, generation, .revoke id epoch⟩ =
      { gate with routes := gate.routes.delete id } := by
  simp only [receive, applyControl]
  simp [bind, StateExcept.andThen, StateExcept.require, StateExcept.succeed, StateExcept.read,
    StateExcept.update, held, same, turn, known]

theorem receive_stale_revoke (known : gate.workerGeneration = some generation)
    {epoch : Int} (other : ∀ route, gate.routes.get? id = some route → route.epoch ≠ epoch) :
    gate.receive ⟨1, generation, .revoke id epoch⟩ = gate := by
  have refused : ((gate.routes.get? id).any fun existing =>
      existing.epoch == epoch && existing.workerGeneration == generation) = false := by
    cases held : gate.routes.get? id with
    | none => rfl
    | some route => simp [other route held]
  simp only [receive, applyControl]
  simp [bind, StateExcept.andThen, StateExcept.require, StateExcept.succeed, StateExcept.read,
    StateExcept.throwing, refused, known]

end HostedWorkerRouteGate

namespace HostedWorkerRegistry

variable {registry after : HostedWorkerRegistry}

variable {workerId : String}

theorem routedOn_iff {generation : Int} {route : RouteHistory} :
    routedOn workerId generation route = true ↔
      route.active = true ∧ route.workerId = workerId ∧ route.workerGeneration = generation := by
  simp [routedOn, and_assoc]

/-- What an accepted bind leaves in the registry. -/
structure RouteBound (registry : HostedWorkerRegistry) (request : HostedWorkerRouteRequest)
    (lease : HostedWorkerRouteLease) (after : HostedWorkerRegistry) : Prop where
  intervention : lease.interventionId = request.interventionId
  epoch : lease.epoch = request.epoch
  route : ∃ known, after.routes.get? request.interventionId = some known ∧
    routedOn request.workerId request.workerGeneration known = true ∧
    known.epoch = request.epoch
  earlier : ∀ known, registry.routes.get? request.interventionId = some known →
    known.workerId = request.workerId ∧ known.epoch ≤ request.epoch
  others : ∀ id, id ≠ request.interventionId → after.routes.get? id = registry.routes.get? id

theorem Change.routeBound {request : HostedWorkerRouteRequest} {lease : HostedWorkerRouteLease}
    (change : Change registry (.bindIntervention request) (.ok (.lease lease)) after)
    (inv : Invariant registry) : RouteBound registry request lease after := by
  cases change with
  | bound connected fresh =>
      refine ⟨rfl, rfl, ⟨_, get?_set_self _ _ _, ?_, rfl⟩, ?_, ?_⟩
      · exact routedOn_iff.mpr ⟨rfl, rfl, rfl⟩
      · intro known stored
        rw [fresh] at stored
        cases stored
      · exact fun id other => get?_set_ne _ _ other
  | repeated stored active epoch owner worker turn =>
      refine ⟨(inv.routed _ _ stored).1, epoch, ⟨_, stored, ?_, epoch⟩, ?_, fun _ _ => rfl⟩
      · exact routedOn_iff.mpr ⟨active, worker, turn⟩
      · intro known found
        cases stored.symm.trans found
        exact ⟨worker, Int.le_of_eq epoch⟩
  | rebound wellFormed connected stored owner worker epoch idle =>
      refine ⟨(inv.routed _ _ stored).1, rfl, ⟨_, get?_set_self _ _ _, ?_, rfl⟩, ?_, ?_⟩
      · exact routedOn_iff.mpr ⟨rfl, worker, rfl⟩
      · intro known found
        cases stored.symm.trans found
        exact ⟨worker, epoch⟩
      · exact fun id other => get?_set_ne _ _ other

/-- The routes of the worker are the same. -/
def SameRoutes (workerId : String) (registry after : HostedWorkerRegistry) : Prop :=
  ∀ id route, route.workerId = workerId →
    (after.routes.get? id = some route ↔ registry.routes.get? id = some route)

theorem SameRoutes.of_eq (same : after.routes = registry.routes) :
    SameRoutes workerId registry after := by
  intro id route _
  rw [same]

/-- Storing a route in place of one of the same worker leaves the routes of others. -/
theorem sameRoutes_withRoute {key : String}
    (others : ∀ id, id ≠ key → after.routes.get? id = registry.routes.get? id)
    (before : ∀ route, registry.routes.get? key = some route → route.workerId ≠ workerId)
    (now : ∀ route, after.routes.get? key = some route → route.workerId ≠ workerId) :
    SameRoutes workerId registry after := by
  intro id route own
  by_cases here : id = key
  · subst here
    constructor
    · exact fun stored => absurd own (now route stored)
    · exact fun stored => absurd own (before route stored)
  · rw [others id here]

theorem sameRoutes_bound {request : HostedWorkerRouteRequest}
    {lease : HostedWorkerRouteLease} (bound : RouteBound registry request lease after)
    (other : request.workerId ≠ workerId) : SameRoutes workerId registry after := by
  apply sameRoutes_withRoute bound.others
  · intro route stored
    rw [(bound.earlier route stored).1]
    exact other
  · intro route stored
    obtain ⟨known, found, routed, _⟩ := bound.route
    cases stored.symm.trans found
    rw [(routedOn_iff.mp routed).2.1]
    exact other

theorem sameRoutes_disconnected {worker : String} {generation : Int} (other : worker ≠ workerId)
    (routes : after.routes = registry.routes.mapValues (invalidate worker generation)) :
    SameRoutes workerId registry after := by
  intro id route own
  have untouched : ∀ known : RouteHistory, known.workerId = workerId →
      invalidate worker generation known = known := by
    intro known same
    apply if_neg
    simp [routedOn, same, Ne.symm other]
  rw [routes, get?_mapValues, Option.map_eq_some_iff]
  constructor
  · rintro ⟨known, stored, rfl⟩
    have same : known.workerId = workerId := by
      rw [invalidate_lease] at own
      exact own
    rw [untouched known same]
    exact stored
  · exact fun stored => ⟨route, stored, untouched route own⟩

/-! ## One channel -/

/-- The gate of the registered worker agrees with the registry, given the leases whose
revocations are under way. -/
structure Agrees (registration : HostedWorkerRegistration) (registry : HostedWorkerRegistry)
    (gate : HostedWorkerRouteGate) (revoking : HostedWorkerRouteLease → Prop) : Prop where
  generation : gate.workerGeneration = some registration.generation
  stored : ∀ id route, gate.routes.get? id = some route →
    route.interventionId = id ∧ route.workerGeneration = registration.generation ∧
      ∃ known, registry.routes.get? id = some known ∧
        known.workerId = registration.workerId ∧ route.epoch ≤ known.epoch
  active : ∀ id known, registry.routes.get? id = some known →
    routedOn registration.workerId registration.generation known = true →
    gate.routes.get? id = some ⟨id, known.epoch, registration.generation⟩
  extra : ∀ id route, gate.routes.get? id = some route →
    (∃ known, registry.routes.get? id = some known ∧
      routedOn registration.workerId registration.generation known = true) ∨
    ∃ lease, revoking lease ∧ lease.interventionId = id ∧ lease.epoch = route.epoch
  revoked : ∀ lease, revoking lease → ∃ known,
    registry.routes.get? lease.interventionId = some known ∧
      known.workerId = registration.workerId ∧
      (lease.epoch < known.epoch ∨ lease.epoch = known.epoch ∧ known.active = false)

variable {registration : HostedWorkerRegistration} {gate : HostedWorkerRouteGate}
  {revoking later : HostedWorkerRouteLease → Prop}

/-- A change that touches no route of the worker. -/
theorem Agrees.frame (agrees : Agrees registration registry gate revoking)
    (same : SameRoutes registration.workerId registry after)
    (pending : ∀ lease, later lease ↔ revoking lease) :
    Agrees registration after gate later := by
  constructor
  · exact agrees.generation
  · intro id route held
    obtain ⟨own, turn, known, stored, worker, le⟩ := agrees.stored id route held
    exact ⟨own, turn, known, (same id known worker).mpr stored, worker, le⟩
  · intro id known stored routed
    have worker := (routedOn_iff.mp routed).2.1
    exact agrees.active id known ((same id known worker).mp stored) routed
  · intro id route held
    rcases agrees.extra id route held with ⟨known, stored, routed⟩ | ⟨lease, revoke, facts⟩
    · have worker := (routedOn_iff.mp routed).2.1
      exact .inl ⟨known, (same id known worker).mpr stored, routed⟩
    · exact .inr ⟨lease, (pending lease).mpr revoke, facts⟩
  · intro lease revoke
    obtain ⟨known, stored, worker, past⟩ := agrees.revoked lease ((pending lease).mp revoke)
    exact ⟨known, (same _ known worker).mpr stored, worker, past⟩

/-- A worker that has just registered has no active route. -/
theorem agrees_registered (idle : ∀ lease, ¬ revoking lease)
    (none' : ∀ id known, registry.routes.get? id = some known →
      routedOn registration.workerId registration.generation known = false) :
    Agrees registration registry ⟨some registration.generation, OrderedMap.empty⟩ revoking := by
  constructor
  · rfl
  · exact fun _ _ held => nomatch held
  · intro id known stored routed
    rw [none' id known stored] at routed
    cases routed
  · exact fun _ _ held => nomatch held
  · exact fun lease revoke => absurd revoke (idle lease)

/-- A bind that overtakes no revocation of its epoch. -/
theorem Agrees.bound (agrees : Agrees registration registry gate revoking)
    {request : HostedWorkerRouteRequest} {lease : HostedWorkerRouteLease}
    (bound : RouteBound registry request lease after)
    (own : request.workerId = registration.workerId ∧
      request.workerGeneration = registration.generation)
    (apart : ∀ other, revoking other → other.interventionId = request.interventionId →
      other.epoch ≠ request.epoch) :
    Agrees registration after
      (gate.receive ⟨1, registration.generation, .bind lease.interventionId lease.epoch⟩)
      revoking := by
  obtain ⟨known, found, routed, epoch⟩ := bound.route
  rw [own.1, own.2] at routed
  have newer : ∀ route, gate.routes.get? lease.interventionId = some route →
      route.epoch ≤ lease.epoch := by
    intro route held
    rw [bound.intervention] at held
    obtain ⟨_, _, before, stored, _, le⟩ := agrees.stored _ route held
    rw [bound.epoch]
    exact Int.le_trans le (bound.earlier before stored).2
  rw [HostedWorkerRouteGate.receive_bind agrees.generation newer, bound.intervention, bound.epoch]
  constructor
  · exact agrees.generation
  · intro id route held
    by_cases here : id = request.interventionId
    · subst here
      rw [get?_set_self] at held
      cases held
      exact ⟨rfl, rfl, known, found, (routedOn_iff.mp routed).2.1, Int.le_of_eq epoch.symm⟩
    · obtain ⟨same, turn, before, stored, facts⟩ :=
        agrees.stored id route ((get?_set_ne _ _ here).symm.trans held)
      exact ⟨same, turn, before, (bound.others id here).trans stored, facts⟩
  · intro id current stored live
    by_cases here : id = request.interventionId
    · subst here
      cases stored.symm.trans found
      rw [epoch]
      exact get?_set_self _ _ _
    · rw [get?_set_ne _ _ here]
      exact agrees.active id current ((bound.others id here).symm.trans stored) live
  · intro id route held
    by_cases here : id = request.interventionId
    · subst here
      exact .inl ⟨known, found, routed⟩
    · rw [bound.others id here]
      exact agrees.extra id route ((get?_set_ne _ _ here).symm.trans held)
  · intro other revoke
    obtain ⟨before, stored, worker, past⟩ := agrees.revoked other revoke
    by_cases here : other.interventionId = request.interventionId
    · rw [here] at stored ⊢
      refine ⟨known, found, (routedOn_iff.mp routed).2.1, .inl ?_⟩
      have le := (bound.earlier before stored).2
      have ne := apart other revoke here
      rcases past with past | ⟨past, _⟩ <;> omega
    · exact ⟨before, (bound.others _ here).trans stored, worker, past⟩

/-- A release, whose revocation is now under way. -/
theorem Agrees.released (agrees : Agrees registration registry gate revoking)
    {existing : RouteHistory} {lease : HostedWorkerRouteLease}
    (stored : registry.routes.get? lease.interventionId = some existing)
    (epoch : existing.epoch = lease.epoch)
    (routed : routedOn registration.workerId registration.generation existing = true)
    (routes : after.routes =
      registry.routes.set lease.interventionId { existing with active := false })
    (pending : ∀ other, later other ↔ revoking other ∨ other = lease) :
    Agrees registration after gate later := by
  obtain ⟨_, worker, _⟩ := routedOn_iff.mp routed
  have found : after.routes.get? lease.interventionId = some { existing with active := false } := by
    rw [routes]
    exact get?_set_self _ _ _
  have others : ∀ id, id ≠ lease.interventionId →
      after.routes.get? id = registry.routes.get? id := by
    intro id other
    rw [routes]
    exact get?_set_ne _ _ other
  constructor
  · exact agrees.generation
  · intro id route held
    obtain ⟨same, turn, known, earlier, own, le⟩ := agrees.stored id route held
    by_cases here : id = lease.interventionId
    · subst here
      cases stored.symm.trans earlier
      exact ⟨same, turn, _, found, worker, le⟩
    · exact ⟨same, turn, known, (others id here).trans earlier, own, le⟩
  · intro id known now live
    by_cases here : id = lease.interventionId
    · subst here
      cases found.symm.trans now
      cases (routedOn_iff.mp live).1
    · exact agrees.active id known ((others id here).symm.trans now) live
  · intro id route held
    by_cases here : id = lease.interventionId
    · subst here
      have kept := agrees.active _ existing stored routed
      cases kept.symm.trans held
      exact .inr ⟨lease, (pending lease).mpr (.inr rfl), rfl, epoch.symm⟩
    · rcases agrees.extra id route held with ⟨known, earlier, live⟩ | ⟨other, revoke, facts⟩
      · exact .inl ⟨known, (others id here).trans earlier, live⟩
      · exact .inr ⟨other, (pending other).mpr (.inl revoke), facts⟩
  · intro other revoke
    rcases (pending other).mp revoke with revoke | rfl
    · obtain ⟨known, earlier, own, past⟩ := agrees.revoked other revoke
      by_cases here : other.interventionId = lease.interventionId
      · rw [here] at earlier ⊢
        cases stored.symm.trans earlier
        refine ⟨_, found, worker, ?_⟩
        rcases past with past | ⟨past, _⟩
        · exact .inl past
        · exact .inr ⟨past, rfl⟩
      · exact ⟨known, (others _ here).trans earlier, own, past⟩
    · exact ⟨_, found, worker, .inr ⟨epoch.symm, rfl⟩⟩

/-- The revoke message of a lease is sent. -/
theorem Agrees.sent (agrees : Agrees registration registry gate revoking)
    {lease : HostedWorkerRouteLease} (revoke : revoking lease)
    (fewer : ∀ other, later other → revoking other)
    (rest : ∀ other, revoking other → later other ∨ other = lease) :
    Agrees registration registry
      (gate.receive ⟨1, registration.generation, .revoke lease.interventionId lease.epoch⟩)
      later := by
  have revoked : ∀ other, later other → ∃ known,
      registry.routes.get? other.interventionId = some known ∧
        known.workerId = registration.workerId ∧
        (other.epoch < known.epoch ∨ other.epoch = known.epoch ∧ known.active = false) :=
    fun other pending => agrees.revoked other (fewer other pending)
  by_cases here : ∃ route, gate.routes.get? lease.interventionId = some route ∧
      route.epoch = lease.epoch
  · obtain ⟨route, held, same⟩ := here
    rw [HostedWorkerRouteGate.receive_revoke agrees.generation held same
      (agrees.stored _ route held).2.1]
    have kept : ∀ id route, (gate.routes.delete lease.interventionId).get? id = some route →
        gate.routes.get? id = some route := fun id route held => get?_of_get?_delete held
    refine ⟨agrees.generation, fun id route held => agrees.stored id route (kept id route held),
      ?_, ?_, revoked⟩
    · intro id known stored live
      have was := agrees.active id known stored live
      by_cases this : id = lease.interventionId
      · -- an active route is at a later epoch than the one that is revoked
        subst this
        cases held.symm.trans was
        obtain ⟨before, found, _, past⟩ := agrees.revoked lease revoke
        cases stored.symm.trans found
        rw [(routedOn_iff.mp live).1] at past
        rcases past with past | ⟨_, no⟩
        · exact absurd same.symm (Int.ne_of_lt past)
        · cases no
      · exact (get?_delete_ne _ this).trans was
    · intro id route held'
      rcases agrees.extra id route (kept id route held') with active | ⟨other, pending, own, epoch⟩
      · exact .inl active
      · rcases rest other pending with pending | rfl
        · exact .inr ⟨other, pending, own, epoch⟩
        · rw [← own, get?_delete_self] at held'
          cases held'
  · have other : ∀ route, gate.routes.get? lease.interventionId = some route →
        route.epoch ≠ lease.epoch := fun route held same => here ⟨route, held, same⟩
    rw [HostedWorkerRouteGate.receive_stale_revoke agrees.generation other]
    refine ⟨agrees.generation, agrees.stored, agrees.active, ?_, revoked⟩
    intro id route held
    rcases agrees.extra id route held with active | ⟨other', pending, rfl, epoch⟩
    · exact .inl active
    · rcases rest other' pending with pending | rfl
      · exact .inr ⟨other', pending, rfl, epoch⟩
      · exact absurd epoch.symm (other route held)

/-- With no revocation under way the gate holds exactly the active routes of its worker. -/
theorem Agrees.exact (agrees : Agrees registration registry gate revoking)
    (idle : ∀ lease, ¬ revoking lease) (id : String) (epoch : Int) :
    gate.routes.get? id = some ⟨id, epoch, registration.generation⟩ ↔
      ∃ known, registry.routes.get? id = some known ∧
        routedOn registration.workerId registration.generation known = true ∧
        known.epoch = epoch := by
  constructor
  · intro held
    rcases agrees.extra id _ held with ⟨known, stored, live⟩ | ⟨lease, revoke, _⟩
    · refine ⟨known, stored, live, ?_⟩
      have kept := agrees.active id known stored live
      cases kept.symm.trans held
      rfl
    · exact absurd revoke (idle lease)
  · rintro ⟨known, stored, live, rfl⟩
    exact agrees.active id known stored live

end HostedWorkerRegistry

end ExecutionHandoff.Hosted
