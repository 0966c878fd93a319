import ExecutionHandoff.Hosted.HostedWorker

/-!
# What holds of the registry after any history

Every call is refused with no map changed, answers from what is stored, or makes
one of five changes.  The four maps stay consistent under each of them, and what
they record about a worker or an intervention only moves forward.
-/

namespace ExecutionHandoff.Hosted

open Library Bool List
open OrderedMap (get?_set_ne get?_set_self get?_of_get?_delete get?_mapValues get?_delete_ne get?_delete_self)
open StateExcept hiding read update
open Ensures (reading updating)

namespace HostedWorkerRegistry

variable {clock : Nat → Int}

/-- The maps are the same; only the clock may have been read. -/
structure SameMaps (registry after : HostedWorkerRegistry) : Prop where
  activeWorkers : after.activeWorkers = registry.activeWorkers
  workerPrincipals : after.workerPrincipals = registry.workerPrincipals
  workerGenerations : after.workerGenerations = registry.workerGenerations
  routes : after.routes = registry.routes

theorem SameMaps.refl (registry : HostedWorkerRegistry) : SameMaps registry registry :=
  ⟨rfl, rfl, rfl, rfl⟩

/-- The worker of a lease is connected with the lease's generation and principal. -/
def Connected (registry : HostedWorkerRegistry) (lease : HostedWorkerRouteLease) : Prop :=
  ∃ worker, registry.activeWorkers.get? lease.workerId = some worker ∧
    worker.registration.generation = lease.workerGeneration ∧
    worker.registration.principalBinding = lease.principalBinding

/-- What a call does, by the operation and its outcome. -/
inductive Change (registry : HostedWorkerRegistry) :
    RegistryOp → Except HostedWorkerRegistryError RegistryReply → HostedWorkerRegistry → Prop where
  | refused {op : RegistryOp} (error : HostedWorkerRegistryError) {after : HostedWorkerRegistry}
      (same : SameMaps registry after) : Change registry op (.error error) after
  | reconnected {request : HostedWorkerRegistrationRequest} {active : ActiveWorker}
      (stored : registry.activeWorkers.get? request.workerId = some active)
      (channel : active.channelBinding = request.channelBinding) :
      Change registry (.register request) (.ok (.registration active.registration)) registry
  | admitted {request : HostedWorkerRegistrationRequest}
      (pinned : ∀ principal, registry.workerPrincipals.get? request.workerId = some principal →
        principal = request.principalBinding)
      (absent : registry.activeWorkers.get? request.workerId = none) (registeredAt : Int)
      (previous : Int)
      (last : (registry.workerGenerations.get? request.workerId).getD 0 = previous)
      (room : isSafeInteger previous = true ∧ previous < maxSafeInteger) :
      Change registry (.register request)
        (.ok (.registration
          ⟨request.workerId, request.principalBinding, previous + 1, registeredAt⟩))
        { registry with
          reads := registry.reads + 1
          workerPrincipals := registry.workerPrincipals.set request.workerId
            request.principalBinding
          workerGenerations := registry.workerGenerations.set request.workerId (previous + 1)
          activeWorkers := registry.activeWorkers.set request.workerId
            ⟨⟨request.workerId, request.principalBinding, previous + 1, registeredAt⟩,
              request.channelBinding⟩ }
  | disconnected {workerId : String} {generation : Int} {channelBinding : String}
      {active : ActiveWorker} (stored : registry.activeWorkers.get? workerId = some active)
      (turn : active.registration.generation = generation)
      (channel : active.channelBinding = channelBinding) :
      Change registry (.disconnect workerId generation channelBinding)
        (.ok (.leases
          ((registry.routes.values.filter (routedOn workerId generation)).map publicRoute)))
        { registry with
          activeWorkers := registry.activeWorkers.delete workerId
          routes := registry.routes.mapValues (invalidate workerId generation) }
  | bound {request : HostedWorkerRouteRequest}
      (connected : Connected registry request.toHostedWorkerRouteLease)
      (fresh : registry.routes.get? request.interventionId = none) :
      Change registry (.bindIntervention request)
        (.ok (.lease request.toHostedWorkerRouteLease))
        { registry with
          routes := registry.routes.set request.interventionId
            ⟨request.toHostedWorkerRouteLease, true⟩ }
  | repeated {request : HostedWorkerRouteRequest} {existing : RouteHistory}
      (stored : registry.routes.get? request.interventionId = some existing)
      (active : existing.active = true) (epoch : existing.epoch = request.epoch)
      (owner : existing.principalBinding = request.principalBinding)
      (worker : existing.workerId = request.workerId)
      (turn : existing.workerGeneration = request.workerGeneration) :
      Change registry (.bindIntervention request) (.ok (.lease (publicRoute existing))) registry
  | rebound {request : HostedWorkerRouteRequest} {existing : RouteHistory}
      (wellFormed : request.wellFormed = true)
      (connected : Connected registry request.toHostedWorkerRouteLease)
      (stored : registry.routes.get? request.interventionId = some existing)
      (owner : existing.principalBinding = request.principalBinding)
      (worker : existing.workerId = request.workerId) (epoch : existing.epoch ≤ request.epoch)
      (idle : existing.epoch = request.epoch → existing.active = false) :
      Change registry (.bindIntervention request)
        (.ok (.lease
          ⟨existing.interventionId, request.epoch, existing.principalBinding, existing.workerId,
            request.workerGeneration⟩))
        { registry with
          routes := registry.routes.set request.interventionId
            ⟨⟨existing.interventionId, request.epoch, existing.principalBinding,
              existing.workerId, request.workerGeneration⟩, true⟩ }
  | asserted {request : HostedWorkerRouteRequest}
      (holds : registry.current request.toHostedWorkerRouteLease = true) :
      Change registry (.assertCurrent request) (.ok .done) registry
  | released {request : HostedWorkerRouteRequest} {existing : RouteHistory}
      (stored : registry.routes.get? request.interventionId = some existing)
      (active : existing.active = true) (epoch : existing.epoch = request.epoch)
      (owner : existing.principalBinding = request.principalBinding)
      (worker : existing.workerId = request.workerId)
      (turn : existing.workerGeneration = request.workerGeneration) :
      Change registry (.releaseIntervention request) (.ok .done)
        { registry with
          routes := registry.routes.set request.interventionId { existing with active := false } }

section Rules

variable {α β : Type} {registry : HostedWorkerRegistry}
  {post : Except HostedWorkerRegistryError β → HostedWorkerRegistry → Prop}

theorem ensures_now {next : Int → RegistryM β}
    (holds : Ensures (next (clock registry.reads))
      { registry with reads := registry.reads + 1 } post) :
    Ensures (now clock >>= next) registry post :=
  holds

theorem ensures_requireWorker {workerId : String} {next : ActiveWorker → RegistryM β}
    (failed : ∀ error, post (.error error) registry)
    (passed : ∀ active, registry.activeWorkers.get? workerId = some active →
      Ensures (next active) registry post) :
    Ensures (requireWorker workerId >>= next) registry post := by
  have spec : Ensures (requireWorker workerId) registry fun result after =>
      after = registry ∧ ∀ active, result = .ok active →
        registry.activeWorkers.get? workerId = some active := by
    apply Ensures.require
    · exact fun _ => ⟨rfl, fun _ no => by cases no⟩
    · intro _
      apply reading
      split
      · exact .throwing ⟨rfl, fun _ no => by cases no⟩
      · rename_i active stored
        refine .pure ⟨rfl, ?_⟩
        rintro _ ⟨⟩
        exact stored
  apply spec.bind
  · rintro error _ ⟨rfl, _⟩
    exact failed error
  · rintro active _ ⟨rfl, found⟩
    exact passed active (found active rfl)

theorem ensures_parseRouteRequest {request : HostedWorkerRouteRequest}
    {next : HostedWorkerRouteLease → RegistryM β} (failed : ∀ error, post (.error error) registry)
    (passed : request.wellFormed = true →
      Ensures (next request.toHostedWorkerRouteLease) registry post) :
    Ensures (parseRouteRequest request >>= next) registry post := by
  have spec : Ensures (parseRouteRequest request) registry fun result after =>
      after = registry ∧ ∀ lease, result = .ok lease →
        request.wellFormed = true ∧ lease = request.toHostedWorkerRouteLease := by
    apply Ensures.require
    · exact fun _ => ⟨rfl, fun _ no => nomatch no⟩
    · intro wellFormed
      refine .pure ⟨rfl, ?_⟩
      rintro _ ⟨⟩
      exact ⟨wellFormed, rfl⟩
  apply spec.bind
  · rintro error _ ⟨rfl, _⟩
    exact failed error
  · rintro lease _ ⟨rfl, found⟩
    obtain ⟨wellFormed, rfl⟩ := found lease rfl
    exact passed wellFormed

end Rules

section Changes

variable (registry : HostedWorkerRegistry)

theorem register_change (request : HostedWorkerRegistrationRequest) :
    Ensures (register clock request) registry fun result after =>
      Change registry (.register request) (result.map .registration) after := by
  refine Ensures.require (fun _ => .refused _ (.refl registry)) fun _ => ?_
  apply reading
  refine Ensures.require (fun _ => .refused _ (.refl registry)) fun pinned => ?_
  split
  · rename_i active stored
    refine Ensures.require (fun _ => .refused _ (.refl registry)) fun same => ?_
    simp only [and_eq_true, beq_iff_eq] at same
    exact .pure (.reconnected stored same.2)
  · rename_i absent
    apply reading
    refine Ensures.require (fun _ => .refused _ (.refl registry)) fun room => ?_
    apply ensures_now
    refine Ensures.require (fun _ => .refused _ ⟨rfl, rfl, rfl, rfl⟩) fun _ => ?_
    apply updating
    apply Ensures.pure
    simp only [and_eq_true, decide_eq_true_eq] at room
    refine .admitted ?_ absent _ _ rfl room
    intro principal stored
    rw [stored] at pinned
    simpa using pinned

theorem disconnect_change (workerId : String) (generation : Int) (channelBinding : String) :
    Ensures (disconnect workerId generation channelBinding) registry
      fun result after =>
        Change registry (.disconnect workerId generation channelBinding) (result.map .leases)
          after := by
  refine ensures_requireWorker (fun _ => .refused _ (.refl registry)) fun active stored => ?_
  refine Ensures.require (fun _ => .refused _ (.refl registry)) fun turn => ?_
  refine Ensures.require (fun _ => .refused _ (.refl registry)) fun channel => ?_
  apply reading
  apply updating
  apply Ensures.pure
  simp only [and_eq_true, beq_iff_eq] at turn channel
  exact .disconnected stored turn.2 channel.2

theorem bindIntervention_change (request : HostedWorkerRouteRequest) :
    Ensures (bindIntervention request) registry fun result after =>
      Change registry (.bindIntervention request) (result.map .lease) after := by
  refine ensures_parseRouteRequest (fun _ => .refused _ (.refl registry)) fun wellFormed => ?_
  refine ensures_requireWorker (fun _ => .refused _ (.refl registry)) fun worker stored => ?_
  refine Ensures.require (fun _ => .refused _ (.refl registry)) fun turn => ?_
  refine Ensures.require (fun _ => .refused _ (.refl registry)) fun principal => ?_
  have connected : Connected registry request.toHostedWorkerRouteLease :=
    ⟨worker, stored, by simpa using turn, by simpa using principal⟩
  apply reading
  split
  · rename_i fresh
    apply updating
    apply Ensures.pure
    exact .bound connected fresh
  · rename_i existing found
    refine Ensures.require (fun _ => .refused _ (.refl registry)) fun owner => ?_
    refine Ensures.require (fun _ => .refused _ (.refl registry)) fun epoch => ?_
    simp only [and_eq_true, beq_iff_eq] at owner
    split
    · rename_i live
      refine Ensures.require (fun _ => .refused _ (.refl registry)) fun same => ?_
      exact .pure (.repeated found live.2 live.1 owner.1 owner.2 (by simpa using same))
    · rename_i idle
      apply updating
      apply Ensures.pure
      refine .rebound wellFormed connected found owner.1 owner.2 (of_decide_eq_true epoch)
        fun same => ?_
      exact eq_false_iff.mpr fun active => idle ⟨same, active⟩

theorem assertCurrent_change (request : HostedWorkerRouteRequest) :
    Ensures (assertCurrent request) registry fun result after =>
      Change registry (.assertCurrent request) (result.map fun _ => .done) after := by
  refine ensures_parseRouteRequest (fun _ => .refused _ (.refl registry)) fun _ => ?_
  apply reading
  unfold StateExcept.require
  split
  · rename_i holds
    exact .asserted holds
  · exact .refused _ (.refl registry)

theorem releaseIntervention_change (request : HostedWorkerRouteRequest) :
    Ensures (releaseIntervention request) registry fun result after =>
      Change registry (.releaseIntervention request) (result.map fun _ => .done) after := by
  refine ensures_parseRouteRequest (fun _ => .refused _ (.refl registry)) fun _ => ?_
  apply reading
  split
  · exact .throwing (.refused _ (.refl registry))
  · rename_i existing stored
    refine Ensures.require (fun _ => .refused _ (.refl registry)) fun active => ?_
    refine Ensures.require (fun _ => .refused _ (.refl registry)) fun same => ?_
    simp only [and_eq_true, beq_iff_eq] at same
    exact .update (.released stored active same.1.1.1 same.1.1.2 same.1.2 same.2)

/-- Every call makes one of the changes. -/
theorem perform_change (op : RegistryOp) :
    Ensures (perform clock op) registry (Change registry op) := by
  cases op with
  | register request => exact .mapping (register_change registry request)
  | disconnect workerId generation channelBinding =>
      exact .mapping (disconnect_change registry workerId generation channelBinding)
  | bindIntervention request => exact .mapping (bindIntervention_change registry request)
  | assertCurrent request => exact .mapping (assertCurrent_change registry request)
  | releaseIntervention request => exact .mapping (releaseIntervention_change registry request)

end Changes

variable {workerId id : String} {last : HostedWorkerRegistry} {route : RouteHistory}
  {generation : Int}

theorem RegistryStep.change {first : HostedWorkerRegistry} {call : RegistryCall}
    (step : RegistryStep clock first call last) : Change first call.1 call.2 last := by
  have change : Change first call.1 (perform clock call.1 first).1
      (perform clock call.1 first).2 := perform_change first call.1
  have outcome : perform clock call.1 first = (call.2, last) := step
  rw [outcome] at change
  exact change

/-! ## Consistency of the maps -/

structure Invariant (registry : HostedWorkerRegistry) : Prop where
  connected : ∀ workerId worker, registry.activeWorkers.get? workerId = some worker →
    worker.registration.workerId = workerId ∧
      registry.workerPrincipals.get? workerId = some worker.registration.principalBinding ∧
      registry.workerGenerations.get? workerId = some worker.registration.generation
  routed : ∀ id route, registry.routes.get? id = some route →
    route.interventionId = id ∧
      registry.workerPrincipals.get? route.workerId = some route.principalBinding ∧
      ∃ generation, registry.workerGenerations.get? route.workerId = some generation ∧
        route.workerGeneration ≤ generation
  live : ∀ id route, registry.routes.get? id = some route → route.active = true →
    Connected registry route.toHostedWorkerRouteLease

theorem initial_invariant : Invariant initial :=
  ⟨fun _ _ no => (nomatch no), fun _ _ no => (nomatch no), fun _ _ no => (nomatch no)⟩

theorem Invariant.sameMaps {registry after : HostedWorkerRegistry} (inv : Invariant registry)
    (same : SameMaps registry after) : Invariant after := by
  obtain ⟨connected, routed, live⟩ := inv
  obtain ⟨workers, principals, generations, routes⟩ := same
  constructor
  · rw [workers, principals, generations]
    exact connected
  · rw [routes, principals, generations]
    exact routed
  · unfold Connected
    rw [routes, workers]
    exact live

/-- Storing a route of a connected worker under its intervention. -/
theorem Invariant.withRoute {registry : HostedWorkerRegistry} (inv : Invariant registry)
     (own : route.interventionId = id)
    (connected : Connected registry route.toHostedWorkerRouteLease) :
    Invariant { registry with routes := registry.routes.set id route } := by
  obtain ⟨worker, stored, turn, principal⟩ := connected
  obtain ⟨_, pinned, generation⟩ := inv.connected _ worker stored
  constructor
  · exact inv.connected
  · intro other current found
    by_cases here : other = id
    · subst here
      rw [get?_set_self] at found
      cases found
      exact ⟨own, principal ▸ pinned, _, generation, Int.le_of_eq turn.symm⟩
    · rw [get?_set_ne _ _ here] at found
      exact inv.routed other current found
  · intro other current found active
    by_cases here : other = id
    · subst here
      rw [get?_set_self] at found
      cases found
      exact ⟨worker, stored, turn, principal⟩
    · rw [get?_set_ne _ _ here] at found
      exact inv.live other current found active

/-- Closing a stored route. -/
theorem Invariant.closeRoute {registry : HostedWorkerRegistry} (inv : Invariant registry)
     (stored : registry.routes.get? id = some route) :
    Invariant
      { registry with routes := registry.routes.set id { route with active := false } } := by
  constructor
  · exact inv.connected
  · intro other current found
    by_cases here : other = id
    · subst here
      rw [get?_set_self] at found
      cases found
      exact inv.routed other route stored
    · rw [get?_set_ne _ _ here] at found
      exact inv.routed other current found
  · intro other current found active
    by_cases here : other = id
    · subst here
      rw [get?_set_self] at found
      cases found
      cases active
    · rw [get?_set_ne _ _ here] at found
      exact inv.live other current found active

@[simp] theorem invalidate_lease (workerId : String) (generation : Int) (route : RouteHistory) :
    (invalidate workerId generation route).toHostedWorkerRouteLease =
      route.toHostedWorkerRouteLease := by
  unfold invalidate
  split <;> rfl

theorem invalidate_active (active : (invalidate workerId generation route).active = true) :
    route.active = true ∧ ¬ (route.workerId = workerId ∧ route.workerGeneration = generation) := by
  unfold invalidate routedOn at active
  split at active
  · cases active
  · rename_i other
    refine ⟨active, fun same => other ?_⟩
    simp [active, same]

/-- A stored route after a disconnect is the one before, perhaps closed. -/
theorem stored_after_disconnect {registry : HostedWorkerRegistry}
    (found : (registry.routes.mapValues (invalidate workerId generation)).get? id = some route) :
    ∃ before, registry.routes.get? id = some before ∧
      route = invalidate workerId generation before := by
  rw [get?_mapValues] at found
  obtain ⟨before, stored, rfl⟩ := Option.map_eq_some_iff.mp found
  exact ⟨before, stored, rfl⟩

theorem Invariant.disconnected {registry : HostedWorkerRegistry} (inv : Invariant registry)
    {workerId : String} {active : ActiveWorker}
    (stored : registry.activeWorkers.get? workerId = some active) :
    Invariant
      { registry with
        activeWorkers := registry.activeWorkers.delete workerId
        routes := registry.routes.mapValues
          (invalidate workerId active.registration.generation) } := by
  constructor
  · exact fun other worker found =>
      inv.connected other worker (get?_of_get?_delete found)
  · intro id route found
    obtain ⟨before, earlier, rfl⟩ := stored_after_disconnect found
    have facts := inv.routed id before earlier
    rw [invalidate_lease]
    exact facts
  · intro id route found live
    obtain ⟨before, earlier, rfl⟩ := stored_after_disconnect found
    obtain ⟨was, other⟩ := invalidate_active live
    obtain ⟨worker, held, turn, principal⟩ := inv.live id before earlier was
    -- an active route of the worker is on its connected generation
    have elsewhere : before.workerId ≠ workerId := by
      intro same
      rw [same, stored] at held
      cases held
      exact other ⟨same, turn.symm⟩
    refine ⟨worker, ?_, ?_, ?_⟩
    · rw [invalidate_lease, get?_delete_ne _ elsewhere]
      exact held
    · rw [invalidate_lease]
      exact turn
    · rw [invalidate_lease]
      exact principal

theorem Invariant.admitted {registry : HostedWorkerRegistry} (inv : Invariant registry)
    {request : HostedWorkerRegistrationRequest} {registeredAt previous : Int}
    (pinned : ∀ principal, registry.workerPrincipals.get? request.workerId = some principal →
      principal = request.principalBinding)
    (absent : registry.activeWorkers.get? request.workerId = none)
    (last : (registry.workerGenerations.get? request.workerId).getD 0 = previous) :
    Invariant
      { registry with
        reads := registry.reads + 1
        workerPrincipals := registry.workerPrincipals.set request.workerId request.principalBinding
        workerGenerations := registry.workerGenerations.set request.workerId (previous + 1)
        activeWorkers := registry.activeWorkers.set request.workerId
          ⟨⟨request.workerId, request.principalBinding, previous + 1, registeredAt⟩,
            request.channelBinding⟩ } := by
  constructor
  · intro workerId worker found
    by_cases here : workerId = request.workerId
    · subst here
      rw [get?_set_self] at found
      cases found
      exact ⟨rfl, get?_set_self _ _ _, get?_set_self _ _ _⟩
    · rw [get?_set_ne _ _ here] at found
      rw [get?_set_ne _ _ here, get?_set_ne _ _ here]
      exact inv.connected workerId worker found
  · intro id route found
    obtain ⟨own, principal, generation, known, le⟩ := inv.routed id route found
    refine ⟨own, ?_, ?_⟩
    · by_cases here : route.workerId = request.workerId
      · rw [here, get?_set_self, pinned route.principalBinding (here ▸ principal)]
      · rw [get?_set_ne _ _ here]
        exact principal
    · by_cases here : route.workerId = request.workerId
      · rw [here] at known
        rw [known] at last
        refine ⟨previous + 1, by rw [here, get?_set_self], ?_⟩
        have same : generation = previous := last
        omega
      · exact ⟨generation, by rw [get?_set_ne _ _ here]; exact known, le⟩
  · intro id route found active
    obtain ⟨worker, held, turn, principal⟩ := inv.live id route found active
    have elsewhere : route.workerId ≠ request.workerId := by
      intro same
      rw [same, absent] at held
      cases held
    exact ⟨worker, (get?_set_ne _ _ elsewhere).trans held, turn, principal⟩

theorem Change.invariant {registry after : HostedWorkerRegistry} {op : RegistryOp}
    {outcome : Except HostedWorkerRegistryError RegistryReply}
    (change : Change registry op outcome after) (inv : Invariant registry) : Invariant after := by
  cases change with
  | refused error same => exact inv.sameMaps same
  | reconnected | repeated | asserted => exact inv
  | admitted pinned absent registeredAt previous last => exact inv.admitted pinned absent last
  | disconnected stored turn => exact turn ▸ inv.disconnected stored
  | bound connected fresh => exact inv.withRoute rfl connected
  | @rebound request existing wellFormed connected stored owner worker =>
      apply inv.withRoute
      · exact (inv.routed _ existing stored).1
      · obtain ⟨active, held, turn, principal⟩ := connected
        exact ⟨active, (congrArg _ worker).trans held, turn, principal.trans owner.symm⟩
  | released stored => exact inv.closeRoute stored

theorem RegistryRun.invariant {first last : HostedWorkerRegistry} {calls : List RegistryCall}
    (run : RegistryRun clock first calls last) (inv : Invariant first) : Invariant last :=
  Run.invariant run (fun step => step.change.invariant) inv

/-- A lease is current exactly when the active route of its intervention is the lease. -/
theorem Invariant.current_iff {registry : HostedWorkerRegistry} (inv : Invariant registry)
    {lease : HostedWorkerRouteLease} :
    registry.current lease = true ↔
      ∃ route, registry.routes.get? lease.interventionId = some route ∧ route.active = true ∧
        publicRoute route = lease := by
  constructor
  · intro holds
    simp only [current, and_eq_true, Option.any_eq_true, beq_iff_eq] at holds
    obtain ⟨_, route, stored, ⟨⟨⟨active, epoch⟩, principal⟩, worker⟩, turn⟩ := holds
    have own : route.interventionId = lease.interventionId := (inv.routed _ route stored).1
    refine ⟨route, stored, active, ?_⟩
    obtain ⟨⟨⟩, _⟩ := route
    obtain ⟨⟩ := lease
    simp only [publicRoute, HostedWorkerRouteLease.mk.injEq]
    exact ⟨own, epoch, principal, worker, turn⟩
  · rintro ⟨route, stored, active, rfl⟩
    obtain ⟨worker, held, turn, principal⟩ := inv.live _ route stored active
    simp [current, publicRoute] at stored ⊢
    simp [held, stored, active, turn, principal]

/-- Whether a lease is current depends on its worker and on the route of its intervention. -/
theorem current_congr {registry after : HostedWorkerRegistry} {lease : HostedWorkerRouteLease}
    (worker : after.activeWorkers.get? lease.workerId =
      registry.activeWorkers.get? lease.workerId)
    (route : after.routes.get? lease.interventionId =
      registry.routes.get? lease.interventionId) :
    after.current lease = registry.current lease := by
  unfold current
  rw [worker, route]

theorem current_withRoute {registry : HostedWorkerRegistry}
    {lease : HostedWorkerRouteLease} (other : lease.interventionId ≠ id) :
    current lease { registry with routes := registry.routes.set id route } =
      registry.current lease :=
  current_congr rfl (get?_set_ne _ _ other)

/-! ## Forward movement -/

/-- What the registry records about workers and interventions only moves forward. -/
structure Forward (first last : HostedWorkerRegistry) : Prop where
  principal : ∀ workerId principal, first.workerPrincipals.get? workerId = some principal →
    last.workerPrincipals.get? workerId = some principal
  generation : ∀ workerId generation, first.workerGenerations.get? workerId = some generation →
    ∃ later, last.workerGenerations.get? workerId = some later ∧ generation ≤ later
  route : ∀ id route, first.routes.get? id = some route →
    ∃ later, last.routes.get? id = some later ∧ route.epoch ≤ later.epoch ∧
      later.workerId = route.workerId ∧ later.principalBinding = route.principalBinding

theorem Forward.refl (registry : HostedWorkerRegistry) : Forward registry registry :=
  ⟨fun _ _ stored => stored, fun _ generation stored => ⟨generation, stored, Int.le_refl _⟩,
    fun _ route stored => ⟨route, stored, Int.le_refl _, rfl, rfl⟩⟩

theorem Forward.trans {first middle : HostedWorkerRegistry} (left : Forward first middle)
    (right : Forward middle last) : Forward first last := by
  constructor
  · exact fun workerId principal stored =>
      right.principal workerId principal (left.principal workerId principal stored)
  · intro workerId generation stored
    obtain ⟨middle, between, le⟩ := left.generation workerId generation stored
    obtain ⟨later, found, le'⟩ := right.generation workerId middle between
    exact ⟨later, found, Int.le_trans le le'⟩
  · intro id route stored
    obtain ⟨middle, between, le, worker, owner⟩ := left.route id route stored
    obtain ⟨later, found, le', worker', owner'⟩ := right.route id middle between
    exact ⟨later, found, Int.le_trans le le', worker'.trans worker, owner'.trans owner⟩

/-- Storing a route in place of an older one of the same worker. -/
theorem forward_withRoute {registry : HostedWorkerRegistry}
    (newer : ∀ existing, registry.routes.get? id = some existing → existing.epoch ≤ route.epoch ∧
      route.workerId = existing.workerId ∧ route.principalBinding = existing.principalBinding) :
    Forward registry { registry with routes := registry.routes.set id route } := by
  constructor
  · exact fun _ _ stored => stored
  · exact fun _ generation stored => ⟨generation, stored, Int.le_refl _⟩
  · intro other existing stored
    by_cases here : other = id
    · subst here
      exact ⟨route, get?_set_self _ _ _, newer existing stored⟩
    · exact ⟨existing, (get?_set_ne _ _ here).trans stored, Int.le_refl _, rfl, rfl⟩

theorem Change.forward {registry after : HostedWorkerRegistry} {op : RegistryOp}
    {outcome : Except HostedWorkerRegistryError RegistryReply}
    (change : Change registry op outcome after) : Forward registry after := by
  cases change with
  | refused error same =>
      obtain ⟨_, principals, generations, routes⟩ := same
      constructor
      · rw [principals]
        exact (Forward.refl registry).principal
      · rw [generations]
        exact (Forward.refl registry).generation
      · rw [routes]
        exact (Forward.refl registry).route
  | reconnected | repeated | asserted => exact .refl registry
  | @admitted request pinned absent registeredAt previous last =>
      constructor
      · intro workerId principal stored
        by_cases here : workerId = request.workerId
        · subst here
          rw [pinned principal stored]
          exact get?_set_self _ _ _
        · exact (get?_set_ne _ _ here).trans stored
      · intro workerId generation stored
        by_cases here : workerId = request.workerId
        · subst here
          rw [stored] at last
          have same : generation = previous := last
          exact ⟨previous + 1, get?_set_self _ _ _, by omega⟩
        · exact ⟨generation, (get?_set_ne _ _ here).trans stored, Int.le_refl _⟩
      · exact fun _ route stored => ⟨route, stored, Int.le_refl _, rfl, rfl⟩
  | @disconnected workerId generation =>
      constructor
      · exact fun _ _ stored => stored
      · exact fun _ known stored => ⟨known, stored, Int.le_refl _⟩
      · intro id route stored
        refine ⟨invalidate workerId generation route, ?_, ?_, ?_, ?_⟩
        · rw [get?_mapValues, stored]
          rfl
        · exact Int.le_of_eq (by rw [invalidate_lease])
        · rw [invalidate_lease]
        · rw [invalidate_lease]
  | @bound request connected fresh =>
      apply forward_withRoute
      intro existing stored
      rw [fresh] at stored
      cases stored
  | @rebound request existing wellFormed connected stored owner worker epoch =>
      apply forward_withRoute
      intro current found
      cases stored.symm.trans found
      exact ⟨epoch, rfl, rfl⟩
  | @released request existing stored =>
      apply forward_withRoute
      intro current found
      cases stored.symm.trans found
      exact ⟨Int.le_refl _, rfl, rfl⟩

theorem RegistryRun.forward {first : HostedWorkerRegistry} {calls : List RegistryCall}
    (run : RegistryRun clock first calls last) : Forward first last := by
  induction run with
  | refl registry => exact .refl registry
  | step head _ ih => exact head.change.forward.trans ih

/-- The generation was handed out, and the worker is not connected with it any more. -/
def Retired (workerId : String) (generation : Int) (registry : HostedWorkerRegistry) : Prop :=
  (∃ last, registry.workerGenerations.get? workerId = some last ∧ generation ≤ last) ∧
    ∀ worker, registry.activeWorkers.get? workerId = some worker →
      generation < worker.registration.generation

theorem Retired.step {first last : HostedWorkerRegistry} {workerId : String} {generation : Int}
    {call : RegistryCall} (retired : Retired workerId generation first)
    (step : RegistryStep clock first call last) : Retired workerId generation last := by
  have change := step.change
  obtain ⟨⟨known, stored, le⟩, connected⟩ := retired
  obtain ⟨later, found, le'⟩ := change.forward.generation workerId known stored
  refine ⟨⟨later, found, Int.le_trans le le'⟩, ?_⟩
  obtain ⟨op, outcome⟩ := call
  cases change with
  | refused error same =>
      rw [same.activeWorkers]
      exact connected
  | reconnected | repeated | asserted | bound | rebound | released => exact connected
  | disconnected => exact fun worker held => connected worker (get?_of_get?_delete held)
  | @admitted request pinned absent registeredAt previous last =>
      intro worker held
      by_cases here : workerId = request.workerId
      · subst here
        rw [get?_set_self] at held
        cases held
        rw [stored] at last
        have same : known = previous := last
        have next : (previous : Int) < previous + 1 := by omega
        exact Int.lt_of_le_of_lt (same ▸ le) next
      · exact connected worker ((get?_set_ne _ _ here).symm.trans held)

theorem Retired.run {first : HostedWorkerRegistry}
    {calls : List RegistryCall} (retired : Retired workerId generation first)
    (run : RegistryRun clock first calls last) : Retired workerId generation last :=
  Run.invariant run (fun step retired => retired.step step) retired

/-- A registration hands out the generation the worker is then connected with. -/
theorem Change.handsOut {registry after : HostedWorkerRegistry}
    {request : HostedWorkerRegistrationRequest} {registration : HostedWorkerRegistration}
    (change : Change registry (.register request) (.ok (.registration registration)) after) :
    ∃ worker, after.activeWorkers.get? request.workerId = some worker ∧
      worker.registration = registration ∧ worker.channelBinding = request.channelBinding := by
  cases change with
  | reconnected stored channel => exact ⟨_, stored, rfl, channel⟩
  | admitted => exact ⟨_, get?_set_self _ _ _, rfl, rfl⟩

theorem Retired.handsOut {registry after : HostedWorkerRegistry}
    {request : HostedWorkerRegistrationRequest} {registration : HostedWorkerRegistration}
    (retired : Retired request.workerId generation registry)
    (step : RegistryStep clock registry
      (.register request, .ok (.registration registration)) after) :
    generation < registration.generation := by
  obtain ⟨worker, stored, rfl, _⟩ := step.change.handsOut
  exact (retired.step step).2 worker stored

/-! ## Disconnection -/

/-- The replies and the effect of a disconnection. -/
structure Disconnection (registry : HostedWorkerRegistry) (workerId : String) (generation : Int)
    (leases : List HostedWorkerRouteLease) (after : HostedWorkerRegistry) : Prop where
  exact : ∀ lease, lease ∈ leases ↔ ∃ id route, registry.routes.get? id = some route ∧
    route.active = true ∧ route.workerId = workerId ∧ route.workerGeneration = generation ∧
    publicRoute route = lease
  once : leases.Nodup
  closed : ∀ id route, after.routes.get? id = some route → route.active = true →
    ¬ (route.workerId = workerId ∧ route.workerGeneration = generation)
  retired : Retired workerId generation after

/-- Stored routes have different interventions. -/
theorem publicRoutes_nodup {registry : HostedWorkerRegistry} (inv : Invariant registry)
    (keep : RouteHistory → Bool) :
    ((registry.routes.values.filter keep).map publicRoute).Nodup := by
  have keys : registry.routes.values.map (·.interventionId) =
      registry.routes.entries.map Prod.fst := by
    rw [OrderedMap.values, map_map]
    apply map_congr_left
    intro entry mem
    exact (inv.routed entry.1 entry.2 (OrderedMap.get?_eq_some_iff.mpr mem)).1
  have distinct : (registry.routes.values.map (·.interventionId)).Nodup :=
    keys ▸ registry.routes.nodup
  have kept : ((registry.routes.values.filter keep).map (·.interventionId)).Nodup :=
    distinct.sublist (filter_sublist.map _)
  apply List.Nodup.of_map HostedWorkerRouteLease.interventionId
  rw [map_map]
  exact kept

theorem disconnection {registry after : HostedWorkerRegistry} (inv : Invariant registry)
    {channelBinding : String} {leases : List HostedWorkerRouteLease}
    (change : Change registry (.disconnect workerId generation channelBinding)
      (.ok (.leases leases)) after) : Disconnection registry workerId generation leases after := by
  cases change with
  | @disconnected _ _ _ active stored turn channel =>
      constructor
      · intro lease
        simp only [mem_map, mem_filter, routedOn, and_eq_true, beq_iff_eq,
          OrderedMap.mem_values_iff]
        constructor
        · rintro ⟨route, ⟨⟨id, found⟩, ⟨live, worker⟩, generation⟩, same⟩
          exact ⟨id, route, found, live, worker, generation, same⟩
        · rintro ⟨id, route, found, live, worker, generation, same⟩
          exact ⟨route, ⟨⟨id, found⟩, ⟨live, worker⟩, generation⟩, same⟩
      · exact publicRoutes_nodup inv _
      · intro id route found live
        obtain ⟨before, _, rfl⟩ := stored_after_disconnect found
        rw [invalidate_lease]
        exact (invalidate_active live).2
      · refine ⟨⟨generation, ?_, Int.le_refl _⟩, ?_⟩
        · exact turn ▸ (inv.connected workerId active stored).2.2
        · intro worker held
          rw [get?_delete_self] at held
          cases held

/-- The registry after any history: its maps agree, its records only move forward, a disconnected
generation is never handed out again, and a disconnection returns and closes the routes it had. -/
theorem run_registry {calls : List RegistryCall} {registry : HostedWorkerRegistry}
    (reached : RegistryRun clock initial calls registry) :
    (∀ id route, registry.routes.get? id = some route → route.active = true →
      Connected registry route.toHostedWorkerRouteLease) ∧
    (∀ workerId worker, registry.activeWorkers.get? workerId = some worker →
      registry.workerPrincipals.get? workerId = some worker.registration.principalBinding ∧
        registry.workerGenerations.get? workerId = some worker.registration.generation) ∧
    (∀ request registration after,
      RegistryStep clock registry (.register request, .ok (.registration registration)) after →
      ∃ worker, after.activeWorkers.get? request.workerId = some worker ∧
        worker.registration = registration) ∧
    (∀ workerId generation channelBinding leases after,
      RegistryStep clock registry
        (.disconnect workerId generation channelBinding, .ok (.leases leases)) after →
      Disconnection registry workerId generation leases after ∧
        ∀ more last request registration next, RegistryRun clock after more last →
          RegistryStep clock last (.register request, .ok (.registration registration)) next →
          request.workerId = workerId → generation < registration.generation) ∧
    ∀ more last, RegistryRun clock registry more last → Forward registry last := by
  have inv : Invariant registry := reached.invariant initial_invariant
  refine ⟨inv.live, ?_, ?_, ?_, ?_⟩
  · exact fun workerId worker stored => (inv.connected workerId worker stored).2
  · intro request registration after step
    obtain ⟨worker, stored, same, _⟩ := step.change.handsOut
    exact ⟨worker, stored, same⟩
  · intro workerId generation channelBinding leases after step
    have gone := disconnection inv step.change
    refine ⟨gone, ?_⟩
    rintro more last request registration next run again rfl
    exact (gone.retired.run run).handsOut again
  · exact fun more last run => run.forward

/-! ## A sample worker -/

def sampleWorker : HostedWorkerRegistrationRequest :=
  ⟨"worker-a", "principal-binding-a", "channel-binding-a", []⟩

def sampleLease (generation : Int) : HostedWorkerRouteLease :=
  ⟨"intervention-1", 3, "principal-binding-a", "worker-a", generation⟩

def sampleClock (reads : Nat) : Int := reads

/-- A worker with one route. -/
def sampleRouted : List RegistryOp :=
  [.register sampleWorker, .bindIntervention (sampleLease 1).request]

def sampleRegistry (ops : List RegistryOp) : HostedWorkerRegistry :=
  (replayCalls (perform sampleClock) initial ops).2

theorem sampleRegistry_disconnection :
    Disconnection (sampleRegistry sampleRouted) "worker-a" 1 [sampleLease 1]
      (sampleRegistry (sampleRouted ++ [.disconnect "worker-a" 1 "channel-binding-a"])) := by
  have reached : RegistryRun sampleClock initial _ (sampleRegistry sampleRouted) :=
    replayCalls_run _ initial sampleRouted
  have step : RegistryStep sampleClock (sampleRegistry sampleRouted)
      (.disconnect "worker-a" 1 "channel-binding-a", .ok (.leases [sampleLease 1]))
      (sampleRegistry (sampleRouted ++ [.disconnect "worker-a" 1 "channel-binding-a"])) := by
    decide
  obtain ⟨_, _, _, disconnections, _⟩ := run_registry reached
  exact (disconnections "worker-a" 1 "channel-binding-a" _ _ step).1

end HostedWorkerRegistry

end ExecutionHandoff.Hosted
