import ExecutionHandoff.Hosted.ChannelSteps

/-!
# Invalidation of bound leases

A lease bound through a channel that stops being current is passed to the hook
of the channel once, after it was fenced.  The hook of a channel learns of the
leases that the channel itself ends, so this is so as long as no channel ends a
lease that was bound through another channel object of the same registration.
-/

namespace ExecutionHandoff.Hosted

open Library Bool List
open HostedWorkerRegistry (initial_invariant Change disconnection invalidate routedOn SameMaps
  current_congr current_withRoute)
open OrderedMap (mem_values_iff get?_set_ne get?_set_self)
open HostedWorkerRegistry.Change (invariant)

namespace ControlPlane

variable {clock : Nat → Int} {plane after : ControlPlane}

section Definitions

variable (plane)

def bindersOf (interventionId : String) : List Nat :=
  (plane.binders.get? interventionId).getD []

/-- The lease is current and was bound through the channel. -/
def boundThrough (id : Nat) (lease : HostedWorkerRouteLease) : Bool :=
  plane.registry.current lease && (plane.bindersOf lease.interventionId).contains id

/-- The route of the intervention was bound through no other channel. -/
def solelyBound (id : Nat) (interventionId : String) : Bool :=
  (plane.bindersOf interventionId).all (· == id)

def hooked (id : Nat) : Bool := (plane.channels.get? id).any (·.hooked)

/-- Fencing the channel would end no lease of another channel. -/
def fenceSpares (id : Nat) (channel : HostedWorkerControlChannel) : Bool :=
  channel.closed || plane.registry.routes.values.all fun route =>
    !HostedWorkerRegistry.routedOn channel.registration.workerId channel.registration.generation
        route
      || plane.solelyBound id route.interventionId

/-- The bind would be accepted and would put a newer epoch in the place of an active route. -/
def supersedes (channel : HostedWorkerControlChannel) (request : ChannelBindRequest) : Bool :=
  !channel.closed && (request.through channel).wellFormed
    && ((plane.registry.activeWorkers.get? channel.registration.workerId).any fun worker =>
      worker.registration.generation == channel.registration.generation
        && worker.registration.principalBinding == request.principalBinding)
    && (plane.registry.routes.get? request.interventionId).any fun existing =>
      existing.active && existing.principalBinding == request.principalBinding
        && existing.workerId == channel.registration.workerId
        && decide (existing.epoch < request.epoch)

/-- The event ends no lease that was bound through another channel than the one it is on. -/
def sparesOthers : ChannelEvent → Bool
  | .bindIntervention id request =>
      (plane.handedOut id).all fun channel =>
        !plane.supersedes channel request || plane.solelyBound id request.interventionId
  | .revokeIntervention id route =>
      (plane.handedOut id).all fun channel =>
        match plane.assertCurrent channel route with
        | .error _ => true
        | .ok () => plane.solelyBound id route.interventionId
  | .disconnect id => (plane.handedOut id).all fun channel => plane.fenceSpares id channel
  | .settle call false =>
      (plane.calls.get? call).all fun pending =>
        (plane.channels.get? pending.channel).all fun channel =>
          match pending.stage with
          | .opening =>
              channel.closed || plane.registry.routes.values.all fun route =>
                !HostedWorkerRegistry.routedOn channel.registration.workerId
                  channel.registration.generation route
          | .binding _ | .sendingRevoke _ _ => plane.fenceSpares pending.channel channel
          | _ => true
  | _ => true

end Definitions

/-- A rebind of the intervention at a newer epoch, through the channel. -/
def rebinds (id : Nat) (lease : HostedWorkerRouteLease) : ChannelEvent → Bool
  | .bindIntervention channel request =>
      channel == id && request.interventionId == lease.interventionId
        && decide (lease.epoch < request.epoch)
  | _ => false

/-- The event ends a lease bound through the channel, which is to be told. -/
def ends (plane : ControlPlane) (event : ChannelEvent) (after : ControlPlane) (id : Nat)
    (lease : HostedWorkerRouteLease) : Bool :=
  plane.boundThrough id lease && plane.hooked id && !after.registry.current lease
    && !rebinds id lease event

/-- How often a run of the events ends the lease. -/
def endings (clock : Nat → Int) (id : Nat) (lease : HostedWorkerRouteLease) :
    ControlPlane → List ChannelEvent → Nat
  | _, [] => 0
  | plane, event :: events =>
      match next clock plane event with
      | none => 0
      | some after =>
          (if plane.ends event after id lease then 1 else 0) + endings clock id lease after events

def tells (id : Nat) (lease : HostedWorkerRouteLease) : ChannelFact → Bool
  | .invalidated channel route _ => channel == id && route == lease
  | _ => false

/-- How often the hook of the channel was called with the lease. -/
def invalidations (id : Nat) (lease : HostedWorkerRouteLease) (log : List ChannelFact) : Nat :=
  log.countP (tells id lease)

/-! ## Leases and their binders -/

structure Bindings (plane : ControlPlane) : Prop where
  registry : plane.registry.Invariant
  bound : ∀ id route, plane.registry.routes.get? id = some route → route.active = true →
    plane.bindersOf id ≠ []

theorem initial_bindings : Bindings initial :=
  ⟨initial_invariant, fun _ _ no => nomatch no⟩

/-- A current lease that was bound through no other channel was bound through this one. -/
theorem Bindings.boundThrough_iff (bindings : Bindings plane) {id other : Nat}
    {lease : HostedWorkerRouteLease} (current : plane.registry.current lease = true)
    (sole : plane.solelyBound id lease.interventionId = true) :
    plane.boundThrough other lease = true ↔ other = id := by
  obtain ⟨route, stored, active, _⟩ := bindings.registry.current_iff.mp current
  have some' := bindings.bound _ route stored active
  simp only [solelyBound, all_eq_true, beq_iff_eq] at sole
  simp only [boundThrough, current, Bool.true_and, contains_iff_mem]
  constructor
  · exact sole other
  · rintro rfl
    obtain ⟨binder, mem⟩ := exists_mem_of_ne_nil _ some'
    exact sole binder mem ▸ mem

theorem invalidations_append (id : Nat) (lease : HostedWorkerRouteLease)
    (facts log : List ChannelFact) :
    invalidations id lease (facts ++ log) =
      invalidations id lease facts + invalidations id lease log :=
  countP_append

/-- One call of the hook tells its channel of every lease once. -/
theorem invalidations_notices {id other : Nat} {lease : HostedWorkerRouteLease}
    {channel : HostedWorkerControlChannel} {leases : List HostedWorkerRouteLease}
    (reason : HostedWorkerRouteInvalidationReason) (once : leases.Nodup) :
    invalidations other lease (notices id channel leases reason) =
      if other = id ∧ channel.hooked = true ∧ lease ∈ leases then 1 else 0 := by
  unfold notices
  by_cases hook : channel.hooked = true
  · rw [if_pos hook]
    unfold invalidations
    rw [countP_map]
    by_cases here : other = id
    · subst here
      have same : (tells other lease ∘ fun route =>
          ChannelFact.invalidated other route reason) = (· == lease) := by
        funext route
        simp [tells]
      rw [same]
      change leases.count lease = _
      rw [once.count]
      simp [hook]
    · rw [if_neg (fun both => here both.1), countP_eq_zero]
      intro route _
      simp [tells, Ne.symm here]
  · rw [if_neg hook, if_neg (fun both => hook both.2.1)]
    rfl

/-! ## What a step ends -/

/-- The change of the registry ends the leases, all of them bound through the channel alone. -/
structure Closes (plane : ControlPlane) (registry : HostedWorkerRegistry) (id : Nat)
    (leases : List HostedWorkerRouteLease) : Prop where
  once : leases.Nodup
  ended : ∀ lease, lease ∈ leases ↔
    plane.registry.current lease = true ∧ registry.current lease = false
  sole : ∀ lease ∈ leases, plane.solelyBound id lease.interventionId = true

/-- A step ends nothing, puts a newer route in the place of one, or ends leases and tells. -/
inductive Outcome (plane : ControlPlane) (event : ChannelEvent) (after : ControlPlane) :
    Prop where
  | kept (same : ∀ lease, plane.registry.current lease = true →
        after.registry.current lease = true)
      (log : ∀ id lease, invalidations id lease after.log = invalidations id lease plane.log)
  | rebound {id : Nat}
      (newer : ∀ lease, plane.registry.current lease = true →
        after.registry.current lease = false →
        rebinds id lease event = true ∧ plane.solelyBound id lease.interventionId = true)
      (log : ∀ id lease, invalidations id lease after.log = invalidations id lease plane.log)
  | closed {id : Nat} {channel : HostedWorkerControlChannel}
      {leases : List HostedWorkerRouteLease} (reason : HostedWorkerRouteInvalidationReason)
      (held : plane.channels.get? id = some channel) (closes : Closes plane after.registry id leases)
      (other : ∀ id lease, rebinds id lease event = false)
      (log : ∀ other lease, invalidations other lease after.log =
        invalidations other lease (notices id channel leases reason) +
          invalidations other lease plane.log)

/-- The hooks learn of exactly the leases that the step ends. -/
theorem Outcome.counts {event : ChannelEvent} (outcome : Outcome plane event after)
    (bindings : Bindings plane) (id : Nat) (lease : HostedWorkerRouteLease) :
    invalidations id lease after.log =
      invalidations id lease plane.log + if plane.ends event after id lease then 1 else 0 := by
  cases outcome with
  | kept same log =>
      have quiet : plane.ends event after id lease = false := by
        apply eq_false_iff.mpr
        intro ended
        simp only [ends, boundThrough, and_eq_true, not_eq_true'] at ended
        obtain ⟨⟨⟨⟨current, _⟩, _⟩, gone⟩, _⟩ := ended
        rw [same lease current] at gone
        cases gone
      rw [log, quiet]
      rfl
  | @rebound channel newer log =>
      have quiet : plane.ends event after id lease = false := by
        apply eq_false_iff.mpr
        intro ended
        simp only [ends, and_eq_true, not_eq_true'] at ended
        obtain ⟨⟨⟨bound, _⟩, gone⟩, not⟩ := ended
        have current : plane.registry.current lease = true := (and_eq_true_iff.mp bound).1
        obtain ⟨rebind, sole⟩ := newer lease current gone
        rw [(bindings.boundThrough_iff current sole).mp bound, rebind] at not
        cases not
      rw [log, quiet]
      rfl
  | @closed here channel leases reason held closes other log =>
      rw [log, invalidations_notices reason closes.once, Nat.add_comm]
      congr 1
      by_cases mem : lease ∈ leases
      · obtain ⟨current, gone⟩ := (closes.ended lease).mp mem
        have through := @Bindings.boundThrough_iff _ bindings _ id _ current (closes.sole lease mem)
        by_cases same : id = here
        · subst same
          have bound : plane.boundThrough id lease = true := through.mpr rfl
          simp [ends, hooked, bound, held, gone, other, mem]
        · have foreign : plane.boundThrough id lease = false :=
            eq_false_iff.mpr fun bound => same (through.mp bound)
          simp [ends, foreign, same]
      · have quiet : plane.ends event after id lease = false := by
          apply eq_false_iff.mpr
          intro ended
          simp only [ends, boundThrough, and_eq_true, not_eq_true'] at ended
          exact mem ((closes.ended lease).mpr ⟨ended.1.1.1.1, ended.1.2⟩)
        rw [quiet, if_neg (fun all => mem all.2.2)]
        rfl

section Fenced

variable {event : ChannelEvent} {base : ControlPlane} {call id : Nat}
  {channel : HostedWorkerControlChannel} {reason : HostedWorkerRouteInvalidationReason}
  {ending : List HostedWorkerRouteLease → Ending}

theorem Fences.spares (fences : Fences plane event base call id channel reason ending)
    (spares : plane.sparesOthers event = true) : plane.fenceSpares id channel = true := by
  cases fences with
  | disconnecting held => simpa [sparesOthers, held] using spares
  | bindFailed waiting held | revokeFailed waiting held =>
      simpa [sparesOthers, waiting, held] using spares

theorem Fences.not_rebinds (fences : Fences plane event base call id channel reason ending) (other : Nat)
    (lease : HostedWorkerRouteLease) : rebinds other lease event = false := by
  cases fences <;> rfl

/-- The leases that a disconnection of the channel's registration ends. -/
theorem closes_disconnected (bindings : Bindings plane) {leases : List HostedWorkerRouteLease}
    {registry : HostedWorkerRegistry}
    (change : Change plane.registry
      (.disconnect channel.registration.workerId channel.registration.generation
        channel.channelBinding)
      (.ok (.leases leases)) registry)
    (sole : ∀ lease ∈ leases, plane.solelyBound id lease.interventionId = true) :
    Closes plane registry id leases := by
  have gone := disconnection bindings.registry change
  have inv := bindings.registry
  refine ⟨gone.once, ?_, sole⟩
  intro lease
  rw [inv.current_iff, gone.exact]
  constructor
  · rintro ⟨key, route, stored, active, worker, turn, rfl⟩
    have own := (inv.routed key route stored).1
    constructor
    · exact ⟨route, own ▸ stored, active, rfl⟩
    · apply eq_false_iff.mpr
      intro current
      obtain ⟨later, found, live, lease⟩ :=
        (invariant change inv).current_iff.mp current
      apply gone.closed _ later found live
      constructor
      · exact (congrArg HostedWorkerRouteLease.workerId lease).trans worker
      · exact (congrArg HostedWorkerRouteLease.workerGeneration lease).trans turn
  · rintro ⟨⟨route, stored, active, rfl⟩, ended⟩
    refine ⟨_, route, stored, active, ?_⟩
    by_cases routed : route.workerId = channel.registration.workerId ∧
        route.workerGeneration = channel.registration.generation
    · exact ⟨routed.1, routed.2, rfl⟩
    · -- the route is on another worker or generation, so it is still there
      have kept : invalidate channel.registration.workerId
          channel.registration.generation route = route := by
        apply if_neg
        simpa [routedOn, active] using routed
      have current : registry.current (publicRoute route) = true := by
        rw [(invariant change inv).current_iff]
        cases change with
        | disconnected =>
            refine ⟨route, ?_, active, rfl⟩
            change (plane.registry.routes.mapValues _).get? _ = _
            rw [OrderedMap.get?_mapValues, stored, Option.map_some, kept]
      rw [current] at ended
      cases ended

theorem sole_of_fenceSpares (bindings : Bindings plane) (live : channel.closed = false)
    (spares : plane.fenceSpares id channel = true) {leases : List HostedWorkerRouteLease}
    {registry : HostedWorkerRegistry}
    (change : Change plane.registry
      (.disconnect channel.registration.workerId channel.registration.generation
        channel.channelBinding)
      (.ok (.leases leases)) registry) :
    ∀ lease ∈ leases, plane.solelyBound id lease.interventionId = true := by
  intro lease mem
  obtain ⟨key, route, stored, active, worker, turn, rfl⟩ :=
    (disconnection bindings.registry change).exact lease |>.mp mem
  simp only [fenceSpares, live, Bool.false_or, all_eq_true] at spares
  have spared := spares route (mem_values_iff.mpr ⟨key, stored⟩)
  simpa [routedOn, active, worker, turn, publicRoute] using spared

end Fenced

/-- A change that ends no lease. -/
theorem kept_of_current {event : ChannelEvent}
    (same : ∀ lease, plane.registry.current lease = true → after.registry.current lease = true)
    (log : ∃ facts, after.log = facts ++ plane.log ∧
      ∀ id lease, invalidations id lease facts = 0) : Outcome plane event after := by
  obtain ⟨facts, added, quiet⟩ := log
  refine .kept same fun id lease => ?_
  rw [added, invalidations_append, quiet, Nat.zero_add]

variable {registry : HostedWorkerRegistry}

theorem current_sameMaps {last : HostedWorkerRegistry}
    (same : SameMaps registry last) (lease : HostedWorkerRouteLease) :
    last.current lease = registry.current lease := by
  apply current_congr
  · rw [same.activeWorkers]
  · rw [same.routes]

/-- Registering a worker ends no lease: a worker without a channel has no active route. -/
theorem current_registered {last : HostedWorkerRegistry}
    {request : HostedWorkerRegistrationRequest} {registration : HostedWorkerRegistration}
    (change : Change registry (.register request)
      (.ok (.registration registration)) last) {lease : HostedWorkerRouteLease}
    (current : registry.current lease = true) : last.current lease = true := by
  cases change with
  | reconnected => exact current
  | admitted _ absent =>
      have elsewhere : lease.workerId ≠ request.workerId := by
        intro same
        rw [HostedWorkerRegistry.current, same, absent] at current
        cases current
      refine (current_congr ?_ ?_).trans current
      · exact get?_set_ne _ _ elsewhere
      · rfl

/-- A bind puts a newer epoch in the place of a lease it ends. -/
theorem outcome_bound (bindings : Bindings plane) {id : Nat} {request : ChannelBindRequest}
    {channel : HostedWorkerControlChannel} {lease : HostedWorkerRouteLease}
    (held : plane.handedOut id = some channel)
    (live : channel.closed = false) (same : after.registry = registry)
    (log : after.log = plane.log)
    (change : Change plane.registry
      (.bindIntervention (request.through channel)) (.ok (.lease lease)) registry)
    (spares : plane.sparesOthers (.bindIntervention id request) = true) :
    Outcome plane (.bindIntervention id request) after := by
  have quiet : ∃ facts, after.log = facts ++ plane.log ∧
      ∀ id lease, invalidations id lease facts = 0 := ⟨[], log, fun _ _ => rfl⟩
  cases change with
  | bound connected fresh =>
      apply kept_of_current _ quiet
      intro ended current
      rw [same]
      refine (current_withRoute ?_).trans current
      intro here
      obtain ⟨route, stored, _⟩ := bindings.registry.current_iff.mp current
      rw [here, fresh] at stored
      cases stored
  | repeated =>
      apply kept_of_current _ quiet
      rw [same]
      exact fun _ current => current
  | @rebound _ existing wellFormed connected stored owner worker epoch idle =>
      change plane.registry.routes.get? request.interventionId = some existing at stored
      change existing.principalBinding = request.principalBinding at owner
      change existing.workerId = channel.registration.workerId at worker
      obtain ⟨active, connected, turn, principal⟩ := connected
      change plane.registry.activeWorkers.get? channel.registration.workerId = some active
        at connected
      change active.registration.generation = channel.registration.generation at turn
      change active.registration.principalBinding = request.principalBinding at principal
      refine @Outcome.rebound _ _ _ id ?_ fun id lease => by rw [log]
      intro ended current gone
      have here : ended.interventionId = request.interventionId := by
        by_contra other
        have still : after.registry.current ended = true := by
          rw [same]
          exact (current_withRoute other).trans current
        exact Bool.false_ne_true (gone.symm.trans still)
      obtain ⟨route, found, open', rfl⟩ := bindings.registry.current_iff.mp current
      rw [here] at found
      cases stored.symm.trans found
      have newer : existing.epoch < request.epoch := by
        have level : existing.epoch ≠ request.epoch := by
          intro level
          rw [idle level] at open'
          cases open'
        exact Int.lt_iff_le_and_ne.mpr ⟨epoch, level⟩
      have superseded : plane.supersedes channel request = true := by
        simp [supersedes, live, wellFormed, connected, turn, principal, stored, open', owner,
          worker, newer]
      constructor
      · simp only [rebinds, here, beq_self_eq_true, Bool.true_and]
        exact decide_eq_true newer
      · simp only [sparesOthers, held, Option.all_some, superseded, Bool.not_true,
          Bool.false_or] at spares
        exact here ▸ spares

/-- A revocation ends its lease alone. -/
theorem closes_released (bindings : Bindings plane) {id : Nat} {route : HostedWorkerRouteRequest}
    (current : plane.registry.current route.toHostedWorkerRouteLease = true)
    (change : Change plane.registry (.releaseIntervention route)
      (.ok .done) registry)
    (sole : plane.solelyBound id route.interventionId = true) :
    Closes plane registry id [route.toHostedWorkerRouteLease] := by
  have inv' := invariant change bindings.registry
  refine ⟨nodup_singleton _, ?_, ?_⟩
  · intro lease
    rw [mem_singleton]
    cases change with
    | @released _ existing stored active epoch owner worker turn =>
        constructor
        · rintro rfl
          refine ⟨current, eq_false_iff.mpr fun still => ?_⟩
          obtain ⟨later, found, live, _⟩ := inv'.current_iff.mp still
          rw [get?_set_self] at found
          cases found
          cases live
        · rintro ⟨before, gone⟩
          have here : lease.interventionId = route.interventionId := by
            by_contra other
            exact Bool.false_ne_true
              (gone.symm.trans ((current_withRoute other).trans before))
          obtain ⟨found, earlier, _, rfl⟩ := bindings.registry.current_iff.mp before
          obtain ⟨held, now, _, whole⟩ := bindings.registry.current_iff.mp current
          rw [here, now] at earlier
          cases earlier
          exact whole
  · intro lease mem
    rw [mem_singleton.mp mem]
    exact sole

/-- What one step ends, when it spares the leases of other channels. -/
theorem Effect.outcome {event : ChannelEvent} (effect : Effect plane event after)
    (bindings : Bindings plane) (spares : plane.sparesOthers event = true) :
    Outcome plane event after := by
  cases effect with
  | refused error same =>
      exact kept_of_current (fun lease current => (current_sameMaps same lease).trans current)
        ⟨[], rfl, fun _ _ => rfl⟩
  | redundant => exact kept_of_current (fun _ current => current) ⟨[], rfl, fun _ _ => rfl⟩
  | opening change =>
      exact kept_of_current (fun _ current => current_registered change current)
        ⟨[], rfl, fun _ _ => rfl⟩
  | bound held live change => exact outcome_bound bindings held live rfl rfl change spares
  | @revoked id route channel registry held accepted live current own change =>
      have sole : plane.solelyBound id route.interventionId = true := by
        simpa [sparesOthers, held, accepted] using spares
      refine .closed .explicitRevoke (handedOut_held held)
        (closes_released bindings current change sole) (fun _ _ => rfl) ?_
      intro other lease
      exact invalidations_append other lease _ _
  | fenceRefused fences fencing =>
      obtain ⟨started, rfl⟩ := fences.base_eq
      cases fencing with
      | refused _ _ same =>
          exact kept_of_current (fun lease current => (current_sameMaps same lease).trans current)
            ⟨[], rfl, fun _ _ => rfl⟩
  | @fenced _ _ _ call id channel leases reason ending fences fencing =>
      obtain ⟨started, rfl⟩ := fences.base_eq
      cases fencing with
      | idle =>
          refine kept_of_current (fun _ current => current) ⟨notices id channel [] reason, rfl, ?_⟩
          intro other lease
          unfold notices
          split <;> rfl
      | fenced live change =>
          have sole := sole_of_fenceSpares bindings live (fences.spares spares) change
          refine .closed reason fences.held (closes_disconnected bindings change sole)
            fences.not_rebinds ?_
          intro other lease
          exact invalidations_append other lease _ _
  | openRefused waiting held fencing =>
      cases fencing with
      | refused _ _ same =>
          exact kept_of_current (fun lease current => (current_sameMaps same lease).trans current)
            ⟨[], rfl, fun _ _ => rfl⟩
  | @openFailed call id channel _ leases waiting held fencing =>
      cases fencing with
      | idle => exact kept_of_current (fun _ current => current) ⟨[], rfl, fun _ _ => rfl⟩
      | fenced live change =>
          -- the guard leaves the disconnection without a route
          have none' : ∀ lease, lease ∉ leases := by
            intro lease mem
            obtain ⟨key, route, stored, active, worker, turn, rfl⟩ :=
              ((HostedWorkerRegistry.disconnection bindings.registry change).exact lease).mp mem
            simp only [sparesOthers, waiting, held, live, Option.all_some, Bool.false_or,
              all_eq_true] at spares
            have spared := spares route (mem_values_iff.mpr ⟨key, stored⟩)
            simp [routedOn, active, worker, turn] at spared
          have closes : Closes plane _ id leases :=
            closes_disconnected bindings change fun lease mem => absurd mem (none' lease)
          refine kept_of_current ?_ ⟨[], rfl, fun _ _ => rfl⟩
          intro lease current
          by_contra gone
          exact none' lease ((closes.ended lease).mpr ⟨current, not_eq_true _ ▸ gone⟩)
  | opened waiting held =>
      exact kept_of_current (fun _ current => current) ⟨[], rfl, fun _ _ => rfl⟩
  | finished waiting finished =>
      refine kept_of_current (fun _ current => current) ⟨_, rfl, ?_⟩
      intro other lease
      cases finished <;> rfl
  | propagated waiting held =>
      refine kept_of_current (fun _ current => current) ⟨_, rfl, ?_⟩
      intro other lease
      unfold propagations
      split <;> rfl
  | hookReturned after waiting =>
      exact kept_of_current (fun _ current => current) ⟨[], rfl, fun _ _ => rfl⟩
  | delivered sent => exact kept_of_current (fun _ current => current) ⟨[], rfl, fun _ _ => rfl⟩

/-! ## Binders of active routes -/

theorem Bindings.of_routes (bindings : Bindings plane) (inv : after.registry.Invariant)
    (routes : after.registry.routes = plane.registry.routes)
    (binders : after.binders = plane.binders) : Bindings after := by
  refine ⟨inv, ?_⟩
  unfold bindersOf
  rw [routes, binders]
  exact bindings.bound

/-- Routes that are no more active than they were. -/
theorem Bindings.of_fewer (bindings : Bindings plane) (inv : after.registry.Invariant)
    (fewer : ∀ id route, after.registry.routes.get? id = some route → route.active = true →
      plane.registry.routes.get? id = some route)
    (binders : after.binders = plane.binders) : Bindings after := by
  refine ⟨inv, ?_⟩
  intro id route stored active
  unfold bindersOf
  rw [binders]
  exact bindings.bound id route (fewer id route stored active) active

theorem Fencing.bindings {id : Nat} {channel : HostedWorkerControlChannel}
    {result : Except HostedWorkerRegistryError (List HostedWorkerRouteLease)}
    {middle : ControlPlane} (fencing : Fencing plane id channel (result, middle))
    (bindings : Bindings plane) (same : after.registry = middle.registry)
    (binders : after.binders = middle.binders) : Bindings after := by
  cases fencing with
  | idle => exact bindings.of_routes (same ▸ bindings.registry) (congrArg _ same) binders
  | refused _ _ unchanged =>
      exact bindings.of_routes (same ▸ bindings.registry.sameMaps unchanged)
        ((congrArg _ same).trans unchanged.routes) binders
  | fenced _ change =>
      refine bindings.of_fewer (same ▸ change.invariant bindings.registry) ?_ binders
      intro key route stored active
      rw [same] at stored
      cases change with
      | disconnected =>
          obtain ⟨before, found, rfl⟩ := HostedWorkerRegistry.stored_after_disconnect stored
          unfold invalidate at active ⊢
          split at active
          · cases active
          · rename_i routed
            rw [if_neg routed]
            exact found

theorem bindings_bound (bindings : Bindings plane) {id : Nat} {lease : HostedWorkerRouteLease}
    {request : HostedWorkerRouteRequest}
    (change : Change plane.registry (.bindIntervention request)
      (.ok (.lease lease)) registry) (same : after.registry = registry)
    (binders : after.binders = (plane.bound id lease).binders) : Bindings after := by
  have inv : after.registry.Invariant := same ▸ change.invariant bindings.registry
  have own : lease.interventionId = request.interventionId := by
    cases change with
    | bound => rfl
    | repeated stored | rebound _ _ stored => exact (bindings.registry.routed _ _ stored).1
  refine ⟨inv, ?_⟩
  intro key route stored active
  unfold bindersOf
  rw [binders]
  by_cases here : key = lease.interventionId
  · subst here
    unfold bound
    dsimp only
    rw [get?_set_self]
    exact cons_ne_nil _ _
  · unfold bound
    dsimp only
    rw [get?_set_ne _ _ here]
    refine bindings.bound key route ?_ active
    rw [same] at stored
    rw [own] at here
    cases change with
    | bound | rebound => exact (get?_set_ne _ _ here).symm.trans stored
    | repeated => exact stored

theorem Effect.bindings {event : ChannelEvent} (effect : Effect plane event after)
    (bindings : Bindings plane) : Bindings after := by
  cases effect with
  | refused _ same => exact bindings.of_routes (bindings.registry.sameMaps same) same.routes rfl
  | redundant | opened | finished | propagated | hookReturned | delivered =>
      exact bindings.of_routes bindings.registry rfl rfl
  | opening change =>
      refine bindings.of_routes (change.invariant bindings.registry) ?_ rfl
      cases change <;> rfl
  | bound _ _ change => exact bindings_bound bindings change rfl rfl
  | @revoked _ route _ _ _ _ _ _ _ change =>
      refine bindings.of_fewer (change.invariant bindings.registry) ?_ rfl
      intro key later stored active
      cases change with
      | released =>
          by_cases here : key = route.interventionId
          · subst here
            change (OrderedMap.set _ _ _).get? _ = _ at stored
            rw [get?_set_self] at stored
            cases stored
            cases active
          · exact (get?_set_ne _ _ here).symm.trans stored
  | fenceRefused fences fencing =>
      obtain ⟨started, rfl⟩ := fences.base_eq
      exact fencing.bindings ⟨bindings.registry, bindings.bound⟩ rfl rfl
  | fenced fences fencing =>
      obtain ⟨started, rfl⟩ := fences.base_eq
      exact fencing.bindings ⟨bindings.registry, bindings.bound⟩ rfl rfl
  | openRefused _ _ fencing | openFailed _ _ fencing => exact fencing.bindings bindings rfl rfl

/-! ## Runs -/

/-- Steps that end no lease of another channel object. -/
abbrev SparingStep (clock : Nat → Int) : ControlPlane → ChannelEvent → ControlPlane → Prop :=
  Guarded (Step clock) fun plane event => plane.sparesOthers event = true

theorem SparingStep.counts {event : ChannelEvent} (step : SparingStep clock plane event after)
    (bindings : Bindings plane) (id : Nat) (lease : HostedWorkerRouteLease) :
    invalidations id lease after.log =
      invalidations id lease plane.log + if plane.ends event after id lease then 1 else 0 :=
  (step.1.effect.outcome bindings step.2).counts bindings id lease

theorem SparingStep.bindings {event : ChannelEvent} (step : SparingStep clock plane event after)
    (bindings : Bindings plane) : Bindings after :=
  step.1.effect.bindings bindings

theorem sparing_run_bindings {first last : ControlPlane} {events : List ChannelEvent}
    (run : Run (SparingStep clock) first events last) (bindings : Bindings first) :
    Bindings last :=
  run.invariant (fun step bindings => SparingStep.bindings step bindings) bindings

theorem sparing_run_counts {first last : ControlPlane} {events : List ChannelEvent}
    (run : Run (SparingStep clock) first events last) (bindings : Bindings first) (id : Nat)
    (lease : HostedWorkerRouteLease) :
    invalidations id lease last.log =
      invalidations id lease first.log + endings clock id lease first events := by
  induction run with
  | refl => rfl
  | @step first middle last event events head _ ih =>
      have happened : next clock first event = some middle := head.1
      rw [ih (SparingStep.bindings head bindings), SparingStep.counts head bindings id lease]
      simp only [endings, happened]
      omega

/-- Along every run in which no channel ends a lease of another channel object, the hook of a
channel was called with a lease as often as the lease ended, and at no step that left it current. -/
theorem run_invalidations {events : List ChannelEvent}
    (reached : Run (SparingStep clock) initial events plane) (id : Nat)
    (lease : HostedWorkerRouteLease) :
    invalidations id lease plane.log = endings clock id lease initial events ∧
      ∀ event after, SparingStep clock plane event after →
        invalidations id lease plane.log < invalidations id lease after.log →
        plane.boundThrough id lease = true ∧ after.registry.current lease = false := by
  constructor
  · have counts := sparing_run_counts reached initial_bindings id lease
    have none' : invalidations id lease initial.log = 0 := rfl
    omega
  · intro event after step told
    have counts := SparingStep.counts step (sparing_run_bindings reached initial_bindings) id lease
    by_cases ended : plane.ends event after id lease = true
    · simp only [ends, Bool.and_eq_true, Bool.not_eq_true'] at ended
      exact ⟨ended.1.1.1, ended.1.2⟩
    · rw [if_neg ended] at counts
      omega

/-! ## Runs of the sample channel -/

theorem sampleDisconnect_told :
    invalidations 0 (HostedWorkerRegistry.sampleLease 1)
      (samplePlane (sampleBound ++ [.disconnect 0])).log = 1 := by
  have reached : Run (SparingStep HostedWorkerRegistry.sampleClock) initial
      (sampleBound ++ [.disconnect 0]) (samplePlane (sampleBound ++ [.disconnect 0])) :=
    run_guarded_of_execute (by decide)
  exact (run_invalidations reached 0 (HostedWorkerRegistry.sampleLease 1)).1.trans (by decide)

/-- A second open of the registration whose delivery fails. -/
def sampleSecondOpen : List ChannelEvent :=
  sampleBound ++ [.openChannel HostedWorkerRegistry.sampleWorker true, .settle 2 false]

/-- The failed open ends the lease of the first channel, whose hook is not called. -/
theorem sampleSecondOpen_untold :
    ¬ ∀ (clock : Nat → Int) (events : List ChannelEvent) (plane : ControlPlane) (id : Nat)
      (lease : HostedWorkerRouteLease), Run (Step clock) initial events plane →
      invalidations id lease plane.log = endings clock id lease initial events := by
  intro claim
  have reached : Run (Step HostedWorkerRegistry.sampleClock) initial sampleSecondOpen
      (samplePlane sampleSecondOpen) := (run_iff_execute _ _ _ _).mpr (by decide)
  have told := claim _ _ _ 0 (HostedWorkerRegistry.sampleLease 1) reached
  revert told
  decide

end ControlPlane

end ExecutionHandoff.Hosted
