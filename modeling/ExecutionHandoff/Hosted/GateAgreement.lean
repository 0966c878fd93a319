import ExecutionHandoff.Hosted.ChannelInvalidation
import ExecutionHandoff.Hosted.RouteAgreement

/-!
# The worker's gate and the registry

Once every message of an open channel is delivered and no call of it is
pending, the gate of its worker holds the routes that the registry has active
on the worker.  A revocation leaves the registry at once and is sent only after
its hook has returned, so this needs that no bind of the same epoch overtakes it.
-/

namespace ExecutionHandoff.Hosted

open Library
open OrderedMap (get?_set_ne get?_set_self get?_of_get?_delete get?_delete_ne)
open HostedWorkerRegistry (initial_invariant SameMaps Change agrees_registered routedOn_iff Agrees
  sameRoutes_bound)

namespace ControlPlane

variable {clock : Nat → Int} {plane after : ControlPlane}

section Definitions

variable (plane)

/-- The gate of the worker once the messages of the channel are delivered. -/
def gateAhead (id : Nat) : HostedWorkerRouteGate :=
  ((plane.wires.get? id).getD []).foldl HostedWorkerRouteGate.receive
    ((plane.gates.get? id).getD .initial)

/-- A revocation through the channel has yet to be sent. -/
def revoking (id : Nat) (lease : HostedWorkerRouteLease) : Prop :=
  ∃ call, plane.calls.get? call = some ⟨id, .revoking lease⟩

/-- The event does not open a registration that is connected. -/
def unshared : ChannelEvent → Bool
  | .openChannel authenticated _ =>
      (plane.registry.activeWorkers.get? authenticated.workerId).all fun worker =>
        worker.channelBinding != authenticated.channelBinding
  | _ => true

/-- The bind would be accepted by the registry. -/
def admitsBind (channel : HostedWorkerControlChannel) (request : ChannelBindRequest) : Bool :=
  !channel.closed && (request.through channel).wellFormed
    && ((plane.registry.activeWorkers.get? channel.registration.workerId).any fun worker =>
      worker.registration.generation == channel.registration.generation
        && worker.registration.principalBinding == request.principalBinding)
    && (plane.registry.routes.get? request.interventionId).all fun existing =>
      existing.principalBinding == request.principalBinding
        && existing.workerId == channel.registration.workerId
        && decide (existing.epoch ≤ request.epoch)

/-- The call has released the route of the intervention at the epoch and awaits its hook. -/
def revokes (id : Nat) (interventionId : String) (epoch : Int) (call : ChannelCall) : Bool :=
  call.channel == id && match call.stage with
    | .revoking lease => lease.interventionId == interventionId && lease.epoch == epoch
    | _ => false

/-- No accepted bind overtakes a revocation of the same epoch. -/
def keepsOrder : ChannelEvent → Bool
  | .bindIntervention id request =>
      (plane.handedOut id).all fun channel =>
        !plane.admitsBind channel request
          || !plane.calls.values.any (revokes id request.interventionId request.epoch)
  | _ => true

end Definitions

/-- Steps of channels that share no registration. -/
abbrev UnsharedStep (clock : Nat → Int) : ControlPlane → ChannelEvent → ControlPlane → Prop :=
  Guarded (Step clock) fun plane event => plane.unshared event = true

/-- Steps that let no bind overtake a revocation of its epoch. -/
abbrev OrderedStep (clock : Nat → Int) : ControlPlane → ChannelEvent → ControlPlane → Prop :=
  Guarded (UnsharedStep clock) fun plane event => plane.keepsOrder event = true

/-! ## Gates and revocations across a step -/

/-- The call is not a revocation that has yet to be sent. -/
def Idle (plane : ControlPlane) (call : Nat) : Prop :=
  ∀ id lease, plane.calls.get? call ≠ some ⟨id, .revoking lease⟩

theorem Numbered.idle (numbered : Numbered plane) : Idle plane plane.started := by
  intro id lease waiting
  exact absurd (numbered.calls _ _ waiting).1 (Nat.lt_irrefl _)

variable {id : Nat} {channel : HostedWorkerControlChannel} {event : ChannelEvent}
  {base : ControlPlane} {reason : HostedWorkerRouteInvalidationReason}

theorem idle_of_waiting {call : Nat} {stage : ChannelStage}
    (waiting : plane.calls.get? call = some ⟨id, stage⟩)
    (other : ∀ lease, stage ≠ .revoking lease) : Idle plane call := by
  intro channel lease revoke
  cases waiting.symm.trans revoke
  exact other lease rfl

theorem revoking_answer {call : Nat} (idle : Idle plane call)
    (calls : after.calls = plane.calls.delete call) (id : Nat) (lease : HostedWorkerRouteLease) :
    after.revoking id lease ↔ plane.revoking id lease := by
  unfold revoking
  rw [calls]
  constructor
  · rintro ⟨other, waiting⟩
    exact ⟨other, get?_of_get?_delete waiting⟩
  · rintro ⟨other, waiting⟩
    have ne : other ≠ call := by
      rintro rfl
      exact idle id lease waiting
    exact ⟨other, (get?_delete_ne _ ne).trans waiting⟩

theorem revoking_await {call channel : Nat} {stage : ChannelStage} (idle : Idle plane call)
    (other : ∀ lease, stage ≠ .revoking lease)
    (calls : after.calls = plane.calls.set call ⟨channel, stage⟩) (id : Nat)
    (lease : HostedWorkerRouteLease) : after.revoking id lease ↔ plane.revoking id lease := by
  unfold revoking
  rw [calls]
  constructor
  · rintro ⟨waiter, waiting⟩
    by_cases here : waiter = call
    · subst here
      rw [get?_set_self] at waiting
      cases waiting
      exact absurd rfl (other lease)
    · exact ⟨waiter, (get?_set_ne _ _ here).symm.trans waiting⟩
  · rintro ⟨waiter, waiting⟩
    have ne : waiter ≠ call := by
      rintro rfl
      exact idle id lease waiting
    exact ⟨waiter, (get?_set_ne _ _ ne).trans waiting⟩

theorem gateAhead_of_eq (wires : after.wires.get? id = plane.wires.get? id)
    (gates : after.gates.get? id = plane.gates.get? id) :
    after.gateAhead id = plane.gateAhead id := by
  unfold gateAhead
  rw [wires, gates]

/-- A message sent is the last that the gate will receive. -/
theorem gateAhead_sent {generation : Int} {body : ControlBody} (wires : after.wires =
      plane.wires.set id ((plane.wires.get? id).getD [] ++ [⟨1, generation, body⟩]))
    (gates : after.gates.get? id = plane.gates.get? id) :
    after.gateAhead id = (plane.gateAhead id).receive ⟨1, generation, body⟩ := by
  unfold gateAhead
  rw [wires, gates, get?_set_self, Option.getD_some, List.foldl_append]
  rfl

theorem gateAhead_sent_ne {other : Nat} {wire : List HostedWorkerControlMessage}
    (ne : other ≠ id) (wires : after.wires = plane.wires.set id wire)
    (gates : after.gates.get? other = plane.gates.get? other) :
    after.gateAhead other = plane.gateAhead other := by
  apply gateAhead_of_eq _ gates
  rw [wires]
  exact get?_set_ne _ _ ne

theorem gateAhead_deliver {message : HostedWorkerControlMessage}
    {rest : List HostedWorkerControlMessage}
    (sent : plane.wires.get? id = some (message :: rest)) (other : Nat) :
    (plane.deliver id message rest).gateAhead other = plane.gateAhead other := by
  by_cases here : other = id
  · subst here
    unfold gateAhead deliver
    dsimp only
    rw [get?_set_self, get?_set_self, sent]
    rfl
  · exact gateAhead_of_eq (get?_set_ne _ _ here) (get?_set_ne _ _ here)

/-! ## Agreement of all open channels -/

structure Agreement (plane : ControlPlane) : Prop where
  registry : plane.registry.Invariant
  generations : ∀ workerId generation,
    plane.registry.workerGenerations.get? workerId = some generation →
      0 < generation ∧ isSafeInteger generation = true
  numbered : Numbered plane
  connected : ∀ id channel, plane.channels.get? id = some channel → channel.closed = false →
    ∃ worker, plane.registry.activeWorkers.get? channel.registration.workerId = some worker ∧
      worker.registration = channel.registration
  apart : ∀ id channel other held, plane.channels.get? id = some channel →
    plane.channels.get? other = some held → channel.closed = false → held.closed = false →
    channel.registration.workerId = held.registration.workerId → id = other
  agrees : ∀ id channel, plane.channels.get? id = some channel → channel.closed = false →
    HostedWorkerRegistry.Agrees channel.registration plane.registry (plane.gateAhead id)
      (plane.revoking id)

theorem initial_agreement : Agreement initial :=
  ⟨initial_invariant, fun _ _ no => (nomatch no), initial_numbered,
    fun _ _ no => (nomatch no), fun _ _ _ _ no => (nomatch no), fun _ _ no => (nomatch no)⟩

/-- A step after which no open channel sees anything new. -/
structure Quiet (plane after : ControlPlane) : Prop where
  registry : HostedWorkerRegistry.SameMaps plane.registry after.registry
  channels : ∀ id channel, after.channels.get? id = some channel → channel.closed = false →
    ∃ before, plane.channels.get? id = some before ∧ before.closed = false ∧
      before.registration = channel.registration
  gates : ∀ id, after.gateAhead id = plane.gateAhead id
  revoking : ∀ id lease, after.revoking id lease ↔ plane.revoking id lease

theorem Agreement.quiet (agreement : Agreement plane) (quiet : Quiet plane after)
    (numbered : Numbered after) : Agreement after := by
  obtain ⟨workers, principals, generations, routes⟩ := quiet.registry
  constructor
  · exact agreement.registry.sameMaps quiet.registry
  · rw [generations]
    exact agreement.generations
  · exact numbered
  · intro id channel held live
    obtain ⟨before, earlier, open', same⟩ := quiet.channels id channel held live
    rw [workers, ← same]
    exact agreement.connected id before earlier open'
  · intro id channel other held first second live live' same
    obtain ⟨before, earlier, open', registration⟩ := quiet.channels id channel first live
    obtain ⟨before', earlier', open'', registration'⟩ := quiet.channels other held second live'
    rw [← registration, ← registration'] at same
    exact agreement.apart id before other before' earlier earlier' open' open'' same
  · intro id channel held live
    obtain ⟨before, earlier, open', same⟩ := quiet.channels id channel held live
    rw [quiet.gates, ← same]
    exact (agreement.agrees id before earlier open').frame (.of_eq routes) (quiet.revoking id)

/-! ### Steps that open channels do not see -/

theorem quiet_of_eq (registry : SameMaps plane.registry after.registry)
    (channels : after.channels = plane.channels) (wires : after.wires = plane.wires)
    (gates : after.gates = plane.gates)
    (revoking : ∀ id lease, after.revoking id lease ↔ plane.revoking id lease) :
    Quiet plane after := by
  refine ⟨registry, ?_, fun id => gateAhead_of_eq (by rw [wires]) (by rw [gates]), revoking⟩
  rw [channels]
  exact fun _ channel held live => ⟨channel, held, live, rfl⟩

theorem quiet_opened {call : Nat} (waiting : plane.calls.get? call = some ⟨id, .opening⟩)
    (held : plane.channels.get? id = some channel) (result : ChannelAnswer) :
    Quiet plane
      ({ plane with channels := plane.channels.set id { channel with opened := true } }.answer
        call result) := by
  refine ⟨.refl _, ?_, fun _ => rfl,
    revoking_answer (idle_of_waiting waiting fun _ no => nomatch no) rfl⟩
  intro other current stored live
  by_cases here : other = id
  · subst here
    change (OrderedMap.set _ _ _).get? _ = _ at stored
    rw [get?_set_self] at stored
    cases stored
    exact ⟨channel, held, live, rfl⟩
  · exact ⟨current, (get?_set_ne _ _ here).symm.trans stored, live, rfl⟩

/-- Closing a channel leaves the others. -/
theorem held_of_closed {other : Nat} {held : HostedWorkerControlChannel}
    (stored : (plane.channels.set id { channel with closed := true }).get? other = some held)
    (live : held.closed = false) : other ≠ id ∧ plane.channels.get? other = some held := by
  by_cases here : other = id
  · subst here
    rw [get?_set_self] at stored
    cases stored
    cases live
  · exact ⟨here, (get?_set_ne _ _ here).symm.trans stored⟩

/-- Fencing a channel keeps the agreement of the others. -/
theorem Agreement.fencing (agreement : Agreement plane)
    (held : plane.channels.get? id = some channel)
    {result : Except HostedWorkerRegistryError (List HostedWorkerRouteLease)}
    {middle : ControlPlane} (fencing : Fencing plane id channel (result, middle)) :
    Agreement middle := by
  have numbered := (agreement.numbered.fencing (agreement.numbered.channels id channel held)
    fencing).1
  cases fencing with
  | idle => exact agreement
  | refused live error same =>
      refine agreement.quiet ⟨same, ?_, fun _ => rfl, fun _ _ => .rfl⟩ numbered
      intro other current stored open'
      exact ⟨current, (held_of_closed stored open').2, open', rfl⟩
  | fenced live change =>
      -- an open channel beside this one is on another worker
      have elsewhere : ∀ other current,
          (plane.channels.set id { channel with closed := true }).get? other = some current →
          current.closed = false →
          channel.registration.workerId ≠ current.registration.workerId := by
        intro other current stored open' same
        obtain ⟨ne, earlier⟩ := held_of_closed stored open'
        exact ne (agreement.apart id channel other current held earlier live open' same).symm
      constructor
      · exact change.invariant agreement.registry
      · cases change with
        | disconnected => exact agreement.generations
      · exact numbered
      · intro other current stored open'
        obtain ⟨worker, found, same⟩ :=
          agreement.connected other current (held_of_closed stored open').2 open'
        refine ⟨worker, ?_, same⟩
        cases change with
        | disconnected =>
            exact (get?_delete_ne _ (elsewhere other current stored open').symm).trans
              found
      · intro first current second current' stored stored' open' open'' same
        exact agreement.apart first current second current' (held_of_closed stored open').2
          (held_of_closed stored' open'').2 open' open'' same
      · intro other current stored open'
        have agrees := agreement.agrees other current (held_of_closed stored open').2 open'
        refine agrees.frame ?_ fun _ => .rfl
        cases change with
        | disconnected =>
            exact HostedWorkerRegistry.sameRoutes_disconnected
              (elsewhere other current stored open') rfl

theorem Fences.agreement {call : Nat} {ending : List HostedWorkerRouteLease → Ending}
    (fences : Fences plane event base call id channel reason ending)
    (agreement : Agreement plane) : Agreement base := by
  have numbered := (fences.numbered agreement.numbered).1
  obtain ⟨started, rfl⟩ := fences.base_eq
  exact agreement.quiet (quiet_of_eq (.refl _) rfl rfl rfl fun _ _ => .rfl) numbered

theorem Fences.heldBase {call : Nat} {ending : List HostedWorkerRouteLease → Ending}
    (fences : Fences plane event base call id channel reason ending) :
    base.channels.get? id = some channel := by
  have held := fences.held
  obtain ⟨started, rfl⟩ := fences.base_eq
  exact held

theorem Fences.idleBase {call : Nat} {ending : List HostedWorkerRouteLease → Ending}
    (fences : Fences plane event base call id channel reason ending)
    (numbered : Numbered plane) : Idle base call := by
  cases fences with
  | disconnecting => exact numbered.idle
  | bindFailed waiting | revokeFailed waiting =>
      exact idle_of_waiting waiting fun _ no => nomatch no

/-- Fencing a channel touches no call. -/
theorem Fencing.stillIdle {call : Nat}
    {result : Except HostedWorkerRegistryError (List HostedWorkerRouteLease)}
    {middle : ControlPlane} (fencing : Fencing plane id channel (result, middle))
    (idle : Idle plane call) : Idle middle call := by
  cases fencing <;> exact idle

/-! ### Steps of one channel -/

/-- A worker registers and opens a channel of its own. -/
theorem Agreement.opening (agreement : Agreement plane)
    {authenticated : HostedWorkerRegistrationRequest} {hooked : Bool}
    {registration : HostedWorkerRegistration} {registry : HostedWorkerRegistry}
    (change : Change plane.registry (.register authenticated)
      (.ok (.registration registration)) registry)
    (unshared : plane.unshared (.openChannel authenticated hooked) = true)
    (same : after.registry = registry)
    (channels : after.channels = plane.channels.set plane.started
      ⟨registration, authenticated.channelBinding, hooked, false, false⟩)
    (own : after.gateAhead plane.started =
      HostedWorkerRouteGate.initial.receive ⟨1, registration.generation, .registered⟩)
    (gates : ∀ id, id ≠ plane.started → after.gateAhead id = plane.gateAhead id)
    (revoking : ∀ id lease, after.revoking id lease ↔ plane.revoking id lease)
    (numbered : Numbered after) : Agreement after := by
  cases change with
  | reconnected stored channel =>
      simp [ControlPlane.unshared, stored, channel] at unshared
  | @admitted _ pinned absent registeredAt previous last room =>
      obtain ⟨exact, room⟩ := room
      have known : 0 ≤ previous := by
        cases stored : plane.registry.workerGenerations.get? authenticated.workerId with
        | none =>
            rw [stored] at last
            exact Int.le_of_eq last
        | some generation =>
            rw [stored] at last
            cases last
            exact Int.le_of_lt (agreement.generations _ _ stored).1
      have turn : 0 < previous + 1 ∧ isSafeInteger (previous + 1) = true := by
        simp only [isSafeInteger, Bool.and_eq_true, decide_eq_true_eq, maxSafeInteger] at exact room ⊢
        omega
      -- the worker of an open channel is connected, and this one was not
      have elsewhere : ∀ id channel, plane.channels.get? id = some channel →
          channel.closed = false → channel.registration.workerId ≠ authenticated.workerId := by
        intro id channel held live here
        obtain ⟨worker, found, _⟩ := agreement.connected id channel held live
        rw [here, absent] at found
        cases found
      have before : ∀ id channel, after.channels.get? id = some channel → id ≠ plane.started →
          plane.channels.get? id = some channel := by
        intro id channel held other
        rw [channels] at held
        exact (get?_set_ne _ _ other).symm.trans held
      have newest : ∀ channel, after.channels.get? plane.started = some channel →
          channel.registration = ⟨authenticated.workerId, authenticated.principalBinding, previous + 1,
            registeredAt⟩ := by
        intro channel held
        rw [channels, get?_set_self] at held
        cases held
        rfl
      constructor
      · rw [same]
        exact HostedWorkerRegistry.Change.invariant (.admitted pinned absent registeredAt previous
          last ⟨exact, room⟩) agreement.registry
      · rw [same]
        intro workerId generation stored
        by_cases here : workerId = authenticated.workerId
        · subst here
          change (OrderedMap.set _ _ _).get? _ = _ at stored
          rw [get?_set_self] at stored
          cases stored
          exact turn
        · exact agreement.generations workerId generation
            ((get?_set_ne _ _ here).symm.trans stored)
      · exact numbered
      · intro id channel held live
        rw [same]
        by_cases here : id = plane.started
        · subst here
          rw [newest channel held]
          exact ⟨_, get?_set_self _ _ _, rfl⟩
        · have earlier := before id channel held here
          obtain ⟨worker, found, facts⟩ := agreement.connected id channel earlier live
          exact ⟨worker, (get?_set_ne _ _ (elsewhere id channel earlier live)).trans
            found, facts⟩
      · intro id channel other held first second live live' worker
        by_cases here : id = plane.started
        · subst here
          by_cases here' : other = plane.started
          · exact here'.symm
          · rw [newest channel first] at worker
            exact absurd worker.symm (elsewhere other held (before other held second here') live')
        · by_cases here' : other = plane.started
          · subst here'
            rw [newest held second] at worker
            exact absurd worker (elsewhere id channel (before id channel first here) live)
          · exact agreement.apart id channel other held (before id channel first here)
              (before other held second here') live live' worker
      · intro id channel held live
        rw [same]
        by_cases here : id = plane.started
        · subst here
          rw [own, newest channel held,
            HostedWorkerRouteGate.receive_registered turn.2 turn.1]
          apply agrees_registered
          · intro lease revoke
            obtain ⟨call, waiting⟩ := (revoking _ lease).mp revoke
            exact absurd (agreement.numbered.calls _ _ waiting).2 (Nat.lt_irrefl _)
          · intro key route stored
            apply Bool.eq_false_iff.mpr
            intro routed
            obtain ⟨active, worker, _⟩ := routedOn_iff.mp routed
            obtain ⟨connected, found, _⟩ := agreement.registry.live key route stored active
            change plane.registry.activeWorkers.get? route.workerId = some connected at found
            rw [worker, absent] at found
            cases found
        · rw [gates id here]
          exact (agreement.agrees id channel (before id channel held here) live).frame
            (.of_eq rfl) (revoking id)

/-- A step that changes routes only. -/
theorem Agreement.withRoutes (agreement : Agreement plane) (inv : after.registry.Invariant)
    (workers : after.registry.activeWorkers = plane.registry.activeWorkers)
    (generations : after.registry.workerGenerations = plane.registry.workerGenerations)
    (channels : after.channels = plane.channels) (numbered : Numbered after)
    (agrees : ∀ id channel, plane.channels.get? id = some channel → channel.closed = false →
      Agrees channel.registration after.registry (after.gateAhead id)
        (after.revoking id)) : Agreement after := by
  refine ⟨inv, ?_, numbered, ?_, ?_, ?_⟩
  · rw [generations]
    exact agreement.generations
  · rw [channels, workers]
    exact agreement.connected
  · rw [channels]
    exact agreement.apart
  · rw [channels]
    exact agrees

/-- An accepted bind, which overtakes no revocation of its epoch. -/
theorem Agreement.bound (agreement : Agreement plane) {id : Nat} {request : ChannelBindRequest}
    {channel : HostedWorkerControlChannel} {lease : HostedWorkerRouteLease}
    (held : plane.channels.get? id = some channel) (live : channel.closed = false)
    (change : Change plane.registry
      (.bindIntervention (request.through channel)) (.ok (.lease lease)) after.registry)
    (apart : ∀ other, plane.revoking id other → other.interventionId = request.interventionId →
      other.epoch ≠ request.epoch)
    (channels : after.channels = plane.channels)
    (own : after.gateAhead id = (plane.gateAhead id).receive
      ⟨1, channel.registration.generation, .bind lease.interventionId lease.epoch⟩)
    (gates : ∀ other, other ≠ id → after.gateAhead other = plane.gateAhead other)
    (revoking : ∀ id lease, after.revoking id lease ↔ plane.revoking id lease)
    (numbered : Numbered after) : Agreement after := by
  have bound := change.routeBound agreement.registry
  refine agreement.withRoutes (change.invariant agreement.registry) ?_ ?_ channels numbered ?_
  · generalize after.registry = registry at change
    cases change <;> rfl
  · generalize after.registry = registry at change
    cases change <;> rfl
  · intro other current stored open'
    have agrees := agreement.agrees other current stored open'
    by_cases here : other = id
    · subst here
      cases held.symm.trans stored
      rw [own]
      exact (agrees.bound bound ⟨rfl, rfl⟩ apart).frame (.of_eq rfl) (revoking other)
    · rw [gates other here]
      refine agrees.frame (sameRoutes_bound bound ?_) (revoking other)
      intro same
      exact here (agreement.apart id channel other current held stored live open' same).symm

/-- An accepted revocation, which is now under way. -/
theorem Agreement.revoked (agreement : Agreement plane) {id : Nat}
    {route : HostedWorkerRouteRequest} {channel : HostedWorkerControlChannel}
    (held : plane.channels.get? id = some channel) (live : channel.closed = false)
    (own : route.workerId = channel.registration.workerId ∧
      route.workerGeneration = channel.registration.generation)
    (change : Change plane.registry (.releaseIntervention route)
      (.ok .done) after.registry)
    (channels : after.channels = plane.channels)
    (gates : ∀ other, after.gateAhead other = plane.gateAhead other)
    (revoking : ∀ other lease, after.revoking other lease ↔
      plane.revoking other lease ∨ other = id ∧ lease = route.toHostedWorkerRouteLease)
    (numbered : Numbered after) : Agreement after := by
  have inv := change.invariant agreement.registry
  generalize registered : after.registry = registry at change inv
  cases change with
  | @released _ existing stored active epoch owner worker turn =>
      refine agreement.withRoutes (registered ▸ inv) ?_ ?_ channels numbered ?_
      · rw [registered]
      · rw [registered]
      · intro other current found open'
        have agrees := agreement.agrees other current found open'
        rw [gates, registered]
        by_cases here : other = id
        · subst here
          cases held.symm.trans found
          refine agrees.released stored epoch ?_ rfl ?_
          · exact routedOn_iff.mpr
              ⟨active, worker.trans own.1, turn.trans own.2⟩
          · intro lease
            rw [revoking]
            simp
        · have elsewhere : route.workerId ≠ current.registration.workerId := by
            intro same
            exact here (agreement.apart id channel other current held found live open'
              (own.1.symm.trans same)).symm
          refine agrees.frame ?_ fun lease => (revoking other lease).trans (by simp [here])
          apply HostedWorkerRegistry.sameRoutes_withRoute
          · exact fun key ne => get?_set_ne _ _ ne
          · intro known earlier
            cases stored.symm.trans earlier
            exact worker ▸ elsewhere
          · intro known now
            rw [get?_set_self] at now
            cases now
            exact worker ▸ elsewhere

/-- The hook of a revocation has returned and its message is sent. -/
theorem Agreement.propagated (agreement : Agreement plane) {id : Nat}
    {channel : HostedWorkerControlChannel} {lease : HostedWorkerRouteLease}
    (held : plane.channels.get? id = some channel) (revoke : plane.revoking id lease)
    (registry : after.registry = plane.registry) (channels : after.channels = plane.channels)
    (own : after.gateAhead id = (plane.gateAhead id).receive
      ⟨1, channel.registration.generation, .revoke lease.interventionId lease.epoch⟩)
    (gates : ∀ other, other ≠ id → after.gateAhead other = plane.gateAhead other)
    (fewer : ∀ other pending, after.revoking other pending → plane.revoking other pending)
    (rest : ∀ other pending, plane.revoking other pending →
      after.revoking other pending ∨ other = id ∧ pending = lease)
    (numbered : Numbered after) : Agreement after := by
  refine agreement.withRoutes (registry ▸ agreement.registry) (by rw [registry])
    (by rw [registry]) channels numbered ?_
  intro other current found open'
  have agrees := agreement.agrees other current found open'
  rw [registry]
  by_cases here : other = id
  · subst here
    cases held.symm.trans found
    rw [own]
    exact agrees.sent revoke (fewer other) fun pending waiting =>
      (rest other pending waiting).imp_right And.right
  · rw [gates other here]
    refine agrees.frame (.of_eq rfl) fun pending => ⟨fewer other pending, fun waiting => ?_⟩
    rcases rest other pending waiting with still | ⟨same, _⟩
    · exact still
    · exact absurd same here

/-- An accepted bind that keeps the order finds no revocation of its epoch under way. -/
theorem Agreement.unovertaken (agreement : Agreement plane) {request : ChannelBindRequest}
    {lease : HostedWorkerRouteLease} {registry : HostedWorkerRegistry}
    (held : plane.handedOut id = some channel) (live : channel.closed = false)
    (change : Change plane.registry
      (.bindIntervention (request.through channel)) (.ok (.lease lease)) registry)
    (ordered : plane.keepsOrder (.bindIntervention id request) = true)
    (other : HostedWorkerRouteLease) (revoke : plane.revoking id other)
    (here : other.interventionId = request.interventionId) : other.epoch ≠ request.epoch := by
  intro level
  obtain ⟨known, stored, _, past⟩ :=
    (agreement.agrees id channel (handedOut_held held) live).revoked other revoke
  rw [here] at stored
  cases change with
  | bound _ fresh =>
      change plane.registry.routes.get? request.interventionId = none at fresh
      rw [fresh] at stored
      cases stored
  | @repeated _ existing found active epoch =>
      change plane.registry.routes.get? request.interventionId = some existing at found
      change existing.epoch = request.epoch at epoch
      cases found.symm.trans stored
      rcases past with past | ⟨_, closed⟩
      · omega
      · rw [active] at closed
        cases closed
  | @rebound _ existing wellFormed connected found owner worker epoch =>
      change plane.registry.routes.get? request.interventionId = some existing at found
      change existing.principalBinding = request.principalBinding at owner
      change existing.workerId = channel.registration.workerId at worker
      change existing.epoch ≤ request.epoch at epoch
      obtain ⟨active, connected, turn, principal⟩ := connected
      change plane.registry.activeWorkers.get? channel.registration.workerId = some active
        at connected
      change active.registration.generation = channel.registration.generation at turn
      change active.registration.principalBinding = request.principalBinding at principal
      have admitted : plane.admitsBind channel request = true := by
        simp [admitsBind, live, wellFormed, connected, turn, principal, found, owner, worker,
          epoch]
      obtain ⟨call, waiting⟩ := revoke
      have overtaken : plane.calls.values.any
          (revokes id request.interventionId request.epoch) = true := by
        rw [List.any_eq_true]
        exact ⟨_, OrderedMap.mem_values_iff.mpr ⟨call, waiting⟩, by simp [revokes, here, level]⟩
      simp [keepsOrder, held, admitted, overtaken] at ordered

/-- One step keeps the agreement. -/
theorem Effect.agreement (effect : Effect plane event after)
    (agreement : Agreement plane) (unshared : plane.unshared event = true)
    (ordered : plane.keepsOrder event = true) : Agreement after := by
  have numbered := effect.numbered agreement.numbered
  cases effect with
  | refused error same =>
      exact agreement.quiet
        (quiet_of_eq same rfl rfl rfl (revoking_answer agreement.numbered.idle rfl)) numbered
  | redundant =>
      exact agreement.quiet
        (quiet_of_eq (.refl _) rfl rfl rfl (revoking_answer agreement.numbered.idle rfl)) numbered
  | opening change =>
      refine agreement.opening change unshared rfl rfl ?_ ?_ ?_ numbered
      · -- nothing was sent on the wire of a new channel
        have fresh : plane.wires.get? plane.started = none := by
          cases sent : plane.wires.get? plane.started with
          | none => rfl
          | some wire =>
              exact absurd (agreement.numbered.wires _ wire sent) (Nat.lt_irrefl _)
        unfold gateAhead
        simp only [await_wires, await_gates]
        unfold send
        dsimp only
        rw [fresh, get?_set_self, get?_set_self]
        rfl
      · exact fun id other => gateAhead_sent_ne other rfl (get?_set_ne _ _ other)
      · exact revoking_await agreement.numbered.idle (by simp) rfl
  | bound held live change =>
      refine agreement.bound (handedOut_held held) live change
        (agreement.unovertaken held live change ordered) rfl ?_ ?_ ?_ numbered
      · exact gateAhead_sent rfl rfl
      · exact fun other ne => gateAhead_sent_ne ne rfl rfl
      · exact revoking_await agreement.numbered.idle (by simp) rfl
  | revoked held accepted live current own change =>
      refine agreement.revoked (handedOut_held held) live own change rfl (fun _ => rfl) ?_ numbered
      intro other lease
      unfold revoking
      constructor
      · rintro ⟨call, waiting⟩
        by_cases here : call = plane.started
        · subst here
          change (OrderedMap.set _ _ _).get? _ = _ at waiting
          rw [get?_set_self] at waiting
          cases waiting
          exact .inr ⟨rfl, rfl⟩
        · exact .inl ⟨call, (get?_set_ne _ _ here).symm.trans waiting⟩
      · rintro (⟨call, waiting⟩ | ⟨rfl, rfl⟩)
        · have ne : call ≠ plane.started :=
            Nat.ne_of_lt (agreement.numbered.calls _ _ waiting).1
          exact ⟨call, (get?_set_ne _ _ ne).trans waiting⟩
        · exact ⟨plane.started, get?_set_self _ _ _⟩
  | fenceRefused fences fencing =>
      have middle := (fences.agreement agreement).fencing fences.heldBase fencing
      have idle := fencing.stillIdle (fences.idleBase agreement.numbered)
      exact middle.quiet (quiet_of_eq (.refl _) rfl rfl rfl (revoking_answer idle rfl)) numbered
  | fenced fences fencing =>
      have middle := (fences.agreement agreement).fencing fences.heldBase fencing
      have idle := fencing.stillIdle (fences.idleBase agreement.numbered)
      exact middle.quiet (quiet_of_eq (.refl _) rfl rfl rfl
        (revoking_await idle (by simp) rfl)) numbered
  | openRefused waiting held fencing =>
      have idle := fencing.stillIdle (idle_of_waiting waiting fun _ no => by cases no)
      exact (agreement.fencing held fencing).quiet
        (quiet_of_eq (.refl _) rfl rfl rfl (revoking_answer idle rfl)) numbered
  | openFailed waiting held fencing =>
      have idle := fencing.stillIdle (idle_of_waiting waiting fun _ no => by cases no)
      exact (agreement.fencing held fencing).quiet (quiet_of_eq (.refl _) rfl rfl rfl
        (revoking_await idle (by simp) rfl)) numbered
  | opened waiting held => exact agreement.quiet (quiet_opened waiting held _) numbered
  | finished waiting finished =>
      have idle : Idle plane _ := idle_of_waiting waiting (by cases finished <;> simp)
      exact agreement.quiet (quiet_of_eq (.refl _) rfl rfl rfl (revoking_answer idle rfl)) numbered
  | @propagated call id succeeded lease channel waiting held =>
      refine agreement.propagated held ⟨call, waiting⟩ rfl rfl ?_ ?_ ?_ ?_ numbered
      · exact gateAhead_sent rfl rfl
      · exact fun other ne => gateAhead_sent_ne ne rfl rfl
      · rintro other pending ⟨waiter, stage⟩
        by_cases here : waiter = call
        · subst here
          change (OrderedMap.set _ _ _).get? _ = _ at stage
          rw [get?_set_self] at stage
          cases stage
        · exact ⟨waiter, (get?_set_ne _ _ here).symm.trans stage⟩
      · rintro other pending ⟨waiter, stage⟩
        by_cases here : waiter = call
        · subst here
          cases waiting.symm.trans stage
          exact .inr ⟨rfl, rfl⟩
        · exact .inl ⟨waiter, (get?_set_ne _ _ here).trans stage⟩
  | hookReturned ending waiting =>
      have idle := idle_of_waiting waiting fun _ no => by cases no
      exact agreement.quiet (quiet_of_eq (.refl _) rfl rfl rfl
        (revoking_await idle (by simp) rfl)) numbered
  | delivered sent =>
      refine agreement.quiet ⟨.refl _, ?_, gateAhead_deliver sent, fun _ _ => .rfl⟩ numbered
      exact fun _ channel held live => ⟨channel, held, live, rfl⟩

theorem ordered_run_agreement {first last : ControlPlane} {events : List ChannelEvent}
    (run : Run (OrderedStep clock) first events last) (agreement : Agreement first) :
    Agreement last := by
  refine run.invariant ?_ agreement
  intro first event last step agreement
  obtain ⟨⟨step, unshared⟩, ordered⟩ := step
  exact step.effect.agreement agreement unshared ordered

/-- Nothing of the channel is under way: no message, and no call. -/
def settled (plane : ControlPlane) (id : Nat) : Bool :=
  ((plane.wires.get? id).getD []).isEmpty
    && plane.calls.values.all fun pending => pending.channel != id

/-- Along every run of unshared channels in which no bind overtakes a revocation of its epoch, the
gate of an open channel with nothing under way holds the routes active on its worker. -/
theorem run_gate_agreement {events : List ChannelEvent}
    (reached : Run (OrderedStep clock) initial events plane) {id : Nat}
    {channel : HostedWorkerControlChannel} (held : plane.handedOut id = some channel)
    (live : channel.closed = false) (settled : plane.settled id = true) (interventionId : String)
    (epoch : Int) :
    ((plane.gates.get? id).getD .initial).routes.get? interventionId =
        some ⟨interventionId, epoch, channel.registration.generation⟩ ↔
      ∃ route, plane.registry.routes.get? interventionId = some route ∧
        HostedWorkerRegistry.routedOn channel.registration.workerId
          channel.registration.generation route = true ∧
        route.epoch = epoch := by
  have agreement := ordered_run_agreement reached initial_agreement
  simp only [ControlPlane.settled, Bool.and_eq_true, List.isEmpty_iff, List.all_eq_true] at settled
  obtain ⟨empty, quiet⟩ := settled
  have agrees := agreement.agrees id channel (handedOut_held held) live
  have here : plane.gateAhead id = (plane.gates.get? id).getD .initial := by
    unfold gateAhead
    rw [empty]
    rfl
  rw [here] at agrees
  apply agrees.exact
  rintro lease ⟨call, waiting⟩
  have other := quiet _ (OrderedMap.mem_values_iff.mpr ⟨call, waiting⟩)
  simp at other

/-! ## Runs of the sample channel -/

/-- Executing only steps that meet both conditions. -/
theorem ordered_of_execute {first last : ControlPlane} {events : List ChannelEvent}
    (executed : execute (permitted (permitted (next clock) fun plane event =>
      plane.unshared event = true) fun plane event => plane.keepsOrder event = true) first events =
        some last) : Run (OrderedStep clock) first events last := by
  have run := run_guarded_of_execute executed
  apply run.mono
  rintro source event target ⟨step, ordered⟩
  by_cases unshared : source.unshared event = true
  · exact ⟨⟨(if_pos unshared).symm.trans step, unshared⟩, ordered⟩
  · exact absurd ((if_neg unshared).symm.trans step) (by simp)

/-- The route is revoked at one epoch and bound at the next while the hook is slow. -/
def sampleRebound : List ChannelEvent :=
  sampleBound ++
    [.revokeIntervention 0 (HostedWorkerRegistry.sampleLease 1).request,
      .bindIntervention 0 { sampleBind with epoch := 4 }, .settle 2 true, .settle 3 true,
      .settle 2 true, .deliver 0, .deliver 0, .deliver 0, .deliver 0]

/-- The open channel of the sample worker. -/
def sampleChannel : HostedWorkerControlChannel :=
  ⟨⟨"worker-a", "principal-binding-a", 1, 0⟩, "channel-binding-a", true, false, true⟩

theorem sampleRebound_agrees :
    (((samplePlane sampleRebound).gates.get? 0).getD .initial).routes.get? "intervention-1" =
      some ⟨"intervention-1", 4, 1⟩ := by
  have reached : Run (OrderedStep HostedWorkerRegistry.sampleClock) initial sampleRebound
      (samplePlane sampleRebound) := ordered_of_execute (by decide)
  have held : (samplePlane sampleRebound).handedOut 0 = some sampleChannel := by decide
  have routed : ∃ route,
      (samplePlane sampleRebound).registry.routes.get? "intervention-1" = some route ∧
        HostedWorkerRegistry.routedOn "worker-a" 1 route = true ∧ route.epoch = 4 :=
    ⟨⟨{ HostedWorkerRegistry.sampleLease 1 with epoch := 4 }, true⟩, by decide, by decide, rfl⟩
  exact (run_gate_agreement reached held rfl (by decide) "intervention-1" 4).mpr routed

/-- The route is revoked and bound again at its epoch while the hook is slow. -/
def sampleOvertaken : List ChannelEvent :=
  sampleBound ++
    [.revokeIntervention 0 (HostedWorkerRegistry.sampleLease 1).request,
      .bindIntervention 0 sampleBind, .settle 2 true, .settle 3 true, .settle 2 true,
      .deliver 0, .deliver 0, .deliver 0, .deliver 0]

/-- The registry has the route active, and the gate has dropped it. -/
theorem sampleOvertaken_disagrees :
    ¬ ∀ (clock : Nat → Int) (events : List ChannelEvent) (plane : ControlPlane) (id : Nat)
      (channel : HostedWorkerControlChannel) (interventionId : String) (epoch : Int),
      Run (UnsharedStep clock) initial events plane → plane.handedOut id = some channel →
      channel.closed = false → plane.settled id = true →
      (((plane.gates.get? id).getD .initial).routes.get? interventionId =
          some ⟨interventionId, epoch, channel.registration.generation⟩ ↔
        ∃ route, plane.registry.routes.get? interventionId = some route ∧
          HostedWorkerRegistry.routedOn channel.registration.workerId
            channel.registration.generation route = true ∧
          route.epoch = epoch) := by
  intro claim
  have reached : Run (UnsharedStep HostedWorkerRegistry.sampleClock) initial sampleOvertaken
      (samplePlane sampleOvertaken) := run_guarded_of_execute (by decide)
  have held : (samplePlane sampleOvertaken).handedOut 0 = some sampleChannel := by decide
  have routed : ∃ route,
      (samplePlane sampleOvertaken).registry.routes.get? "intervention-1" = some route ∧
        HostedWorkerRegistry.routedOn "worker-a" 1 route = true ∧ route.epoch = 3 :=
    ⟨⟨HostedWorkerRegistry.sampleLease 1, true⟩, by decide, by decide, rfl⟩
  have agrees := (claim _ _ _ 0 sampleChannel "intervention-1" 3 reached held rfl
    (by decide)).mpr routed
  revert agrees
  decide

end ControlPlane

end ExecutionHandoff.Hosted
