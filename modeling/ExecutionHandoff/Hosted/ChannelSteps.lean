import ExecutionHandoff.Hosted.ControlChannel
import ExecutionHandoff.Hosted.RegistryInvariant

/-!
# The steps of the control channels

What one event can do to the control plane, said once: the change it makes in
the registry, the message it sends, the facts it leaves behind, and the stage
or the answer of its call.
-/

namespace ExecutionHandoff.Hosted

open Library Option Bool

namespace ControlPlane

variable {clock : Nat → Int} {plane after : ControlPlane}

/-! ## Parts of a step -/

section Fields

variable (plane)

@[simp] theorem await_wires (call id : Nat) (stage : ChannelStage) :
    (plane.await call id stage).wires = plane.wires := rfl

@[simp] theorem await_gates (call id : Nat) (stage : ChannelStage) :
    (plane.await call id stage).gates = plane.gates := rfl

@[simp] theorem await_log (call id : Nat) (stage : ChannelStage) :
    (plane.await call id stage).log = plane.log := rfl

/-- The facts of a call of the hook. -/
def notices (id : Nat) (channel : HostedWorkerControlChannel)
    (routes : List HostedWorkerRouteLease) (reason : HostedWorkerRouteInvalidationReason) :
    List ChannelFact :=
  if channel.hooked then routes.map fun route => .invalidated id route reason else []

/-- The facts of an awaited hook that succeeded or failed. -/
def propagations (call : Nat) (propagationOk : Bool) : List ChannelFact :=
  if propagationOk then [.propagated call] else []

/-- Calling the hook only records its facts. -/
theorem notifyInvalidated_eq (id : Nat) (channel : HostedWorkerControlChannel)
    (routes : List HostedWorkerRouteLease) (reason : HostedWorkerRouteInvalidationReason) :
    plane.notifyInvalidated id channel routes reason =
      { plane with log := notices id channel routes reason ++ plane.log } := by
  unfold notifyInvalidated notices
  split <;> rfl

end Fields

/-- What `#fenceLocal` can do. -/
inductive Fencing (plane : ControlPlane) (id : Nat) (channel : HostedWorkerControlChannel) :
    Except HostedWorkerRegistryError (List HostedWorkerRouteLease) × ControlPlane → Prop where
  | idle (closed : channel.closed = true) : Fencing plane id channel (.ok [], plane)
  | refused (live : channel.closed = false) (error : HostedWorkerRegistryError)
      {registry : HostedWorkerRegistry}
      (same : HostedWorkerRegistry.SameMaps plane.registry registry) :
      Fencing plane id channel
        (.error error,
          { plane with
            registry, channels := plane.channels.set id { channel with closed := true } })
  | fenced (live : channel.closed = false) {leases : List HostedWorkerRouteLease}
      {registry : HostedWorkerRegistry}
      (change : HostedWorkerRegistry.Change plane.registry
        (.disconnect channel.registration.workerId channel.registration.generation
          channel.channelBinding)
        (.ok (.leases leases)) registry) :
      Fencing plane id channel
        (.ok leases,
          { plane with
            registry, channels := plane.channels.set id { channel with closed := true } })

theorem fenceLocal_fencing (id : Nat) (channel : HostedWorkerControlChannel) :
    Fencing plane id channel (plane.fenceLocal id channel) := by
  unfold fenceLocal
  split
  · rename_i closed
    exact .idle closed
  · rename_i live
    have spec := HostedWorkerRegistry.disconnect_change plane.registry
      channel.registration.workerId channel.registration.generation channel.channelBinding
    unfold StateExcept.Ensures at spec
    generalize HostedWorkerRegistry.disconnect channel.registration.workerId
      channel.registration.generation channel.channelBinding plane.registry = outcome at spec ⊢
    obtain ⟨result, registry⟩ := outcome
    cases result with
    | error error =>
        cases spec with
        | refused _ same => exact .refused (not_eq_true _ ▸ live) error same
    | ok leases => exact .fenced (not_eq_true _ ▸ live) spec

/-- The events on which a call fences its channel and calls the hook with what it fenced. -/
inductive Fences (plane : ControlPlane) :
    ChannelEvent → ControlPlane → Nat → Nat → HostedWorkerControlChannel →
      HostedWorkerRouteInvalidationReason → (List HostedWorkerRouteLease → Ending) → Prop where
  | disconnecting {id : Nat} {channel : HostedWorkerControlChannel}
      (held : plane.handedOut id = some channel) (live : channel.closed = false) :
      Fences plane (.disconnect id) { plane with started := plane.started + 1 } plane.started id
        channel .workerDisconnect fun routes => .disconnected routes true
  | bindFailed {call id : Nat} {lease : HostedWorkerRouteLease}
      {channel : HostedWorkerControlChannel}
      (waiting : plane.calls.get? call = some ⟨id, .binding lease⟩)
      (held : plane.channels.get? id = some channel) :
      Fences plane (.settle call false) plane call id channel .bindDeliveryFailure
        fun _ => .bindFailed true
  | revokeFailed {call id : Nat} {lease : HostedWorkerRouteLease} {propagationOk : Bool}
      {channel : HostedWorkerControlChannel}
      (waiting : plane.calls.get? call = some ⟨id, .sendingRevoke lease propagationOk⟩)
      (held : plane.channels.get? id = some channel) :
      Fences plane (.settle call false) plane call id channel .revokeDeliveryFailure
        fun _ => .revokeFailed propagationOk

/-- What a settled call that only ends leaves behind, by the stage it was at. -/
inductive Finished (call : Nat) : Bool → ChannelStage → ChannelAnswer → List ChannelFact → Prop where
  | bound (lease : HostedWorkerRouteLease) :
      Finished call true (.binding lease) (.ok (.lease lease)) []
  | delivered (lease : HostedWorkerRouteLease) (propagationOk : Bool) :
      Finished call true (.sendingRevoke lease propagationOk)
        (if propagationOk then .ok .done else .error .propagationFailed) [.delivered call]
  | closed (succeeded : Bool) (ending : Ending) :
      Finished call succeeded (.closing ending) ending.answer []

/-! ## One step -/

/-- Everything an event can do. -/
inductive Effect (plane : ControlPlane) : ChannelEvent → ControlPlane → Prop where
  | refused {event : ChannelEvent} {registry : HostedWorkerRegistry}
      (error : HostedWorkerChannelError)
      (same : HostedWorkerRegistry.SameMaps plane.registry registry) :
      Effect plane event
        ({ plane with registry, started := plane.started + 1 }.answer plane.started (.error error))
  | redundant {id : Nat} :
      Effect plane (.disconnect id)
        ({ plane with started := plane.started + 1 }.answer plane.started (.ok (.leases [])))
  | opening {authenticated : HostedWorkerRegistrationRequest} {hooked : Bool}
      {registration : HostedWorkerRegistration} {registry : HostedWorkerRegistry}
      (change : HostedWorkerRegistry.Change plane.registry (.register authenticated)
        (.ok (.registration registration)) registry) :
      Effect plane (.openChannel authenticated hooked)
        (({ plane with
            registry
            started := plane.started + 1
            channels := plane.channels.set plane.started
              ⟨registration, authenticated.channelBinding, hooked, false, false⟩
            gates := plane.gates.set plane.started .initial }.send plane.started
              ⟨registration, authenticated.channelBinding, hooked, false, false⟩
              .registered).await plane.started plane.started .opening)
  | bound {id : Nat} {request : ChannelBindRequest} {channel : HostedWorkerControlChannel}
      {lease : HostedWorkerRouteLease} {registry : HostedWorkerRegistry}
      (held : plane.handedOut id = some channel) (live : channel.closed = false)
      (change : HostedWorkerRegistry.Change plane.registry
        (.bindIntervention (request.through channel)) (.ok (.lease lease)) registry) :
      Effect plane (.bindIntervention id request)
        (({ plane with
            registry
            started := plane.started + 1
            binders := (plane.bound id lease).binders }.send id channel
              (.bind lease.interventionId lease.epoch)).await plane.started id (.binding lease))
  | revoked {id : Nat} {route : HostedWorkerRouteRequest} {channel : HostedWorkerControlChannel}
      {registry : HostedWorkerRegistry} (held : plane.handedOut id = some channel)
      (accepted : plane.assertCurrent channel route = .ok ()) (live : channel.closed = false)
      (current : plane.registry.current route.toHostedWorkerRouteLease = true)
      (own : route.workerId = channel.registration.workerId ∧
        route.workerGeneration = channel.registration.generation)
      (change : HostedWorkerRegistry.Change plane.registry (.releaseIntervention route)
        (.ok .done) registry) :
      Effect plane (.revokeIntervention id route)
        ({ plane with
            registry
            started := plane.started + 1
            log := notices id channel [route.toHostedWorkerRouteLease] .explicitRevoke ++
              ChannelFact.released plane.started route.toHostedWorkerRouteLease :: plane.log }.await
          plane.started id (.revoking route.toHostedWorkerRouteLease))
  | fenceRefused {event : ChannelEvent} {base after : ControlPlane} {call id : Nat}
      {channel : HostedWorkerControlChannel} {error : HostedWorkerRegistryError}
      {reason : HostedWorkerRouteInvalidationReason}
      {ending : List HostedWorkerRouteLease → Ending}
      (fences : Fences plane event base call id channel reason ending)
      (fencing : Fencing base id channel (.error error, after)) :
      Effect plane event (after.answer call (.error (.registry error)))
  | fenced {event : ChannelEvent} {base after : ControlPlane} {call id : Nat}
      {channel : HostedWorkerControlChannel} {leases : List HostedWorkerRouteLease}
      {reason : HostedWorkerRouteInvalidationReason}
      {ending : List HostedWorkerRouteLease → Ending}
      (fences : Fences plane event base call id channel reason ending)
      (fencing : Fencing base id channel (.ok leases, after)) :
      Effect plane event
        ({ after with log := notices id channel leases reason ++ after.log }.await call id
          (.invalidating leases (ending leases)))
  | openRefused {call id : Nat} {channel : HostedWorkerControlChannel} {after : ControlPlane}
      {error : HostedWorkerRegistryError}
      (waiting : plane.calls.get? call = some ⟨id, .opening⟩)
      (held : plane.channels.get? id = some channel)
      (fencing : Fencing plane id channel (.error error, after)) :
      Effect plane (.settle call false) (after.answer call (.error (.registry error)))
  | openFailed {call id : Nat} {channel : HostedWorkerControlChannel} {after : ControlPlane}
      {leases : List HostedWorkerRouteLease}
      (waiting : plane.calls.get? call = some ⟨id, .opening⟩)
      (held : plane.channels.get? id = some channel)
      (fencing : Fencing plane id channel (.ok leases, after)) :
      Effect plane (.settle call false) (after.await call id (.closing .openFailed))
  | opened {call id : Nat} {channel : HostedWorkerControlChannel}
      (waiting : plane.calls.get? call = some ⟨id, .opening⟩)
      (held : plane.channels.get? id = some channel) :
      Effect plane (.settle call true)
        ({ plane with channels := plane.channels.set id { channel with opened := true } }.answer
          call (.ok (.channel id)))
  | finished {call id : Nat} {succeeded : Bool} {stage : ChannelStage} {result : ChannelAnswer}
      {facts : List ChannelFact} (waiting : plane.calls.get? call = some ⟨id, stage⟩)
      (finished : Finished call succeeded stage result facts) :
      Effect plane (.settle call succeeded)
        ({ plane with log := facts ++ plane.log }.answer call result)
  | propagated {call id : Nat} {succeeded : Bool} {lease : HostedWorkerRouteLease}
      {channel : HostedWorkerControlChannel}
      (waiting : plane.calls.get? call = some ⟨id, .revoking lease⟩)
      (held : plane.channels.get? id = some channel) :
      Effect plane (.settle call succeeded)
        (({ plane with
            log := propagations call (hookSucceeded channel [lease] succeeded) ++ plane.log }.send id channel (.revoke lease.interventionId lease.epoch)).await call id
          (.sendingRevoke lease (hookSucceeded channel [lease] succeeded)))
  | hookReturned {call id : Nat} {succeeded : Bool} {routes : List HostedWorkerRouteLease}
      {ending : Ending} (propagationOk : Bool)
      (waiting : plane.calls.get? call = some ⟨id, .invalidating routes ending⟩) :
      Effect plane (.settle call succeeded)
        (plane.await call id (.closing (ending.hookReturned propagationOk)))
  | delivered {id : Nat} {message : HostedWorkerControlMessage}
      {rest : List HostedWorkerControlMessage}
      (sent : plane.wires.get? id = some (message :: rest)) :
      Effect plane (.deliver id) (plane.deliver id message rest)

/-- A call that fences its channel. -/
theorem effect_fenceAndNotify {event : ChannelEvent} {base : ControlPlane} {call id : Nat}
    {channel : HostedWorkerControlChannel} {reason : HostedWorkerRouteInvalidationReason}
    {ending : List HostedWorkerRouteLease → Ending}
    (fences : Fences plane event base call id channel reason ending) :
    Effect plane event (base.fenceAndNotify call id channel reason ending) := by
  have fencing := @fenceLocal_fencing base id channel
  unfold fenceAndNotify
  split
  · rename_i error after same
    rw [same] at fencing
    exact .fenceRefused fences fencing
  · rename_i routes after same
    rw [same] at fencing
    rw [notifyInvalidated_eq]
    exact .fenced fences fencing

theorem effect_openChannel (authenticated : HostedWorkerRegistrationRequest) (hooked : Bool) :
    Effect plane (.openChannel authenticated hooked)
      (plane.openChannel clock authenticated hooked) := by
  have spec := @HostedWorkerRegistry.register_change clock plane.registry authenticated
  unfold StateExcept.Ensures at spec
  unfold openChannel
  generalize HostedWorkerRegistry.register clock authenticated plane.registry = outcome at spec ⊢
  obtain ⟨result, registry⟩ := outcome
  cases result with
  | error error =>
      cases spec with
      | refused _ same => exact .refused _ same
  | ok registration => exact .opening spec

theorem effect_bindIntervention {id : Nat} {channel : HostedWorkerControlChannel}
    (held : plane.handedOut id = some channel) (request : ChannelBindRequest) :
    Effect plane (.bindIntervention id request) (plane.bindIntervention id channel request) := by
  have spec := HostedWorkerRegistry.bindIntervention_change plane.registry
    (request.through channel)
  unfold StateExcept.Ensures at spec
  unfold bindIntervention
  split
  · exact .refused _ (.refl plane.registry)
  · rename_i live
    generalize HostedWorkerRegistry.bindIntervention (request.through channel) plane.registry =
      outcome at spec ⊢
    obtain ⟨result, registry⟩ := outcome
    cases result with
    | error error =>
        cases spec with
        | refused _ same => exact .refused _ same
    | ok lease => exact .bound held (not_eq_true _ ▸ live) spec

/-- What the channel's `assertCurrent` has checked when it passes. -/
theorem assertCurrent_ok {channel : HostedWorkerControlChannel} {route : HostedWorkerRouteRequest}
    (accepted : plane.assertCurrent channel route = .ok ()) :
    channel.closed = false ∧
      plane.registry.current route.toHostedWorkerRouteLease = true ∧
      route.workerId = channel.registration.workerId ∧
      route.workerGeneration = channel.registration.generation := by
  have spec := HostedWorkerRegistry.assertCurrent_change plane.registry route
  unfold StateExcept.Ensures at spec
  unfold assertCurrent at accepted
  generalize HostedWorkerRegistry.assertCurrent route plane.registry = outcome at spec accepted
  obtain ⟨result, registry⟩ := outcome
  split at accepted
  · cases accepted
  · rename_i live
    cases result with
    | error error => cases accepted
    | ok =>
      cases spec with
      | asserted holds =>
          dsimp only at accepted
          split at accepted
          · rename_i own
            simp only [and_eq_true, beq_iff_eq] at own
            exact ⟨not_eq_true _ ▸ live, holds, own⟩
          · cases accepted

theorem effect_revokeIntervention {id : Nat} {channel : HostedWorkerControlChannel}
    (held : plane.handedOut id = some channel) (route : HostedWorkerRouteRequest) :
    Effect plane (.revokeIntervention id route)
      (plane.revokeIntervention id channel route) := by
  have spec := HostedWorkerRegistry.releaseIntervention_change plane.registry route
  unfold StateExcept.Ensures at spec
  unfold revokeIntervention
  split
  · exact .refused _ (.refl plane.registry)
  · rename_i accepted
    obtain ⟨live, current, own⟩ := assertCurrent_ok accepted
    generalize HostedWorkerRegistry.releaseIntervention route plane.registry = outcome at spec ⊢
    obtain ⟨result, registry⟩ := outcome
    cases result with
    | error error =>
        cases spec with
        | refused _ same => exact .refused _ same
    | ok =>
        dsimp only
        rw [notifyInvalidated_eq]
        exact .revoked held accepted live current own spec

theorem effect_disconnect {id : Nat} {channel : HostedWorkerControlChannel}
    (held : plane.handedOut id = some channel) :
    Effect plane (.disconnect id) (plane.disconnect id channel) := by
  unfold disconnect
  split
  · exact .redundant
  · rename_i live
    exact effect_fenceAndNotify (.disconnecting held (not_eq_true _ ▸ live))

theorem effect_settle {call : Nat} {pending : ChannelCall} {channel : HostedWorkerControlChannel}
    (waiting : plane.calls.get? call = some pending)
    (held : plane.channels.get? pending.channel = some channel) (succeeded : Bool) :
    Effect plane (.settle call succeeded) (plane.settle call pending channel succeeded) := by
  obtain ⟨id, stage⟩ := pending
  cases stage with
  | opening =>
      cases succeeded with
      | true => exact .opened waiting held
      | false =>
          have fencing := @fenceLocal_fencing plane id channel
          unfold settle
          dsimp only
          split
          · rename_i error after same
            rw [same] at fencing
            exact .openRefused waiting held fencing
          · rename_i routes after same
            rw [same] at fencing
            exact .openFailed waiting held fencing
  | binding lease =>
      cases succeeded with
      | true => exact .finished waiting (.bound lease)
      | false => exact effect_fenceAndNotify (.bindFailed waiting held)
  | revoking lease =>
      have sent : Effect plane (.settle call succeeded) _ := .propagated waiting held
      unfold settle
      dsimp only
      generalize hookSucceeded channel [lease] succeeded = propagationOk at sent ⊢
      cases propagationOk with
      | true => exact sent
      | false => exact sent
  | sendingRevoke lease propagationOk =>
      cases succeeded with
      | true => exact .finished waiting (.delivered lease propagationOk)
      | false => exact effect_fenceAndNotify (.revokeFailed waiting held)
  | invalidating routes ending => exact .hookReturned _ waiting
  | closing ending => exact .finished waiting (.closed succeeded ending)

/-- Every step has one of the effects. -/
theorem Step.effect {event : ChannelEvent} {after : ControlPlane}
    (step : Step clock plane event after) : Effect plane event after := by
  have happened : next clock plane event = some after := step
  cases event with
  | openChannel authenticated hooked =>
      cases happened
      exact effect_openChannel authenticated hooked
  | bindIntervention id request =>
      obtain ⟨channel, held, rfl⟩ := map_eq_some_iff.mp happened
      exact effect_bindIntervention held request
  | revokeIntervention id route =>
      obtain ⟨channel, held, rfl⟩ := map_eq_some_iff.mp happened
      exact effect_revokeIntervention held route
  | disconnect id =>
      obtain ⟨channel, held, rfl⟩ := map_eq_some_iff.mp happened
      exact effect_disconnect held
  | settle call succeeded =>
      obtain ⟨pending, waiting, settled⟩ := bind_eq_some_iff.mp happened
      obtain ⟨channel, held, rfl⟩ := map_eq_some_iff.mp settled
      exact effect_settle waiting held succeeded
  | deliver id =>
      unfold next at happened
      dsimp only at happened
      split at happened
      · rename_i message rest sent
        cases happened
        exact .delivered sent
      · cases happened

theorem handedOut_held {id : Nat} {channel : HostedWorkerControlChannel}
    (held : plane.handedOut id = some channel) : plane.channels.get? id = some channel :=
  (filter_eq_some_iff.mp held).1

section Fenced

variable {event : ChannelEvent} {base : ControlPlane} {call id : Nat}
  {channel : HostedWorkerControlChannel} {reason : HostedWorkerRouteInvalidationReason}
  {ending : List HostedWorkerRouteLease → Ending}

theorem Fences.base_eq (fences : Fences plane event base call id channel reason ending) :
    ∃ started, base = { plane with started } := by
  cases fences <;> exact ⟨_, rfl⟩

theorem Fences.held (fences : Fences plane event base call id channel reason ending) :
    plane.channels.get? id = some channel := by
  cases fences with
  | disconnecting held => exact handedOut_held held
  | bindFailed _ held | revokeFailed _ held => exact held

end Fenced

/-! ## Numbers of calls and channels -/

/-- Calls, channels and wires have numbers that were given out. -/
structure Numbered (plane : ControlPlane) : Prop where
  calls : ∀ call pending, plane.calls.get? call = some pending →
    call < plane.started ∧ pending.channel < plane.started
  channels : ∀ id channel, plane.channels.get? id = some channel → id < plane.started
  wires : ∀ id wire, plane.wires.get? id = some wire → id < plane.started
  answers : ∀ call result, plane.answers.get? call = some result → call < plane.started

theorem initial_numbered : Numbered initial :=
  ⟨fun _ _ no => (nomatch no), fun _ _ no => (nomatch no), fun _ _ no => (nomatch no),
    fun _ _ no => (nomatch no)⟩

namespace Numbered

theorem later (numbered : Numbered plane) (calls : after.calls = plane.calls)
    (channels : after.channels = plane.channels) (wires : after.wires = plane.wires)
    (answers : after.answers = plane.answers) (le : plane.started ≤ after.started) :
    Numbered after := by
  constructor
  · rw [calls]
    intro call pending waiting
    have facts := numbered.calls call pending waiting
    omega
  · rw [channels]
    intro id channel held
    have given := numbered.channels id channel held
    omega
  · rw [wires]
    intro id wire sent
    have given := numbered.wires id wire sent
    omega
  · rw [answers]
    intro call result answered
    have given := numbered.answers call result answered
    omega

theorem answer (numbered : Numbered plane) {call : Nat} (given : call < plane.started)
    (result : ChannelAnswer) : Numbered (plane.answer call result) := by
  refine ⟨?_, numbered.channels, numbered.wires, ?_⟩
  · exact fun other pending waiting =>
      numbered.calls other pending (OrderedMap.get?_of_get?_delete waiting)
  · intro other earlier answered
    by_cases here : other = call
    · exact here ▸ given
    · exact numbered.answers other earlier
        ((OrderedMap.get?_set_ne _ _ here).symm.trans answered)

theorem await (numbered : Numbered plane) {call id : Nat} (given : call < plane.started)
    (known : id < plane.started) (stage : ChannelStage) :
    Numbered (plane.await call id stage) := by
  refine ⟨?_, numbered.channels, numbered.wires, numbered.answers⟩
  intro other pending waiting
  by_cases here : other = call
  · subst here
    change (OrderedMap.set _ _ _).get? _ = _ at waiting
    rw [OrderedMap.get?_set_self] at waiting
    cases waiting
    exact ⟨given, known⟩
  · exact numbered.calls other pending ((OrderedMap.get?_set_ne _ _ here).symm.trans waiting)

theorem send (numbered : Numbered plane) {id : Nat} (known : id < plane.started)
    (channel : HostedWorkerControlChannel) (body : ControlBody) :
    Numbered (plane.send id channel body) := by
  refine ⟨numbered.calls, numbered.channels, ?_, numbered.answers⟩
  intro other wire sent
  by_cases here : other = id
  · exact here ▸ known
  · exact numbered.wires other wire ((OrderedMap.get?_set_ne _ _ here).symm.trans sent)

theorem withChannel (numbered : Numbered plane) {id : Nat} (known : id < plane.started)
    (channel : HostedWorkerControlChannel) :
    Numbered { plane with channels := plane.channels.set id channel } := by
  refine ⟨numbered.calls, ?_, numbered.wires, numbered.answers⟩
  intro other held stored
  by_cases here : other = id
  · exact here ▸ known
  · exact numbered.channels other held ((OrderedMap.get?_set_ne _ _ here).symm.trans stored)

theorem fencing (numbered : Numbered plane) {id : Nat} (known : id < plane.started)
    {channel : HostedWorkerControlChannel}
    {result : Except HostedWorkerRegistryError (List HostedWorkerRouteLease)}
    {middle : ControlPlane} (fencing : Fencing plane id channel (result, middle)) :
    Numbered middle ∧ middle.started = plane.started := by
  cases fencing with
  | idle => exact ⟨numbered, rfl⟩
  | refused | fenced =>
      have stored := numbered.withChannel known { channel with closed := true }
      exact ⟨⟨stored.calls, stored.channels, stored.wires, stored.answers⟩, rfl⟩

end Numbered

/-- A call that fences has a number, and so has its channel. -/
theorem Fences.numbered {event : ChannelEvent} {base : ControlPlane} {call id : Nat}
    {channel : HostedWorkerControlChannel} {reason : HostedWorkerRouteInvalidationReason}
    {ending : List HostedWorkerRouteLease → Ending}
    (fences : Fences plane event base call id channel reason ending)
    (numbered : Numbered plane) :
    Numbered base ∧ call < base.started ∧ id < base.started := by
  cases fences with
  | disconnecting held =>
      have known := numbered.channels _ _ (handedOut_held held)
      exact ⟨numbered.later rfl rfl rfl rfl (Nat.le_succ _), Nat.lt_succ_self _,
        Nat.lt_succ_of_lt known⟩
  | bindFailed waiting | revokeFailed waiting =>
      exact ⟨numbered, numbered.calls _ _ waiting⟩

theorem Effect.numbered {event : ChannelEvent} (effect : Effect plane event after)
    (numbered : Numbered plane) : Numbered after := by
  have next : Numbered { plane with started := plane.started + 1 } :=
    numbered.later rfl rfl rfl rfl (Nat.le_succ _)
  cases effect with
  | refused | redundant =>
      refine Numbered.answer ?_ (Nat.lt_succ_self plane.started) _
      exact numbered.later rfl rfl rfl rfl (Nat.le_succ _)
  | opening =>
      have fresh : plane.started < plane.started + 1 := Nat.lt_succ_self _
      apply Numbered.await _ fresh fresh
      apply Numbered.send _ fresh
      exact (next.withChannel fresh _).later rfl rfl rfl rfl (Nat.le_refl _)
  | bound held =>
      have known := Nat.lt_succ_of_lt (numbered.channels _ _ (handedOut_held held))
      apply Numbered.await _ (Nat.lt_succ_self plane.started) known
      apply Numbered.send _ known
      exact numbered.later rfl rfl rfl rfl (Nat.le_succ _)
  | revoked held =>
      have known := Nat.lt_succ_of_lt (numbered.channels _ _ (handedOut_held held))
      apply Numbered.await _ (Nat.lt_succ_self plane.started) known
      exact numbered.later rfl rfl rfl rfl (Nat.le_succ _)
  | fenceRefused fences fencing =>
      obtain ⟨base, given, known⟩ := fences.numbered numbered
      obtain ⟨middle, same⟩ := base.fencing known fencing
      exact middle.answer (same ▸ given) _
  | fenced fences fencing =>
      obtain ⟨base, given, known⟩ := fences.numbered numbered
      obtain ⟨middle, same⟩ := base.fencing known fencing
      apply Numbered.await _ (same ▸ given) (same ▸ known)
      exact middle.later rfl rfl rfl rfl (Nat.le_refl _)
  | openRefused waiting _ fencing =>
      obtain ⟨given, known⟩ := numbered.calls _ _ waiting
      obtain ⟨middle, same⟩ := numbered.fencing known fencing
      exact middle.answer (same ▸ given) _
  | openFailed waiting _ fencing =>
      obtain ⟨given, known⟩ := numbered.calls _ _ waiting
      obtain ⟨middle, same⟩ := numbered.fencing known fencing
      exact middle.await (same ▸ given) (same ▸ known) _
  | opened waiting held =>
      exact (numbered.withChannel (numbered.channels _ _ held) _).answer
        (numbered.calls _ _ waiting).1 _
  | finished waiting =>
      apply Numbered.answer
      · exact numbered.later rfl rfl rfl rfl (Nat.le_refl _)
      · exact (numbered.calls _ _ waiting).1
  | propagated waiting held =>
      have given := (numbered.calls _ _ waiting).1
      have known := numbered.channels _ _ held
      apply Numbered.await
      · apply Numbered.send
        · exact numbered.later rfl rfl rfl rfl (Nat.le_refl _)
        · exact known
      · exact given
      · exact known
  | hookReturned _ waiting =>
      obtain ⟨given, known⟩ := numbered.calls _ _ waiting
      exact numbered.await given known _
  | @delivered id _ _ sent =>
      refine ⟨numbered.calls, numbered.channels, ?_, numbered.answers⟩
      intro other wire found
      by_cases here : other = id
      · exact here ▸ numbered.wires id _ sent
      · exact numbered.wires other wire ((OrderedMap.get?_set_ne _ _ here).symm.trans found)

/-! ## The registry across a step -/

variable {result : Except HostedWorkerRegistryError (List HostedWorkerRouteLease)}
  {middle : ControlPlane}

theorem Fencing.registryChange {id : Nat} {channel : HostedWorkerControlChannel}
    (fencing : Fencing plane id channel (result, middle)) :
    ∃ outcome, HostedWorkerRegistry.Change plane.registry
      (.disconnect channel.registration.workerId channel.registration.generation
        channel.channelBinding) outcome middle.registry := by
  cases fencing with
  | idle => exact ⟨_, .refused .disconnected (.refl _)⟩
  | refused _ error same => exact ⟨_, .refused error same⟩
  | fenced _ change => exact ⟨_, change⟩

/-- The call of the registry that an event makes. -/
inductive Calls (plane : ControlPlane) (event : ChannelEvent) : RegistryOp → Prop where
  | bindIntervention {id : Nat} {request : ChannelBindRequest}
      {channel : HostedWorkerControlChannel} (same : event = .bindIntervention id request)
      (held : plane.handedOut id = some channel) (live : channel.closed = false) :
      Calls plane event (.bindIntervention (request.through channel))
  | register (request : HostedWorkerRegistrationRequest) : Calls plane event (.register request)
  | releaseIntervention (request : HostedWorkerRouteRequest) :
      Calls plane event (.releaseIntervention request)
  | disconnect (workerId : String) (generation : Int) (channelBinding : String) :
      Calls plane event (.disconnect workerId generation channelBinding)

/-- A step makes at most one change in the registry. -/
theorem Effect.registryChange {event : ChannelEvent} (effect : Effect plane event after) :
    ∃ op outcome, Calls plane event op ∧
      HostedWorkerRegistry.Change plane.registry op outcome after.registry := by
  have none' : ∀ {registry : HostedWorkerRegistry},
      HostedWorkerRegistry.SameMaps plane.registry registry → ∃ op outcome,
        Calls plane event op ∧ HostedWorkerRegistry.Change plane.registry op outcome registry :=
    fun same => ⟨_, _, .disconnect "" 0 "", .refused .invalidIdentity same⟩
  cases effect with
  | refused _ same => exact none' same
  | redundant | opened | finished | propagated | hookReturned | delivered => exact none' (.refl _)
  | opening change => exact ⟨_, _, .register _, change⟩
  | bound held live change => exact ⟨_, _, .bindIntervention rfl held live, change⟩
  | revoked _ _ _ _ _ change => exact ⟨_, _, .releaseIntervention _, change⟩
  | fenceRefused fences fencing | fenced fences fencing =>
      obtain ⟨started, rfl⟩ := fences.base_eq
      obtain ⟨outcome, change⟩ := fencing.registryChange
      exact ⟨_, _, .disconnect _ _ _, change⟩
  | openRefused _ _ fencing | openFailed _ _ fencing =>
      obtain ⟨outcome, change⟩ := fencing.registryChange
      exact ⟨_, _, .disconnect _ _ _, change⟩

theorem Effect.registryInvariant {event : ChannelEvent} (effect : Effect plane event after)
    (inv : plane.registry.Invariant) : after.registry.Invariant := by
  obtain ⟨op, outcome, _, change⟩ := effect.registryChange
  exact change.invariant inv

/-! ## Numbers and facts across a step -/

theorem Fencing.started {id : Nat} {channel : HostedWorkerControlChannel}
    (fencing : Fencing plane id channel (result, middle)) :
    middle.started = plane.started := by
  cases fencing <;> rfl

theorem Fences.started_le {event : ChannelEvent} {base : ControlPlane} {call id : Nat}
    {channel : HostedWorkerControlChannel} {reason : HostedWorkerRouteInvalidationReason}
    {ending : List HostedWorkerRouteLease → Ending}
    (fences : Fences plane event base call id channel reason ending) :
    plane.started ≤ base.started := by
  cases fences with
  | disconnecting => exact Nat.le_succ _
  | bindFailed | revokeFailed => exact Nat.le_refl _

/-- Numbers are given out in order. -/
theorem Effect.started_le {event : ChannelEvent} (effect : Effect plane event after) :
    plane.started ≤ after.started := by
  cases effect with
  | refused | redundant | opening | bound | revoked => exact Nat.le_succ _
  | opened | finished | propagated | hookReturned | delivered => exact Nat.le_refl _
  | openRefused _ _ fencing | openFailed _ _ fencing => exact Nat.le_of_eq fencing.started.symm
  | fenceRefused fences fencing | fenced fences fencing =>
      exact Nat.le_trans fences.started_le (Nat.le_of_eq fencing.started.symm)

theorem Fencing.log {id : Nat} {channel : HostedWorkerControlChannel}
    (fencing : Fencing plane id channel (result, middle)) :
    middle.log = plane.log := by
  cases fencing <;> rfl

/-- Facts are only added. -/
theorem Effect.log {event : ChannelEvent} (effect : Effect plane event after) :
    ∃ facts, after.log = facts ++ plane.log := by
  cases effect with
  | refused | redundant | opening | bound | opened | hookReturned | delivered => exact ⟨[], rfl⟩
  | @revoked id route channel =>
      exact ⟨notices id channel [route.toHostedWorkerRouteLease] .explicitRevoke ++
        [.released plane.started route.toHostedWorkerRouteLease], by simp⟩
  | fenceRefused fences fencing =>
      obtain ⟨started, rfl⟩ := fences.base_eq
      exact ⟨[], fencing.log⟩
  | fenced fences fencing =>
      obtain ⟨started, rfl⟩ := fences.base_eq
      exact ⟨_, congrArg _ fencing.log⟩
  | openRefused _ _ fencing | openFailed _ _ fencing => exact ⟨[], fencing.log⟩
  | finished | propagated => exact ⟨_, rfl⟩

theorem run_keeps_registry {first last : ControlPlane} {events : List ChannelEvent}
    (run : Run (Step clock) first events last) (inv : first.registry.Invariant) :
    last.registry.Invariant := by
  induction run with
  | refl => exact inv
  | step head _ ih => exact ih (head.effect.registryInvariant inv)

theorem run_keeps_numbers {first last : ControlPlane} {events : List ChannelEvent}
    (run : Run (Step clock) first events last) (numbered : Numbered first) : Numbered last := by
  induction run with
  | refl => exact numbered
  | step head _ ih => exact ih (head.effect.numbered numbered)

/-! ## A sample channel -/

def sampleBind : ChannelBindRequest := ⟨"intervention-1", 3, "principal-binding-a", []⟩

/-- A channel with one route. -/
def sampleBound : List ChannelEvent :=
  [.openChannel HostedWorkerRegistry.sampleWorker true, .settle 0 true, .bindIntervention 0 sampleBind,
    .settle 1 true]

def samplePlane (events : List ChannelEvent) : ControlPlane :=
  (execute (next HostedWorkerRegistry.sampleClock) initial events).getD initial

end ControlPlane

end ExecutionHandoff.Hosted
