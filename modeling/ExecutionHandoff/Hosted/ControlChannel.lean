import ExecutionHandoff.Hosted.HostedWorker

/-!
# Control channels of one registry

`HostedWorkerControlChannel`: every method runs at once up to its first await,
and each await that is answered is a step of its own.  A channel sends its
messages in order to the `HostedWorkerRouteGate` of its worker.  Channels and
calls are numbered in the order in which they start.
-/

namespace ExecutionHandoff.Hosted

open Library

inductive ControlBody where
  | registered
  | bind (interventionId : String) (epoch : Int)
  | revoke (interventionId : String) (epoch : Int)
  deriving DecidableEq

structure HostedWorkerControlMessage where
  version : Int
  workerGeneration : Int
  body : ControlBody
  deriving DecidableEq

/-! ## The worker's gate -/

structure WorkerRouteState where
  interventionId : String
  epoch : Int
  workerGeneration : Int
  deriving DecidableEq

/-- Every refusal of the gate has this one code. -/
structure HostedRouteGateError where
  message : String
  deriving DecidableEq

structure HostedWorkerRouteGate where
  workerGeneration : Option Int
  routes : OrderedMap String WorkerRouteState
  deriving DecidableEq

namespace HostedWorkerRouteGate

def initial : HostedWorkerRouteGate := ⟨none, OrderedMap.empty⟩

def applyControl (message : HostedWorkerControlMessage) :
    StateExcept HostedWorkerRouteGate HostedRouteGateError Unit := do
  StateExcept.require (message.version == 1) ⟨"Hosted worker control version is stale"⟩
  let gate ← StateExcept.read
  match message.body with
  | .registered =>
      StateExcept.require
        (isSafeInteger message.workerGeneration && decide (0 < message.workerGeneration))
        ⟨"Hosted worker generation is invalid"⟩
      StateExcept.require (gate.workerGeneration.all (· == message.workerGeneration))
        ⟨"Hosted worker generation changed on one channel"⟩
      StateExcept.update fun gate =>
        { gate with workerGeneration := some message.workerGeneration }
  | .bind interventionId epoch =>
      StateExcept.require (gate.workerGeneration == some message.workerGeneration)
        ⟨"Hosted worker control generation is stale"⟩
      StateExcept.require
        ((gate.routes.get? interventionId).all fun existing => decide (existing.epoch ≤ epoch))
        ⟨"Hosted worker route epoch is stale"⟩
      StateExcept.update fun gate =>
        { gate with
          routes := gate.routes.set interventionId
            ⟨interventionId, epoch, message.workerGeneration⟩ }
  | .revoke interventionId epoch =>
      StateExcept.require (gate.workerGeneration == some message.workerGeneration)
        ⟨"Hosted worker control generation is stale"⟩
      StateExcept.require
        ((gate.routes.get? interventionId).any fun existing =>
          existing.epoch == epoch && existing.workerGeneration == message.workerGeneration)
        ⟨"Hosted worker revoke route is stale"⟩
      StateExcept.update fun gate => { gate with routes := gate.routes.delete interventionId }

/-- The gate after a message it accepted or refused. -/
def receive (gate : HostedWorkerRouteGate) (message : HostedWorkerControlMessage) :
    HostedWorkerRouteGate :=
  (applyControl message gate).2

end HostedWorkerRouteGate

/-! ## Channels -/

inductive HostedWorkerRouteInvalidationReason where
  | bindDeliveryFailure
  | explicitRevoke
  | revokeDeliveryFailure
  | workerDisconnect
  deriving DecidableEq

inductive HostedWorkerChannelErrorCode where
  | unavailable
  | closed
  | revocationPropagationFailed
  deriving DecidableEq

inductive HostedWorkerChannelError where
  | registry (error : HostedWorkerRegistryError)
  | channel (code : HostedWorkerChannelErrorCode) (message : String)
  deriving DecidableEq

namespace HostedWorkerChannelError

def openFailed : HostedWorkerChannelError :=
  .channel .unavailable "Hosted worker control channel registration delivery failed"
def bindFailed : HostedWorkerChannelError :=
  .channel .unavailable "Hosted worker control bind delivery failed"
def revokeFailed : HostedWorkerChannelError :=
  .channel .unavailable "Hosted worker control revoke delivery failed"
def channelClosed : HostedWorkerChannelError :=
  .channel .closed "Hosted worker control channel is closed"
def propagationFailed : HostedWorkerChannelError :=
  .channel .revocationPropagationFailed "Hosted worker route invalidation propagation failed"
def foreignRoute : HostedWorkerChannelError :=
  .registry ⟨.staleGeneration, "Hosted worker route does not belong to this channel"⟩

end HostedWorkerChannelError

inductive ChannelReply where
  | channel (channel : Nat)
  | lease (lease : HostedWorkerRouteLease)
  | leases (leases : List HostedWorkerRouteLease)
  | done
  deriving DecidableEq

abbrev ChannelAnswer := Except HostedWorkerChannelError ChannelReply

/-- A channel object; `opened` once `open` has handed it out, `hooked` if it has the
`routesInvalidated` hook. -/
structure HostedWorkerControlChannel where
  registration : HostedWorkerRegistration
  channelBinding : String
  hooked : Bool
  closed : Bool
  opened : Bool
  deriving DecidableEq

/-- How a call that has fenced its channel ends, given whether the hook succeeded. -/
inductive Ending where
  | openFailed
  | bindFailed (propagationOk : Bool)
  | revokeFailed (propagationOk : Bool)
  | disconnected (revoked : List HostedWorkerRouteLease) (propagationOk : Bool)
  deriving DecidableEq

def Ending.answer : Ending → ChannelAnswer
  | .openFailed => .error .openFailed
  | .bindFailed propagationOk => .error (if propagationOk then .bindFailed else .propagationFailed)
  | .revokeFailed propagationOk =>
      .error (if propagationOk then .revokeFailed else .propagationFailed)
  | .disconnected revoked propagationOk =>
      if propagationOk then .ok (.leases revoked) else .error .propagationFailed

/-- What the invalidation hook of the fenced routes returned; `revokeIntervention` ignores it. -/
def Ending.hookReturned (succeeded : Bool) : Ending → Ending
  | .bindFailed _ => .bindFailed succeeded
  | .disconnected revoked _ => .disconnected revoked succeeded
  | ending => ending

/-- The await at which a call stands. -/
inductive ChannelStage where
  | opening
  | binding (lease : HostedWorkerRouteLease)
  | revoking (lease : HostedWorkerRouteLease)
  | sendingRevoke (lease : HostedWorkerRouteLease) (propagationOk : Bool)
  | invalidating (routes : List HostedWorkerRouteLease) (ending : Ending)
  | closing (ending : Ending)
  deriving DecidableEq

structure ChannelCall where
  channel : Nat
  stage : ChannelStage
  deriving DecidableEq

/-- What the world outside sees of the channels. -/
inductive ChannelFact where
  /-- The hook of the channel was called with the route. -/
  | invalidated (channel : Nat) (lease : HostedWorkerRouteLease)
      (reason : HostedWorkerRouteInvalidationReason)
  /-- `revokeIntervention` released the route. -/
  | released (call : Nat) (lease : HostedWorkerRouteLease)
  /-- The hook awaited by `revokeIntervention` succeeded, or there is none. -/
  | propagated (call : Nat)
  /-- The send of the revoke message succeeded. -/
  | delivered (call : Nat)
  deriving DecidableEq

structure ControlPlane where
  registry : HostedWorkerRegistry
  channels : OrderedMap Nat HostedWorkerControlChannel
  calls : OrderedMap Nat ChannelCall
  answers : OrderedMap Nat ChannelAnswer
  /-- Messages sent and not yet delivered, oldest first. -/
  wires : OrderedMap Nat (List HostedWorkerControlMessage)
  gates : OrderedMap Nat HostedWorkerRouteGate
  /-- The channels through which the latest route of an intervention was bound. -/
  binders : OrderedMap String (List Nat)
  /-- Newest first. -/
  log : List ChannelFact
  started : Nat
  deriving DecidableEq

/-- `Omit<HostedWorkerRouteRequest, "workerId" | "workerGeneration">`. -/
structure ChannelBindRequest where
  interventionId : String
  epoch : Int
  principalBinding : String
  undeclared : List String
  deriving DecidableEq

/-- The request with the identity of the channel. -/
def ChannelBindRequest.through (request : ChannelBindRequest)
    (channel : HostedWorkerControlChannel) : HostedWorkerRouteRequest where
  interventionId := request.interventionId
  epoch := request.epoch
  principalBinding := request.principalBinding
  workerId := channel.registration.workerId
  workerGeneration := channel.registration.generation
  undeclared := request.undeclared

namespace ControlPlane

variable (clock : Nat → Int) (plane : ControlPlane)

def initial : ControlPlane where
  registry := .initial
  channels := .empty
  calls := .empty
  answers := .empty
  wires := .empty
  gates := .empty
  binders := .empty
  log := []
  started := 0

def answer (call : Nat) (result : ChannelAnswer) : ControlPlane :=
  { plane with calls := plane.calls.delete call, answers := plane.answers.set call result }

def await (call channel : Nat) (stage : ChannelStage) : ControlPlane :=
  { plane with calls := plane.calls.set call ⟨channel, stage⟩ }

def record (fact : ChannelFact) : ControlPlane := { plane with log := fact :: plane.log }

/-- `peer.send`. -/
def send (id : Nat) (channel : HostedWorkerControlChannel) (body : ControlBody) : ControlPlane :=
  { plane with
    wires := plane.wires.set id
      ((plane.wires.get? id).getD [] ++ [⟨1, channel.registration.generation, body⟩]) }

/-- The synchronous part of `#notifyInvalidated`: the hook is called. -/
def notifyInvalidated (id : Nat) (channel : HostedWorkerControlChannel)
    (routes : List HostedWorkerRouteLease) (reason : HostedWorkerRouteInvalidationReason) :
    ControlPlane :=
  if channel.hooked then
    { plane with log := (routes.map fun route => .invalidated id route reason) ++ plane.log }
  else
    plane

/-- The value of the awaited `#notifyInvalidated`. -/
def hookSucceeded (channel : HostedWorkerControlChannel) (routes : List HostedWorkerRouteLease)
    (succeeded : Bool) : Bool :=
  succeeded || routes.isEmpty || !channel.hooked

def fenceLocal (id : Nat) (channel : HostedWorkerControlChannel) :
    Except HostedWorkerRegistryError (List HostedWorkerRouteLease) × ControlPlane :=
  if channel.closed then
    (.ok [], plane)
  else
    let outcome := HostedWorkerRegistry.disconnect channel.registration.workerId
      channel.registration.generation channel.channelBinding plane.registry
    (outcome.1,
      { plane with
        registry := outcome.2
        channels := plane.channels.set id { channel with closed := true } })

/-- Fence the channel for a call and call the hook with the routes that were fenced. -/
def fenceAndNotify (call id : Nat) (channel : HostedWorkerControlChannel)
    (reason : HostedWorkerRouteInvalidationReason)
    (ending : List HostedWorkerRouteLease → Ending) : ControlPlane :=
  match plane.fenceLocal id channel with
  | (.error error, after) => after.answer call (.error (.registry error))
  | (.ok routes, after) =>
      (after.notifyInvalidated id channel routes reason).await call id
        (.invalidating routes (ending routes))

/-- `open` up to its first await. -/
def openChannel (authenticated : HostedWorkerRegistrationRequest) (hooked : Bool) : ControlPlane :=
  let id := plane.started
  let outcome := HostedWorkerRegistry.register clock authenticated plane.registry
  let after := { plane with registry := outcome.2, started := plane.started + 1 }
  match outcome.1 with
  | .error error => after.answer id (.error (.registry error))
  | .ok registration =>
      let channel : HostedWorkerControlChannel :=
        ⟨registration, authenticated.channelBinding, hooked, false, false⟩
      ({ after with
        channels := after.channels.set id channel
        gates := after.gates.set id .initial }.send id channel .registered).await id id .opening

/-- The channel binds an intervention: a route it shares with other channels gains a binder. -/
def bound (id : Nat) (lease : HostedWorkerRouteLease) : ControlPlane :=
  let shared :=
    if plane.registry.current lease then
      (plane.binders.get? lease.interventionId).getD []
    else
      []
  { plane with binders := plane.binders.set lease.interventionId (id :: shared.filter (· ≠ id)) }

def bindIntervention (id : Nat) (channel : HostedWorkerControlChannel)
    (request : ChannelBindRequest) : ControlPlane :=
  let call := plane.started
  let started := { plane with started := plane.started + 1 }
  if channel.closed then
    started.answer call (.error .channelClosed)
  else
    match HostedWorkerRegistry.bindIntervention (request.through channel) plane.registry with
    | (.error error, registry) =>
        { started with registry }.answer call (.error (.registry error))
    | (.ok lease, registry) =>
        let binders := (plane.bound id lease).binders
        ({ started with registry, binders }.send id channel
          (.bind lease.interventionId lease.epoch)).await call id (.binding lease)

/-- The test of the channel's `assertCurrent`. -/
def assertCurrent (channel : HostedWorkerControlChannel) (route : HostedWorkerRouteRequest) :
    Except HostedWorkerChannelError Unit :=
  if channel.closed then
    .error .channelClosed
  else
    match (HostedWorkerRegistry.assertCurrent route plane.registry).1 with
    | .error error => .error (.registry error)
    | .ok () =>
        if route.workerId == channel.registration.workerId
            && route.workerGeneration == channel.registration.generation then
          .ok ()
        else
          .error .foreignRoute

/-- `revokeIntervention` up to its first await. -/
def revokeIntervention (id : Nat) (channel : HostedWorkerControlChannel)
    (route : HostedWorkerRouteRequest) : ControlPlane :=
  let call := plane.started
  let started := { plane with started := plane.started + 1 }
  match plane.assertCurrent channel route with
  | .error error => started.answer call (.error error)
  | .ok () =>
      match HostedWorkerRegistry.releaseIntervention route plane.registry with
      | (.error error, registry) =>
          { started with registry }.answer call (.error (.registry error))
      | (.ok (), registry) =>
          let lease := route.toHostedWorkerRouteLease
          (({ started with registry }.record (.released call lease)).notifyInvalidated id channel
            [lease] .explicitRevoke).await call id (.revoking lease)

/-- `disconnect` up to its first await. -/
def disconnect (id : Nat) (channel : HostedWorkerControlChannel) : ControlPlane :=
  let call := plane.started
  let started := { plane with started := plane.started + 1 }
  if channel.closed then
    started.answer call (.ok (.leases []))
  else
    started.fenceAndNotify call id channel .workerDisconnect fun routes =>
      .disconnected routes true

/-- A call goes on from its await, which succeeded or failed. -/
def settle (call : Nat) (pending : ChannelCall) (channel : HostedWorkerControlChannel)
    (succeeded : Bool) : ControlPlane :=
  let id := pending.channel
  match pending.stage, succeeded with
  | .opening, true =>
      { plane with channels := plane.channels.set id { channel with opened := true } }.answer call
        (.ok (.channel id))
  | .opening, false =>
      match plane.fenceLocal id channel with
      | (.error error, after) => after.answer call (.error (.registry error))
      | (.ok _, after) => after.await call id (.closing .openFailed)
  | .binding lease, true => plane.answer call (.ok (.lease lease))
  | .binding _, false =>
      plane.fenceAndNotify call id channel .bindDeliveryFailure fun _ => .bindFailed true
  | .revoking lease, succeeded =>
      let propagationOk := hookSucceeded channel [lease] succeeded
      let after := if propagationOk then plane.record (.propagated call) else plane
      (after.send id channel (.revoke lease.interventionId lease.epoch)).await call id
        (.sendingRevoke lease propagationOk)
  | .sendingRevoke _ propagationOk, true =>
      (plane.record (.delivered call)).answer call
        (if propagationOk then .ok .done else .error .propagationFailed)
  | .sendingRevoke _ propagationOk, false =>
      plane.fenceAndNotify call id channel .revokeDeliveryFailure fun _ =>
        .revokeFailed propagationOk
  | .invalidating routes ending, succeeded =>
      plane.await call id
        (.closing (ending.hookReturned (hookSucceeded channel routes succeeded)))
  | .closing ending, _ => plane.answer call ending.answer

/-- The worker receives the oldest message of its channel. -/
def deliver (id : Nat) (message : HostedWorkerControlMessage)
    (rest : List HostedWorkerControlMessage) : ControlPlane :=
  { plane with
    wires := plane.wires.set id rest
    gates := plane.gates.set id
      (((plane.gates.get? id).getD .initial).receive message) }

end ControlPlane

/-! ## Runs -/

inductive ChannelEvent where
  | openChannel (authenticated : HostedWorkerRegistrationRequest) (hooked : Bool)
  | bindIntervention (channel : Nat) (request : ChannelBindRequest)
  | revokeIntervention (channel : Nat) (route : HostedWorkerRouteRequest)
  | disconnect (channel : Nat)
  | settle (call : Nat) (succeeded : Bool)
  | deliver (channel : Nat)
  deriving DecidableEq

namespace ControlPlane

/-- A channel that `open` has handed out. -/
def handedOut (plane : ControlPlane) (id : Nat) : Option HostedWorkerControlChannel :=
  (plane.channels.get? id).filter (·.opened)

/-- One event, if it can happen. -/
def next (clock : Nat → Int) (plane : ControlPlane) : ChannelEvent → Option ControlPlane
  | .openChannel authenticated hooked => some (plane.openChannel clock authenticated hooked)
  | .bindIntervention id request =>
      (plane.handedOut id).map fun channel => plane.bindIntervention id channel request
  | .revokeIntervention id route =>
      (plane.handedOut id).map fun channel => plane.revokeIntervention id channel route
  | .disconnect id => (plane.handedOut id).map fun channel => plane.disconnect id channel
  | .settle call succeeded =>
      (plane.calls.get? call).bind fun pending =>
        (plane.channels.get? pending.channel).map fun channel =>
          plane.settle call pending channel succeeded
  | .deliver id =>
      match plane.wires.get? id with
      | some (message :: rest) => some (plane.deliver id message rest)
      | _ => none

abbrev Step (clock : Nat → Int) : ControlPlane → ChannelEvent → ControlPlane → Prop :=
  StepOf (next clock)

end ControlPlane

end ExecutionHandoff.Hosted
