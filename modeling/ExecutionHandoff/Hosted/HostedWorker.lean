import ExecutionHandoff.Library.OrderedMap
import ExecutionHandoff.Library.Runs
import ExecutionHandoff.Library.StateExcept
import ExecutionHandoff.Library.Text

/-!
# The hosted worker registry

`HostedWorkerRegistry`: connected workers, the principal and the last generation
of every worker identity ever seen, and one route per intervention that stays
as a tombstone once it is inactive.  A request carries the names of the keys it
has beyond the declared ones; a value that is no such object is refused with the
same error as one with an undeclared key.
-/

namespace ExecutionHandoff.Hosted

open Library

inductive HostedWorkerErrorCode where
  | invalid
  | identityConflict
  | alreadyConnected
  | notConnected
  | staleGeneration
  | principalMismatch
  | routeConflict
  | routeNotFound
  deriving DecidableEq

structure HostedWorkerRegistryError where
  code : HostedWorkerErrorCode
  message : String
  deriving DecidableEq

namespace HostedWorkerRegistryError

def invalidRegistration : HostedWorkerRegistryError :=
  ⟨.invalid, "Invalid hosted worker registration"⟩
def invalidRoute : HostedWorkerRegistryError := ⟨.invalid, "Invalid hosted worker route"⟩
def invalidIdentity : HostedWorkerRegistryError := ⟨.invalid, "Invalid hosted worker identity"⟩
def exhausted : HostedWorkerRegistryError := ⟨.invalid, "Hosted worker generation exhausted"⟩
def invalidTime : HostedWorkerRegistryError := ⟨.invalid, "Invalid hosted worker registration time"⟩
def pinned : HostedWorkerRegistryError :=
  ⟨.identityConflict, "Hosted worker identity is already bound to another principal"⟩
def connected : HostedWorkerRegistryError :=
  ⟨.alreadyConnected, "Hosted worker already has an active authenticated channel"⟩
def disconnected : HostedWorkerRegistryError :=
  ⟨.notConnected, "Hosted worker is not connected"⟩
def staleDisconnect : HostedWorkerRegistryError :=
  ⟨.staleGeneration, "Hosted worker disconnect generation is stale"⟩
def staleChannel : HostedWorkerRegistryError :=
  ⟨.staleGeneration, "Hosted worker disconnect channel is stale"⟩
def staleBind : HostedWorkerRegistryError :=
  ⟨.staleGeneration, "Hosted worker route generation is stale"⟩
def otherPrincipal : HostedWorkerRegistryError :=
  ⟨.principalMismatch, "Hosted worker route principal does not match authenticated worker"⟩
def moved : HostedWorkerRegistryError :=
  ⟨.routeConflict, "Hosted worker route cannot move to another principal or worker identity"⟩
def staleEpoch : HostedWorkerRegistryError :=
  ⟨.routeConflict, "Hosted worker route epoch is stale"⟩
def generationActive : HostedWorkerRegistryError :=
  ⟨.routeConflict, "Hosted worker route already has an active generation"⟩
def notCurrent : HostedWorkerRegistryError :=
  ⟨.staleGeneration, "Hosted worker route is no longer current"⟩
def notActive : HostedWorkerRegistryError :=
  ⟨.routeNotFound, "Hosted worker route is not active"⟩
def staleRelease : HostedWorkerRegistryError :=
  ⟨.staleGeneration, "Hosted worker route release is stale"⟩

end HostedWorkerRegistryError

structure HostedWorkerRegistrationRequest where
  workerId : String
  principalBinding : String
  channelBinding : String
  undeclared : List String
  deriving DecidableEq

structure HostedWorkerRegistration where
  workerId : String
  principalBinding : String
  generation : Int
  registeredAt : Int
  deriving DecidableEq

structure HostedWorkerRouteLease where
  interventionId : String
  epoch : Int
  principalBinding : String
  workerId : String
  workerGeneration : Int
  deriving DecidableEq

structure HostedWorkerRouteRequest extends HostedWorkerRouteLease where
  undeclared : List String
  deriving DecidableEq

/-- A lease presented as a request. -/
def HostedWorkerRouteLease.request (lease : HostedWorkerRouteLease) : HostedWorkerRouteRequest :=
  { lease with undeclared := [] }

structure ActiveWorker where
  registration : HostedWorkerRegistration
  channelBinding : String
  deriving DecidableEq

structure RouteHistory extends HostedWorkerRouteLease where
  active : Bool
  deriving DecidableEq

def publicRoute (route : RouteHistory) : HostedWorkerRouteLease := route.toHostedWorkerRouteLease

def boundedString (value : String) (min max : Nat) : Bool :=
  decide (min ≤ codeUnits value) && decide (codeUnits value ≤ max)
    && !containsAny ['\x00', '\r', '\n'] value

/-- The request passes `parseRegistrationRequest`. -/
def HostedWorkerRegistrationRequest.wellFormed (request : HostedWorkerRegistrationRequest) : Bool :=
  request.undeclared.isEmpty && boundedString request.workerId 1 160
    && boundedString request.principalBinding 16 160 && boundedString request.channelBinding 16 160

/-- The request passes `parseRouteRequest`. -/
def HostedWorkerRouteRequest.wellFormed (request : HostedWorkerRouteRequest) : Bool :=
  request.undeclared.isEmpty && boundedString request.interventionId 1 160
    && isSafeInteger request.epoch && decide (0 ≤ request.epoch)
    && boundedString request.principalBinding 16 160 && boundedString request.workerId 1 160
    && isSafeInteger request.workerGeneration && decide (0 < request.workerGeneration)

/-- `Number.MAX_SAFE_INTEGER`. -/
def maxSafeInteger : Int := 9007199254740991

structure HostedWorkerRegistry where
  activeWorkers : OrderedMap String ActiveWorker
  workerPrincipals : OrderedMap String String
  workerGenerations : OrderedMap String Int
  routes : OrderedMap String RouteHistory
  reads : Nat
  deriving DecidableEq

abbrev RegistryM (α : Type) := StateExcept HostedWorkerRegistry HostedWorkerRegistryError α

namespace HostedWorkerRegistry

variable (clock : Nat → Int)

def initial : HostedWorkerRegistry :=
  ⟨OrderedMap.empty, OrderedMap.empty, OrderedMap.empty, OrderedMap.empty, 0⟩

def now : RegistryM Int := do
  let registry ← StateExcept.read
  StateExcept.update fun registry => { registry with reads := registry.reads + 1 }
  return clock registry.reads

def parseRegistrationRequest (request : HostedWorkerRegistrationRequest) : RegistryM Unit :=
  StateExcept.require request.wellFormed .invalidRegistration

def parseRouteRequest (request : HostedWorkerRouteRequest) : RegistryM HostedWorkerRouteLease := do
  StateExcept.require request.wellFormed .invalidRoute
  return request.toHostedWorkerRouteLease

def putRoute (interventionId : String) (route : RouteHistory) : RegistryM Unit :=
  StateExcept.update fun registry =>
    { registry with routes := registry.routes.set interventionId route }

def requireWorker (workerId : String) : RegistryM ActiveWorker := do
  StateExcept.require (boundedString workerId 1 160) .invalidIdentity
  match (← StateExcept.read).activeWorkers.get? workerId with
  | none => StateExcept.throwing .disconnected
  | some active => return active

/-- `register` of a worker without an active channel, after its checks. -/
def registerFresh (request : HostedWorkerRegistrationRequest) : RegistryM HostedWorkerRegistration := do
  let previousGeneration := ((← StateExcept.read).workerGenerations.get? request.workerId).getD 0
  StateExcept.require
    (isSafeInteger previousGeneration && decide (previousGeneration < maxSafeInteger)) .exhausted
  let registeredAt ← now clock
  StateExcept.require (isSafeInteger registeredAt && decide (0 ≤ registeredAt)) .invalidTime
  let registration : HostedWorkerRegistration :=
    { workerId := request.workerId, principalBinding := request.principalBinding,
      generation := previousGeneration + 1, registeredAt }
  StateExcept.update fun registry =>
    { registry with
      workerPrincipals := registry.workerPrincipals.set request.workerId request.principalBinding
      workerGenerations := registry.workerGenerations.set request.workerId registration.generation
      activeWorkers := registry.activeWorkers.set request.workerId
        ⟨registration, request.channelBinding⟩ }
  return registration

def register (request : HostedWorkerRegistrationRequest) : RegistryM HostedWorkerRegistration := do
  parseRegistrationRequest request
  let registry ← StateExcept.read
  StateExcept.require
    ((registry.workerPrincipals.get? request.workerId).all (· == request.principalBinding)) .pinned
  match registry.activeWorkers.get? request.workerId with
  | some active =>
      StateExcept.require
        (active.registration.principalBinding == request.principalBinding
          && active.channelBinding == request.channelBinding)
        .connected
      return active.registration
  | none => registerFresh clock request

def get (workerId : String) (registry : HostedWorkerRegistry) : Option HostedWorkerRegistration :=
  if boundedString workerId 1 160 then
    (registry.activeWorkers.get? workerId).map (·.registration)
  else
    none

/-- The route is active on the given generation of the worker. -/
def routedOn (workerId : String) (generation : Int) (route : RouteHistory) : Bool :=
  route.active && route.workerId == workerId && route.workerGeneration == generation

def invalidate (workerId : String) (generation : Int) (route : RouteHistory) : RouteHistory :=
  if routedOn workerId generation route then { route with active := false } else route

def disconnect (workerId : String) (generation : Int) (channelBinding : String) :
    RegistryM (List HostedWorkerRouteLease) := do
  let active ← requireWorker workerId
  StateExcept.require
    (isSafeInteger generation && decide (0 < generation)
      && active.registration.generation == generation)
    .staleDisconnect
  StateExcept.require
    (boundedString channelBinding 16 160 && active.channelBinding == channelBinding) .staleChannel
  let routes := (← StateExcept.read).routes
  StateExcept.update fun registry =>
    { registry with
      activeWorkers := registry.activeWorkers.delete workerId
      routes := registry.routes.mapValues (invalidate workerId generation) }
  return (routes.values.filter (routedOn workerId generation)).map publicRoute

def bindIntervention (request : HostedWorkerRouteRequest) : RegistryM HostedWorkerRouteLease := do
  let parsed ← parseRouteRequest request
  let worker ← requireWorker parsed.workerId
  StateExcept.require (worker.registration.generation == parsed.workerGeneration) .staleBind
  StateExcept.require (worker.registration.principalBinding == parsed.principalBinding)
    .otherPrincipal
  match (← StateExcept.read).routes.get? parsed.interventionId with
  | none =>
      putRoute parsed.interventionId { parsed with active := true }
      return parsed
  | some existing =>
      StateExcept.require
        (existing.principalBinding == parsed.principalBinding
          && existing.workerId == parsed.workerId)
        .moved
      StateExcept.require (decide (existing.epoch ≤ parsed.epoch)) .staleEpoch
      if existing.epoch = parsed.epoch ∧ existing.active = true then
        StateExcept.require (existing.workerGeneration == parsed.workerGeneration)
          .generationActive
        return publicRoute existing
      else
        let rebound :=
          { existing with
            epoch := parsed.epoch, workerGeneration := parsed.workerGeneration, active := true }
        putRoute parsed.interventionId rebound
        return publicRoute rebound

/-- The test of `assertCurrent`. -/
def current (lease : HostedWorkerRouteLease) (registry : HostedWorkerRegistry) : Bool :=
  ((registry.activeWorkers.get? lease.workerId).any fun worker =>
      worker.registration.generation == lease.workerGeneration
        && worker.registration.principalBinding == lease.principalBinding)
    && (registry.routes.get? lease.interventionId).any fun route =>
      route.active && route.epoch == lease.epoch
        && route.principalBinding == lease.principalBinding
        && route.workerId == lease.workerId && route.workerGeneration == lease.workerGeneration

def assertCurrent (request : HostedWorkerRouteRequest) : RegistryM Unit := do
  let parsed ← parseRouteRequest request
  StateExcept.require ((← StateExcept.read).current parsed) .notCurrent

def releaseIntervention (request : HostedWorkerRouteRequest) : RegistryM Unit := do
  let parsed ← parseRouteRequest request
  match (← StateExcept.read).routes.get? parsed.interventionId with
  | none => StateExcept.throwing .notActive
  | some current =>
      StateExcept.require current.active .notActive
      StateExcept.require
        (current.epoch == parsed.epoch && current.principalBinding == parsed.principalBinding
          && current.workerId == parsed.workerId
          && current.workerGeneration == parsed.workerGeneration)
        .staleRelease
      putRoute parsed.interventionId { current with active := false }

end HostedWorkerRegistry

/-! ## Operations and runs -/

inductive RegistryOp where
  | register (request : HostedWorkerRegistrationRequest)
  | disconnect (workerId : String) (generation : Int) (channelBinding : String)
  | bindIntervention (request : HostedWorkerRouteRequest)
  | assertCurrent (request : HostedWorkerRouteRequest)
  | releaseIntervention (request : HostedWorkerRouteRequest)
  deriving DecidableEq

inductive RegistryReply where
  | registration (registration : HostedWorkerRegistration)
  | leases (leases : List HostedWorkerRouteLease)
  | lease (lease : HostedWorkerRouteLease)
  | done
  deriving DecidableEq

/-- A request with the outcome it had. -/
abbrev RegistryCall := RegistryOp × Except HostedWorkerRegistryError RegistryReply

namespace HostedWorkerRegistry

variable (clock : Nat → Int)

def perform : RegistryOp → RegistryM RegistryReply
  | .register request => do return .registration (← register clock request)
  | .disconnect workerId generation channelBinding => do
      return .leases (← disconnect workerId generation channelBinding)
  | .bindIntervention request => do return .lease (← bindIntervention request)
  | .assertCurrent request => do
      assertCurrent request
      return .done
  | .releaseIntervention request => do
      releaseIntervention request
      return .done

/-- One call with its outcome. -/
def RegistryStep (first : HostedWorkerRegistry) (call : RegistryCall)
    (last : HostedWorkerRegistry) : Prop :=
  CallStep (perform clock) first call last

instance (first : HostedWorkerRegistry) (call : RegistryCall) (last : HostedWorkerRegistry) :
    Decidable (RegistryStep clock first call last) :=
  inferInstanceAs (Decidable (perform clock call.1 first = (call.2, last)))

abbrev RegistryRun : HostedWorkerRegistry → List RegistryCall → HostedWorkerRegistry → Prop :=
  Run (RegistryStep clock)

end HostedWorkerRegistry

end ExecutionHandoff.Hosted
