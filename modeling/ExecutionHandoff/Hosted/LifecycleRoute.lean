import ExecutionHandoff.Core.Lifecycle
import ExecutionHandoff.Hosted.ControlChannel

/-!
# Termination of a hosted intervention

`HostedInterventionRouteLifecycle`: Done, Cancel and the expiry of the operator
session revoke the hosted route through the channel and then advance the
hand-off state.  A call runs at once up to the await of its revocation; what
follows the await is a step of its own, taken once the revocation has an answer.
-/

namespace ExecutionHandoff.Hosted

open Library Core

inductive HostedLifecycleRouteErrorCode where
  | mismatch
  | notHumanActive
  | sessionNotExpired
  deriving DecidableEq

structure HostedLifecycleRouteError where
  code : HostedLifecycleRouteErrorCode
  message : String
  deriving DecidableEq

namespace HostedLifecycleRouteError

def noIntervention : HostedLifecycleRouteError :=
  ⟨.mismatch, "Hosted lifecycle has no active intervention"⟩
def otherRoute : HostedLifecycleRouteError :=
  ⟨.mismatch, "Hosted lifecycle does not match the bound intervention route"⟩
def notHumanActive : HostedLifecycleRouteError :=
  ⟨.notHumanActive, "Hosted lifecycle termination requires active Human authority"⟩
def notExpired : HostedLifecycleRouteError :=
  ⟨.sessionNotExpired, "Hosted operator session has not expired"⟩

end HostedLifecycleRouteError

structure HostedOperatorSessionReference where
  interventionId : String
  epoch : Int
  principalBinding : String
  expiresAt : Int
  deriving DecidableEq

structure HostedOperatorRouteBinding where
  operator : HostedOperatorSessionReference
  worker : HostedWorkerRouteLease
  deriving DecidableEq

/-- The constructor's parameters: the hand-off state it drives, the number of its channel, the
binding and its clock. -/
structure HostedInterventionRouteLifecycle where
  handoff : HandoffConfig
  channel : Nat
  binding : HostedOperatorRouteBinding
  now : Nat → Int

inductive HostedTermination where
  | markHumanDone
  | cancelHuman
  | expireOperatorSession
  deriving DecidableEq

inductive TerminationError where
  | route (error : HostedLifecycleRouteError)
  | channel (error : HostedWorkerChannelError)
  | handoff (error : ExecutionHandoffError)
  deriving DecidableEq

/-- A call at the await of its revocation, which has a number among the calls of the channels. -/
structure PendingTermination where
  kind : HostedTermination
  interventionId : String
  revocation : Nat
  deriving DecidableEq

variable {TAction TReason : Type}

/-- The control plane, the hand-off state, and the calls of the lifecycle. -/
structure HostedSystem (TAction TReason : Type) where
  plane : ControlPlane
  state : ExecutionHandoffState TAction TReason
  pending : OrderedMap Nat PendingTermination
  results : OrderedMap Nat (Except TerminationError (HandoffReply TAction TReason))
  calls : Nat
  reads : Nat
  deriving DecidableEq

namespace HostedInterventionRouteLifecycle

variable (lifecycle : HostedInterventionRouteLifecycle) (system : HostedSystem TAction TReason)

def requireHumanActive (state : ExecutionHandoffState TAction TReason) :
    Except HostedLifecycleRouteError (ExecutionIntervention TAction TReason) :=
  match state.active with
  | none => .error .noIntervention
  | some active =>
      if active.id ≠ lifecycle.binding.worker.interventionId
          ∨ active.epoch ≠ lifecycle.binding.worker.epoch
          ∨ lifecycle.binding.operator.interventionId ≠ active.id
          ∨ lifecycle.binding.operator.epoch ≠ active.epoch
          ∨ lifecycle.binding.operator.principalBinding ≠
            lifecycle.binding.worker.principalBinding then
        .error .otherRoute
      else if active.status ≠ .humanActive then
        .error .notHumanActive
      else
        .ok active

/-- The call has its result. -/
def finish (call : Nat) (result : Except TerminationError (HandoffReply TAction TReason)) :
    HostedSystem TAction TReason :=
  { system with pending := system.pending.delete call, results := system.results.set call result }

/-- `await this.channel.revokeIntervention(this.binding.worker)`. -/
def revoke (call : Nat) (kind : HostedTermination) (interventionId : String)
    (channel : HostedWorkerControlChannel) : HostedSystem TAction TReason :=
  { system with
    plane := system.plane.revokeIntervention lifecycle.channel channel
      lifecycle.binding.worker.request
    pending := system.pending.set call ⟨kind, interventionId, system.plane.started⟩ }

/-- One of the three calls, up to its await. -/
def terminate (kind : HostedTermination) (channel : HostedWorkerControlChannel) :
    HostedSystem TAction TReason :=
  let call := system.calls
  let started := { system with calls := system.calls + 1 }
  match lifecycle.requireHumanActive system.state with
  | .error error => finish started call (.error (.route error))
  | .ok active =>
      match kind with
      | .expireOperatorSession =>
          let now := lifecycle.now system.reads
          let read := { started with reads := system.reads + 1 }
          if isSafeInteger now = false ∨ now < lifecycle.binding.operator.expiresAt then
            finish read call (.error (.route .notExpired))
          else
            lifecycle.revoke read call kind active.id channel
      | _ => lifecycle.revoke started call kind active.id channel

/-- The call of the hand-off state that follows the revocation. -/
def advance (pending : PendingTermination) : HandoffOp TAction TReason :=
  match pending.kind with
  | .cancelHuman => .cancel pending.interventionId
  | .markHumanDone | .expireOperatorSession => .markHumanComplete pending.interventionId

/-- What follows the await, given the answer of the revocation. -/
def resume (call : Nat) (pending : PendingTermination) (answer : ChannelAnswer) :
    HostedSystem TAction TReason :=
  match answer with
  | .error error => finish system call (.error (.channel error))
  | .ok _ =>
      let outcome := ExecutionHandoffState.perform lifecycle.handoff (advance pending) system.state
      finish { system with state := outcome.2 } call (outcome.1.mapError .handoff)

end HostedInterventionRouteLifecycle

/-! ## Runs -/

inductive LifecycleEvent (TAction TReason : Type) where
  | terminate (kind : HostedTermination)
  | resume (call : Nat)
  /-- Anything else that happens on the control plane. -/
  | channel (event : ChannelEvent)
  /-- A call of the hand-off state by someone else. -/
  | handoff (op : HandoffOp TAction TReason)
  deriving DecidableEq

namespace HostedInterventionRouteLifecycle

variable (clock : Nat → Int) (lifecycle : HostedInterventionRouteLifecycle)

/-- One event, if it can happen. -/
def next (system : HostedSystem TAction TReason) :
    LifecycleEvent TAction TReason → Option (HostedSystem TAction TReason)
  | .terminate kind =>
      (system.plane.handedOut lifecycle.channel).map fun channel =>
        lifecycle.terminate system kind channel
  | .resume call =>
      (system.pending.get? call).bind fun pending =>
        (system.plane.answers.get? pending.revocation).map fun answer =>
          lifecycle.resume system call pending answer
  | .channel event =>
      (ControlPlane.next clock system.plane event).map fun plane => { system with plane }
  | .handoff op =>
      some { system with
        state := (ExecutionHandoffState.perform lifecycle.handoff op system.state).2 }

abbrev Step : HostedSystem TAction TReason → LifecycleEvent TAction TReason →
    HostedSystem TAction TReason → Prop :=
  StepOf (lifecycle.next clock)

end HostedInterventionRouteLifecycle

end ExecutionHandoff.Hosted
