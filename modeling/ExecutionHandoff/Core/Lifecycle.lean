import ExecutionHandoff.Library.Runs
import ExecutionHandoff.Library.StateExcept

/-!
# The hand-off state machine

`ExecutionHandoffState`: the resource epoch and the intervention in progress.
The clock and the id generator are streams; the state records how often each of
them ran.  Methods that throw throw before they write.
-/

namespace ExecutionHandoff.Core

open Library

inductive ResumePolicy where
  | replaySafe
  | revalidate
  | confirmBeforeExecute
  | neverReplay
  deriving DecidableEq

inductive ExecutionAuthority where
  | agent
  | human
  | none
  deriving DecidableEq

inductive InterventionStatus where
  | awaitingHuman
  | humanActive
  | verifying
  | readyToResume
  deriving DecidableEq

/-- The status as it is printed in errors. -/
def InterventionStatus.text : InterventionStatus → String
  | .awaitingHuman => "awaiting_human"
  | .humanActive => "human_active"
  | .verifying => "verifying"
  | .readyToResume => "ready_to_resume"

/-- An intervention never holds the agent's authority. -/
inductive InterventionAuthority where
  | human
  | none
  deriving DecidableEq

structure ExecutionIntervention (TAction TReason : Type) where
  id : String
  reason : TReason
  status : InterventionStatus
  authority : InterventionAuthority
  epoch : Nat
  action : Option TAction
  resumePolicy : ResumePolicy
  createdAt : Int
  updatedAt : Int
  deriving DecidableEq

structure ResumeDecision (TAction : Type) where
  action : Option TAction
  resumePolicy : ResumePolicy
  epoch : Nat
  deriving DecidableEq

inductive HandoffErrorCode where
  | interventionNotFound
  | interventionStateChanged
  | agentAuthoritySuspended
  deriving DecidableEq

structure ExecutionHandoffError where
  code : HandoffErrorCode
  message : String
  deriving DecidableEq

namespace ExecutionHandoffError

def noLongerActive : ExecutionHandoffError :=
  ⟨.interventionNotFound, "The intervention is no longer active"⟩

def stateChanged (id : String) (status : InterventionStatus) (expected : String) :
    ExecutionHandoffError :=
  ⟨.interventionStateChanged,
    "Intervention " ++ id ++ " is " ++ status.text ++ "; expected " ++ expected⟩

def suspended (id : String) (status : InterventionStatus) : ExecutionHandoffError :=
  ⟨.agentAuthoritySuspended,
    "Agent authority is suspended while intervention " ++ id ++ " is " ++ status.text⟩

end ExecutionHandoffError

/-- The constructor's parameters: the clock and the id generator. -/
structure HandoffConfig where
  now : Nat → Int
  createId : Nat → String

structure ExecutionHandoffState (TAction TReason : Type) where
  epoch : Nat
  active : Option (ExecutionIntervention TAction TReason)
  reads : Nat
  created : Nat
  deriving DecidableEq

structure BeginInput (TAction TReason : Type) where
  reason : TReason
  action : Option TAction
  resumePolicy : ResumePolicy
  deriving DecidableEq

variable {TAction TReason : Type}

abbrev HandoffM (TAction TReason α : Type) :=
  StateExcept (ExecutionHandoffState TAction TReason) ExecutionHandoffError α

namespace ExecutionHandoffState

variable (config : HandoffConfig)

def initial : ExecutionHandoffState TAction TReason := ⟨0, none, 0, 0⟩

def getAuthority (state : ExecutionHandoffState TAction TReason) : ExecutionAuthority :=
  match state.active with
  | none => .agent
  | some active => if active.status = .humanActive then .human else .none

def now : HandoffM TAction TReason Int := do
  let state ← StateExcept.read
  StateExcept.update fun state => { state with reads := state.reads + 1 }
  return config.now state.reads

def createId : HandoffM TAction TReason String := do
  let state ← StateExcept.read
  StateExcept.update fun state => { state with created := state.created + 1 }
  return config.createId state.created

def advanceResourceEpoch : HandoffM TAction TReason Nat := do
  StateExcept.update fun state => { state with epoch := state.epoch + 1 }
  return (← StateExcept.read).epoch

/-- Writes through the reference to the active intervention. -/
def putActive (intervention : Option (ExecutionIntervention TAction TReason)) :
    HandoffM TAction TReason Unit :=
  StateExcept.update fun state => { state with active := intervention }

def requireActive (interventionId : String) :
    HandoffM TAction TReason (ExecutionIntervention TAction TReason) := do
  match (← StateExcept.read).active with
  | none => StateExcept.throwing .noLongerActive
  | some active =>
      StateExcept.require (active.id == interventionId) .noLongerActive
      return active

def requireStatus (active : ExecutionIntervention TAction TReason)
    (expected : InterventionStatus) : HandoffM TAction TReason Unit :=
  StateExcept.require (decide (active.status = expected))
    (.stateChanged active.id active.status expected.text)

def begin (input : BeginInput TAction TReason) :
    HandoffM TAction TReason (ExecutionIntervention TAction TReason) := do
  match (← StateExcept.read).active with
  | some active => return active
  | none =>
      let time ← now config
      let id ← createId config
      let epoch ← advanceResourceEpoch
      let intervention : ExecutionIntervention TAction TReason :=
        { id, reason := input.reason, status := .awaitingHuman, authority := .none, epoch,
          action := input.action, resumePolicy := input.resumePolicy,
          createdAt := time, updatedAt := time }
      putActive (some intervention)
      return intervention

def claimHuman (interventionId : String) :
    HandoffM TAction TReason (ExecutionIntervention TAction TReason) := do
  let active ← requireActive interventionId
  if active.status = .humanActive then
    return active
  else
    StateExcept.require
      (decide (active.status = .awaitingHuman) || decide (active.status = .verifying))
      (.stateChanged active.id active.status "awaiting_human or verifying")
    let time ← now config
    let claimed := { active with status := .humanActive, authority := .human, updatedAt := time }
    putActive (some claimed)
    return claimed

def markHumanComplete (interventionId : String) :
    HandoffM TAction TReason (ExecutionIntervention TAction TReason) := do
  let active ← requireActive interventionId
  requireStatus active .humanActive
  let epoch ← advanceResourceEpoch
  let time ← now config
  let completed :=
    { active with status := .verifying, authority := .none, epoch, updatedAt := time }
  putActive (some completed)
  return completed

def returnToHuman (interventionId : String) :
    HandoffM TAction TReason (ExecutionIntervention TAction TReason) := do
  let active ← requireActive interventionId
  requireStatus active .verifying
  let time ← now config
  let returned := { active with status := .humanActive, authority := .human, updatedAt := time }
  putActive (some returned)
  return returned

def markVerified (interventionId : String) :
    HandoffM TAction TReason (ExecutionIntervention TAction TReason) := do
  let active ← requireActive interventionId
  requireStatus active .verifying
  let time ← now config
  let verified := { active with status := .readyToResume, updatedAt := time }
  putActive (some verified)
  return verified

def resumeAgent (interventionId : String) : HandoffM TAction TReason (ResumeDecision TAction) := do
  let active ← requireActive interventionId
  requireStatus active .readyToResume
  putActive none
  return { action := active.action, resumePolicy := active.resumePolicy, epoch := active.epoch }

def cancel (interventionId : String) : HandoffM TAction TReason Unit := do
  let _ ← requireActive interventionId
  putActive none
  let _ ← advanceResourceEpoch
  return ()

def assertAgentAuthority : HandoffM TAction TReason Unit := do
  match (← StateExcept.read).active with
  | none => return ()
  | some active => StateExcept.throwing (.suspended active.id active.status)

end ExecutionHandoffState

/-! ## Operations and runs -/

inductive HandoffOp (TAction TReason : Type) where
  | begin (input : BeginInput TAction TReason)
  | claimHuman (interventionId : String)
  | markHumanComplete (interventionId : String)
  | returnToHuman (interventionId : String)
  | markVerified (interventionId : String)
  | resumeAgent (interventionId : String)
  | cancel (interventionId : String)
  | advanceResourceEpoch
  | assertAgentAuthority
  deriving DecidableEq

inductive HandoffReply (TAction TReason : Type) where
  | intervention (intervention : ExecutionIntervention TAction TReason)
  | decision (decision : ResumeDecision TAction)
  | epoch (epoch : Nat)
  | done
  deriving DecidableEq

/-- A request with the outcome it had. -/
abbrev HandoffCall (TAction TReason : Type) :=
  HandoffOp TAction TReason × Except ExecutionHandoffError (HandoffReply TAction TReason)

namespace ExecutionHandoffState

variable (config : HandoffConfig)

def perform : HandoffOp TAction TReason → HandoffM TAction TReason (HandoffReply TAction TReason)
  | .begin input => do return .intervention (← begin config input)
  | .claimHuman id => do return .intervention (← claimHuman config id)
  | .markHumanComplete id => do return .intervention (← markHumanComplete config id)
  | .returnToHuman id => do return .intervention (← returnToHuman config id)
  | .markVerified id => do return .intervention (← markVerified config id)
  | .resumeAgent id => do return .decision (← resumeAgent id)
  | .cancel id => do
      cancel id
      return .done
  | .advanceResourceEpoch => do return .epoch (← advanceResourceEpoch)
  | .assertAgentAuthority => do
      assertAgentAuthority
      return .done

/-- One call with its outcome. -/
def HandoffStep (first : ExecutionHandoffState TAction TReason)
    (call : HandoffCall TAction TReason) (last : ExecutionHandoffState TAction TReason) : Prop :=
  CallStep (perform config) first call last

abbrev HandoffRun : ExecutionHandoffState TAction TReason → List (HandoffCall TAction TReason) →
    ExecutionHandoffState TAction TReason → Prop :=
  Run (HandoffStep config)

end ExecutionHandoffState

end ExecutionHandoff.Core
