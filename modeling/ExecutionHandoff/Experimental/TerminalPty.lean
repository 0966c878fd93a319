import ExecutionHandoff.Core.Lifecycle
import ExecutionHandoff.Library.Text

/-!
# The terminal authority gate

`ExperimentalTerminalPtyAuthority`: one hand-off state, bound to one PTY session,
with the flags for the session's life and for the drain of Human writes.
`beginHuman` and `markHumanDone` are two synchronous calls around an awaited
drain, so they appear here as the calls they make.
-/

namespace ExecutionHandoff.Experimental

open Library Core

structure TerminalPtyBinding where
  sessionId : String
  sessionGeneration : Int
  principalBinding : String
  deriving DecidableEq

inductive TerminalPtyErrorCode where
  | sessionBindingInvalid
  | sessionMismatch
  | sessionClosed
  | interventionStale
  | agentStateSyncRequired
  deriving DecidableEq

inductive TerminalPtyError where
  | handoff (error : ExecutionHandoffError)
  | terminal (code : TerminalPtyErrorCode) (message : String)
  deriving DecidableEq

namespace TerminalPtyError

def bindingInvalid : TerminalPtyError :=
  .terminal .sessionBindingInvalid "Terminal PTY session binding is invalid"
def mismatch : TerminalPtyError :=
  .terminal .sessionMismatch "Terminal PTY binding no longer matches the exact session"
def closed : TerminalPtyError := .terminal .sessionClosed "Terminal PTY session is closed"
def stale : TerminalPtyError :=
  .terminal .interventionStale "Terminal intervention, epoch, or lifecycle state is stale"
def undrained : TerminalPtyError :=
  .terminal .interventionStale
    "Terminal verification is fenced until admitted Human writes are drained"
def tooEarly : TerminalPtyError :=
  .terminal .interventionStale
    "Agent terminal state synchronization is allowed only after explicit resume"
def inputUnsynchronized : TerminalPtyError :=
  .terminal .agentStateSyncRequired
    "Agent terminal input requires fresh consumer-side state synchronization after Human handoff"
def observationUnsynchronized : TerminalPtyError :=
  .terminal .agentStateSyncRequired
    "Agent terminal observation requires fresh consumer-side state synchronization after Human handoff"

end TerminalPtyError

/-- The only reason of a terminal intervention. -/
inductive TerminalReason where
  | terminalPty
  deriving DecidableEq

/-- Terminal interventions carry no action. -/
abbrev TerminalState := ExecutionHandoffState Empty TerminalReason

abbrev TerminalIntervention := ExecutionIntervention Empty TerminalReason

def sessionIdChar (c : Char) : Bool :=
  c.isAlphanum || c == '.' || c == '_' || c == ':' || c == '-'

def normalizeBinding (binding : TerminalPtyBinding) :
    Except TerminalPtyError TerminalPtyBinding :=
  let sessionId := trim binding.sessionId
  let principalBinding := trim binding.principalBinding
  if sessionId == "" || decide (200 < codeUnits sessionId)
      || !sessionId.toList.all sessionIdChar
      || !isSafeInteger binding.sessionGeneration || decide (binding.sessionGeneration ≤ 0)
      || principalBinding == "" || decide (512 < codeUnits principalBinding)
      || containsAny ['\r', '\n'] principalBinding then
    .error .bindingInvalid
  else
    .ok ⟨sessionId, binding.sessionGeneration, principalBinding⟩

/-- The constructor's parameters; the binding it is given has to pass its own check. -/
structure TerminalPtyConfig extends HandoffConfig where
  supplied : TerminalPtyBinding
  session : TerminalPtyBinding
  normalized : normalizeBinding supplied = .ok session

structure TerminalPtyAuthority where
  state : TerminalState
  sessionAlive : Bool
  humanDisconnected : Bool
  agentStateSynchronizationRequired : Bool
  humanWritesDrained : Bool
  deriving DecidableEq

structure TerminalPtyStatus where
  authority : ExecutionAuthority
  interventionStatus : Option InterventionStatus
  interventionEpoch : Option Nat
  sessionGeneration : Int
  sessionAlive : Bool
  humanDisconnected : Bool
  agentStateSynchronizationRequired : Bool
  deriving DecidableEq

structure TerminalPtyResumeDecision extends ResumeDecision Empty where
  sessionAlive : Bool
  agentStateSynchronizationRequired : Bool
  deriving DecidableEq

abbrev TerminalM (α : Type) := StateExcept TerminalPtyAuthority TerminalPtyError α

namespace TerminalPtyAuthority

variable (config : TerminalPtyConfig)

def initial : TerminalPtyAuthority :=
  ⟨ExecutionHandoffState.initial, true, false, false, true⟩

/-- A call of the gate's own hand-off state. -/
def onState {α : Type} (action : HandoffM Empty TerminalReason α) : TerminalM α := fun authority =>
  match action authority.state with
  | (.ok value, state) => (.ok value, { authority with state })
  | (.error error, state) => (.error (.handoff error), { authority with state })

def effectiveAuthority (authority : TerminalPtyAuthority) : ExecutionAuthority :=
  if !authority.sessionAlive && decide (authority.state.getAuthority = .agent) then
    .none
  else
    authority.state.getAuthority

def getStatus : TerminalM TerminalPtyStatus := do
  let authority ← StateExcept.read
  return {
    authority := authority.effectiveAuthority
    interventionStatus := authority.state.active.map (·.status)
    interventionEpoch := authority.state.active.map (·.epoch)
    sessionGeneration := config.session.sessionGeneration
    sessionAlive := authority.sessionAlive
    humanDisconnected := authority.humanDisconnected
    agentStateSynchronizationRequired := authority.agentStateSynchronizationRequired }

/-- The binding normalizes to the one of this session. -/
def matchesSession (binding : TerminalPtyBinding) : Bool :=
  match normalizeBinding binding with
  | .error _ => false
  | .ok normalized => decide (normalized = config.session)

def requireSession (binding : TerminalPtyBinding) (requireAlive : Bool) : TerminalM Unit := do
  match normalizeBinding binding with
  | .error error => StateExcept.throwing error
  | .ok normalized =>
      StateExcept.require (decide (normalized = config.session)) .mismatch
      StateExcept.require (!requireAlive || (← StateExcept.read).sessionAlive) .closed

def requireIntervention (interventionId : String) (epoch : Int) (expected : InterventionStatus) :
    TerminalM TerminalIntervention := do
  match (← StateExcept.read).state.active with
  | none => StateExcept.throwing .stale
  | some active =>
      StateExcept.require
        (active.id == interventionId && (active.epoch : Int) == epoch
          && decide (active.status = expected))
        .stale
      return active

def beginFence (binding : TerminalPtyBinding) : TerminalM TerminalIntervention := do
  requireSession config binding true
  let intervention ← onState
    (ExecutionHandoffState.begin config.toHandoffConfig ⟨.terminalPty, none, .neverReplay⟩)
  StateExcept.update fun authority => { authority with humanWritesDrained := true }
  return intervention

def claimHumanAfterAgentDrain (binding : TerminalPtyBinding) (interventionId : String)
    (epoch : Int) : TerminalM TerminalIntervention := do
  requireSession config binding true
  let _ ← requireIntervention interventionId epoch .awaitingHuman
  StateExcept.update fun authority => { authority with humanDisconnected := false }
  onState (ExecutionHandoffState.claimHuman config.toHandoffConfig interventionId)

def cancelBeforeHuman (binding : TerminalPtyBinding) (interventionId : String) (epoch : Int) :
    TerminalM TerminalPtyStatus := do
  requireSession config binding true
  let active ← requireIntervention interventionId epoch .awaitingHuman
  onState (ExecutionHandoffState.cancel active.id)
  StateExcept.update fun authority =>
    { authority with humanDisconnected := false, humanWritesDrained := true }
  getStatus config

/-- The agent holds authority and has synchronized since the last Human period. -/
def assertAgent (unsynchronized : TerminalPtyError) (binding : TerminalPtyBinding) :
    TerminalM Unit := do
  requireSession config binding true
  onState ExecutionHandoffState.assertAgentAuthority
  StateExcept.require (!(← StateExcept.read).agentStateSynchronizationRequired) unsynchronized

def assertAgentInput (binding : TerminalPtyBinding) : TerminalM Unit :=
  assertAgent config .inputUnsynchronized binding

def assertAgentObservation (binding : TerminalPtyBinding) : TerminalM Unit :=
  assertAgent config .observationUnsynchronized binding

def assertAgentResize (binding : TerminalPtyBinding) : TerminalM Unit :=
  assertAgentInput config binding

def assertHumanInput (binding : TerminalPtyBinding) (interventionId : String) (epoch : Int) :
    TerminalM Unit := do
  requireSession config binding true
  let _ ← requireIntervention interventionId epoch .humanActive
  return ()

def assertHumanObservation (binding : TerminalPtyBinding) (interventionId : String)
    (epoch : Int) : TerminalM Unit :=
  assertHumanInput config binding interventionId epoch

def assertHumanResize (binding : TerminalPtyBinding) (interventionId : String) (epoch : Int) :
    TerminalM Unit :=
  assertHumanInput config binding interventionId epoch

def noteHumanDisconnect (binding : TerminalPtyBinding) (interventionId : String) (epoch : Int) :
    TerminalM TerminalPtyStatus := do
  assertHumanInput config binding interventionId epoch
  StateExcept.update fun authority => { authority with humanDisconnected := true }
  getStatus config

def markHumanDoneFence (binding : TerminalPtyBinding) (interventionId : String) (epoch : Int) :
    TerminalM TerminalIntervention := do
  requireSession config binding false
  let _ ← requireIntervention interventionId epoch .humanActive
  let verifying ← onState
    (ExecutionHandoffState.markHumanComplete config.toHandoffConfig interventionId)
  StateExcept.update fun authority =>
    { authority with
      humanDisconnected := false, agentStateSynchronizationRequired := true
      humanWritesDrained := false }
  return verifying

def confirmHumanWritesDrained (binding : TerminalPtyBinding) (interventionId : String)
    (epoch : Int) : TerminalM TerminalIntervention := do
  requireSession config binding false
  let verifying ← requireIntervention interventionId epoch .verifying
  StateExcept.update fun authority => { authority with humanWritesDrained := true }
  return verifying

def reportVerification (binding : TerminalPtyBinding) (interventionId : String) (epoch : Int)
    (satisfied : Bool) : TerminalM TerminalIntervention := do
  requireSession config binding false
  let active ← requireIntervention interventionId epoch .verifying
  StateExcept.require (← StateExcept.read).humanWritesDrained .undrained
  if satisfied then
    onState (ExecutionHandoffState.markVerified config.toHandoffConfig interventionId)
  else
    return active

def resumeAgent (binding : TerminalPtyBinding) (interventionId : String) (epoch : Int) :
    TerminalM TerminalPtyResumeDecision := do
  requireSession config binding false
  let _ ← requireIntervention interventionId epoch .readyToResume
  let decision ← onState (ExecutionHandoffState.resumeAgent interventionId)
  let authority ← StateExcept.read
  return { decision with
    sessionAlive := authority.sessionAlive
    agentStateSynchronizationRequired := authority.agentStateSynchronizationRequired }

def acknowledgeAgentStateSynchronization (binding : TerminalPtyBinding) : TerminalM Unit := do
  requireSession config binding true
  StateExcept.require (decide ((← StateExcept.read).state.getAuthority = .agent)) .tooEarly
  StateExcept.update fun authority => { authority with agentStateSynchronizationRequired := false }

/-- What the exit of a live session does to the intervention in progress. -/
def settleExit : TerminalM Unit := do
  match (← StateExcept.read).state.active with
  | none => return ()
  | some active =>
      if active.status = .awaitingHuman then
        onState (ExecutionHandoffState.cancel active.id)
        StateExcept.update fun authority => { authority with humanWritesDrained := true }
      else if active.status = .humanActive then
        let _ ← onState (ExecutionHandoffState.markHumanComplete config.toHandoffConfig active.id)
        StateExcept.update fun authority => { authority with humanWritesDrained := true }
      else
        return ()

def noteSessionExit (binding : TerminalPtyBinding) : TerminalM TerminalPtyStatus := do
  requireSession config binding false
  if (← StateExcept.read).sessionAlive then
    StateExcept.update fun authority =>
      { authority with sessionAlive := false, agentStateSynchronizationRequired := true }
    settleExit config
    StateExcept.update fun authority => { authority with humanDisconnected := false }
    getStatus config
  else
    getStatus config

end TerminalPtyAuthority

/-! ## Operations and runs -/

inductive TerminalOp where
  | beginFence (binding : TerminalPtyBinding)
  | claimHumanAfterAgentDrain (binding : TerminalPtyBinding) (interventionId : String) (epoch : Int)
  | cancelBeforeHuman (binding : TerminalPtyBinding) (interventionId : String) (epoch : Int)
  | assertAgentInput (binding : TerminalPtyBinding)
  | assertAgentObservation (binding : TerminalPtyBinding)
  | assertAgentResize (binding : TerminalPtyBinding)
  | assertHumanInput (binding : TerminalPtyBinding) (interventionId : String) (epoch : Int)
  | assertHumanObservation (binding : TerminalPtyBinding) (interventionId : String) (epoch : Int)
  | assertHumanResize (binding : TerminalPtyBinding) (interventionId : String) (epoch : Int)
  | noteHumanDisconnect (binding : TerminalPtyBinding) (interventionId : String) (epoch : Int)
  | markHumanDoneFence (binding : TerminalPtyBinding) (interventionId : String) (epoch : Int)
  | confirmHumanWritesDrained (binding : TerminalPtyBinding) (interventionId : String) (epoch : Int)
  | reportVerification (binding : TerminalPtyBinding) (interventionId : String) (epoch : Int)
      (satisfied : Bool)
  | resumeAgent (binding : TerminalPtyBinding) (interventionId : String) (epoch : Int)
  | acknowledgeAgentStateSynchronization (binding : TerminalPtyBinding)
  | noteSessionExit (binding : TerminalPtyBinding)
  | getStatus
  deriving DecidableEq

inductive TerminalReply where
  | intervention (intervention : TerminalIntervention)
  | status (status : TerminalPtyStatus)
  | decision (decision : TerminalPtyResumeDecision)
  | done
  deriving DecidableEq

/-- A request with the outcome it had. -/
abbrev TerminalCall := TerminalOp × Except TerminalPtyError TerminalReply

namespace TerminalPtyAuthority

variable (config : TerminalPtyConfig)

def perform : TerminalOp → TerminalM TerminalReply
  | .beginFence binding => do return .intervention (← beginFence config binding)
  | .claimHumanAfterAgentDrain binding id epoch => do
      return .intervention (← claimHumanAfterAgentDrain config binding id epoch)
  | .cancelBeforeHuman binding id epoch => do
      return .status (← cancelBeforeHuman config binding id epoch)
  | .assertAgentInput binding => do
      assertAgentInput config binding
      return .done
  | .assertAgentObservation binding => do
      assertAgentObservation config binding
      return .done
  | .assertAgentResize binding => do
      assertAgentResize config binding
      return .done
  | .assertHumanInput binding id epoch => do
      assertHumanInput config binding id epoch
      return .done
  | .assertHumanObservation binding id epoch => do
      assertHumanObservation config binding id epoch
      return .done
  | .assertHumanResize binding id epoch => do
      assertHumanResize config binding id epoch
      return .done
  | .noteHumanDisconnect binding id epoch => do
      return .status (← noteHumanDisconnect config binding id epoch)
  | .markHumanDoneFence binding id epoch => do
      return .intervention (← markHumanDoneFence config binding id epoch)
  | .confirmHumanWritesDrained binding id epoch => do
      return .intervention (← confirmHumanWritesDrained config binding id epoch)
  | .reportVerification binding id epoch satisfied => do
      return .intervention (← reportVerification config binding id epoch satisfied)
  | .resumeAgent binding id epoch => do
      return .decision (← resumeAgent config binding id epoch)
  | .acknowledgeAgentStateSynchronization binding => do
      acknowledgeAgentStateSynchronization config binding
      return .done
  | .noteSessionExit binding => do return .status (← noteSessionExit config binding)
  | .getStatus => do return .status (← getStatus config)

/-- One call with its outcome. -/
def TerminalStep (first : TerminalPtyAuthority) (call : TerminalCall)
    (last : TerminalPtyAuthority) : Prop :=
  CallStep (perform config) first call last

instance (first : TerminalPtyAuthority) (call : TerminalCall) (last : TerminalPtyAuthority) :
    Decidable (TerminalStep config first call last) :=
  inferInstanceAs (Decidable (perform config call.1 first = (call.2, last)))

abbrev TerminalRun : TerminalPtyAuthority → List TerminalCall → TerminalPtyAuthority → Prop :=
  Run (TerminalStep config)

end TerminalPtyAuthority

end ExecutionHandoff.Experimental
