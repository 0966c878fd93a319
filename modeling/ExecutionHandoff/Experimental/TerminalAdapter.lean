import ExecutionHandoff.Experimental.TerminalPty
import ExecutionHandoff.Experimental.TerminalWebRtc

/-!
# The terminal adapter

`TerminalHandoffAdapter`: the authority gate of one PTY session and the Human
transport, kept in step call by call.  A step is a call of the consumer up to
its first await, a client request, something the network does to the transport,
or the rest of a `cancelBeforeHuman` whose revocation has resolved.  What the
other calls do after their await is to return.
-/

namespace ExecutionHandoff.Experimental

open Library Core

structure TerminalHandoffInterventionRef where
  interventionId : String
  epoch : Int
  status : InterventionStatus
  deriving DecidableEq

/-- The intervention and epoch the current transport was started for. -/
structure TerminalTransportRef where
  interventionId : String
  epoch : Int
  deriving DecidableEq

structure TerminalHandoffTransportStatus where
  transportReady : Bool
  humanActive : Bool
  disconnected : Bool
  completed : Bool
  faulted : Bool
  queuedEvents : Nat
  deriving DecidableEq

structure TerminalHandoffStatus extends TerminalPtyStatus where
  transport : Option TerminalHandoffTransportStatus
  deriving DecidableEq

/-- The bytes of an input are those its text stands for. -/
inductive TerminalHandoffHumanEvent where
  | input (dataBase64 : String)
  | resize (rows cols : Int)
  | done (verifying : TerminalHandoffInterventionRef)
  deriving DecidableEq

structure TerminalHandoffResumeDecision where
  epoch : Nat
  resumePolicy : ResumePolicy
  sessionAlive : Bool
  agentStateSynchronizationRequired : Bool
  deriving DecidableEq

inductive TerminalHandoffAdapterErrorCode where
  | bindingInvalid
  | transportUnavailable
  | transportNotReady
  | interventionStale
  | outputInvalid
  deriving DecidableEq

/-- An error of the adapter's own, or one that the gate or the transport threw. -/
inductive TerminalHandoffError where
  | adapter (code : TerminalHandoffAdapterErrorCode) (message : String)
  | pty (error : TerminalPtyError)
  | transport (message : String)
  deriving DecidableEq

namespace TerminalHandoffError

def bindingInvalid : TerminalHandoffError :=
  .adapter .bindingInvalid
    "Terminal Handoff requires an opaque session, positive generation, and 64-hex principal binding"
def unfinished : TerminalHandoffError :=
  .adapter .interventionStale
    "Terminal Handoff cannot begin until the prior lifecycle and state synchronization are complete"
def notStarted : TerminalHandoffError :=
  .adapter .transportUnavailable
    "Terminal Human transport could not be started; no Human authority was granted"
def claimed : TerminalHandoffError :=
  .adapter .interventionStale
    "Terminal Handoff can be cancelled only before Human authority is claimed"
def notReady : TerminalHandoffError :=
  .adapter .transportNotReady
    "Terminal Human authority cannot be claimed until the exact transport generation is ready"
def notActivated : TerminalHandoffError :=
  .adapter .transportUnavailable
    "Terminal Human transport activation failed after authority claim; Agent remains fenced"
def outputInvalid : TerminalHandoffError :=
  .adapter .outputInvalid "Terminal Human-visible output must contain 1-16384 ephemeral bytes"
def connected : TerminalHandoffError :=
  .adapter .transportUnavailable
    "Terminal disconnect acknowledgement requires a disconnected, incomplete Human transport"
def stale : TerminalHandoffError :=
  .adapter .interventionStale
    "Terminal Handoff intervention no longer matches the active Human transport"

end TerminalHandoffError

def maxHumanOutputBytes : Nat := 16 * 1024

def normalizeAdapterBinding (binding : TerminalPtyBinding) :
    Except TerminalHandoffError TerminalPtyBinding :=
  let sessionId := trim binding.sessionId
  let principalBinding := trim binding.principalBinding
  if sessionId == "" || decide (200 < codeUnits sessionId)
      || !sessionId.toList.all sessionIdChar
      || !isSafeInteger binding.sessionGeneration || decide (binding.sessionGeneration ≤ 0)
      || !hexShaped 64 principalBinding then
    .error .bindingInvalid
  else
    .ok ⟨sessionId, binding.sessionGeneration, principalBinding⟩

/-- The constructor's parameters: the binding has to pass the adapter's check, and what that leaves
the check of the gate. -/
structure TerminalHandoffAdapterConfig where
  supplied : TerminalPtyBinding
  binding : TerminalPtyBinding
  normalized : normalizeAdapterBinding supplied = .ok binding
  authority : TerminalPtyConfig
  bound : authority.supplied = binding
  takeover : TerminalWebRtcConfig

/-- A `cancelBeforeHuman` that awaits the revocation of the transport; a transport that refused to
be revoked is not waited for. -/
structure Cancellation where
  awaiting : TerminalHandoffInterventionRef
  session : Option Nat
  deriving DecidableEq

structure TerminalHandoffAdapter where
  authority : TerminalPtyAuthority
  transport : ExperimentalTerminalWebRtcTakeover
  transportRef : Option TerminalTransportRef
  cancelling : List Cancellation
  deriving DecidableEq

abbrev AdapterM (α : Type) := StateExcept TerminalHandoffAdapter TerminalHandoffError α

/-- Every status of an intervention is externally actionable. -/
def publicIntervention (intervention : TerminalIntervention) : TerminalHandoffInterventionRef :=
  ⟨intervention.id, intervention.epoch, intervention.status⟩

def publicResume (decision : TerminalPtyResumeDecision) : TerminalHandoffResumeDecision :=
  ⟨decision.epoch, decision.resumePolicy, decision.sessionAlive,
    decision.agentStateSynchronizationRequired⟩

def boundedTransportStatus (status : TerminalWebRtcStatus) : TerminalHandoffTransportStatus :=
  ⟨status.transportReady, status.humanActive, status.disconnected, status.completed,
    status.faulted, status.queuedEvents⟩

namespace TerminalHandoffAdapter

def initial : TerminalHandoffAdapter :=
  ⟨TerminalPtyAuthority.initial, ExperimentalTerminalWebRtcTakeover.initial, none, []⟩

variable (config : TerminalHandoffAdapterConfig)

def onAuthority {α : Type} (action : TerminalM α) : AdapterM α := fun adapter =>
  match action adapter.authority with
  | (.ok value, authority) => (.ok value, { adapter with authority })
  | (.error error, authority) => (.error (.pty error), { adapter with authority })

def onTransport {α : Type} (action : TransportM α) : AdapterM α := fun adapter =>
  match action adapter.transport with
  | (.ok value, transport) => (.ok value, { adapter with transport })
  | (.error error, transport) => (.error (.transport error), { adapter with transport })

/-- A call inside `try`. -/
def caught {α : Type} (action : AdapterM α) : AdapterM (Except TerminalHandoffError α) :=
  fun adapter =>
    match action adapter with
    | (result, after) => (.ok result, after)

def requireTransportRef (intervention : TerminalHandoffInterventionRef) : AdapterM Unit := do
  match (← StateExcept.read).transportRef with
  | none => StateExcept.throwing .stale
  | some ref =>
      StateExcept.require
        (ref.interventionId == intervention.interventionId && ref.epoch == intervention.epoch)
        .stale

def status : AdapterM TerminalHandoffStatus := do
  let authority ← onAuthority (TerminalPtyAuthority.getStatus config.authority)
  match (← StateExcept.read).transportRef with
  | none => return { authority with transport := none }
  | some ref =>
      let transport ← onTransport
        (ExperimentalTerminalWebRtcTakeover.status ref.interventionId ref.epoch)
      return { authority with transport := some (boundedTransportStatus transport) }

def begin : AdapterM (TerminalHandoffInterventionRef × String) := do
  let status ← onAuthority (TerminalPtyAuthority.getStatus config.authority)
  StateExcept.require
    ((← StateExcept.read).transportRef.isNone && decide (status.authority = .agent)
      && decide (status.interventionStatus = none) && status.sessionAlive
      && !status.agentStateSynchronizationRequired)
    .unfinished
  let intervention ← onAuthority
    (TerminalPtyAuthority.beginFence config.authority config.binding)
  let ref := publicIntervention intervention
  match ← caught (onTransport (ExperimentalTerminalWebRtcTakeover.start config.takeover
      ref.interventionId ref.epoch config.binding.principalBinding)) with
  | .ok locator =>
      StateExcept.update fun adapter =>
        { adapter with transportRef := some ⟨ref.interventionId, ref.epoch⟩ }
      return (ref, locator)
  | .error _ =>
      let _ ← onAuthority (TerminalPtyAuthority.cancelBeforeHuman config.authority config.binding
        ref.interventionId ref.epoch)
      StateExcept.throwing .notStarted

/-- The transport is revoked and forgotten; what it throws is caught. -/
def dropTransport (ref : TerminalTransportRef) : AdapterM Unit := do
  StateExcept.update fun adapter => { adapter with transportRef := none }
  let _ ← caught (onTransport
    (ExperimentalTerminalWebRtcTakeover.revoke ref.interventionId ref.epoch))

/-- `cancelBeforeHuman` up to its await. -/
def cancelBeforeHuman (awaiting : TerminalHandoffInterventionRef) : AdapterM Unit := do
  requireTransportRef awaiting
  let authority ← onAuthority (TerminalPtyAuthority.getStatus config.authority)
  StateExcept.require
    (decide (authority.interventionStatus = some .awaitingHuman)
      && decide (authority.interventionEpoch.map Int.ofNat = some awaiting.epoch))
    .claimed
  let current := ((← StateExcept.read).transport.current? awaiting.interventionId
    awaiting.epoch).map Prod.fst
  dropTransport ⟨awaiting.interventionId, awaiting.epoch⟩
  StateExcept.update fun adapter =>
    { adapter with cancelling := ⟨awaiting, current⟩ :: adapter.cancelling }

def transportStatus (intervention : TerminalHandoffInterventionRef) :
    AdapterM TerminalHandoffTransportStatus := do
  requireTransportRef intervention
  let transport ← onTransport (ExperimentalTerminalWebRtcTakeover.status
    intervention.interventionId intervention.epoch)
  return boundedTransportStatus transport

def claimHumanAfterAgentDrain (intervention : TerminalHandoffInterventionRef) :
    AdapterM TerminalHandoffInterventionRef := do
  requireTransportRef intervention
  let transport ← onTransport (ExperimentalTerminalWebRtcTakeover.status
    intervention.interventionId intervention.epoch)
  StateExcept.require
    (transport.transportReady && !transport.disconnected && !transport.completed
      && !transport.faulted)
    .notReady
  let human ← onAuthority (TerminalPtyAuthority.claimHumanAfterAgentDrain config.authority
    config.binding intervention.interventionId intervention.epoch)
  match ← caught (onTransport (ExperimentalTerminalWebRtcTakeover.activateHuman
      intervention.interventionId intervention.epoch)) with
  | .ok _ => return publicIntervention human
  | .error _ =>
      let _ ← onAuthority (TerminalPtyAuthority.noteHumanDisconnect config.authority config.binding
        human.id human.epoch)
      StateExcept.throwing .notActivated

def assertAgentInput : AdapterM Unit :=
  onAuthority (TerminalPtyAuthority.assertAgentInput config.authority config.binding)

def assertAgentObservation : AdapterM Unit :=
  onAuthority (TerminalPtyAuthority.assertAgentObservation config.authority config.binding)

def assertAgentResize : AdapterM Unit :=
  onAuthority (TerminalPtyAuthority.assertAgentResize config.authority config.binding)

def assertHumanInput (human : TerminalHandoffInterventionRef) : AdapterM Unit :=
  onAuthority (TerminalPtyAuthority.assertHumanInput config.authority config.binding
    human.interventionId human.epoch)

def assertHumanObservation (human : TerminalHandoffInterventionRef) : AdapterM Unit :=
  onAuthority (TerminalPtyAuthority.assertHumanObservation config.authority config.binding
    human.interventionId human.epoch)

def assertHumanResize (human : TerminalHandoffInterventionRef) : AdapterM Unit :=
  onAuthority (TerminalPtyAuthority.assertHumanResize config.authority config.binding
    human.interventionId human.epoch)

def nextHumanEvent (human : TerminalHandoffInterventionRef) :
    AdapterM (Option TerminalHandoffHumanEvent) := do
  requireTransportRef human
  match ← onTransport (ExperimentalTerminalWebRtcTakeover.nextEvent human.interventionId
      human.epoch) with
  | none => return none
  | some (.input dataBase64) =>
      assertHumanInput config human
      return some (.input dataBase64)
  | some (.resize rows cols) =>
      assertHumanResize config human
      return some (.resize rows cols)
  | some .done =>
      onTransport (ExperimentalTerminalWebRtcTakeover.fenceHuman human.interventionId human.epoch)
      let verifying ← onAuthority (TerminalPtyAuthority.markHumanDoneFence config.authority
        config.binding human.interventionId human.epoch)
      onTransport (ExperimentalTerminalWebRtcTakeover.releaseCompleted human.interventionId
        human.epoch)
      StateExcept.update fun adapter => { adapter with transportRef := none }
      return some (.done (publicIntervention verifying))

/-- `transport.pushOutput`; there is room unless the message is too long or too much waits to be
sent. -/
def pushOutput (interventionId : String) (epoch : Int) (room : Bool) : TransportM Unit := do
  let (_, session) ← ExperimentalTerminalWebRtcTakeover.requireIntervention interventionId epoch
  match session.clientGeneration with
  | none => StateExcept.throwing "terminal Human output unavailable"
  | some generation =>
      StateExcept.require session.humanActive "terminal Human output unavailable"
      match (← StateExcept.read).runtime.requireGeneration session.id generation with
      | none => StateExcept.throwing "terminal WebRTC generation unavailable"
      | some (_, active) =>
          StateExcept.require (active.inputEnabled && decide (active.channel = some .open))
            "terminal WebRTC output unavailable"
          StateExcept.require room "terminal WebRTC output backpressure"

/-- Output of so many bytes; the bound of `sendOutput` is the one checked here. -/
def pushHumanOutput (human : TerminalHandoffInterventionRef) (byteLength : Nat) (room : Bool) :
    AdapterM Unit := do
  requireTransportRef human
  assertHumanObservation config human
  StateExcept.require (decide (1 ≤ byteLength) && decide (byteLength ≤ maxHumanOutputBytes))
    .outputInvalid
  onTransport (pushOutput human.interventionId human.epoch room)

def noteHumanDisconnect (human : TerminalHandoffInterventionRef) :
    AdapterM TerminalHandoffStatus := do
  requireTransportRef human
  let transport ← onTransport (ExperimentalTerminalWebRtcTakeover.status human.interventionId
    human.epoch)
  StateExcept.require (transport.disconnected && !transport.completed) .connected
  let _ ← onAuthority (TerminalPtyAuthority.noteHumanDisconnect config.authority config.binding
    human.interventionId human.epoch)
  status config

def confirmHumanDrain (verifying : TerminalHandoffInterventionRef) :
    AdapterM TerminalHandoffInterventionRef := do
  let active ← onAuthority (TerminalPtyAuthority.confirmHumanWritesDrained config.authority
    config.binding verifying.interventionId verifying.epoch)
  return publicIntervention active

def reportVerification (verifying : TerminalHandoffInterventionRef) (satisfied : Bool) :
    AdapterM TerminalHandoffInterventionRef := do
  let active ← onAuthority (TerminalPtyAuthority.reportVerification config.authority
    config.binding verifying.interventionId verifying.epoch satisfied)
  return publicIntervention active

def resume (ready : TerminalHandoffInterventionRef) : AdapterM TerminalHandoffResumeDecision := do
  let decision ← onAuthority (TerminalPtyAuthority.resumeAgent config.authority config.binding
    ready.interventionId ready.epoch)
  return publicResume decision

def acknowledgeAgentStateSynchronization : AdapterM Unit :=
  onAuthority (TerminalPtyAuthority.acknowledgeAgentStateSynchronization config.authority
    config.binding)

def noteSessionExit : AdapterM TerminalHandoffStatus := do
  let authority ← onAuthority (TerminalPtyAuthority.noteSessionExit config.authority
    config.binding)
  match (← StateExcept.read).transportRef with
  | none => return { authority with transport := none }
  | some ref =>
      dropTransport ref
      return { authority with transport := none }

def revokeTransport : AdapterM Unit := do
  match (← StateExcept.read).transportRef with
  | none => return ()
  | some ref =>
      let authority ← onAuthority (TerminalPtyAuthority.getStatus config.authority)
      if authority.interventionStatus = some .humanActive
          ∧ authority.interventionEpoch.map Int.ofNat = some ref.epoch then
        onTransport (ExperimentalTerminalWebRtcTakeover.fenceHuman ref.interventionId ref.epoch)
        let _ ← onAuthority (TerminalPtyAuthority.noteHumanDisconnect config.authority
          config.binding ref.interventionId ref.epoch)
        dropTransport ref
      else
        dropTransport ref

end TerminalHandoffAdapter

/-! ## Operations and steps -/

inductive AdapterOp where
  | status
  | begin
  | cancelBeforeHuman (awaiting : TerminalHandoffInterventionRef)
  | transportStatus (intervention : TerminalHandoffInterventionRef)
  | claimHumanAfterAgentDrain (intervention : TerminalHandoffInterventionRef)
  | assertAgentInput
  | assertAgentObservation
  | assertAgentResize
  | assertHumanInput (human : TerminalHandoffInterventionRef)
  | assertHumanObservation (human : TerminalHandoffInterventionRef)
  | assertHumanResize (human : TerminalHandoffInterventionRef)
  | nextHumanEvent (human : TerminalHandoffInterventionRef)
  | pushHumanOutput (human : TerminalHandoffInterventionRef) (byteLength : Nat) (room : Bool)
  | noteHumanDisconnect (human : TerminalHandoffInterventionRef)
  | confirmHumanDrain (verifying : TerminalHandoffInterventionRef)
  | reportVerification (verifying : TerminalHandoffInterventionRef) (satisfied : Bool)
  | resume (ready : TerminalHandoffInterventionRef)
  | acknowledgeAgentStateSynchronization
  | noteSessionExit
  | revokeTransport
  deriving DecidableEq

inductive AdapterReply where
  | status (status : TerminalHandoffStatus)
  | transportStatus (status : TerminalHandoffTransportStatus)
  | begun (intervention : TerminalHandoffInterventionRef) (locator : String)
  | intervention (intervention : TerminalHandoffInterventionRef)
  | event (event : Option TerminalHandoffHumanEvent)
  | decision (decision : TerminalHandoffResumeDecision)
  | done
  deriving DecidableEq

inductive AdapterEvent where
  | call (op : AdapterOp) (outcome : Except TerminalHandoffError AdapterReply)
  /-- A client request with the principal it was authenticated as. -/
  | handle (boundPrincipal : Option String) (request : TerminalRequest)
  | network (event : NetworkEvent)
  /-- The rest of a `cancelBeforeHuman`. -/
  | cancelled (cancellation : Cancellation)
  deriving DecidableEq

namespace TerminalHandoffAdapter

variable (config : TerminalHandoffAdapterConfig)

def perform : AdapterOp → AdapterM AdapterReply
  | .status => do return .status (← status config)
  | .begin => do
      let (intervention, locator) ← begin config
      return .begun intervention locator
  | .cancelBeforeHuman awaiting => do
      cancelBeforeHuman config awaiting
      return .done
  | .transportStatus intervention => do
      return .transportStatus (← transportStatus intervention)
  | .claimHumanAfterAgentDrain intervention => do
      return .intervention (← claimHumanAfterAgentDrain config intervention)
  | .assertAgentInput => do
      assertAgentInput config
      return .done
  | .assertAgentObservation => do
      assertAgentObservation config
      return .done
  | .assertAgentResize => do
      assertAgentResize config
      return .done
  | .assertHumanInput human => do
      assertHumanInput config human
      return .done
  | .assertHumanObservation human => do
      assertHumanObservation config human
      return .done
  | .assertHumanResize human => do
      assertHumanResize config human
      return .done
  | .nextHumanEvent human => do return .event (← nextHumanEvent config human)
  | .pushHumanOutput human byteLength room => do
      pushHumanOutput config human byteLength room
      return .done
  | .noteHumanDisconnect human => do return .status (← noteHumanDisconnect config human)
  | .confirmHumanDrain verifying => do
      return .intervention (← confirmHumanDrain config verifying)
  | .reportVerification verifying satisfied => do
      return .intervention (← reportVerification config verifying satisfied)
  | .resume ready => do return .decision (← resume config ready)
  | .acknowledgeAgentStateSynchronization => do
      acknowledgeAgentStateSynchronization config
      return .done
  | .noteSessionExit => do return .status (← noteSessionExit config)
  | .revokeTransport => do
      revokeTransport config
      return .done

/-- No revocation of the session is under way. -/
def revoked (adapter : TerminalHandoffAdapter) (session : Nat) : Bool :=
  adapter.transport.pending.all fun
    | .ending key _ _ => key != session
    | _ => true

def next (adapter : TerminalHandoffAdapter) : AdapterEvent → Option TerminalHandoffAdapter
  | .call op outcome =>
      if (perform config op adapter).1 = outcome then some (perform config op adapter).2 else none
  | .handle boundPrincipal request =>
      if boundPrincipal = some config.binding.principalBinding then
        some { adapter with transport := adapter.transport.handle config.takeover request }
      else
        some adapter
  | .network (.request _) => none
  | .network event =>
      (adapter.transport.network config.takeover event).map fun transport =>
        { adapter with transport }
  | .cancelled cancellation =>
      if cancellation ∈ adapter.cancelling ∧ cancellation.session.all adapter.revoked then
        some
          { adapter with
            authority := (TerminalPtyAuthority.cancelBeforeHuman config.authority config.binding
              cancellation.awaiting.interventionId cancellation.awaiting.epoch
              adapter.authority).2
            cancelling := adapter.cancelling.erase cancellation }
      else
        none

abbrev Step : TerminalHandoffAdapter → AdapterEvent → TerminalHandoffAdapter → Prop :=
  StepOf (next config)

end TerminalHandoffAdapter

end ExecutionHandoff.Experimental
