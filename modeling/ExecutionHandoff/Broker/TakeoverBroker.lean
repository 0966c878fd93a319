import Mathlib.Data.Finset.Basic
import ExecutionHandoff.Takeover.SessionCalls

/-!
# The takeover broker

The broker owns a session manager and the maps that route a session to a
native or a WebRTC runtime.  Every step is the code between two awaits: a call
of a link, a revocation or a hook, the part of a request up to its next await,
the settling of an awaited promise, or a timer that fires.  A request stopped
by its method, origin, headers or body touches nothing and is no step, except
for completion requests.  No WebSocket port is attached; target windows,
pages and diagnostics are read by no step and are left out.
-/

namespace ExecutionHandoff.Broker

open Library Takeover

structure TakeoverInterventionRef where
  id : String
  epoch : Int
  deriving DecidableEq

structure TakeoverBrokerConfig where
  enabled : Bool
  publicBaseUrl : Option String
  /-- `new URL(text).origin`. -/
  origin : String → String
  /-- The URL of a session's page under the public base URL. -/
  pageUrl : String → String → String
  nativeRuntime : Bool
  webRtcRuntime : Bool
  sessions : TakeoverSessionConfig

/-- An absent or empty string is falsy. -/
def truthy (text : Option String) : Option String := text.filter (· != "")

def TakeoverBrokerConfig.publicOrigin (config : TakeoverBrokerConfig) : Option String :=
  (truthy config.publicBaseUrl).map config.origin

/-! ## Human input policies -/

structure WebRtcHumanInputPolicy where
  tap : Bool
  scroll : Bool
  text : Bool
  key : Bool
  deriving DecidableEq

def allowAllWebRtcInput : WebRtcHumanInputPolicy := ⟨true, true, true, true⟩

inductive WebRtcHumanInputKind where
  | tap
  | pointerButton
  | scroll
  | text
  | key
  deriving DecidableEq

def inputAllowed (policy : WebRtcHumanInputPolicy) : WebRtcHumanInputKind → Bool
  | .tap | .pointerButton => policy.tap
  | .scroll => policy.scroll
  | .text => policy.text
  | .key => policy.key

/-- A policy object as its own properties, each with its value when that is a boolean. -/
abbrev PolicyObject := List (String × Option Bool)

def policyKeys : List String := ["tap", "scroll", "text", "key"]

def normalizeWebRtcInputPolicy (value : PolicyObject) : Option WebRtcHumanInputPolicy :=
  let field key := (value.lookup key).join
  if value.length ≠ policyKeys.length ∨ value.any (fun entry => entry.1 ∉ policyKeys) then
    none
  else
    match field "tap", field "scroll", field "text", field "key" with
    | some tap, some scroll, some text, some key => some ⟨tap, scroll, text, key⟩
    | _, _, _, _ => none

/-- The object a policy is given as. -/
def WebRtcHumanInputPolicy.object (policy : WebRtcHumanInputPolicy) : PolicyObject :=
  [("tap", some policy.tap), ("scroll", some policy.scroll), ("text", some policy.text),
    ("key", some policy.key)]

/-! ## What the runtimes hold -/

inductive WebRtcRuntimeEndCause where
  | expiry
  | generationReplace
  | explicitRevoke
  | peerState
  | hostProtocol
  | hostExit
  | hostError
  | targetMissing
  | videoDrain
  deriving DecidableEq

def webRtcTerminalCauseRequiresVerification : WebRtcRuntimeEndCause → Bool
  | .targetMissing | .hostProtocol | .hostExit | .hostError | .videoDrain => true
  | .expiry | .generationReplace | .explicitRevoke | .peerState => false

/-- What a runtime is started with; its hooks call the broker back with it. -/
structure WebRtcTakeoverRuntimeBinding where
  takeoverSessionId : String
  interventionId : String
  epoch : Int
  principalBinding : String
  clientBinding : String
  clientGeneration : Nat
  expiresAt : Int
  deriving DecidableEq

/-- A native claim, or a reconnect when it has a handle, that awaits its body. -/
structure NativeRequest where
  sessionId : String
  principalBinding : String
  clientBinding : String
  reconnectHandle : Option String
  deriving DecidableEq

/-! ## Completion -/

inductive RuntimeKind where
  | native
  | webRtc
  deriving DecidableEq

inductive CompletionFinalizationOutcome where
  | completed
  | runtimeRevokeFailed
  | completionHandlerFailed
  deriving DecidableEq

/-- The await at which `finalizeCompletion` stands. -/
inductive FinalizationStage where
  | revokingNative (wasWebRtc : Bool)
  | revokingWebRtc
  | delivering
  deriving DecidableEq

/-- A running `finalizeCompletion`, with what each awaiting request was told of its completion. -/
structure Finalization where
  interventionId : String
  epoch : Int
  stage : FinalizationStage
  waiting : List Bool
  deriving DecidableEq

structure CompletionRequest where
  method : String
  sessionId : String
  boundPrincipal : Option String
  origin : Option String
  completionCapability : Option String
  deriving DecidableEq

inductive CompletionReply where
  | error (status : Nat) (error : String)
  | done (alreadyDone : Bool)
  deriving DecidableEq

def CompletionFinalizationOutcome.reply (alreadyDone : Bool) :
    CompletionFinalizationOutcome → CompletionReply
  | .completed => .done alreadyDone
  | .runtimeRevokeFailed => .error 503 "takeover_runtime_revoke_failed"
  | .completionHandlerFailed => .error 503 "takeover_completion_handler_failed"

/-- What the world outside sees of the broker. -/
inductive BrokerFact where
  /-- `createWebRtcLink` returned the page of the session. -/
  | linked (sessionId : String) (policy : WebRtcHumanInputPolicy)
  /-- The session manager accepted a completion; the flags are the markers found before it. -/
  | accepted (sessionId interventionId : String) (epoch : Int) (wasNative wasWebRtc : Bool)
  | revoking (runtime : RuntimeKind) (sessionId : String)
  | revoked (runtime : RuntimeKind) (sessionId : String)
  | hookInvoked (sessionId interventionId : String) (epoch : Int)
  | hookReturned (sessionId : String) (succeeded : Bool)
  | answered (sessionId : String) (reply : CompletionReply)
  /-- `beginInput` of a session let an input pass. -/
  | input (sessionId : String) (kind : WebRtcHumanInputKind)
  deriving DecidableEq

inductive CleanupKind where
  | native
  | webRtcMedia
  | webRtcCompletion
  deriving DecidableEq

/-- An armed timer. -/
structure Cleanup where
  kind : CleanupKind
  sessionId : String
  due : Int
  deriving DecidableEq

/-- A `completeWebRtcAfterVerification` that awaits a runtime, with the sessions still ahead. -/
structure Verification where
  interventionId : String
  remaining : List TakeoverCompletionResult
  deriving DecidableEq

structure TakeoverBroker where
  sessions : TakeoverSessionManager
  nativeOnlySessions : OrderedMap String String
  webRtcOnlySessions : OrderedMap String String
  webRtcSessionInterventions : OrderedMap String String
  webRtcTerminalVerificationSessions : Finset String
  verifyingWebRtcSessions : Finset String
  verifiedCompletedWebRtcSessions : Finset String
  webRtcInputPolicies : OrderedMap String WebRtcHumanInputPolicy
  completionDelivered : Finset String
  completionFinalizations : OrderedMap String Finalization
  cleanups : List Cleanup
  verifications : List Verification
  nativeRequests : List NativeRequest
  /-- The sessions whose native runtime is being begun. -/
  nativeBegins : List String
  bindings : List WebRtcTakeoverRuntimeBinding
  /-- Newest first. -/
  log : List BrokerFact
  deriving DecidableEq

/-- `[A-Za-z0-9-]{8,100}`. -/
def routableId (id : String) : Bool :=
  decide (8 ≤ id.length) && decide (id.length ≤ 100)
    && id.toList.all fun c => c.isAlphanum || c == '-'

namespace TakeoverBroker

def initial : TakeoverBroker where
  sessions := TakeoverSessionManager.initial
  nativeOnlySessions := .empty
  webRtcOnlySessions := .empty
  webRtcSessionInterventions := .empty
  webRtcTerminalVerificationSessions := ∅
  verifyingWebRtcSessions := ∅
  verifiedCompletedWebRtcSessions := ∅
  webRtcInputPolicies := .empty
  completionDelivered := ∅
  completionFinalizations := .empty
  cleanups := []
  verifications := []
  nativeRequests := []
  nativeBegins := []
  bindings := []
  log := []

variable (config : TakeoverBrokerConfig) (broker : TakeoverBroker)

/-- The sessions a map routes for the intervention. -/
def sessionsOf (map : OrderedMap String String) (interventionId : String) : List String :=
  map.keysOf (· == interventionId)

/-- Call the session manager, whether it throws or not. -/
def callSessions {α : Type} (call : SessionM α) : TakeoverBroker :=
  { broker with sessions := (call broker.sessions).2 }

def record (fact : BrokerFact) : TakeoverBroker := { broker with log := fact :: broker.log }

/-- `setTimeout`. -/
def arm (kind : CleanupKind) (sessionId : String) (delay : Int) : TakeoverBroker :=
  { broker with
    sessions := broker.sessions.ticked
    cleanups :=
      broker.cleanups ++ [⟨kind, sessionId, config.sessions.now broker.sessions.reads + delay⟩] }

/-! ## Links -/

/-- The session for a link, unless the broker is off or the principal is missing. -/
def ensureSession (intervention : TakeoverInterventionRef) (principalBinding : Option String) :
    Option TakeoverLocator × TakeoverBroker :=
  match config.enabled, truthy config.publicBaseUrl, truthy principalBinding with
  | true, some _, some principal =>
      match TakeoverSessionManager.ensure config.sessions intervention.id intervention.epoch
        principal broker.sessions with
      | (.ok locator, sessions) => (some locator, { broker with sessions })
      | (.error _, sessions) => (none, { broker with sessions })
  | _, _, _ => (none, broker)

def createLink (intervention : TakeoverInterventionRef) (principalBinding : Option String) :
    TakeoverBroker :=
  (broker.ensureSession config intervention principalBinding).2

/-- The native marker of the session replaces those of the intervention's other sessions. -/
def markNative (interventionId sessionId : String) : TakeoverBroker :=
  let others := (sessionsOf broker.nativeOnlySessions interventionId).filter (· ≠ sessionId)
  { broker with
    nativeOnlySessions :=
      (broker.nativeOnlySessions.deleteAll others).set sessionId interventionId }

def createNativeLink (intervention : TakeoverInterventionRef) (principalBinding : Option String) :
    TakeoverBroker :=
  if config.nativeRuntime = false then
    broker
  else
    match broker.ensureSession config intervention principalBinding with
    | (none, after) => after
    | (some locator, after) =>
        if after.webRtcOnlySessions.contains locator.id then
          after
        else
          (after.markNative intervention.id locator.id).arm config .native locator.id
            (config.sessions.ttlMs + 1000)

/-- The intervention's other sessions lose their input policies. -/
def dropOtherPolicies (interventionId sessionId : String) : TakeoverBroker :=
  let others := (sessionsOf broker.webRtcOnlySessions interventionId).filter (· ≠ sessionId)
  { broker with webRtcInputPolicies := broker.webRtcInputPolicies.deleteAll others }

/-- Why `createWebRtcLink` refuses a session it has ensured. -/
def webRtcConflict (sessionId : String) (policy : WebRtcHumanInputPolicy)
    (terminalVerification : Bool) : Bool :=
  (broker.webRtcInputPolicies.get? sessionId).any (· != policy)
    || decide (sessionId ∈ broker.verifyingWebRtcSessions)
    || (broker.webRtcOnlySessions.contains sessionId
      && decide (sessionId ∈ broker.webRtcTerminalVerificationSessions) != terminalVerification)

def markWebRtc (interventionId sessionId : String) (policy : WebRtcHumanInputPolicy)
    (terminalVerification : Bool) : TakeoverBroker :=
  { broker with
    webRtcOnlySessions := broker.webRtcOnlySessions.set sessionId interventionId
    webRtcSessionInterventions := broker.webRtcSessionInterventions.set sessionId interventionId
    webRtcInputPolicies := broker.webRtcInputPolicies.set sessionId policy
    webRtcTerminalVerificationSessions :=
      if terminalVerification then
        insert sessionId broker.webRtcTerminalVerificationSessions
      else
        broker.webRtcTerminalVerificationSessions.erase sessionId }

/-- `options?.terminalTargetBehavior`: absent, or "verifying"; anything else is refused. -/
def readTerminalTargetBehavior : Option String → Option Bool
  | none => some false
  | some behavior => if behavior = "verifying" then some true else none

/-- `createWebRtcLink` once the session is ensured. -/
def linkWebRtc (interventionId sessionId : String) (policy : WebRtcHumanInputPolicy)
    (terminalVerification : Bool) : TakeoverBroker :=
  if broker.nativeOnlySessions.contains sessionId then
    broker
  else
    let dropped := broker.dropOtherPolicies interventionId sessionId
    if dropped.webRtcConflict sessionId policy terminalVerification then
      dropped
    else
      (((dropped.markWebRtc interventionId sessionId policy terminalVerification).arm config
        .webRtcMedia sessionId (config.sessions.ttlMs + 1000)).arm config
        .webRtcCompletion sessionId
        (config.sessions.ttlMs + 2 * config.sessions.completionGraceMs + 1000)).record
        (.linked sessionId policy)

def createWebRtcLink (intervention : TakeoverInterventionRef) (principalBinding : Option String)
    (inputPolicy : Option PolicyObject) (terminalTargetBehavior : Option String) :
    TakeoverBroker :=
  if config.webRtcRuntime = false then
    broker
  else
    match normalizeWebRtcInputPolicy (inputPolicy.getD allowAllWebRtcInput.object),
      readTerminalTargetBehavior terminalTargetBehavior with
    | some policy, some terminalVerification =>
        match broker.ensureSession config intervention principalBinding with
        | (none, after) => after
        | (some locator, after) =>
            after.linkWebRtc config intervention.id locator.id policy terminalVerification
    | _, _ => broker

/-! ## Revocation and verified completion -/

def forgetNativeOnlyIntervention (interventionId : String) : TakeoverBroker :=
  { broker with
    nativeOnlySessions := broker.nativeOnlySessions.deleteAll
      (sessionsOf broker.nativeOnlySessions interventionId) }

def forgetVerifiedCompletedWebRtcIntervention (interventionId : String) : TakeoverBroker :=
  let ids := sessionsOf broker.webRtcSessionInterventions interventionId
  { broker with
    webRtcSessionInterventions := broker.webRtcSessionInterventions.deleteAll ids
    webRtcTerminalVerificationSessions :=
      broker.webRtcTerminalVerificationSessions.filter (· ∉ ids)
    verifyingWebRtcSessions := broker.verifyingWebRtcSessions.filter (· ∉ ids)
    verifiedCompletedWebRtcSessions := broker.verifiedCompletedWebRtcSessions.filter (· ∉ ids) }

def forgetWebRtcOnlyIntervention (interventionId : String) : TakeoverBroker :=
  let ids := sessionsOf broker.webRtcOnlySessions interventionId
  { broker with
    webRtcOnlySessions := broker.webRtcOnlySessions.deleteAll ids
    webRtcInputPolicies := broker.webRtcInputPolicies.deleteAll ids
    webRtcTerminalVerificationSessions :=
      broker.webRtcTerminalVerificationSessions.filter (· ∉ ids)
    verifyingWebRtcSessions := broker.verifyingWebRtcSessions.filter (· ∉ ids)
    completionDelivered := broker.completionDelivered.filter (· ∉ ids) }

def revokeSessions (interventionId : String) : TakeoverBroker :=
  broker.callSessions (TakeoverSessionManager.revokeForIntervention interventionId)

/-- The runtimes' own revocations are not awaited here, or awaited with nothing after them. -/
def revokeForIntervention (interventionId : String) : TakeoverBroker :=
  (((broker.revokeSessions interventionId).forgetNativeOnlyIntervention
    interventionId).forgetVerifiedCompletedWebRtcIntervention
    interventionId).forgetWebRtcOnlyIntervention interventionId

def revokeNativeForIntervention (interventionId : String) : TakeoverBroker :=
  (broker.revokeSessions interventionId).forgetNativeOnlyIntervention interventionId

def revokeWebRtcForIntervention (interventionId : String) : TakeoverBroker :=
  ((broker.revokeSessions interventionId).forgetVerifiedCompletedWebRtcIntervention
    interventionId).forgetWebRtcOnlyIntervention interventionId

def markVerified (sessionId : String) : TakeoverBroker :=
  { broker with
    verifyingWebRtcSessions := broker.verifyingWebRtcSessions.erase sessionId
    verifiedCompletedWebRtcSessions := insert sessionId broker.verifiedCompletedWebRtcSessions
    webRtcInputPolicies := broker.webRtcInputPolicies.delete sessionId }

/-- The loop of `completeWebRtcAfterVerification` up to its next await. -/
def verifyNext (interventionId : String) : List TakeoverCompletionResult → TakeoverBroker
  | [] => broker
  | item :: remaining =>
      if broker.webRtcSessionInterventions.get? item.id = some interventionId then
        { broker.markVerified item.id with
          verifications := broker.verifications ++ [⟨interventionId, remaining⟩] }
      else
        verifyNext interventionId remaining

def completeWebRtcAfterVerification (intervention : TakeoverInterventionRef) : TakeoverBroker :=
  match TakeoverSessionManager.completeAfterVerification config.sessions intervention.id
    intervention.epoch broker.sessions with
  | (.ok completed, sessions) => { broker with sessions }.verifyNext intervention.id completed
  | (.error _, sessions) => { broker with sessions }

/-! ## Completion requests -/

/-- The promise of a finalization settles, and the requests that await it are answered. -/
def settleFinalization (sessionId : String) (finalization : Finalization)
    (outcome : CompletionFinalizationOutcome) : TakeoverBroker :=
  { broker with
    completionFinalizations := broker.completionFinalizations.delete sessionId
    log := (finalization.waiting.map fun alreadyDone =>
      .answered sessionId (outcome.reply alreadyDone)) ++ broker.log }

/-- What `finalizeCompletion` forgets once the required runtimes are revoked. -/
def forgetSession (sessionId : String) : TakeoverBroker :=
  { broker with
    nativeOnlySessions := broker.nativeOnlySessions.delete sessionId
    webRtcOnlySessions := broker.webRtcOnlySessions.delete sessionId
    webRtcInputPolicies := broker.webRtcInputPolicies.delete sessionId
    webRtcTerminalVerificationSessions :=
      broker.webRtcTerminalVerificationSessions.erase sessionId
    verifyingWebRtcSessions := broker.verifyingWebRtcSessions.erase sessionId }

/-- `finalizeCompletion` stands at an await. -/
def await (sessionId : String) (finalization : Finalization) (stage : FinalizationStage)
    (fact : BrokerFact) : TakeoverBroker :=
  { broker with
    completionFinalizations :=
      broker.completionFinalizations.set sessionId { finalization with stage }
    log := fact :: broker.log }

/-- `finalizeCompletion` after the runtimes. -/
def deliver (sessionId : String) (finalization : Finalization) : TakeoverBroker :=
  let forgot := broker.forgetSession sessionId
  if sessionId ∈ broker.completionDelivered then
    forgot.settleFinalization sessionId finalization .completed
  else
    forgot.await sessionId finalization .delivering
      (.hookInvoked sessionId finalization.interventionId finalization.epoch)

/-- `finalizeCompletion` after the native runtime. -/
def finalizeWebRtc (sessionId : String) (finalization : Finalization) (wasWebRtc : Bool) :
    TakeoverBroker :=
  if wasWebRtc then
    broker.await sessionId finalization .revokingWebRtc (.revoking .webRtc sessionId)
  else
    broker.deliver sessionId finalization

/-- `finalizeCompletion` up to its first await. -/
def finalizeCompletion (sessionId : String) (finalization : Finalization)
    (wasNative wasWebRtc : Bool) : TakeoverBroker :=
  if wasNative then
    broker.await sessionId finalization (.revokingNative wasWebRtc) (.revoking .native sessionId)
  else
    broker.finalizeWebRtc sessionId finalization wasWebRtc

def answer (sessionId : String) (reply : CompletionReply) : TakeoverBroker :=
  broker.record (.answered sessionId reply)

/-- A completion request for an accepted completion joins the running finalization, or starts one. -/
def joinFinalization (completion : TakeoverCompletionResult) (sessionId : String)
    (wasNative wasWebRtc : Bool) : TakeoverBroker :=
  match broker.completionFinalizations.get? sessionId with
  | some running =>
      { broker with
        completionFinalizations := broker.completionFinalizations.set sessionId
          { running with waiting := running.waiting ++ [completion.alreadyCompleted] } }
  | none =>
      broker.finalizeCompletion sessionId
        ⟨completion.interventionId, completion.epoch, .delivering, [completion.alreadyCompleted]⟩
        wasNative wasWebRtc

/-- A completion request that has passed its own checks. -/
def acceptCompletion (sessionId principal capability : String) : TakeoverBroker :=
  let wasNative := broker.nativeOnlySessions.contains sessionId
  let wasWebRtc := broker.webRtcOnlySessions.contains sessionId
  match TakeoverSessionManager.complete config.sessions sessionId capability principal
    broker.sessions with
  | (.error _, sessions) =>
      { broker with sessions }.answer sessionId (.error 404 "takeover_unavailable")
  | (.ok completion, sessions) =>
      ({ broker with sessions }.record (.accepted sessionId completion.interventionId
        completion.epoch wasNative wasWebRtc)).joinFinalization completion sessionId wasNative
        wasWebRtc

def readCompletionCapability (value : Option String) : Option String := value.filter (shaped 32 128)

/-- The `complete` operation of `handle`. -/
def complete (request : CompletionRequest) : TakeoverBroker :=
  let id := request.sessionId
  match config.enabled, truthy request.boundPrincipal, routableId id with
  | true, some principal, true =>
      if request.method ≠ "POST" then
        broker.answer id (.error 405 "method_not_allowed")
      else if config.publicOrigin = none ∨ request.origin ≠ config.publicOrigin then
        broker.answer id (.error 403 "origin_not_allowed")
      else if id ∈ broker.verifyingWebRtcSessions then
        match TakeoverSessionManager.validateLocator config.sessions id principal
          broker.sessions with
        | (.error _, sessions) =>
            { broker with sessions }.answer id (.error 404 "takeover_unavailable")
        | (.ok _, sessions) =>
            { broker with sessions }.answer id (.error 409 "takeover_verifying")
      else
        match readCompletionCapability request.completionCapability with
        | none => broker.answer id (.error 404 "takeover_unavailable")
        | some capability => broker.acceptCompletion config id principal capability
  | _, _, _ => broker.answer id (.error 404 "not_found")

/-- The awaited `revoke` of a runtime settles. -/
def settleRevoke (runtime : RuntimeKind) (sessionId : String) (succeeded : Bool) :
    Option TakeoverBroker :=
  match broker.completionFinalizations.get? sessionId with
  | none => none
  | some finalization =>
      match runtime, finalization.stage with
      | .native, .revokingNative wasWebRtc =>
          some (if succeeded then
            (broker.record (.revoked .native sessionId)).finalizeWebRtc sessionId finalization
              wasWebRtc
          else
            broker.settleFinalization sessionId finalization .runtimeRevokeFailed)
      | .webRtc, .revokingWebRtc =>
          some (if succeeded then
            (broker.record (.revoked .webRtc sessionId)).deliver sessionId finalization
          else
            broker.settleFinalization sessionId finalization .runtimeRevokeFailed)
      | _, _ => none

/-- The awaited completion hook settles. -/
def settleHook (sessionId : String) (succeeded : Bool) : Option TakeoverBroker :=
  match broker.completionFinalizations.get? sessionId with
  | none => none
  | some finalization =>
      if finalization.stage ≠ .delivering then
        none
      else if succeeded then
        some (({ broker with
          completionDelivered := insert sessionId broker.completionDelivered }.record
          (.hookReturned sessionId true)).settleFinalization sessionId finalization .completed)
      else
        some ((broker.record (.hookReturned sessionId false)).settleFinalization sessionId
          finalization .completionHandlerFailed)

/-! ## Clients -/

/-- A claim, or a reconnect when a handle is given. -/
def claimOrReconnect (sessionId principal clientBinding : String)
    (reconnectHandle : Option String) : SessionM TakeoverGrant :=
  match reconnectHandle with
  | none => TakeoverSessionManager.claimClient config.sessions sessionId principal clientBinding
  | some handle =>
      TakeoverSessionManager.reconnectClient config.sessions sessionId principal handle
        clientBinding

/-- `webrtc-prepare-claim` and `webrtc-prepare-reconnect`, past a completed session. -/
def prepareOpen (sessionId principal clientBinding : String) (reconnectHandle : Option String) :
    TakeoverBroker :=
  if sessionId ∈ broker.verifyingWebRtcSessions then
    broker.callSessions (TakeoverSessionManager.validateLocator config.sessions sessionId principal)
  else if config.webRtcRuntime && broker.webRtcOnlySessions.contains sessionId then
    broker.callSessions (claimOrReconnect config sessionId principal clientBinding reconnectHandle)
  else
    broker

def prepare (sessionId principal clientBinding : String) (reconnectHandle : Option String) :
    TakeoverBroker :=
  if sessionId ∈ broker.verifiedCompletedWebRtcSessions then
    match TakeoverSessionManager.isCompleted config.sessions sessionId principal
      broker.sessions with
    | (.ok false, sessions) =>
        { broker with sessions }.prepareOpen config sessionId principal clientBinding
          reconnectHandle
    | (_, sessions) => { broker with sessions }
  else
    broker.prepareOpen config sessionId principal clientBinding reconnectHandle

/-- `webrtc-connect` once its body has arrived; the route was checked before. -/
def connect (sessionId capability principal clientBinding : String) : TakeoverBroker :=
  match TakeoverSessionManager.verify config.sessions sessionId capability principal clientBinding
    broker.sessions with
  | (.error _, sessions) => { broker with sessions }
  | (.ok use, sessions) =>
      { broker with
        sessions
        bindings := broker.bindings ++
          [{ takeoverSessionId := use.id
             interventionId := use.interventionId
             epoch := use.epoch
             principalBinding := use.principalBinding
             clientBinding := use.clientBinding
             clientGeneration := use.clientGeneration
             expiresAt := use.expiresAt }] }

def bootstrap (sessionId principal clientBinding : String) : TakeoverBroker :=
  if broker.nativeOnlySessions.contains sessionId || broker.webRtcOnlySessions.contains sessionId then
    broker
  else
    broker.callSessions
      (TakeoverSessionManager.claimClient config.sessions sessionId principal clientBinding)

/-- A native `claim` or `reconnect` after its body, when there is one to await. -/
def claimNative (request : NativeRequest) : TakeoverBroker :=
  match claimOrReconnect config request.sessionId request.principalBinding request.clientBinding
    request.reconnectHandle broker.sessions with
  | (.error _, sessions) => { broker with sessions }
  | (.ok _, sessions) =>
      if config.nativeRuntime then
        { broker with sessions, nativeBegins := broker.nativeBegins ++ [request.sessionId] }
      else
        { broker with sessions }

def requestNative (request : NativeRequest) : TakeoverBroker :=
  if broker.webRtcOnlySessions.contains request.sessionId then
    broker
  else if config.nativeRuntime then
    { broker with nativeRequests := broker.nativeRequests ++ [request] }
  else
    broker.claimNative config request

def revokeSession (sessionId : String) : TakeoverBroker :=
  broker.callSessions (TakeoverSessionManager.revoke sessionId)

/-- `begin` of the native runtime fails other than by having been issued already. -/
def failNativeBegin (sessionId : String) : TakeoverBroker :=
  let revoked := broker.revokeSession sessionId
  { revoked with nativeOnlySessions := revoked.nativeOnlySessions.delete sessionId }

/-- `done` and `cancel`. -/
def close (sessionId capability principal clientBinding : String) : TakeoverBroker :=
  match TakeoverSessionManager.verify config.sessions sessionId capability principal clientBinding
    broker.sessions with
  | (.error _, sessions) => { broker with sessions }
  | (.ok _, sessions) =>
      let revoked := { broker with sessions }.revokeSession sessionId
      { revoked with
        nativeOnlySessions := revoked.nativeOnlySessions.delete sessionId
        webRtcOnlySessions := revoked.webRtcOnlySessions.delete sessionId
        webRtcInputPolicies := revoked.webRtcInputPolicies.delete sessionId }

/-- The session-manager calls of the requests that touch no map: pages and state reads,
diagnostics, metrics, suspend, frames, inputs, and the ends of these requests. -/
def isClientCall : SessionOp → Bool
  | .validateLocator _ _ | .issueCompletionCapability _ _ | .isCompleted _ _ | .verify _ _ _ _
  | .releaseClientGeneration _ _ _ _ | .beginUse _ _ _ _ | .endUse _ _ _ _ => true
  | _ => false

/-! ## Runtime hooks -/

def webRtcInputPolicy (sessionId : String) : WebRtcHumanInputPolicy :=
  (broker.webRtcInputPolicies.get? sessionId).getD allowAllWebRtcInput

def beginInput (binding : WebRtcTakeoverRuntimeBinding) (kind : WebRtcHumanInputKind) :
    TakeoverBroker :=
  if inputAllowed (broker.webRtcInputPolicy binding.takeoverSessionId) kind = false then
    broker
  else
    match TakeoverSessionManager.beginBoundUse config.sessions binding.takeoverSessionId
      binding.principalBinding binding.clientBinding binding.clientGeneration broker.sessions with
    | (.error _, sessions) => { broker with sessions }
    | (.ok _, sessions) =>
        { broker with sessions }.record (.input binding.takeoverSessionId kind)

def releaseBinding (binding : WebRtcTakeoverRuntimeBinding) : TakeoverBroker :=
  broker.callSessions (TakeoverSessionManager.releaseClientGeneration config.sessions
    binding.takeoverSessionId binding.principalBinding binding.clientBinding
    binding.clientGeneration)

/-- The callback acts only for sessions that verify a lost target. -/
def terminalActs (binding : WebRtcTakeoverRuntimeBinding) (cause : WebRtcRuntimeEndCause) : Bool :=
  decide (binding.takeoverSessionId ∈ broker.webRtcTerminalVerificationSessions)
    && webRtcTerminalCauseRequiresVerification cause

def terminal (binding : WebRtcTakeoverRuntimeBinding) (cause : WebRtcRuntimeEndCause) :
    TakeoverBroker :=
  if broker.terminalActs binding cause then
    { broker with
      verifyingWebRtcSessions := insert binding.takeoverSessionId broker.verifyingWebRtcSessions
      webRtcInputPolicies :=
        broker.webRtcInputPolicies.delete binding.takeoverSessionId }.releaseBinding config binding
  else
    broker

def disconnected (binding : WebRtcTakeoverRuntimeBinding) : TakeoverBroker :=
  broker.releaseBinding config binding

/-! ## Timers -/

def cleanUp (kind : CleanupKind) (sessionId : String) : TakeoverBroker :=
  match kind with
  | .native =>
      { broker with nativeOnlySessions := broker.nativeOnlySessions.delete sessionId }
  | .webRtcMedia =>
      { broker with webRtcInputPolicies := broker.webRtcInputPolicies.delete sessionId }
  | .webRtcCompletion =>
      { broker with
        webRtcOnlySessions := broker.webRtcOnlySessions.delete sessionId
        webRtcInputPolicies := broker.webRtcInputPolicies.delete sessionId
        webRtcSessionInterventions := broker.webRtcSessionInterventions.delete sessionId
        webRtcTerminalVerificationSessions :=
          broker.webRtcTerminalVerificationSessions.erase sessionId
        verifyingWebRtcSessions := broker.verifyingWebRtcSessions.erase sessionId
        verifiedCompletedWebRtcSessions :=
          broker.verifiedCompletedWebRtcSessions.erase sessionId
        completionDelivered := broker.completionDelivered.erase sessionId }

/-- A timer fires, not before it is due. -/
def fire (cleanup : Cleanup) : Option TakeoverBroker :=
  if cleanup ∈ broker.cleanups ∧ cleanup.due ≤ config.sessions.now broker.sessions.reads then
    some ({ broker with
      sessions := broker.sessions.ticked
      cleanups := broker.cleanups.erase cleanup }.cleanUp cleanup.kind cleanup.sessionId)
  else
    none

end TakeoverBroker

/-! ## Steps -/

inductive BrokerEvent where
  | createLink (intervention : TakeoverInterventionRef) (principalBinding : Option String)
  | createNativeLink (intervention : TakeoverInterventionRef) (principalBinding : Option String)
  | createWebRtcLink (intervention : TakeoverInterventionRef) (principalBinding : Option String)
      (inputPolicy : Option PolicyObject) (terminalTargetBehavior : Option String)
  | revokeForIntervention (interventionId : String)
  | revokeNativeForIntervention (interventionId : String)
  | revokeWebRtcForIntervention (interventionId : String)
  | completeWebRtcAfterVerification (intervention : TakeoverInterventionRef)
  | resumeVerification (verification : Verification)
  | complete (request : CompletionRequest)
  | settleRevoke (runtime : RuntimeKind) (sessionId : String) (succeeded : Bool)
  | settleHook (sessionId : String) (succeeded : Bool)
  | prepare (sessionId principal clientBinding : String) (reconnectHandle : Option String)
  | connect (sessionId capability principal clientBinding : String)
  | bootstrap (sessionId principal clientBinding : String)
  | requestNative (request : NativeRequest)
  | resumeNative (request : NativeRequest)
  /-- `begin` of the native runtime settles; only some failures end the session. -/
  | settleNativeBegin (sessionId : String) (ends : Bool)
  | close (sessionId capability principal clientBinding : String)
  | client (op : SessionOp)
  | beginInput (binding : WebRtcTakeoverRuntimeBinding) (kind : WebRtcHumanInputKind)
  | terminal (binding : WebRtcTakeoverRuntimeBinding) (cause : WebRtcRuntimeEndCause)
  | disconnected (binding : WebRtcTakeoverRuntimeBinding)
  | fire (cleanup : Cleanup)
  deriving DecidableEq

namespace TakeoverBroker

/-- What may happen next: the environment picks the event, the broker decides what follows. -/
def next (config : TakeoverBrokerConfig) (broker : TakeoverBroker) :
    BrokerEvent → Option TakeoverBroker
  | .createLink intervention principal => some (broker.createLink config intervention principal)
  | .createNativeLink intervention principal =>
      some (broker.createNativeLink config intervention principal)
  | .createWebRtcLink intervention principal inputPolicy terminalTargetBehavior =>
      some (broker.createWebRtcLink config intervention principal inputPolicy
        terminalTargetBehavior)
  | .revokeForIntervention interventionId => some (broker.revokeForIntervention interventionId)
  | .revokeNativeForIntervention interventionId =>
      some (broker.revokeNativeForIntervention interventionId)
  | .revokeWebRtcForIntervention interventionId =>
      some (broker.revokeWebRtcForIntervention interventionId)
  | .completeWebRtcAfterVerification intervention =>
      some (broker.completeWebRtcAfterVerification config intervention)
  | .resumeVerification verification =>
      if verification ∈ broker.verifications then
        some ({ broker with
          verifications := broker.verifications.erase verification }.verifyNext
          verification.interventionId verification.remaining)
      else
        none
  | .complete request => some (broker.complete config request)
  | .settleRevoke runtime sessionId succeeded => broker.settleRevoke runtime sessionId succeeded
  | .settleHook sessionId succeeded => broker.settleHook sessionId succeeded
  | .prepare sessionId principal clientBinding reconnectHandle =>
      some (broker.prepare config sessionId principal clientBinding reconnectHandle)
  | .connect sessionId capability principal clientBinding =>
      some (broker.connect config sessionId capability principal clientBinding)
  | .bootstrap sessionId principal clientBinding =>
      some (broker.bootstrap config sessionId principal clientBinding)
  | .requestNative request => some (broker.requestNative config request)
  | .resumeNative request =>
      if request ∈ broker.nativeRequests then
        some ({ broker with
          nativeRequests := broker.nativeRequests.erase request }.claimNative config request)
      else
        none
  | .settleNativeBegin sessionId ends =>
      if sessionId ∈ broker.nativeBegins then
        let settled := { broker with nativeBegins := broker.nativeBegins.erase sessionId }
        some (if ends then settled.failNativeBegin sessionId else settled)
      else
        none
  | .close sessionId capability principal clientBinding =>
      some (broker.close config sessionId capability principal clientBinding)
  | .client op =>
      if isClientCall op then
        some (broker.callSessions (TakeoverSessionManager.perform config.sessions op))
      else
        none
  | .beginInput binding kind =>
      if binding ∈ broker.bindings then some (broker.beginInput config binding kind) else none
  | .terminal binding cause =>
      if binding ∈ broker.bindings then some (broker.terminal config binding cause) else none
  | .disconnected binding =>
      if binding ∈ broker.bindings then some (broker.disconnected config binding) else none
  | .fire cleanup => broker.fire config cleanup

abbrev Step (config : TakeoverBrokerConfig) : TakeoverBroker → BrokerEvent → TakeoverBroker → Prop :=
  StepOf (next config)

end TakeoverBroker

end ExecutionHandoff.Broker
