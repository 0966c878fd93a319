import ExecutionHandoff.Library.OrderedMap
import ExecutionHandoff.Transport.CoordinatorCalls

/-!
# One session of the managed runtime

The managed runtime keeps, for each intervention, a coordinator, the lease it
last stored and the transport-session ids that lead to the session.  Requests
and revocations interleave at the awaits of the coordinator; other sessions of
the runtime only ever take a transport-session id away.  Terminal tombstones
and diagnostics are read by no transition modelled here and are left out.
-/

namespace ExecutionHandoff.Transport

open Library

structure ManagedRuntimeConfig where
  publicOrigin : String
  /-- `new URL(text).pathname`, when the text is a URL. -/
  pathname : String → Option String
  /-- What `freshFallbackCapability` returns, by how often it was called. -/
  capability : Nat → String

/-! ## Session ids in paths -/

def isSessionIdChar (c : Char) : Bool := c.isAlphanum || c == '-'

/-- `[A-Za-z0-9-]{8,100}`. -/
def isSessionId (text : List Char) : Bool :=
  decide (8 ≤ text.length) && decide (text.length ≤ 100) && text.all isSessionIdChar

/-- `[a-z0-9-]+`. -/
def isApiName (text : List Char) : Bool :=
  !text.isEmpty && text.all fun c => c.isLower || c.isDigit || c == '-'

/-- The last segment of a path with the given segments before it, when it is a session id. -/
def sessionIdAfter (segments : List String) (pathname : String) : Option String :=
  match (pathname.toList.splitOn '/').reverse with
  | [] => none
  | id :: before =>
      if before.reverse = segments.map String.toList ∧ isSessionId id = true then
        some (String.ofList id)
      else
        none

def takeoverPageSessionIdFromPath (pathname : String) : Option String :=
  sessionIdAfter ["", "takeover"] pathname

/-- `FALLBACK_ROUTE`. -/
def fallbackRoute (pathname : String) : Option String :=
  sessionIdAfter ["", "takeover", "api", "transport-fallback"] pathname

def takeoverApiSessionIdFromPath (pathname : String) : Option String :=
  match pathname.toList.splitOn '/' with
  | [_, _, _, name, _] =>
      if isApiName name then
        sessionIdAfter ["", "takeover", "api", String.ofList name] pathname
      else
        none
  | _ => none

def takeoverSessionIdFromPath (pathname : String) : Option String :=
  (takeoverPageSessionIdFromPath pathname).orElse fun _ =>
    (takeoverApiSessionIdFromPath pathname).orElse fun _ =>
      sessionIdAfter ["", "takeover", "ws"] pathname

def ManagedRuntimeConfig.takeoverSessionIdFromLocator (config : ManagedRuntimeConfig)
    (locator : String) : Option String :=
  (config.pathname locator).bind takeoverSessionIdFromPath

def isCapabilityChar (c : Char) : Bool := c.isAlphanum || c == '_' || c == '-'

/-- A candidate of the shape `[A-Za-z0-9_-]{32,128}` that has the expected bytes. -/
def safeCapabilityEqual (candidate : Option String) (expected : String) : Bool :=
  match candidate with
  | none => false
  | some text =>
      decide (32 ≤ text.length) && decide (text.length ≤ 128) && text.toList.all isCapabilityChar
        && text == expected

/-! ## The session -/

/-- A fallback request that awaits the coordinator, by the ticket of the call it awaits. -/
inductive PendingRequest where
  | falling (sessionId : String) (oldLease : ManagedBrowserHandoffTransportLease)
  | discarding
  deriving DecidableEq

inductive ManagedResponseBody where
  | error (text : String)
  | path (text : String)
  deriving DecidableEq

structure ManagedResponse where
  status : Nat
  body : ManagedResponseBody
  deriving DecidableEq

structure FallbackRequest where
  pathname : String
  boundPrincipal : Option String
  method : String
  origin : Option String
  capability : Option String
  deriving DecidableEq

structure ManagedHandoffSession where
  principalBinding : String
  coordinator : ManagedBrowserHandoffTransportCoordinator
  /-- The session is the one of its intervention in `#sessionsByIntervention`. -/
  registered : Bool
  /-- The keys under which `#sessionsByTransportSession` holds the session. -/
  transports : List String
  lease : ManagedBrowserHandoffTransportLease
  activeSessionId : Option String
  fallbackCapability : String
  capabilities : Nat
  /-- The broker's session manager has accepted a Done of the Human. -/
  accepted : Bool
  completed : Bool
  requests : OrderedMap Nat PendingRequest
  responses : List ManagedResponse
  deriving DecidableEq

inductive ManagedEvent where
  /-- A driver answers, or the promise chain of the coordinator goes on. -/
  | transport (event : CoordinatorEvent)
  | handle (request : FallbackRequest)
  /-- The request that awaited a call of the coordinator goes on. -/
  | resume (ticket : Nat)
  | revoke
  | revokeUnclaimed
  | acceptDone
  /-- The completion hook the broker awaits after an accepted Done. -/
  | completion
  /-- Another session of the runtime is stored under the same transport-session id. -/
  | displaced (sessionId : String)
  deriving DecidableEq

namespace ManagedHandoffSession

/-- The end of `start`: the coordinator's first lease must lead to a transport session. -/
def start (config : ManagedRuntimeConfig) (principalBinding : String) (plan : TransportPlan)
    (result : StartResult) (first second : LooseResult) : Except String ManagedHandoffSession :=
  let initial := ManagedBrowserHandoffTransportCoordinator.initial plan
  match initial.startSyncOutcome result first second with
  | .ok (some lease) =>
      match config.takeoverSessionIdFromLocator lease.locator with
      | some sessionId =>
          .ok
            { principalBinding
              coordinator := initial.startSync result first second
              registered := true
              transports := [sessionId]
              lease
              activeSessionId := some sessionId
              fallbackCapability := config.capability 0
              capabilities := 1
              accepted := false
              completed := false
              requests := .empty
              responses := [] }
      | none => .error "Managed Browser Handoff locator is invalid"
  | _ => .error "Managed Browser Handoff transport did not start"

variable (session : ManagedHandoffSession)

def respond (response : ManagedResponse) : ManagedHandoffSession :=
  { session with responses := session.responses ++ [response] }

/-- The request awaiting this ticket is answered. -/
def answer (ticket : Nat) (response : ManagedResponse) : ManagedHandoffSession :=
  { session with requests := session.requests.delete ticket }.respond response

/-- `#handleFallback` up to its first await. -/
def handleFallback (config : ManagedRuntimeConfig) (request : FallbackRequest)
    (sessionId : String) : ManagedHandoffSession :=
  if sessionId ∉ session.transports ∨ session.completed = true ∨
      request.boundPrincipal ≠ some session.principalBinding then
    session.respond ⟨404, .error "takeover_unavailable"⟩
  else if request.method ≠ "POST" then
    session.respond ⟨405, .error "method_not_allowed"⟩
  else if request.origin ≠ some config.publicOrigin then
    session.respond ⟨403, .error "origin_not_allowed"⟩
  else if safeCapabilityEqual request.capability session.fallbackCapability = false then
    session.respond ⟨404, .error "takeover_unavailable"⟩
  else
    { session with
      coordinator := session.coordinator.call (.fallback session.lease .transportUnavailable)
      requests := session.requests.set session.coordinator.tickets
        (.falling sessionId session.lease) }

def isStale : Failure → Bool
  | .coordinator error => decide (error.code = .stale)
  | .driver => false

/-- What `#handleFallback` does first after a fallback that did not reject. -/
def rotate (config : ManagedRuntimeConfig) (sessionId : String) : ManagedHandoffSession :=
  { session with
    transports := session.transports.filter (· ≠ sessionId)
    fallbackCapability := config.capability session.capabilities
    capabilities := session.capabilities + 1 }

/-- The transport that follows is stored. -/
def adopt (sessionId : String) (lease : ManagedBrowserHandoffTransportLease) :
    ManagedHandoffSession :=
  { session with
    lease
    activeSessionId := some sessionId
    transports := sessionId :: session.transports.filter (· ≠ sessionId) }

/-- `#handleFallback` after the coordinator's answer. -/
def afterFallback (config : ManagedRuntimeConfig) (ticket : Nat) (sessionId : String)
    (outcome : Except Failure (Option ManagedBrowserHandoffTransportLease)) :
    ManagedHandoffSession :=
  match outcome with
  | .error failure =>
      session.answer ticket
        (if isStale failure then ⟨409, .error "transport_transition_stale"⟩
        else ⟨503, .error "transport_transition_unavailable"⟩)
  | .ok none =>
      { session.rotate config sessionId with activeSessionId := none }.answer ticket
        ⟨503, .error "transport_fallback_exhausted"⟩
  | .ok (some lease) =>
      match config.takeoverSessionIdFromLocator lease.locator with
      | none =>
          { session.rotate config sessionId with
            coordinator := session.coordinator.call (.revoke (some lease))
            requests := (session.requests.delete ticket).set session.coordinator.tickets
              .discarding }
      | some nextSessionId =>
          ((session.rotate config sessionId).adopt nextSessionId lease).answer ticket
            ⟨200, .path ((config.pathname lease.locator).getD "")⟩

/-- `#handleFallback` after the awaited revoke of a lease without a session id. -/
def afterDiscard (ticket : Nat) : ManagedHandoffSession :=
  { session with activeSessionId := none }.answer ticket
    ⟨503, .error "transport_transition_unavailable"⟩

def forgetSession : ManagedHandoffSession :=
  { session with
    registered := false
    transports := session.transports.filter fun id => some id ≠ session.activeSessionId }

/-- `revoke` of the session's intervention; its rejection is swallowed. -/
def revoke : ManagedHandoffSession :=
  if session.registered then
    { session.forgetSession with
      coordinator := session.coordinator.call (.revoke (some session.lease)) }
  else
    session

/-- `revokeUnclaimed` also withdraws the driver's own session, which no field here shows. -/
def revokeUnclaimed : ManagedHandoffSession := session.revoke

def next (config : ManagedRuntimeConfig) (session : ManagedHandoffSession) :
    ManagedEvent → Option ManagedHandoffSession
  | .transport event =>
      if event.internal then
        (session.coordinator.next event).map fun coordinator => { session with coordinator }
      else
        none
  | .handle request =>
      match fallbackRoute request.pathname with
      | some sessionId => some (session.handleFallback config request sessionId)
      | none => some session
  | .resume ticket =>
      match session.requests.get? ticket, session.coordinator.outcomes.lookup ticket with
      | some (.falling sessionId _), some outcome =>
          some (session.afterFallback config ticket sessionId outcome)
      | some .discarding, some _ => some (session.afterDiscard ticket)
      | _, _ => none
  | .revoke => some session.revoke
  | .revokeUnclaimed => some session.revokeUnclaimed
  | .acceptDone => some { session with accepted := true }
  | .completion => if session.accepted then some { session with completed := true } else none
  | .displaced sessionId =>
      some { session with transports := session.transports.filter (· ≠ sessionId) }

/-! ## A sample session -/

/-- The path of an `https` URL without query. -/
def samplePathname (text : String) : Option String :=
  match text.toList.splitOn '/' with
  | ['h', 't', 't', 'p', 's', ':'] :: [] :: _ :: path =>
      some ("/" ++ String.intercalate "/" (path.map String.ofList))
  | _ => none

def sampleConfig : ManagedRuntimeConfig where
  publicOrigin := "https://takeover.example"
  pathname := samplePathname
  capability := fun drawn => "fallback-capability-of-the-sample-" ++ toString drawn

/-- The session a start of the sample plan returns. -/
def sampleSession : ManagedHandoffSession where
  principalBinding := "human-1"
  coordinator := ManagedBrowserHandoffTransportCoordinator.servingState
  registered := true
  transports := ["session-0001"]
  lease := ManagedBrowserHandoffTransportCoordinator.sampleLease
  activeSessionId := some "session-0001"
  fallbackCapability := "fallback-capability-of-the-sample-0"
  capabilities := 1
  accepted := false
  completed := false
  requests := .empty
  responses := []

theorem sampleSession_started :
    start sampleConfig "human-1" ManagedBrowserHandoffTransportCoordinator.samplePlan
      (.locator ManagedBrowserHandoffTransportCoordinator.sampleLease.locator) .pending .pending =
      .ok sampleSession := by
  decide

def sampleRequest : FallbackRequest where
  pathname := "/takeover/api/transport-fallback/session-0001"
  boundPrincipal := some "human-1"
  method := "POST"
  origin := some "https://takeover.example"
  capability := some "fallback-capability-of-the-sample-0"

end ManagedHandoffSession

end ExecutionHandoff.Transport
