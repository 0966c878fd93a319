import ExecutionHandoff.Takeover.SessionCalls
import ExecutionHandoff.WebSocket.Messages

/-!
# The session authority of the WebSocket ingress

`ExperimentalWebSocketTakeoverSessionAuthority` turns a bootstrap request into
a handshake ticket and a presented ticket into a lease of the shared session
manager.  A session record is a mutable object that both maps and every lease
refer to, so it is named by its place in the order of creation and outlives
its entries.  The authority and the manager read one clock.
-/

namespace ExecutionHandoff.WebSocket

open Library Takeover

structure WebSocketSessionRecord where
  sessionId : String
  principalBinding : String
  expiresAt : Int
  inputPolicy : WebSocketTakeoverInputPolicy
  completionCapability : String
  ticket : Option String
  reconnectHandle : Option String
  currentClientBinding : Option String
  currentGeneration : Option Int
  deriving DecidableEq

/-- The closures of a lease share the record and the binding they were made for. -/
structure WebSocketTakeoverLease where
  record : Nat
  binding : WebSocketTakeoverBinding
  deriving DecidableEq

structure ExperimentalWebSocketAcceptedSession where
  binding : WebSocketTakeoverBinding
  inputPolicy : WebSocketTakeoverInputPolicy
  lease : WebSocketTakeoverLease
  deriving DecidableEq

/-- What a call throws: an error of the takeover session or a plain one. -/
inductive AuthorityError where
  | takeover (error : TakeoverSessionError)
  | error (message : String)
  deriving DecidableEq

structure SessionAuthorityConfig where
  sessions : TakeoverSessionConfig
  createTicket : Nat → String
  createClientBinding : Nat → String

/-- The authority, the manager it shares, and the leases handed out, newest first. -/
structure ExperimentalWebSocketTakeoverSessionAuthority where
  sessions : TakeoverSessionManager
  records : List WebSocketSessionRecord
  sessionsById : OrderedMap String Nat
  sessionsByTicket : OrderedMap String Nat
  ticketsCreated : Nat
  clientBindingsCreated : Nat
  leases : List WebSocketTakeoverLease
  deriving DecidableEq

abbrev AuthorityM (α : Type) :=
  StateExcept ExperimentalWebSocketTakeoverSessionAuthority AuthorityError α

/-! ## Input policies -/

def inputPolicyKeys : List String := ["tap", "scroll", "text", "key"]

def booleanField (fields : List (String × JsonField)) (key : String) : Option Bool :=
  match fields.lookup key with
  | some (.boolean value) => some value
  | _ => none

/-- `validateInputPolicy`: exactly the four keys, all of them booleans. -/
def exactInputPolicy : JsonValue → Option WebSocketTakeoverInputPolicy
  | .other => none
  | .object fields =>
      if hasOnlyKeys fields inputPolicyKeys then
        match booleanField fields "tap", booleanField fields "scroll", booleanField fields "text",
          booleanField fields "key" with
        | some tap, some scroll, some text, some key => some ⟨tap, scroll, text, key⟩
        | _, _, _, _ => none
      else
        none

def validateInputPolicy (value : JsonValue) : AuthorityM WebSocketTakeoverInputPolicy :=
  match exactInputPolicy value with
  | some policy => pure policy
  | none => StateExcept.throwing (.error "WebSocket takeover requires an exact input policy")

namespace WebSocketSessionRecord

/-- The test of `assertRecordBinding`; a client binding is never empty, so truthiness is
presence. -/
def isCurrent (record : WebSocketSessionRecord) (binding : WebSocketTakeoverBinding) : Bool :=
  record.currentGeneration == some binding.clientGeneration
    && record.currentClientBinding == some binding.clientBinding

def granted (record : WebSocketSessionRecord) (grant : TakeoverGrant) : WebSocketSessionRecord :=
  { record with
    reconnectHandle := some grant.reconnectHandle
    currentClientBinding := some grant.clientBinding
    currentGeneration := some grant.clientGeneration }

end WebSocketSessionRecord

def bindingOf (grant : TakeoverGrant) : WebSocketTakeoverBinding where
  interventionId := grant.interventionId
  epoch := grant.epoch
  principalBinding := grant.principalBinding
  clientBinding := grant.clientBinding
  clientGeneration := grant.clientGeneration

namespace ExperimentalWebSocketTakeoverSessionAuthority

/-! ## Reading and writing -/

def withSessions (authority : ExperimentalWebSocketTakeoverSessionAuthority)
    (sessions : TakeoverSessionManager) : ExperimentalWebSocketTakeoverSessionAuthority :=
  { authority with sessions }

def modify (authority : ExperimentalWebSocketTakeoverSessionAuthority) (key : Nat)
    (f : WebSocketSessionRecord → WebSocketSessionRecord) :
    ExperimentalWebSocketTakeoverSessionAuthority :=
  { authority with records := authority.records.modify key f }

def dropTicket (authority : ExperimentalWebSocketTakeoverSessionAuthority)
    (ticket : Option String) : ExperimentalWebSocketTakeoverSessionAuthority :=
  match ticket with
  | some ticket =>
      { authority with sessionsByTicket := authority.sessionsByTicket.delete ticket }
  | none => authority

/-- `#forgetRecord`. -/
def forget (authority : ExperimentalWebSocketTakeoverSessionAuthority)
    (record : WebSocketSessionRecord) : ExperimentalWebSocketTakeoverSessionAuthority :=
  { authority.dropTicket record.ticket with
    sessionsById := authority.sessionsById.delete record.sessionId }

def forgetExpired (time : Int) (authority : ExperimentalWebSocketTakeoverSessionAuthority)
    (key : Nat) : ExperimentalWebSocketTakeoverSessionAuthority :=
  match authority.records[key]? with
  | some record => if record.expiresAt ≤ time then authority.forget record else authority
  | none => authority

/-- The whole loop of `#pruneExpired`. -/
def pruned (authority : ExperimentalWebSocketTakeoverSessionAuthority) (time : Int) :
    ExperimentalWebSocketTakeoverSessionAuthority :=
  authority.sessionsById.values.foldl (forgetExpired time) authority

/-- A call of the session manager; what it throws is thrown on. -/
def onSessions {α : Type} (action : SessionM α) : AuthorityM α := fun authority =>
  match action authority.sessions with
  | (.ok value, sessions) => (.ok value, authority.withSessions sessions)
  | (.error error, sessions) => (.error (.takeover error), authority.withSessions sessions)

/-- The record behind a reference; references to records that do not exist never arise. -/
def recordAt (key : Nat) : AuthorityM WebSocketSessionRecord := do
  match (← StateExcept.read).records[key]? with
  | some record => return record
  | none => StateExcept.throwing (.takeover .unavailable)

def forgetRecord (record : WebSocketSessionRecord) : AuthorityM Unit :=
  StateExcept.update fun authority => authority.forget record

variable (config : SessionAuthorityConfig)

def now : AuthorityM Int := onSessions (TakeoverSessionManager.now config.sessions)

def createTicket : AuthorityM String := do
  let authority ← StateExcept.read
  StateExcept.update fun state => { state with ticketsCreated := state.ticketsCreated + 1 }
  return config.createTicket authority.ticketsCreated

def createClientBinding : AuthorityM String := do
  let authority ← StateExcept.read
  StateExcept.update fun state =>
    { state with clientBindingsCreated := state.clientBindingsCreated + 1 }
  return config.createClientBinding authority.clientBindingsCreated

def pruneExpired : AuthorityM Unit := do
  let time ← now config
  StateExcept.update fun authority => authority.pruned time

/-! ## Tickets -/

def createRecord (locator : TakeoverLocator) (sessionId boundPrincipal : String)
    (inputPolicy : WebSocketTakeoverInputPolicy) : AuthorityM Nat := do
  let completionCapability ← onSessions
    (TakeoverSessionManager.issueCompletionCapability config.sessions sessionId boundPrincipal)
  let key := (← StateExcept.read).records.length
  StateExcept.update fun authority =>
    { authority with
      records := authority.records ++ [{
        sessionId
        principalBinding := boundPrincipal
        expiresAt := locator.expiresAt
        inputPolicy
        completionCapability
        ticket := none
        reconnectHandle := none
        currentClientBinding := none
        currentGeneration := none }]
      sessionsById := authority.sessionsById.set sessionId key }
  return key

/-- The held record of the session, if it agrees with the request, or a fresh one. -/
def recordFor (locator : TakeoverLocator) (sessionId boundPrincipal : String)
    (inputPolicy : WebSocketTakeoverInputPolicy) : AuthorityM Nat := do
  match (← StateExcept.read).sessionsById.get? sessionId with
  | some key =>
      let record ← recordAt key
      StateExcept.require
        (same record.principalBinding boundPrincipal && record.inputPolicy == inputPolicy)
        (.takeover .unavailable)
      return key
  | none => createRecord config locator sessionId boundPrincipal inputPolicy

/-- The old ticket goes before the new one is known to be valid. -/
def rotateTicket (key : Nat) : AuthorityM String := do
  let record ← recordAt key
  StateExcept.update fun authority => authority.dropTicket record.ticket
  let ticket ← createTicket config
  let authority ← StateExcept.read
  StateExcept.require (shaped 32 128 ticket && !authority.sessionsByTicket.contains ticket)
    (.error "WebSocket handshake ticket generator returned an invalid ticket")
  StateExcept.update fun authority =>
    { authority.modify key fun record => { record with ticket := some ticket } with
      sessionsByTicket := authority.sessionsByTicket.set ticket key }
  return ticket

def issueHandshakeTicket (sessionId boundPrincipal : String) (inputPolicy : JsonValue) :
    AuthorityM String := do
  let inputPolicy ← validateInputPolicy inputPolicy
  pruneExpired config
  let locator ← onSessions
    (TakeoverSessionManager.validateLocator config.sessions sessionId boundPrincipal)
  let key ← recordFor config locator sessionId boundPrincipal inputPolicy
  rotateTicket config key

def invalidateTicket (ticket : String) : AuthorityM Unit := do
  match (← StateExcept.read).sessionsByTicket.get? ticket with
  | none => return ()
  | some key =>
      StateExcept.update fun authority =>
        { authority.modify key fun record =>
            if record.ticket = some ticket then { record with ticket := none } else record with
          sessionsByTicket := authority.sessionsByTicket.delete ticket }

/-! ## Sessions -/

/-- The first accept of a record claims its session, every later one reconnects. -/
def takeGrant (record : WebSocketSessionRecord) (nextClientBinding : String) :
    SessionM TakeoverGrant :=
  match record.reconnectHandle with
  | none =>
      TakeoverSessionManager.claimClient config.sessions record.sessionId record.principalBinding
        nextClientBinding
  | some reconnectHandle =>
      TakeoverSessionManager.reconnectClient config.sessions record.sessionId
        record.principalBinding reconnectHandle nextClientBinding

def acceptRecord (key : Nat) (record : WebSocketSessionRecord) :
    AuthorityM ExperimentalWebSocketAcceptedSession := do
  let nextClientBinding ← createClientBinding config
  StateExcept.require (shaped 24 128 nextClientBinding)
    (.error "WebSocket client binding generator returned an invalid binding")
  let grant ← onSessions (takeGrant config record nextClientBinding)
  let lease : WebSocketTakeoverLease := ⟨key, bindingOf grant⟩
  StateExcept.update fun authority =>
    { authority.modify key fun record => record.granted grant with
      leases := lease :: authority.leases }
  return ⟨bindingOf grant, record.inputPolicy, lease⟩

def accept (sessionId ticket : String) : AuthorityM ExperimentalWebSocketAcceptedSession := do
  pruneExpired config
  match (← StateExcept.read).sessionsByTicket.get? ticket with
  | none => StateExcept.throwing (.takeover .unavailable)
  | some key =>
      let record ← recordAt key
      StateExcept.require (record.ticket == some ticket && same record.sessionId sessionId)
        (.takeover .unavailable)
      let time ← now config
      StateExcept.require (decide (time < record.expiresAt)) (.takeover .unavailable)
      acceptRecord config key record

def revokeSession (sessionId : String) : AuthorityM Unit := do
  match (← StateExcept.read).sessionsById.get? sessionId with
  | none => onSessions (TakeoverSessionManager.revoke sessionId)
  | some key =>
      let record ← recordAt key
      forgetRecord record
      onSessions (TakeoverSessionManager.revoke sessionId)

/-! ## Leases -/

def assertRecordBinding (record : WebSocketSessionRecord) (binding : WebSocketTakeoverBinding) :
    AuthorityM Unit :=
  StateExcept.require (record.isCurrent binding) (.takeover .staleGeneration)

def beginUse (lease : WebSocketTakeoverLease) : AuthorityM Unit := do
  let record ← recordAt lease.record
  assertRecordBinding record lease.binding
  let _ ← onSessions (TakeoverSessionManager.beginBoundUse config.sessions record.sessionId
    record.principalBinding lease.binding.clientBinding lease.binding.clientGeneration.toNat)
  return ()

def endUse (lease : WebSocketTakeoverLease) : AuthorityM Unit := do
  let record ← recordAt lease.record
  onSessions (TakeoverSessionManager.endUse config.sessions record.sessionId
    record.principalBinding lease.binding.clientBinding lease.binding.clientGeneration.toNat)

/-- The `completed` hook is given the result after the record is forgotten. -/
def complete (lease : WebSocketTakeoverLease) : AuthorityM TakeoverCompletionResult := do
  let record ← recordAt lease.record
  assertRecordBinding record lease.binding
  let completion ← onSessions (TakeoverSessionManager.complete config.sessions record.sessionId
    record.completionCapability record.principalBinding)
  forgetRecord record
  return completion

/-- Run the call, taking a session that is gone or expired for a successful cleanup. -/
def tolerant (action : SessionM Unit) : SessionM Unit := fun sessions =>
  match action sessions with
  | (.error error, after) =>
      if error.code = .notFound ∨ error.code = .expired then (.ok (), after)
      else (.error error, after)
  | outcome => outcome

def release (lease : WebSocketTakeoverLease) : AuthorityM Unit := do
  let record ← recordAt lease.record
  if record.isCurrent lease.binding then
    onSessions (tolerant (TakeoverSessionManager.releaseClientGeneration config.sessions
      record.sessionId record.principalBinding lease.binding.clientBinding
      lease.binding.clientGeneration.toNat))
  else
    return ()

end ExperimentalWebSocketTakeoverSessionAuthority

/-! ## Runs -/

/-- Every call on the authority, on a lease it handed out, or on the shared manager. -/
inductive AuthorityOp where
  | issueHandshakeTicket (sessionId boundPrincipal : String) (inputPolicy : JsonValue)
  | accept (sessionId ticket : String)
  | beginUse (lease : WebSocketTakeoverLease)
  | endUse (lease : WebSocketTakeoverLease)
  | complete (lease : WebSocketTakeoverLease)
  | release (lease : WebSocketTakeoverLease)
  | invalidateTicket (ticket : String)
  | revokeSession (sessionId : String)
  | session (op : SessionOp)
  deriving DecidableEq

inductive AuthorityReply where
  | ticket (ticket : String)
  | accepted (session : ExperimentalWebSocketAcceptedSession)
  | completion (completion : TakeoverCompletionResult)
  | session (reply : SessionReply)
  | done
  deriving DecidableEq

abbrev AuthorityCall := AuthorityOp × Except AuthorityError AuthorityReply

/-- The lease a call is made on, if any. -/
def AuthorityOp.lease? : AuthorityOp → Option WebSocketTakeoverLease
  | .beginUse lease => some lease
  | .endUse lease => some lease
  | .complete lease => some lease
  | .release lease => some lease
  | _ => none

namespace ExperimentalWebSocketTakeoverSessionAuthority

variable (config : SessionAuthorityConfig)

def perform : AuthorityOp → AuthorityM AuthorityReply
  | .issueHandshakeTicket sessionId boundPrincipal inputPolicy => do
      return .ticket (← issueHandshakeTicket config sessionId boundPrincipal inputPolicy)
  | .accept sessionId ticket => do
      return .accepted (← accept config sessionId ticket)
  | .beginUse lease => do
      beginUse config lease
      return .done
  | .endUse lease => do
      endUse config lease
      return .done
  | .complete lease => do
      return .completion (← complete config lease)
  | .release lease => do
      release config lease
      return .done
  | .invalidateTicket ticket => do
      invalidateTicket ticket
      return .done
  | .revokeSession sessionId => do
      revokeSession sessionId
      return .done
  | .session op => do
      return .session (← onSessions (TakeoverSessionManager.perform config.sessions op))

/-- A lease is known only once it was handed out. -/
def handed (authority : ExperimentalWebSocketTakeoverSessionAuthority) (op : AuthorityOp) : Bool :=
  op.lease?.all fun lease => authority.leases.contains lease

/-- A call together with its outcome. -/
def Step : ExperimentalWebSocketTakeoverSessionAuthority → AuthorityCall →
    ExperimentalWebSocketTakeoverSessionAuthority → Prop :=
  Guarded (CallStep (perform config)) fun authority call => authority.handed call.1 = true

def initial : ExperimentalWebSocketTakeoverSessionAuthority where
  sessions := TakeoverSessionManager.initial
  records := []
  sessionsById := OrderedMap.empty
  sessionsByTicket := OrderedMap.empty
  ticketsCreated := 0
  clientBindingsCreated := 0
  leases := []

end ExperimentalWebSocketTakeoverSessionAuthority

end ExecutionHandoff.WebSocket
