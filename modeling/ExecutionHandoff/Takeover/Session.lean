import Mathlib
import ExecutionHandoff.Library.OrderedMap
import ExecutionHandoff.Library.StateExcept

/-!
# The takeover session manager

The in-memory record store that arbitrates every Human transport of an
intervention.  The clock and the id generator of the constructor are functions
of how often they have been called, so two reads inside one operation may
differ.  Strings are well-formed Unicode, for which comparing UTF-8 buffers is
comparing the strings.
-/

namespace ExecutionHandoff.Takeover

open Library

structure TakeoverLocator where
  id : String
  interventionId : String
  epoch : Int
  principalBinding : String
  expiresAt : Int
  deriving DecidableEq

structure TakeoverGrant extends TakeoverLocator where
  capability : String
  reconnectHandle : String
  clientBinding : String
  clientGeneration : Nat
  deriving DecidableEq

/-- A grant without its two credentials. -/
structure TakeoverUse extends TakeoverLocator where
  clientBinding : String
  clientGeneration : Nat
  deriving DecidableEq

structure TakeoverCompletionResult extends TakeoverLocator where
  alreadyCompleted : Bool
  deriving DecidableEq

structure TakeoverRecord extends TakeoverLocator where
  completionExpiresAt : Int
  revoked : Bool
  completed : Bool
  clientBinding : Option String
  clientGeneration : Nat
  lastSeenAt : Option Int
  inFlight : Nat
  released : Bool
  deriving DecidableEq

inductive TakeoverErrorCode where
  | notFound
  | expired
  | forbidden
  | clientActive
  deriving DecidableEq

structure TakeoverSessionError where
  code : TakeoverErrorCode
  message : String
  deriving DecidableEq

namespace TakeoverSessionError

def notActive : TakeoverSessionError := ⟨.notFound, "Takeover session is not active"⟩
def sessionExpired : TakeoverSessionError := ⟨.expired, "Takeover session expired"⟩
def unavailable : TakeoverSessionError := ⟨.forbidden, "Takeover session is unavailable"⟩
def stillActive : TakeoverSessionError := ⟨.clientActive, "Takeover client is still active"⟩
def staleGeneration : TakeoverSessionError := ⟨.forbidden, "Takeover generation is stale"⟩
def invalidCapability : TakeoverSessionError := ⟨.forbidden, "Takeover capability is invalid"⟩
def invalidReconnectHandle : TakeoverSessionError :=
  ⟨.forbidden, "Takeover reconnect handle is invalid"⟩
def invalidCompletionCapability : TakeoverSessionError :=
  ⟨.forbidden, "Takeover completion capability is invalid"⟩
def notClaimed : TakeoverSessionError :=
  ⟨.forbidden, "Takeover client has not claimed the session"⟩

end TakeoverSessionError

/-- The constructor's parameters, with the checks the constructor makes on them.
`hmac` is SHA-256 HMAC under the signing key, rendered as base64url. -/
structure TakeoverSessionConfig where
  ttlMs : Int
  reconnectIdleMs : Int
  completionGraceMs : Int
  now : Nat → Int
  createId : Nat → String
  hmac : String → String
  ttl_valid : 1000 ≤ ttlMs
  reconnectIdle_valid : 250 ≤ reconnectIdleMs ∧ reconnectIdleMs < ttlMs
  completionGrace_valid : 1000 ≤ completionGraceMs ∧ completionGraceMs ≤ 30 * 60000
  now_monotone : Monotone now
  createId_injective : Function.Injective createId

namespace TakeoverSessionConfig

def defaultReconnectIdleMs (ttlMs : Int) : Int := min 5000 (max 250 (ttlMs / 4))

/-- The default idle time passes the constructor's own check for every valid ttl. -/
theorem defaultReconnectIdleMs_valid {ttlMs : Int} (valid : 1000 ≤ ttlMs) :
    250 ≤ defaultReconnectIdleMs ttlMs ∧ defaultReconnectIdleMs ttlMs < ttlMs := by
  unfold defaultReconnectIdleMs
  omega

/-- The constructor: omitted times take their defaults and every time is checked. -/
def construct (ttlMs : Int) (now : Nat → Int) (now_monotone : Monotone now)
    (createId : Nat → String) (createId_injective : Function.Injective createId)
    (hmac : String → String) (reconnectIdleMs completionGraceMs : Option Int) :
    Except String TakeoverSessionConfig :=
  let idle := reconnectIdleMs.getD (defaultReconnectIdleMs ttlMs)
  let grace := completionGraceMs.getD ttlMs
  if ttl : 1000 ≤ ttlMs then
    if idleValid : 250 ≤ idle ∧ idle < ttlMs then
      if graceValid : 1000 ≤ grace ∧ grace ≤ 30 * 60000 then
        .ok ⟨ttlMs, idle, grace, now, createId, hmac, ttl, idleValid, graceValid,
          now_monotone, createId_injective⟩
      else
        .error "takeover completion grace must be between 1s and 30m"
    else
      .error "takeover reconnect idle must be at least 250ms and less than the takeover ttl"
  else
    .error "takeover ttl must be at least 1000ms"

end TakeoverSessionConfig

/-- The mutable state: the records, and how often the clock and the id generator ran. -/
structure TakeoverSessionManager where
  records : OrderedMap String TakeoverRecord
  reads : Nat
  created : Nat
  deriving DecidableEq

abbrev SessionM (α : Type) := StateExcept TakeoverSessionManager TakeoverSessionError α

/-! ## Record predicates and credentials -/

def same (left right : String) : Bool := left == right

namespace TakeoverRecord

def locator (record : TakeoverRecord) : TakeoverLocator := record.toTakeoverLocator

/-- `!!record.clientBinding && record.clientGeneration >= 1`; the empty string is falsy. -/
def claimed (record : TakeoverRecord) : Bool :=
  record.clientBinding.any (fun binding => binding != "") && decide (1 ≤ record.clientGeneration)

/-- `!!record.lastSeenAt`; zero is falsy. -/
def seen (record : TakeoverRecord) : Bool := record.lastSeenAt.any fun time => time != 0

/-- `record.clientBinding && same(record.clientBinding, clientBinding)`. -/
def boundTo (record : TakeoverRecord) (clientBinding : String) : Bool :=
  record.clientBinding.any fun current => current != "" && same current clientBinding

/-- The test by which `pruneExpired` drops a record. -/
def prunable (now : Int) (record : TakeoverRecord) : Bool :=
  (record.revoked && !record.completed)
    || (!record.claimed && decide (record.expiresAt ≤ now))
    || (record.claimed && decide (record.completionExpiresAt ≤ now))

end TakeoverRecord

def base64UrlChar (c : Char) : Bool := c.isAlphanum || c == '_' || c == '-'

/-- The anchored pattern `[A-Za-z0-9_-]` with a length range. -/
def shaped (least most : Nat) (text : String) : Bool :=
  let chars := text.toList
  decide (least ≤ chars.length) && decide (chars.length ≤ most) && chars.all base64UrlChar

/-- The text fed to the HMAC: the fields in order, separated by NUL. -/
def signedText (fields : List String) : String := String.intercalate "\x00" fields

def capabilityText (record : TakeoverRecord) (clientBinding : String) : String :=
  signedText ["mcp-execution-handoff/takeover/v2", record.id, record.interventionId,
    toString record.epoch, record.principalBinding, clientBinding,
    toString record.clientGeneration, toString record.expiresAt]

def reconnectHandleText (record : TakeoverRecord) (clientBinding : String) : String :=
  signedText ["mcp-execution-handoff/takeover-reconnect/v1", record.id, record.interventionId,
    toString record.epoch, record.principalBinding, clientBinding,
    toString record.clientGeneration, toString record.expiresAt]

def completionCapabilityText (record : TakeoverRecord) : String :=
  signedText ["mcp-execution-handoff/takeover-completion/v1", record.id, record.interventionId,
    toString record.epoch, record.principalBinding, toString record.expiresAt,
    toString record.completionExpiresAt]

namespace TakeoverSessionManager

variable (config : TakeoverSessionConfig)

def initial : TakeoverSessionManager := ⟨OrderedMap.empty, 0, 0⟩

def now : SessionM Int := do
  let manager ← StateExcept.read
  StateExcept.update fun state => { state with reads := state.reads + 1 }
  return config.now manager.reads

def createId : SessionM String := do
  let manager ← StateExcept.read
  StateExcept.update fun state => { state with created := state.created + 1 }
  return config.createId manager.created

/-- Writes through a record reference obtained from the map under `id`. -/
def putRecord (id : String) (record : TakeoverRecord) : SessionM Unit :=
  StateExcept.update fun state => { state with records := state.records.set id record }

def pruneExpired : SessionM Unit := do
  let time ← now config
  StateExcept.update fun state =>
    { state with records := state.records.filterValues fun record => !record.prunable time }

def requireActive (id : String) : SessionM TakeoverRecord := do
  match (← StateExcept.read).records.get? id with
  | none => StateExcept.throwing .notActive
  | some record =>
      StateExcept.require (!record.revoked) .notActive
      let time ← now config
      StateExcept.require (decide (time < record.expiresAt)) .sessionExpired
      return record

def assertPrincipal (record : TakeoverRecord) (principalBinding : String) : SessionM Unit :=
  StateExcept.require (same record.principalBinding principalBinding) .unavailable

def assertClientBindingShape (clientBinding : String) : SessionM Unit :=
  StateExcept.require (shaped 24 128 clientBinding) .unavailable

def assertClient (record : TakeoverRecord) (clientBinding : String) : SessionM Unit := do
  assertClientBindingShape clientBinding
  StateExcept.require (record.boundTo clientBinding) .unavailable

def assertReconnectHandleShape (reconnectHandle : String) : SessionM Unit :=
  StateExcept.require (shaped 32 128 reconnectHandle) .invalidReconnectHandle

def assertCompletionCapabilityShape (completionCapability : String) : SessionM Unit :=
  StateExcept.require (shaped 32 128 completionCapability) .invalidCompletionCapability

/-- The binding of a claimed record; the credential functions throw on any other record. -/
def claimedBinding (record : TakeoverRecord) : SessionM String := do
  StateExcept.require record.claimed .notClaimed
  return record.clientBinding.getD ""

def capabilityFor (record : TakeoverRecord) : SessionM String := do
  let clientBinding ← claimedBinding record
  return config.hmac (capabilityText record clientBinding)

def reconnectHandleFor (record : TakeoverRecord) : SessionM String := do
  let clientBinding ← claimedBinding record
  return config.hmac (reconnectHandleText record clientBinding)

def completionCapabilityFor (record : TakeoverRecord) : String :=
  config.hmac (completionCapabilityText record)

def assertReconnectHandle (record : TakeoverRecord) (reconnectHandle : String) :
    SessionM Unit := do
  let expected ← reconnectHandleFor config record
  StateExcept.require (same expected reconnectHandle) .invalidReconnectHandle

def assertCompletionCapability (record : TakeoverRecord) (completionCapability : String) :
    SessionM Unit :=
  StateExcept.require (same (completionCapabilityFor config record) completionCapability)
    .invalidCompletionCapability

def grant (record : TakeoverRecord) : SessionM TakeoverGrant := do
  let clientBinding ← claimedBinding record
  let capability ← capabilityFor config record
  let reconnectHandle ← reconnectHandleFor config record
  return { record.locator with
    capability, reconnectHandle, clientBinding, clientGeneration := record.clientGeneration }

def useOf (record : TakeoverRecord) : TakeoverUse :=
  { record.locator with
    clientBinding := record.clientBinding.getD ""
    clientGeneration := record.clientGeneration }

/-! ## Operations -/

/-- The live record `ensure` hands out again instead of minting a new one. -/
def reusable (time : Int) (interventionId : String) (epoch : Int) (principalBinding : String)
    (record : TakeoverRecord) : Bool :=
  !record.revoked && decide (time < record.expiresAt)
    && record.interventionId == interventionId && record.epoch == epoch
    && record.principalBinding == principalBinding

/-- What minting does to an existing record: live media of the intervention is revoked. -/
def supersede (time : Int) (interventionId : String) (record : TakeoverRecord) : TakeoverRecord :=
  if record.interventionId = interventionId ∧ time < record.expiresAt then
    { record with revoked := true }
  else
    record

def minted (id interventionId : String) (epoch : Int) (principalBinding : String) (time : Int) :
    TakeoverRecord where
  id := id
  interventionId := interventionId
  epoch := epoch
  principalBinding := principalBinding
  expiresAt := time + config.ttlMs
  completionExpiresAt := time + config.ttlMs + config.completionGraceMs
  revoked := false
  completed := false
  clientBinding := none
  clientGeneration := 0
  lastSeenAt := none
  inFlight := 0
  released := false

def ensure (interventionId : String) (epoch : Int) (principalBinding : String) :
    SessionM TakeoverLocator := do
  pruneExpired config
  let time ← now config
  let manager ← StateExcept.read
  match manager.records.values.find? (reusable time interventionId epoch principalBinding) with
  | some record => return record.locator
  | none =>
      StateExcept.update fun state =>
        { state with records := state.records.mapValues (supersede time interventionId) }
      let id ← createId config
      let record := minted config id interventionId epoch principalBinding time
      putRecord id record
      return record.locator

def validateLocator (id principalBinding : String) : SessionM TakeoverLocator := do
  let record ← requireActive config id
  assertPrincipal record principalBinding
  return record.locator

/-- Past the media expiry only a claimed record inside its completion grace is accepted. -/
def assertCompletable (record : TakeoverRecord) : SessionM Unit := do
  let time ← now config
  if record.expiresAt ≤ time then
    StateExcept.require record.claimed .sessionExpired
    let later ← now config
    StateExcept.require (decide (later < record.completionExpiresAt)) .sessionExpired
  else
    return ()

def issueCompletionCapability (id principalBinding : String) : SessionM String := do
  match (← StateExcept.read).records.get? id with
  | none => StateExcept.throwing .notActive
  | some record =>
      StateExcept.require (!record.revoked) .notActive
      assertPrincipal record principalBinding
      assertCompletable config record
      return completionCapabilityFor config record

def complete (id completionCapability principalBinding : String) :
    SessionM TakeoverCompletionResult := do
  match (← StateExcept.read).records.get? id with
  | none => StateExcept.throwing .notActive
  | some record =>
      StateExcept.require (!(record.revoked && !record.completed)) .notActive
      assertCompletable config record
      assertPrincipal record principalBinding
      assertCompletionCapabilityShape completionCapability
      assertCompletionCapability config record completionCapability
      putRecord id { record with completed := true, revoked := true, released := true }
      return { record.locator with alreadyCompleted := record.completed }

def claimClient (id principalBinding clientBinding : String) : SessionM TakeoverGrant := do
  let record ← requireActive config id
  assertPrincipal record principalBinding
  assertClientBindingShape clientBinding
  match record.clientBinding with
  | none =>
      let time ← now config
      let record :=
        { record with
          clientBinding := some clientBinding
          clientGeneration := 1
          released := false
          lastSeenAt := some time }
      putRecord id record
      grant config record
  | some current =>
      StateExcept.require (!record.released && same current clientBinding) .unavailable
      let time ← now config
      let record := { record with lastSeenAt := some time }
      putRecord id record
      grant config record

def reconnectClient (id principalBinding reconnectHandle nextClientBinding : String) :
    SessionM TakeoverGrant := do
  let record ← requireActive config id
  assertPrincipal record principalBinding
  assertClientBindingShape nextClientBinding
  assertReconnectHandleShape reconnectHandle
  StateExcept.require (record.claimed && record.seen) .unavailable
  assertReconnectHandle config record reconnectHandle
  let time ← now config
  let idleMs := max 0 (time - record.lastSeenAt.getD 0)
  StateExcept.require
    (record.inFlight == 0 && (record.released || decide (config.reconnectIdleMs ≤ idleMs)))
    .stillActive
  let later ← now config
  let record :=
    { record with
      clientBinding := some nextClientBinding
      clientGeneration := record.clientGeneration + 1
      lastSeenAt := some later
      released := false }
  putRecord id record
  grant config record

def releaseClientGeneration (id principalBinding clientBinding : String)
    (clientGeneration : Nat) : SessionM Unit := do
  let record ← requireActive config id
  assertPrincipal record principalBinding
  assertClient record clientBinding
  StateExcept.require (record.clientGeneration == clientGeneration) .staleGeneration
  putRecord id { record with released := true }

def beginBoundUse (id principalBinding clientBinding : String) (clientGeneration : Nat) :
    SessionM TakeoverUse := do
  let record ← requireActive config id
  assertPrincipal record principalBinding
  assertClient record clientBinding
  StateExcept.require (!record.released && record.clientGeneration == clientGeneration)
    .staleGeneration
  let time ← now config
  let record := { record with inFlight := record.inFlight + 1, lastSeenAt := some time }
  putRecord id record
  return useOf record

def verify (id capability principalBinding clientBinding : String) : SessionM TakeoverUse := do
  let record ← requireActive config id
  assertPrincipal record principalBinding
  assertClient record clientBinding
  StateExcept.require (!record.released) .staleGeneration
  let expected ← capabilityFor config record
  StateExcept.require (same expected capability) .invalidCapability
  let time ← now config
  let record := { record with lastSeenAt := some time }
  putRecord id record
  return useOf record

def beginUse (id capability principalBinding clientBinding : String) : SessionM TakeoverUse := do
  let use ← verify config id capability principalBinding clientBinding
  let record ← requireActive config id
  putRecord id { record with inFlight := record.inFlight + 1 }
  return use

def endUse (id principalBinding clientBinding : String) (clientGeneration : Nat) :
    SessionM Unit := do
  match (← StateExcept.read).records.get? id with
  | none => return ()
  | some record =>
      if record.revoked then
        return ()
      else
        let time ← now config
        if record.expiresAt ≤ time
            || !(same record.principalBinding principalBinding
              && record.boundTo clientBinding
              && record.clientGeneration == clientGeneration) then
          return ()
        else
          let later ← now config
          putRecord id
            { record with inFlight := record.inFlight - 1, lastSeenAt := some later }

/-- Whether verified completion concerns a record at all. -/
def verifiable (time : Int) (interventionId : String) (epoch : Int) (record : TakeoverRecord) :
    Bool :=
  record.interventionId == interventionId && record.epoch == epoch
    && (record.completed || (!record.revoked && decide (time < record.completionExpiresAt)))

def completeVerified (time : Int) (interventionId : String) (epoch : Int)
    (record : TakeoverRecord) : TakeoverRecord :=
  if verifiable time interventionId epoch record && !record.completed then
    { record with
      completed := true
      revoked := true
      released := true
      completionExpiresAt := time + config.completionGraceMs }
  else
    record

def completeAfterVerification (interventionId : String) (epoch : Int) :
    SessionM (List TakeoverCompletionResult) := do
  pruneExpired config
  let time ← now config
  let manager ← StateExcept.read
  StateExcept.update fun state =>
    { state with records := state.records.mapValues (completeVerified config time interventionId epoch) }
  return (manager.records.values.filter (verifiable time interventionId epoch)).map fun record =>
    { record.locator with alreadyCompleted := record.completed }

def isCompleted (id principalBinding : String) : SessionM Bool := do
  match (← StateExcept.read).records.get? id with
  | none => return false
  | some record =>
      if record.completed then
        let time ← now config
        if record.completionExpiresAt ≤ time then
          return false
        else
          assertPrincipal record principalBinding
          return true
      else
        return false

def revoke (id : String) : SessionM Unit := do
  match (← StateExcept.read).records.get? id with
  | none => return ()
  | some record => putRecord id { record with revoked := true }

def revokeForIntervention (interventionId : String) : SessionM Unit :=
  StateExcept.update fun state =>
    { state with records := state.records.mapValues fun record =>
        if record.interventionId = interventionId then { record with revoked := true } else record }

end TakeoverSessionManager

end ExecutionHandoff.Takeover
