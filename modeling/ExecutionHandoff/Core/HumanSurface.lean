import Mathlib.Data.Rat.Init
import ExecutionHandoff.Core.Lifecycle
import ExecutionHandoff.Library.OrderedMap
import ExecutionHandoff.Library.Text

/-!
# The credential-safe human surface

`CredentialSafeHumanSurfaceRuntime`: a call runs at once up to its first await,
and what follows an await is a step of its own.  Starts, clean-ups, revocations
and calls are numbered together, which also tells the state objects apart.  The
promise of `provider.revoke` is settled in the step that runs its first
continuation, the one that `performCleanup` registers when it creates it.
-/

namespace ExecutionHandoff.Core

open Library

structure HumanSurfaceInterventionRef where
  id : String
  epoch : Int
  status : InterventionStatus
  authority : InterventionAuthority
  deriving DecidableEq

structure ExternalHumanSurfaceRequest where
  interventionId : String
  epoch : Int
  principalBinding : String
  deriving DecidableEq

structure ExternalHumanSurfaceGrant where
  sessionId : String
  locator : String
  expiresAt : Option Int
  deriving DecidableEq

/-- What a provider may return in the place of a text or a time.  The session id of a grant is kept
as it is, so that the session can be revoked even if the grant is refused. -/
inductive SurfaceValue where
  | undefined
  | null
  | boolean (value : Bool)
  /-- `none` is a number that is not finite. -/
  | number (value : Option ℚ)
  | string (text : String)
  /-- Anything else, which has no `trim` to call. -/
  | other
  deriving DecidableEq

instance : Coe String SurfaceValue := ⟨.string⟩

structure ActiveExternalHumanSurface extends ExternalHumanSurfaceRequest where
  providerKind : String
  sessionId : String
  locator : String
  expiresAt : Option Int
  deriving DecidableEq

inductive ExternalHumanSurfaceErrorCode where
  | stateChanged
  | surfaceActive
  | surfaceExpired
  | providerInvalid
  | revokeFailed
  deriving DecidableEq

structure ExternalHumanSurfaceError where
  code : ExternalHumanSurfaceErrorCode
  message : String
  deriving DecidableEq

namespace ExternalHumanSurfaceError

def invalidKind : ExternalHumanSurfaceError :=
  ⟨.providerInvalid, "external Human surface provider kind must contain 1-80 characters"⟩
def notInactive : ExternalHumanSurfaceError :=
  ⟨.surfaceActive, "External Human surface authority is not confirmed inactive; complete provider cleanup before restoring automation authority"⟩
def otherStarting : ExternalHumanSurfaceError :=
  ⟨.surfaceActive, "Another credential-safe external Human surface is already starting"⟩
def otherActive : ExternalHumanSurfaceError :=
  ⟨.surfaceActive, "Another credential-safe external Human surface is already active"⟩
def cachedExpired : ExternalHumanSurfaceError :=
  ⟨.surfaceExpired, "The cached credential-safe external Human surface expired; begin a fresh Human surface explicitly"⟩
def needsCleanup : ExternalHumanSurfaceError :=
  ⟨.stateChanged, "The previous credential-safe external Human surface requires cleanup before a fresh surface can begin"⟩
def otherExpired : ExternalHumanSurfaceError :=
  ⟨.stateChanged, "The expired credential-safe external Human surface belonged to another intervention, epoch, or principal"⟩
def changed : ExternalHumanSurfaceError :=
  ⟨.stateChanged, "The credential-safe external Human surface no longer matches this intervention, epoch, and principal"⟩
def notRevoked : ExternalHumanSurfaceError :=
  ⟨.revokeFailed, "External Human surface provider revocation was not confirmed; cleanup must succeed before automation authority can resume"⟩
def notSuspended : ExternalHumanSurfaceError :=
  ⟨.stateChanged, "Credential-safe external Human control may begin only after agent authority is suspended and Human authority is active"⟩
def invalidPrincipal : ExternalHumanSurfaceError :=
  ⟨.stateChanged, "principal binding must contain 1-512 characters"⟩
def invalidSession : ExternalHumanSurfaceError :=
  ⟨.providerInvalid, "external Human surface provider returned an invalid session id"⟩
def invalidLocator : ExternalHumanSurfaceError :=
  ⟨.providerInvalid, "external Human surface provider returned an invalid operator locator"⟩
def invalidExpiry : ExternalHumanSurfaceError :=
  ⟨.providerInvalid, "external Human surface provider returned an invalid expiry"⟩
def alreadyExpired : ExternalHumanSurfaceError :=
  ⟨.surfaceExpired, "external Human surface provider returned an already-expired surface"⟩

end ExternalHumanSurfaceError

/-- What a call throws: an error of the runtime, what `provider.begin` threw, or what the language
throws when a grant is not of its type. -/
inductive SurfaceFailure where
  | surface (error : ExternalHumanSurfaceError)
  | provider
  | typeError
  deriving DecidableEq

inductive ExternalHumanSurfaceCleanupReason where
  | expired
  | invalidGrant
  | revocation
  deriving DecidableEq

structure SurfaceCleanup where
  id : Nat
  request : ExternalHumanSurfaceRequest
  sessionId : SurfaceValue
  reason : ExternalHumanSurfaceCleanupReason
  revokePromise : Option Nat
  deriving DecidableEq

inductive ExternalHumanSurfaceRuntimeState where
  | idle
  | starting (start : Nat) (request : ExternalHumanSurfaceRequest)
  | active (surface : ActiveExternalHumanSurface)
  | cleanupRequired (cleanup : SurfaceCleanup)
  deriving DecidableEq

/-- `startProviderSurface` at one of its awaits, or over with its outcome. -/
inductive StartStage where
  | begun (request : ExternalHumanSurfaceRequest)
  | cleaning (promise : Nat) (error : SurfaceFailure)
  | settled (outcome : Except SurfaceFailure ActiveExternalHumanSurface)
  deriving DecidableEq

/-- `Promise.resolve().then(() => this.provider.revoke(cleanup.sessionId))`. -/
inductive RevokeStage where
  | scheduled
  | invoked
  | settled (succeeded : Bool)
  deriving DecidableEq

structure RevokeTask where
  cleanup : Nat
  sessionId : SurfaceValue
  stage : RevokeStage
  deriving DecidableEq

/-- The await at which a call stands. -/
inductive SurfaceCall where
  | begin (start : Nat)
  | beginCleanup (promise : Nat) (error : ExternalHumanSurfaceError)
  | revokeStart (start : Nat) (request : ExternalHumanSurfaceRequest)
  | revoke (promise : Nat)
  deriving DecidableEq

inductive SurfaceReply where
  | surface (surface : ActiveExternalHumanSurface)
  | done
  deriving DecidableEq

/-- What the provider sees. -/
inductive SurfaceFact where
  /-- `provider.begin` was invoked. -/
  | begun (start : Nat)
  | granted (start : Nat) (sessionId : SurfaceValue)
  | rejected (start : Nat)
  /-- `provider.revoke` was invoked. -/
  | revoking (promise : Nat) (sessionId : SurfaceValue)
  | revoked (promise : Nat) (sessionId : SurfaceValue)
  | revokeFailed (promise : Nat)
  deriving DecidableEq

structure CredentialSafeHumanSurfaceRuntime where
  providerKind : String
  state : ExternalHumanSurfaceRuntimeState
  starts : OrderedMap Nat StartStage
  revokes : OrderedMap Nat RevokeTask
  calls : OrderedMap Nat SurfaceCall
  answers : OrderedMap Nat (Except SurfaceFailure SurfaceReply)
  /-- Newest first. -/
  log : List SurfaceFact
  numbers : Nat
  reads : Nat
  deriving DecidableEq

namespace HumanSurfaceInterventionRef

def requestFor (intervention : HumanSurfaceInterventionRef) (principalBinding : String) :
    ExternalHumanSurfaceRequest :=
  ⟨intervention.id, intervention.epoch, principalBinding⟩

/-- `assertCredentialSafeEntryState` and `assertPrincipalBinding`. -/
def entryRefusal (intervention : HumanSurfaceInterventionRef) (principalBinding : String) :
    Option ExternalHumanSurfaceError :=
  if intervention.status ≠ .humanActive ∨ intervention.authority ≠ .human then
    some .notSuspended
  else if principalBinding = "" ∨ 512 < codeUnits principalBinding then
    some .invalidPrincipal
  else
    none

end HumanSurfaceInterventionRef

/-- `/[A-Za-z0-9._:-]/`. -/
def sessionCharacter (c : Char) : Bool :=
  let code := c.toNat
  (65 ≤ code && code ≤ 90) || (97 ≤ code && code ≤ 122) || (48 ≤ code && code ≤ 58)
    || code == 46 || code == 95 || code == 45

namespace ExternalHumanSurfaceGrant

variable (grant : ExternalHumanSurfaceGrant)

/-- The checks of `normalizeGrant` before it reads the clock. -/
def refusal : Option ExternalHumanSurfaceError :=
  let sessionId := trim grant.sessionId
  let locator := trim grant.locator
  if sessionId = "" ∨ 200 < codeUnits sessionId ∨ sessionId.toList.all sessionCharacter = false then
    some .invalidSession
  else if locator = "" ∨ 2048 < codeUnits locator ∨ containsAny ['\r', '\n'] locator = true then
    some .invalidLocator
  else if grant.expiresAt.any (fun expiresAt => !isSafeInteger expiresAt || decide (expiresAt ≤ 0))
      = true then
    some .invalidExpiry
  else
    none

def surface (providerKind : String) (request : ExternalHumanSurfaceRequest) :
    ActiveExternalHumanSurface :=
  { request with
    providerKind, sessionId := trim grant.sessionId, locator := trim grant.locator
    expiresAt := grant.expiresAt }

end ExternalHumanSurfaceGrant

namespace CredentialSafeHumanSurfaceRuntime

variable (now : Nat → Int) (runtime : CredentialSafeHumanSurfaceRuntime)

/-- The constructor. -/
def create (kind : String) : Except ExternalHumanSurfaceError CredentialSafeHumanSurfaceRuntime :=
  let providerKind := trim kind
  if providerKind = "" ∨ 80 < codeUnits providerKind then
    .error .invalidKind
  else
    .ok ⟨providerKind, .idle, .empty, .empty, .empty, .empty, [], 0, 0⟩

def record (fact : SurfaceFact) : CredentialSafeHumanSurfaceRuntime :=
  { runtime with log := fact :: runtime.log }

def become (state : ExternalHumanSurfaceRuntimeState) : CredentialSafeHumanSurfaceRuntime :=
  { runtime with state }

def await (call : Nat) (stage : SurfaceCall) : CredentialSafeHumanSurfaceRuntime :=
  { runtime with calls := runtime.calls.set call stage }

def answer (call : Nat) (result : Except SurfaceFailure SurfaceReply) :
    CredentialSafeHumanSurfaceRuntime :=
  { runtime with calls := runtime.calls.delete call, answers := runtime.answers.set call result }

/-- The expiry has passed at the next read of the clock, which an unlimited surface does not make. -/
def isExpired (expiresAt : Option Int) : Bool × CredentialSafeHumanSurfaceRuntime :=
  match expiresAt with
  | none => (false, runtime)
  | some expiresAt =>
      (decide (expiresAt ≤ now runtime.reads), { runtime with reads := runtime.reads + 1 })

def normalizeGrant (grant : ExternalHumanSurfaceGrant) (request : ExternalHumanSurfaceRequest) :
    Except ExternalHumanSurfaceError ActiveExternalHumanSurface ×
      CredentialSafeHumanSurfaceRuntime :=
  match grant.refusal with
  | some error => (.error error, runtime)
  | none =>
      let (expired, after) := runtime.isExpired now grant.expiresAt
      (if expired then .error .alreadyExpired else .ok (grant.surface runtime.providerKind request),
        after)

def getActive : Option ActiveExternalHumanSurface × CredentialSafeHumanSurfaceRuntime :=
  match runtime.state with
  | .active surface =>
      let (expired, after) := runtime.isExpired now surface.expiresAt
      (if expired then none else some surface, after)
  | _ => (none, runtime)

def assertInactive : Except ExternalHumanSurfaceError Unit :=
  match runtime.state with
  | .idle => .ok ()
  | _ => .error .notInactive

/-- `performCleanup` of the clean-up that is the state, up to its await: the promise it awaits. -/
def performCleanup (cleanup : SurfaceCleanup) : Nat × CredentialSafeHumanSurfaceRuntime :=
  match cleanup.revokePromise with
  | some promise => (promise, runtime)
  | none =>
      let promise := runtime.numbers
      (promise,
        { runtime with
          numbers := promise + 1
          revokes := runtime.revokes.set promise ⟨cleanup.id, cleanup.sessionId, .scheduled⟩
          state := .cleanupRequired { cleanup with revokePromise := some promise } })

/-- A new clean-up becomes the state and is performed. -/
def cleanUp (request : ExternalHumanSurfaceRequest) (sessionId : SurfaceValue)
    (reason : ExternalHumanSurfaceCleanupReason) : Nat × CredentialSafeHumanSurfaceRuntime :=
  let cleanup : SurfaceCleanup := ⟨runtime.numbers, request, sessionId, reason, none⟩
  { runtime with numbers := runtime.numbers + 1, state := .cleanupRequired cleanup }.performCleanup
    cleanup

/-- `begin` up to its first await. -/
def begin (intervention : HumanSurfaceInterventionRef) (principalBinding : String) :
    CredentialSafeHumanSurfaceRuntime :=
  let call := runtime.numbers
  let begun := { runtime with numbers := runtime.numbers + 1 }
  match intervention.entryRefusal principalBinding with
  | some error => begun.answer call (.error (.surface error))
  | none =>
      let request := intervention.requestFor principalBinding
      match runtime.state with
      | .starting start starting =>
          if starting = request then
            begun.await call (.begin start)
          else
            begun.answer call (.error (.surface .otherStarting))
      | .cleanupRequired cleanup =>
          let error : ExternalHumanSurfaceError :=
            if cleanup.request = request ∧ cleanup.reason = .expired then .cachedExpired
            else .needsCleanup
          let (promise, after) := begun.performCleanup cleanup
          after.await call (.beginCleanup promise error)
      | .active cached =>
          let (expired, read) := begun.isExpired now cached.expiresAt
          let same := cached.toExternalHumanSurfaceRequest = request
          if expired then
            let (promise, after) :=
              read.cleanUp cached.toExternalHumanSurfaceRequest cached.sessionId .expired
            after.await call (.beginCleanup promise (if same then .cachedExpired else .otherExpired))
          else if same then
            read.answer call (.ok (.surface cached))
          else
            read.answer call (.error (.surface .otherActive))
      | .idle =>
          let start := begun.numbers
          ({ begun with
            numbers := start + 1
            state := .starting start request
            starts := runtime.starts.set start (.begun request) }.record (.begun start)).await call
              (.begin start)

/-- `revoke` up to its first await, also when it is called again after one. -/
def revokeFrom (call : Nat) (request : ExternalHumanSurfaceRequest) :
    CredentialSafeHumanSurfaceRuntime :=
  match runtime.state with
  | .starting start starting =>
      if starting = request then
        runtime.await call (.revokeStart start request)
      else
        runtime.answer call (.error (.surface .changed))
  | .active surface =>
      if surface.toExternalHumanSurfaceRequest = request then
        let (expired, read) := runtime.isExpired now surface.expiresAt
        let (promise, after) := read.cleanUp surface.toExternalHumanSurfaceRequest
          surface.sessionId (if expired then .expired else .revocation)
        after.await call (.revoke promise)
      else
        runtime.answer call (.error (.surface .changed))
  | .cleanupRequired cleanup =>
      if cleanup.request = request then
        let (promise, after) := runtime.performCleanup cleanup
        after.await call (.revoke promise)
      else
        runtime.answer call (.error (.surface .changed))
  | .idle => runtime.answer call (.error (.surface .changed))

def revoke (request : ExternalHumanSurfaceRequest) : CredentialSafeHumanSurfaceRuntime :=
  { runtime with numbers := runtime.numbers + 1 }.revokeFrom now runtime.numbers request

def settleStart (start : Nat) (outcome : Except SurfaceFailure ActiveExternalHumanSurface) :
    CredentialSafeHumanSurfaceRuntime :=
  { runtime with starts := runtime.starts.set start (.settled outcome) }

/-- A start that cleans up before it fails. -/
def failStart (start : Nat) (request : ExternalHumanSurfaceRequest) (sessionId : SurfaceValue)
    (reason : ExternalHumanSurfaceCleanupReason) (error : SurfaceFailure) :
    CredentialSafeHumanSurfaceRuntime :=
  let (promise, after) := runtime.cleanUp request sessionId reason
  { after with starts := after.starts.set start (.cleaning promise error) }

/-- `provider.begin` is settled, and `startProviderSurface` goes on. -/
def providerBegan (start : Nat) (request : ExternalHumanSurfaceRequest)
    (outcome : Option ExternalHumanSurfaceGrant) : CredentialSafeHumanSurfaceRuntime :=
  let current := decide (runtime.state = .starting start request)
  match outcome with
  | none =>
      let rejected := runtime.record (.rejected start)
      (if current then rejected.become .idle else rejected).settleStart start (.error .provider)
  | some grant =>
      let (result, read) :=
        (runtime.record (.granted start grant.sessionId)).normalizeGrant now grant request
      match result with
      | .error error =>
          read.failStart start request grant.sessionId
            (if error.code = .surfaceExpired then .expired else .invalidGrant) (.surface error)
      | .ok active =>
          if current then
            (read.become (.active active)).settleStart start (.ok active)
          else
            read.failStart start request active.sessionId .invalidGrant (.surface .changed)

/-- The microtask of a clean-up calls `provider.revoke`. -/
def invokeRevoke (promise : Nat) (task : RevokeTask) : CredentialSafeHumanSurfaceRuntime :=
  { runtime with revokes := runtime.revokes.set promise { task with stage := .invoked } }.record
    (.revoking promise task.sessionId)

/-- `provider.revoke` is settled, and the `performCleanup` that called it goes on. -/
def providerRevoked (promise : Nat) (task : RevokeTask) (succeeded : Bool) :
    CredentialSafeHumanSurfaceRuntime :=
  let settled :=
    { runtime with
      revokes := runtime.revokes.set promise { task with stage := .settled succeeded } }.record
      (if succeeded then .revoked promise task.sessionId else .revokeFailed promise)
  match runtime.state with
  | .cleanupRequired cleanup =>
      if cleanup.id = task.cleanup then
        settled.become
          (if succeeded then .idle else .cleanupRequired { cleanup with revokePromise := none })
      else
        settled
  | _ => settled

/-- The outcome of a settled start. -/
def startOutcome (start : Nat) : Option (Except SurfaceFailure ActiveExternalHumanSurface) :=
  match runtime.starts.get? start with
  | some (.settled outcome) => some outcome
  | _ => none

/-- The outcome of a settled revocation. -/
def revokeOutcome (promise : Nat) : Option Bool :=
  match runtime.revokes.get? promise with
  | some ⟨_, _, .settled succeeded⟩ => some succeeded
  | _ => none

/-- A call goes on from its await, if what it awaits is settled. -/
def resume (call : Nat) : SurfaceCall → Option CredentialSafeHumanSurfaceRuntime
  | .begin start =>
      (runtime.startOutcome start).map fun outcome => runtime.answer call (outcome.map .surface)
  | .beginCleanup promise error =>
      (runtime.revokeOutcome promise).map fun _ => runtime.answer call (.error (.surface error))
  | .revokeStart start request =>
      (runtime.startOutcome start).map fun outcome =>
        match outcome, runtime.state with
        | .error _, .idle => runtime.answer call (.ok .done)
        | _, _ => runtime.revokeFrom now call request
  | .revoke promise =>
      (runtime.revokeOutcome promise).map fun succeeded =>
        runtime.answer call (if succeeded then .ok .done else .error (.surface .notRevoked))

end CredentialSafeHumanSurfaceRuntime

/-! ## Runs -/

inductive SurfaceEvent where
  | begin (intervention : HumanSurfaceInterventionRef) (principalBinding : String)
  | revoke (request : ExternalHumanSurfaceRequest)
  | getActive
  | providerBegan (start : Nat) (outcome : Option ExternalHumanSurfaceGrant)
  | invokeRevoke (promise : Nat)
  | providerRevoked (promise : Nat) (succeeded : Bool)
  /-- `startProviderSurface` throws after its clean-up. -/
  | resumeStart (start : Nat)
  | resume (call : Nat)
  deriving DecidableEq

namespace CredentialSafeHumanSurfaceRuntime

/-- One event, if it can happen. -/
def next (now : Nat → Int) (runtime : CredentialSafeHumanSurfaceRuntime) :
    SurfaceEvent → Option CredentialSafeHumanSurfaceRuntime
  | .begin intervention principalBinding => some (runtime.begin now intervention principalBinding)
  | .revoke request => some (runtime.revoke now request)
  | .getActive => some (runtime.getActive now).2
  | .providerBegan start outcome =>
      match runtime.starts.get? start with
      | some (.begun request) => some (runtime.providerBegan now start request outcome)
      | _ => none
  | .invokeRevoke promise =>
      match runtime.revokes.get? promise with
      | some ⟨cleanup, sessionId, .scheduled⟩ =>
          some (runtime.invokeRevoke promise ⟨cleanup, sessionId, .scheduled⟩)
      | _ => none
  | .providerRevoked promise succeeded =>
      match runtime.revokes.get? promise with
      | some ⟨cleanup, sessionId, .invoked⟩ =>
          some (runtime.providerRevoked promise ⟨cleanup, sessionId, .invoked⟩ succeeded)
      | _ => none
  | .resumeStart start =>
      match runtime.starts.get? start with
      | some (.cleaning promise error) =>
          (runtime.revokeOutcome promise).map fun _ =>
            runtime.settleStart start (.error error)
      | _ => none
  | .resume call => (runtime.calls.get? call).bind fun stage => runtime.resume now call stage

abbrev Step (now : Nat → Int) : CredentialSafeHumanSurfaceRuntime → SurfaceEvent →
    CredentialSafeHumanSurfaceRuntime → Prop :=
  StepOf (next now)

/-- Looking at an expiry reads the clock, at most. -/
theorem isExpired_quiet {now : Nat → Int} (runtime : CredentialSafeHumanSurfaceRuntime)
    (expiresAt : Option Int) :
    ∃ reads, (runtime.isExpired now expiresAt).2 = { runtime with reads } := by
  cases expiresAt with
  | none => exact ⟨_, rfl⟩
  | some expiresAt => exact ⟨_, rfl⟩

end CredentialSafeHumanSurfaceRuntime

end ExecutionHandoff.Core
