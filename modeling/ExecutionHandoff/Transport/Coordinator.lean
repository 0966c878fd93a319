import Mathlib.Data.List.Nodup
import ExecutionHandoff.Library.Runs

/-!
# The managed transport coordinator

Calls of the coordinator are serialised on a promise chain and each of them
runs through a few phases between which it waits for a driver.  Drivers belong
to the environment: how a call of theirs ends is part of the event that reports
it.  The log of driver calls is kept beside the coordinator's own fields.
-/

namespace ExecutionHandoff.Transport

open Library List

inductive BrowserHandoffTransportAttempt where
  | webrtcDirect
  | websocketRelay
  | webrtcRelay
  deriving DecidableEq

namespace BrowserHandoffTransportAttempt

def parse : String → Option BrowserHandoffTransportAttempt
  | "webrtc_direct" => some .webrtcDirect
  | "websocket_relay" => some .websocketRelay
  | "webrtc_relay" => some .webrtcRelay
  | _ => none

end BrowserHandoffTransportAttempt

/-- The attempt order of a valid transport policy. -/
structure TransportPlan where
  order : List BrowserHandoffTransportAttempt
  nonempty : order ≠ []
  nodup : order.Nodup

/-- The loop of the policy validation: every name is supported and none comes twice. -/
def collectAttempts (order : List BrowserHandoffTransportAttempt) :
    List String → Except String (List BrowserHandoffTransportAttempt)
  | [] => .ok order
  | value :: rest =>
      match BrowserHandoffTransportAttempt.parse value with
      | none => .error "Managed Handoff transport order contains an unsupported attempt"
      | some attempt =>
          if attempt ∈ order then
            .error "Managed Handoff transport order cannot contain duplicates"
          else
            collectAttempts (order ++ [attempt]) rest

theorem collectAttempts_spec {order result : List BrowserHandoffTransportAttempt}
    {values : List String} (nodup : order.Nodup)
    (collected : collectAttempts order values = .ok result) :
    result.Nodup ∧ result.length = order.length + values.length := by
  induction values generalizing order with
  | nil =>
      cases collected
      exact ⟨nodup, rfl⟩
  | cons value rest ih =>
      unfold collectAttempts at collected
      split at collected
      · cases collected
      · rename_i attempt _
        split at collected
        · cases collected
        · rename_i fresh
          obtain ⟨distinct, length⟩ := ih
            (nodup_append.mpr ⟨nodup, pairwise_singleton _ _, by
              rintro left mem right single rfl
              exact fresh (mem_singleton.mp single ▸ mem)⟩) collected
          refine ⟨distinct, ?_⟩
          rw [length, length_append, length_singleton, length_cons]
          omega

/-- Validate a transport policy given by the names in its `order`. -/
def browserHandoffTransportAttemptOrder (values : List String) : Except String TransportPlan :=
  if range : 1 ≤ values.length ∧ values.length ≤ 3 then
    match collected : collectAttempts [] values with
    | .error message => .error message
    | .ok order =>
        .ok
          { order
            nonempty := by
              have length := (collectAttempts_spec List.nodup_nil collected).2
              rintro rfl
              rw [List.length_nil] at length
              omega
            nodup := (collectAttempts_spec List.nodup_nil collected).1 }
  else
    .error "Managed Handoff transport order must contain one to three attempts"

inductive ManagedBrowserHandoffFallbackReason where
  | transportUnavailable
  deriving DecidableEq

structure ManagedBrowserHandoffTransportLease where
  transport : BrowserHandoffTransportAttempt
  generation : Nat
  locator : String
  deriving DecidableEq

inductive CoordinatorErrorCode where
  | planInvalid
  | alreadyStarted
  | notActive
  | stale
  deriving DecidableEq

structure ManagedBrowserHandoffTransportCoordinatorError where
  code : CoordinatorErrorCode
  message : String
  deriving DecidableEq

namespace ManagedBrowserHandoffTransportCoordinatorError

def alreadyStarted : ManagedBrowserHandoffTransportCoordinatorError :=
  ⟨.alreadyStarted, "Managed Browser Handoff transport is already started"⟩
def synchronousRequired : ManagedBrowserHandoffTransportCoordinatorError :=
  ⟨.planInvalid,
    "Managed Browser Handoff synchronous start requires a synchronous locator driver"⟩
def noLocator : ManagedBrowserHandoffTransportCoordinatorError :=
  ⟨.notActive, "Managed Browser Handoff transport did not provide a locator"⟩
def unavailable : ManagedBrowserHandoffTransportCoordinatorError :=
  ⟨.notActive, "Managed Browser Handoff transport is unavailable"⟩
def generationStale : ManagedBrowserHandoffTransportCoordinatorError :=
  ⟨.stale, "Managed Browser Handoff transport generation is stale"⟩

end ManagedBrowserHandoffTransportCoordinatorError

/-- Why a call of the coordinator rejects: its own error, or one a driver threw. -/
inductive Failure where
  | coordinator (error : ManagedBrowserHandoffTransportCoordinatorError)
  | driver
  deriving DecidableEq

structure ActiveManagedTransport where
  index : Nat
  lease : ManagedBrowserHandoffTransportLease
  deriving DecidableEq

inductive Operation where
  | start
  | advance (lease : ManagedBrowserHandoffTransportLease)
  | fallback (lease : ManagedBrowserHandoffTransportLease)
      (reason : ManagedBrowserHandoffFallbackReason)
  | revoke (lease : Option ManagedBrowserHandoffTransportLease)
  deriving DecidableEq

/-- Why the active driver is being revoked. -/
inductive Purpose where
  | advance
  | fallback (reason : ManagedBrowserHandoffFallbackReason)
  | revoke
  deriving DecidableEq

/-- A single attempt ends its call; an attempt of the fallback loop makes way for the next. -/
inductive Mode where
  | single
  | loop
  deriving DecidableEq

inductive Phase where
  | attempt (index : Nat) (mode : Mode)
  | starting (index generation : Nat) (mode : Mode)
  | failed (index generation : Nat) (mode : Mode)
  | cleaning (call index generation : Nat) (mode : Mode)
  | blank (index generation : Nat) (mode : Mode)
  | revoke (purpose : Purpose) (active : ActiveManagedTransport)
  | revoking (call : Nat) (purpose : Purpose) (active : ActiveManagedTransport)
  deriving DecidableEq

inductive DriverEvent where
  | start (index generation : Nat)
  | activated (index : Nat)
  | revoke (call index : Nat)
  | settled (call index : Nat) (succeeded : Bool)
  deriving DecidableEq

structure ManagedBrowserHandoffTransportCoordinator where
  order : List BrowserHandoffTransportAttempt
  active : Option ActiveManagedTransport
  started : Bool
  generation : Nat
  transitionCount : Nat
  lastTransport : Option BrowserHandoffTransportAttempt
  previousTransport : Option BrowserHandoffTransportAttempt
  lastFallbackReason : Option ManagedBrowserHandoffFallbackReason
  /-- Calls waiting on the promise chain, by ticket. -/
  queue : List (Nat × Operation)
  running : Option (Nat × Phase)
  tickets : Nat
  outcomes : List (Nat × Except Failure (Option ManagedBrowserHandoffTransportLease))
  /-- Calls of `revoke` that nobody awaits and that have not settled. -/
  loose : List (Nat × Nat)
  revokes : Nat
  log : List DriverEvent
  deriving DecidableEq

/-- How a synchronous start of a driver ends. -/
inductive StartResult where
  | throws
  | promise
  | locator (text : String)
  deriving DecidableEq

/-- How an unawaited revoke of a driver begins. -/
inductive LooseResult where
  | throws
  | settled (succeeded : Bool)
  | pending
  deriving DecidableEq

inductive CoordinatorEvent where
  | call (operation : Operation)
  | begin
  | startSync (result : StartResult) (first second : LooseResult)
  /-- The driver's `start` is called; it throws or returns something to await. -/
  | invokeStart (throws : Bool)
  | startSettled (result : Option String)
  /-- A driver's awaited `revoke` is called. -/
  | invokeRevoke (throws : Bool)
  | revokeSettled (succeeded : Bool)
  /-- The `revoke` after a blank locator, which nobody awaits. -/
  | looseRevoke (result : LooseResult)
  | looseSettled (call index : Nat) (succeeded : Bool)
  deriving DecidableEq

/-- The white space and line terminators `String.prototype.trim` removes. -/
def trimmed (c : Char) : Bool :=
  c.toNat ∈ [0x9, 0xA, 0xB, 0xC, 0xD, 0x20, 0xA0, 0x1680, 0x2028, 0x2029, 0x202F, 0x205F, 0x3000,
      0xFEFF]
    || (decide (0x2000 ≤ c.toNat) && decide (c.toNat ≤ 0x200A))

/-- `!locator.trim()`. -/
def isBlank (locator : String) : Bool := locator.toList.all trimmed

namespace ManagedBrowserHandoffTransportCoordinator

def initial (plan : TransportPlan) : ManagedBrowserHandoffTransportCoordinator where
  order := plan.order
  active := none
  started := false
  generation := 0
  transitionCount := 0
  lastTransport := none
  previousTransport := none
  lastFallbackReason := none
  queue := []
  running := none
  tickets := 0
  outcomes := []
  loose := []
  revokes := 0
  log := []

variable (coordinator : ManagedBrowserHandoffTransportCoordinator)

/-- `this.#drivers[index]!.kind`. -/
def kindAt (index : Nat) : BrowserHandoffTransportAttempt :=
  coordinator.order.getD index .webrtcDirect

def assertActive (lease : ManagedBrowserHandoffTransportLease) :
    Except ManagedBrowserHandoffTransportCoordinatorError ActiveManagedTransport :=
  match coordinator.active with
  | none => .error .unavailable
  | some active =>
      if active.lease.transport ≠ lease.transport ∨ active.lease.generation ≠ lease.generation then
        .error .generationStale
      else
        .ok active

/-- The running call ends with this outcome. -/
def settle (ticket : Nat) (outcome : Except Failure (Option ManagedBrowserHandoffTransportLease)) :
    ManagedBrowserHandoffTransportCoordinator :=
  { coordinator with running := none, outcomes := coordinator.outcomes ++ [(ticket, outcome)] }

def enter (ticket : Nat) (phase : Phase) : ManagedBrowserHandoffTransportCoordinator :=
  { coordinator with running := some (ticket, phase) }

def logged (event : DriverEvent) : ManagedBrowserHandoffTransportCoordinator :=
  { coordinator with log := coordinator.log ++ [event] }

/-- The first synchronous stretch of a call. -/
def beginOperation (ticket : Nat) : Operation → ManagedBrowserHandoffTransportCoordinator
  | .start =>
      if coordinator.started then
        coordinator.settle ticket (.error (.coordinator .alreadyStarted))
      else
        { coordinator with started := true }.enter ticket (.attempt 0 .single)
  | .advance lease =>
      match coordinator.assertActive lease with
      | .error error => coordinator.settle ticket (.error (.coordinator error))
      | .ok active => coordinator.enter ticket (.revoke .advance active)
  | .fallback lease reason =>
      match coordinator.assertActive lease with
      | .error error => coordinator.settle ticket (.error (.coordinator error))
      | .ok active => coordinator.enter ticket (.revoke (.fallback reason) active)
  | .revoke lease =>
      match coordinator.active with
      | none => coordinator.settle ticket (.ok none)
      | some active =>
          match lease.map coordinator.assertActive with
          | some (.error error) => coordinator.settle ticket (.error (.coordinator error))
          | _ => coordinator.enter ticket (.revoke .revoke active)

/-- What follows the successful revoke of the active driver. -/
def afterRevoke (ticket : Nat) (purpose : Purpose) (active : ActiveManagedTransport) :
    ManagedBrowserHandoffTransportCoordinator :=
  let revoked :=
    { coordinator with previousTransport := some active.lease.transport, active := none }
  let next := active.index + 1
  match purpose with
  | .revoke =>
      { revoked with generation := coordinator.generation + 1 }.settle ticket (.ok none)
  | .advance =>
      if coordinator.order.length ≤ next then
        { revoked with generation := coordinator.generation + 1 }.settle ticket (.ok none)
      else
        revoked.enter ticket (.attempt next .single)
  | .fallback reason =>
      if coordinator.order.length ≤ next then
        { revoked with
          lastFallbackReason := some reason
          transitionCount := coordinator.transitionCount + 1
          generation := coordinator.generation + 1 }.settle ticket (.ok none)
      else
        { revoked with
          lastFallbackReason := some reason
          transitionCount := coordinator.transitionCount + 1 }.enter ticket (.attempt next .loop)

/-- What follows a failed attempt: its call rejects, or the loop goes on. -/
def afterFailure (ticket index : Nat) (failure : Failure) :
    Mode → ManagedBrowserHandoffTransportCoordinator
  | .single => coordinator.settle ticket (.error failure)
  | .loop =>
      if index + 1 < coordinator.order.length then
        { coordinator with transitionCount := coordinator.transitionCount + 1 }.enter ticket
          (.attempt (index + 1) .loop)
      else
        coordinator.settle ticket (.ok none)

/-- `#activate` with a locator that is not blank. -/
def activated (index generation : Nat) (locator : String) :
    ManagedBrowserHandoffTransportCoordinator :=
  { coordinator with
    generation
    lastTransport := some (coordinator.kindAt index)
    active := some ⟨index, ⟨coordinator.kindAt index, generation, locator⟩⟩
    log := coordinator.log ++ [.activated index] }

def leaseOf : Option ManagedBrowserHandoffTransportLease := coordinator.active.map (·.lease)

/-- An awaited revoke of a driver is under way as call number `revokes`. -/
def callRevoke (index : Nat) : ManagedBrowserHandoffTransportCoordinator :=
  { coordinator with
    revokes := coordinator.revokes + 1
    log := coordinator.log ++ [.revoke coordinator.revokes index] }

/-- `void Promise.resolve(driver.revoke()).catch(() => undefined)`, and the generation the
caller stores when the call does not throw. -/
def callLoose (index generation : Nat) (result : LooseResult) :
    ManagedBrowserHandoffTransportCoordinator :=
  let called := coordinator.callRevoke index
  match result with
  | .throws => called.logged (.settled coordinator.revokes index false)
  | .settled succeeded =>
      { called.logged (.settled coordinator.revokes index succeeded) with generation }
  | .pending =>
      { called with generation, loose := coordinator.loose ++ [(coordinator.revokes, index)] }

/-- The state `startSync` leaves on a coordinator that has not started. -/
def startSyncState (result : StartResult) (first second : LooseResult) :
    ManagedBrowserHandoffTransportCoordinator :=
  let generation := coordinator.generation + 1
  let invoked := { coordinator with started := true }.logged (.start 0 generation)
  match result with
  | .throws => invoked.callLoose 0 generation first
  -- The error thrown for a promise is caught by the same handler, which revokes once more.
  | .promise => (invoked.callLoose 0 generation first).callLoose 0 generation second
  | .locator text =>
      if isBlank text then invoked.callLoose 0 generation first
      else invoked.activated 0 generation text

/-- What `startSync` throws or returns on a coordinator that has not started. -/
def startSyncOutcome (result : StartResult) (first second : LooseResult) :
    Except Failure (Option ManagedBrowserHandoffTransportLease) :=
  match result with
  | .throws => .error .driver
  | .promise =>
      if first = .throws ∨ second = .throws then .error .driver
      else .error (.coordinator .synchronousRequired)
  | .locator text =>
      if isBlank text then
        if first = .throws then .error .driver else .error (.coordinator .noLocator)
      else .ok (coordinator.startSyncState result first second).leaseOf

/-- `startSync`: it takes a ticket for its outcome only, and fails once started. -/
def startSync (result : StartResult) (first second : LooseResult) :
    ManagedBrowserHandoffTransportCoordinator :=
  let counted := { coordinator with tickets := coordinator.tickets + 1 }
  if coordinator.started then
    { counted with
      outcomes :=
        coordinator.outcomes ++ [(coordinator.tickets, .error (.coordinator .alreadyStarted))] }
  else
    { counted.startSyncState result first second with
      outcomes := coordinator.outcomes ++
        [(coordinator.tickets, coordinator.startSyncOutcome result first second)] }

/-- The events that advance the running call. -/
def resume (ticket : Nat) (phase : Phase) : CoordinatorEvent →
    Option ManagedBrowserHandoffTransportCoordinator
  | .invokeStart throws =>
      match phase with
      | .attempt index mode =>
          let generation := coordinator.generation + 1
          let invoked := coordinator.logged (.start index generation)
          some (invoked.enter ticket
            (if throws then .failed index generation mode else .starting index generation mode))
      | _ => none
  | .startSettled result =>
      match phase, result with
      | .starting index generation mode, none =>
          some (coordinator.enter ticket (.failed index generation mode))
      | .starting index generation mode, some locator =>
          if isBlank locator then
            some (coordinator.enter ticket (.blank index generation mode))
          else
            let next := coordinator.activated index generation locator
            some (next.settle ticket (.ok next.leaseOf))
      | _, _ => none
  | .invokeRevoke throws =>
      match phase with
      | .failed index generation mode =>
          let called := coordinator.callRevoke index
          if throws then
            some ((called.logged (.settled coordinator.revokes index false)).afterFailure ticket
              index .driver mode)
          else
            some (called.enter ticket (.cleaning coordinator.revokes index generation mode))
      | .revoke purpose active =>
          let called := coordinator.callRevoke active.index
          if throws then
            some ((called.logged (.settled coordinator.revokes active.index false)).settle ticket
              (.error .driver))
          else
            some (called.enter ticket (.revoking coordinator.revokes purpose active))
      | _ => none
  | .revokeSettled succeeded =>
      match phase with
      | .cleaning call index generation mode =>
          some ({ coordinator.logged (.settled call index succeeded) with generation }.afterFailure
            ticket index .driver mode)
      | .revoking call purpose active =>
          let settled := coordinator.logged (.settled call active.index succeeded)
          if succeeded then some (settled.afterRevoke ticket purpose active)
          else some (settled.settle ticket (.error .driver))
      | _ => none
  | .looseRevoke result =>
      match phase with
      | .blank index generation mode =>
          let failure := match result with
            | .throws => Failure.driver
            | _ => .coordinator .noLocator
          some ((coordinator.callLoose index generation result).afterFailure ticket index
            failure mode)
      | _ => none
  | _ => none

def next : CoordinatorEvent → Option ManagedBrowserHandoffTransportCoordinator
  | .call operation =>
      some
        { coordinator with
          queue := coordinator.queue ++ [(coordinator.tickets, operation)]
          tickets := coordinator.tickets + 1 }
  | .begin =>
      match coordinator.running, coordinator.queue with
      | none, (ticket, operation) :: rest =>
          some ({ coordinator with queue := rest }.beginOperation ticket operation)
      | _, _ => none
  | .startSync result first second => some (coordinator.startSync result first second)
  | .looseSettled call index succeeded =>
      if (call, index) ∈ coordinator.loose then
        some
          { coordinator.logged (.settled call index succeeded) with
            loose := coordinator.loose.erase (call, index) }
      else
        none
  | event =>
      match coordinator.running with
      | some (ticket, phase) => coordinator.resume ticket phase event
      | none => none

/-! ## A sample plan -/

def samplePlan : TransportPlan where
  order := [.webrtcDirect, .websocketRelay, .webrtcRelay]
  nonempty := by decide
  nodup := by decide

def sampleLease : ManagedBrowserHandoffTransportLease :=
  ⟨.webrtcDirect, 1, "https://takeover.example/takeover/session-0001"⟩

/-- Fall back from the direct transport up to the answer of the relay's `start`. -/
def sampleFallback : List CoordinatorEvent :=
  [.startSync (.locator sampleLease.locator) .pending .pending,
    .call (.fallback sampleLease .transportUnavailable), .begin, .invokeRevoke false,
    .revokeSettled true, .invokeStart false]

end ManagedBrowserHandoffTransportCoordinator

end ExecutionHandoff.Transport
