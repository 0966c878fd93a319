import ExecutionHandoff.Library.Runs
import ExecutionHandoff.Takeover.SessionSteps

/-!
# Calls of the session manager

The public operations as one type of requests, and what each of them
guarantees about its reply.  Every call, accepted or rejected, evolves the
manager by elementary steps.
-/

namespace ExecutionHandoff.Takeover

open Library
open StateExcept hiding read update
open OrderedMap (mem_values_iff get?_set_self get?_mapValues)

inductive SessionOp where
  | ensure (interventionId : String) (epoch : Int) (principalBinding : String)
  | validateLocator (id principalBinding : String)
  | issueCompletionCapability (id principalBinding : String)
  | complete (id completionCapability principalBinding : String)
  | claimClient (id principalBinding clientBinding : String)
  | reconnectClient (id principalBinding reconnectHandle nextClientBinding : String)
  | releaseClientGeneration (id principalBinding clientBinding : String) (clientGeneration : Nat)
  | beginBoundUse (id principalBinding clientBinding : String) (clientGeneration : Nat)
  | verify (id capability principalBinding clientBinding : String)
  | beginUse (id capability principalBinding clientBinding : String)
  | endUse (id principalBinding clientBinding : String) (clientGeneration : Nat)
  | completeAfterVerification (interventionId : String) (epoch : Int)
  | isCompleted (id principalBinding : String)
  | revoke (id : String)
  | revokeForIntervention (interventionId : String)
  deriving DecidableEq

inductive SessionReply where
  | locator (locator : TakeoverLocator)
  | credential (text : String)
  | grant (grant : TakeoverGrant)
  | use (use : TakeoverUse)
  | completions (results : List TakeoverCompletionResult)
  | flag (value : Bool)
  | done
  deriving DecidableEq

/-- A request with the outcome it had. -/
abbrev SessionCall := SessionOp × Except TakeoverSessionError SessionReply

namespace TakeoverSessionManager

variable (config : TakeoverSessionConfig)

def perform : SessionOp → SessionM SessionReply
  | .ensure interventionId epoch principalBinding => do
      return .locator (← ensure config interventionId epoch principalBinding)
  | .validateLocator id principalBinding => do
      return .locator (← validateLocator config id principalBinding)
  | .issueCompletionCapability id principalBinding => do
      return .credential (← issueCompletionCapability config id principalBinding)
  | .complete id completionCapability principalBinding => do
      return .completions [← complete config id completionCapability principalBinding]
  | .claimClient id principalBinding clientBinding => do
      return .grant (← claimClient config id principalBinding clientBinding)
  | .reconnectClient id principalBinding reconnectHandle nextClientBinding => do
      return .grant
        (← reconnectClient config id principalBinding reconnectHandle nextClientBinding)
  | .releaseClientGeneration id principalBinding clientBinding clientGeneration => do
      releaseClientGeneration config id principalBinding clientBinding clientGeneration
      return .done
  | .beginBoundUse id principalBinding clientBinding clientGeneration => do
      return .use (← beginBoundUse config id principalBinding clientBinding clientGeneration)
  | .verify id capability principalBinding clientBinding => do
      return .use (← verify config id capability principalBinding clientBinding)
  | .beginUse id capability principalBinding clientBinding => do
      return .use (← beginUse config id capability principalBinding clientBinding)
  | .endUse id principalBinding clientBinding clientGeneration => do
      endUse config id principalBinding clientBinding clientGeneration
      return .done
  | .completeAfterVerification interventionId epoch => do
      return .completions (← completeAfterVerification config interventionId epoch)
  | .isCompleted id principalBinding => do
      return .flag (← isCompleted config id principalBinding)
  | .revoke id => do
      revoke id
      return .done
  | .revokeForIntervention interventionId => do
      revokeForIntervention interventionId
      return .done

/-- One call with its outcome. -/
def SessionStep (first : TakeoverSessionManager) (call : SessionCall)
    (last : TakeoverSessionManager) : Prop :=
  perform config call.1 first = (call.2, last)

instance (first : TakeoverSessionManager) (call : SessionCall) (last : TakeoverSessionManager) :
    Decidable (SessionStep config first call last) :=
  inferInstanceAs (Decidable (perform config call.1 first = (call.2, last)))

abbrev SessionRun : TakeoverSessionManager → List SessionCall → TakeoverSessionManager → Prop :=
  Run (SessionStep config)

variable {config}

/-! ## What each operation guarantees -/

/-- The postcondition shared by all operations: elementary steps, and facts about a reply. -/
def Guarantees (config : TakeoverSessionConfig) (manager : TakeoverSessionManager) {α : Type}
    (facts : α → TakeoverSessionManager → Prop) (result : Except TakeoverSessionError α)
    (after : TakeoverSessionManager) : Prop :=
  Evolves config manager after ∧ ∀ value, result = .ok value → facts value after

section Guarantees

variable {α : Type} {manager after : TakeoverSessionManager}
  {facts : α → TakeoverSessionManager → Prop}

theorem Guarantees.failed {error : TakeoverSessionError} (evolves : Evolves config manager after) :
    Guarantees config manager facts (.error error) after :=
  ⟨evolves, fun _ no => nomatch no⟩

theorem Guarantees.returned {value : α} (evolves : Evolves config manager after)
    (holds : facts value after) : Guarantees config manager facts (.ok value) after :=
  ⟨evolves, by rintro _ ⟨⟩; exact holds⟩

/-- Wrapping a reply keeps what is known about it. -/
theorem ensures_reply {action : SessionM α} {reply : α → SessionReply}
    {wrapped : SessionReply → TakeoverSessionManager → Prop}
    (holds : Ensures action manager (Guarantees config manager facts))
    (wraps : ∀ value after, facts value after → wrapped (reply value) after) :
    Ensures (action >>= fun value => pure (reply value)) manager
      (Guarantees config manager wrapped) := by
  refine holds.bind (fun error after failed => .failed failed.1) fun value after returned => ?_
  exact .pure (.returned returned.1 (wraps value after (returned.2 value rfl)))

end Guarantees

/-- Nothing beyond the elementary steps. -/
def noFacts {α : Type} (_ : α) (_ : TakeoverSessionManager) : Prop := True

theorem ensures_pruneExpired {α : Type} {manager : TakeoverSessionManager} {next : Unit → SessionM α}
    {post : Except TakeoverSessionError α → TakeoverSessionManager → Prop}
    (passed : ∀ after, Evolves config manager after →
      Ensures (next ()) after post) :
    Ensures (pruneExpired config >>= next) manager post :=
  passed _ ((evolves_ticked manager).trans
    (Elementary.prune ⟨manager.reads, rfl, rfl⟩).evolves)

theorem ensures_createId {α : Type} {manager : TakeoverSessionManager} {next : String → SessionM α}
    {post : Except TakeoverSessionError α → TakeoverSessionManager → Prop}
    (holds : Ensures (next (config.createId manager.created))
      { manager with created := manager.created + 1 } post) :
    Ensures (createId config >>= next) manager post :=
  holds

theorem ensure_guarantees (manager : TakeoverSessionManager) (interventionId : String)
    (epoch : Int) (principalBinding : String) :
    Ensures (ensure config interventionId epoch principalBinding) manager
      (Guarantees config manager noFacts) := by
  unfold ensure
  refine ensures_pruneExpired fun after pruned => ensures_now (ensures_read ?_)
  split
  · exact .pure (.returned pruned.tick trivial)
  · rename_i absent
    refine ensures_update (ensures_createId (ensures_putRecord (.pure ?_)))
    refine .returned (pruned.tick.trans (Elementary.mint ⟨_, rfl, rfl⟩ ?_).evolves) trivial
    intro id record stored
    have none := List.find?_eq_none.mp absent record (mem_values_iff.mpr ⟨id, stored⟩)
    simpa using none

theorem validateLocator_guarantees (manager : TakeoverSessionManager)
    (id principalBinding : String) :
    Ensures (validateLocator config id principalBinding) manager
      (Guarantees config manager noFacts) := by
  refine ensures_requireActive (fun _ _ evolves _ => .failed evolves) fun record _ => ?_
  refine ensures_assertPrincipal (fun _ => .failed (evolves_ticked manager)) fun _ => ?_
  exact .pure (.returned (evolves_ticked manager) trivial)

/-- The completion window costs at most two clock reads. -/
theorem ensures_assertCompletable {α : Type} {manager : TakeoverSessionManager}
    {record : TakeoverRecord} {next : Unit → SessionM α}
    {post : Except TakeoverSessionError α → TakeoverSessionManager → Prop}
    (failed : ∀ error after, Evolves config manager after → post (.error error) after)
    (passed : ∀ after, Evolves config manager after → after.records = manager.records →
      Ensures (next ()) after post) :
    Ensures (assertCompletable config record >>= next) manager post := by
  have spec : Ensures (assertCompletable config record) manager fun _ after =>
      Evolves config manager after ∧ after.records = manager.records := by
    have once : Evolves config manager manager.ticked := evolves_ticked manager
    refine ensures_now ?_
    split
    · refine .require (fun _ => ⟨once, rfl⟩) fun _ => ensures_now ?_
      unfold StateExcept.require
      split <;> exact ⟨once.tick, rfl⟩
    · exact .pure ⟨once, rfl⟩
  exact spec.bind (fun error after holds => failed error after holds.1)
    fun _ after holds => passed after holds.1 holds.2

theorem issueCompletionCapability_guarantees (manager : TakeoverSessionManager)
    (id principalBinding : String) :
    Ensures (issueCompletionCapability config id principalBinding) manager
      (Guarantees config manager noFacts) := by
  refine ensures_read ?_
  split
  · exact .throwing (.failed (.refl manager))
  · refine .require (fun _ => .failed (.refl manager)) fun _ => ?_
    refine ensures_assertPrincipal (fun _ => .failed (.refl manager)) fun _ => ?_
    refine ensures_assertCompletable (fun _ _ evolves => .failed evolves) fun after evolves _ => ?_
    exact .pure (.returned evolves trivial)

/-- An accepted completion leaves its record revoked. -/
def completionFacts (id : String) (_ : TakeoverCompletionResult)
    (after : TakeoverSessionManager) : Prop :=
  ∃ record, after.records.get? id = some record ∧ record.revoked = true

theorem complete_guarantees (manager : TakeoverSessionManager)
    (id completionCapability principalBinding : String) :
    Ensures (complete config id completionCapability principalBinding) manager
      (Guarantees config manager (completionFacts id)) := by
  refine ensures_read ?_
  split
  · exact .throwing (.failed (.refl manager))
  · rename_i record stored
    refine .require (fun _ => .failed (.refl manager)) fun _ => ?_
    refine ensures_assertCompletable (fun _ _ evolves => .failed evolves)
      fun after evolves kept => ?_
    refine ensures_assertPrincipal (fun _ => .failed evolves) fun _ => ?_
    refine .require (fun _ => .failed evolves) fun _ => ?_
    refine .require (fun _ => .failed evolves) fun _ => ensures_putRecord (.pure ?_)
    exact .returned (evolves.write (kept ▸ stored) .complete) ⟨_, get?_set_self .., rfl⟩

/-! ## Grants -/

/-- The grant states the record's claim and carries its two credentials. -/
structure IssuedFor (config : TakeoverSessionConfig) (record : TakeoverRecord)
    (grant : TakeoverGrant) : Prop where
  locator : grant.toTakeoverLocator = record.locator
  bound : record.clientBinding = some grant.clientBinding
  generation : grant.clientGeneration = record.clientGeneration
  capability : grant.capability = config.hmac (capabilityText record grant.clientBinding)
  reconnectHandle :
    grant.reconnectHandle = config.hmac (reconnectHandleText record grant.clientBinding)

section Credentials

variable {α : Type} {manager : TakeoverSessionManager} {record : TakeoverRecord}
  {clientBinding : String} {post : Except TakeoverSessionError α → TakeoverSessionManager → Prop}

theorem ensures_capabilityFor {next : String → SessionM α}
    (bound : record.clientBinding = some clientBinding)
    (failed : ∀ error, post (.error error) manager)
    (passed : Ensures (next (config.hmac (capabilityText record clientBinding)))
      manager post) :
    Ensures (capabilityFor config record >>= next) manager post := by
  have spec : Ensures (capabilityFor config record) manager fun result after =>
      after = manager ∧ ∀ text, result = .ok text →
        text = config.hmac (capabilityText record clientBinding) := by
    refine ensures_claimedBinding (fun _ => ⟨rfl, fun _ no => nomatch no⟩) fun current same _ => ?_
    cases bound.symm.trans same
    exact .pure ⟨rfl, by rintro _ ⟨⟩; rfl⟩
  refine spec.bind (fun error after holds => holds.1 ▸ failed error) ?_
  rintro text after ⟨rfl, signed⟩
  exact signed text rfl ▸ passed

theorem ensures_reconnectHandleFor {next : String → SessionM α}
    (bound : record.clientBinding = some clientBinding)
    (failed : ∀ error, post (.error error) manager)
    (passed : Ensures (next (config.hmac (reconnectHandleText record clientBinding)))
      manager post) :
    Ensures (reconnectHandleFor config record >>= next) manager post := by
  have spec : Ensures (reconnectHandleFor config record) manager fun result after =>
      after = manager ∧ ∀ text, result = .ok text →
        text = config.hmac (reconnectHandleText record clientBinding) := by
    refine ensures_claimedBinding (fun _ => ⟨rfl, fun _ no => nomatch no⟩) fun current same _ => ?_
    cases bound.symm.trans same
    exact .pure ⟨rfl, by rintro _ ⟨⟩; rfl⟩
  refine spec.bind (fun error after holds => holds.1 ▸ failed error) ?_
  rintro text after ⟨rfl, signed⟩
  exact signed text rfl ▸ passed

theorem ensures_assertReconnectHandle {reconnectHandle : String} {next : Unit → SessionM α}
    (bound : record.clientBinding = some clientBinding)
    (failed : ∀ error, post (.error error) manager)
    (passed : reconnectHandle = config.hmac (reconnectHandleText record clientBinding) →
      Ensures (next ()) manager post) :
    Ensures (assertReconnectHandle config record reconnectHandle >>= next)
      manager post := by
  have spec : Ensures (assertReconnectHandle config record reconnectHandle) manager
      fun result after => after = manager ∧ (result = .ok () →
        reconnectHandle = config.hmac (reconnectHandleText record clientBinding)) := by
    refine ensures_reconnectHandleFor bound (fun _ => ⟨rfl, fun no => nomatch no⟩) ?_
    unfold StateExcept.require
    split
    · rename_i equal
      exact ⟨rfl, fun _ => (beq_iff_eq.mp equal).symm⟩
    · exact ⟨rfl, fun no => nomatch no⟩
  refine spec.bind (fun error after holds => holds.1 ▸ failed error) ?_
  rintro ⟨⟩ after ⟨rfl, signed⟩
  exact passed (signed rfl)

end Credentials

theorem ensures_grant {manager : TakeoverSessionManager} {record : TakeoverRecord}
    {post : Except TakeoverSessionError TakeoverGrant → TakeoverSessionManager → Prop}
    (failed : ∀ error, post (.error error) manager)
    (passed : ∀ grant, IssuedFor config record grant → post (.ok grant) manager) :
    Ensures (grant config record) manager post := by
  refine ensures_claimedBinding failed fun clientBinding bound generation => ?_
  refine ensures_capabilityFor bound failed ?_
  refine ensures_reconnectHandleFor bound failed ?_
  exact .pure (passed _ ⟨rfl, bound, rfl, rfl, rfl⟩)

/-- The stored record a grant speaks about. -/
def Granted (config : TakeoverSessionConfig) (id : String) (grant : TakeoverGrant)
    (after : TakeoverSessionManager) : Prop :=
  ∃ record, after.records.get? id = some record ∧ IssuedFor config record grant

theorem claimClient_guarantees (manager : TakeoverSessionManager)
    (id principalBinding clientBinding : String) :
    Ensures (claimClient config id principalBinding clientBinding) manager
      (Guarantees config manager (Granted config id)) := by
  have once : Evolves config manager manager.ticked := evolves_ticked manager
  refine ensures_requireActive (fun _ _ evolves _ => .failed evolves) fun record active => ?_
  refine ensures_assertPrincipal (fun _ => .failed once) fun _ => ?_
  refine ensures_assertClientBindingShape (fun _ => .failed once) fun shape => ?_
  split
  · rename_i unbound
    refine ensures_now (ensures_putRecord ?_)
    have wrote := once.tick.write active.stored 
      (.claim clientBinding (config.now manager.ticked.reads) unbound shape)
    exact ensures_grant (fun _ => .failed wrote) fun grant issued =>
      .returned wrote ⟨_, get?_set_self .., issued⟩
  · refine .require (fun _ => .failed once) fun _ => ensures_now (ensures_putRecord ?_)
    have wrote := once.tick.write active.stored (.see (config.now manager.ticked.reads))
    exact ensures_grant (fun _ => .failed wrote) fun grant issued =>
      .returned wrote ⟨_, get?_set_self .., issued⟩

/-- The presented reconnect handle is the one the active record signs. -/
def HandleAccepted (config : TakeoverSessionConfig) (manager : TakeoverSessionManager)
    (id principalBinding reconnectHandle : String) : Prop :=
  ∃ record clientBinding, Active config manager id record ∧
    record.principalBinding = principalBinding ∧ record.clientBinding = some clientBinding ∧
    reconnectHandle = config.hmac (reconnectHandleText record clientBinding)

/-- The stored generation of the record went up by one. -/
def GenerationBumped (first last : TakeoverSessionManager) (id : String) : Prop :=
  ∃ record record', first.records.get? id = some record ∧ last.records.get? id = some record' ∧
    record'.clientGeneration = record.clientGeneration + 1

theorem reconnectClient_guarantees (manager : TakeoverSessionManager)
    (id principalBinding reconnectHandle nextClientBinding : String) :
    Ensures
      (reconnectClient config id principalBinding reconnectHandle nextClientBinding) manager
      (Guarantees config manager fun grant after =>
        HandleAccepted config manager id principalBinding reconnectHandle ∧
          GenerationBumped manager after id ∧ Granted config id grant after) := by
  have once : Evolves config manager manager.ticked := evolves_ticked manager
  refine ensures_requireActive (fun _ _ evolves _ => .failed evolves) fun record active => ?_
  refine ensures_assertPrincipal (fun _ => .failed once) fun principal => ?_
  refine ensures_assertClientBindingShape (fun _ => .failed once) fun shape => ?_
  refine .require (fun _ => .failed once) fun _ => ?_
  refine .require (fun _ => .failed once) fun seen => ?_
  have claimed : record.claimed = true := (Bool.and_eq_true_iff.mp seen).1
  obtain ⟨current, bound, _, _⟩ := TakeoverRecord.claimed_iff.mp claimed
  refine ensures_assertReconnectHandle bound (fun _ => .failed once) fun signed => ?_
  refine ensures_now ?_
  refine .require (fun _ => .failed once.tick) fun idle => ensures_now (ensures_putRecord ?_)
  have still : record.inFlight = 0 := by simpa using (Bool.and_eq_true_iff.mp idle).1
  have wrote := once.tick.tick.write active.stored
    (.reconnect nextClientBinding (config.now manager.ticked.ticked.reads) claimed still shape)
  refine ensures_grant (fun _ => .failed wrote) fun grant issued => .returned wrote ⟨?_, ?_, ?_⟩
  · exact ⟨record, current, active, principal, bound, signed⟩
  · exact ⟨record, _, active.stored, get?_set_self .., rfl⟩
  · exact ⟨_, get?_set_self .., issued⟩

/-! ## Uses of a claimed generation -/

theorem releaseClientGeneration_guarantees (manager : TakeoverSessionManager)
    (id principalBinding clientBinding : String) (clientGeneration : Nat) :
    Ensures
      (releaseClientGeneration config id principalBinding clientBinding clientGeneration) manager
      (Guarantees config manager noFacts) := by
  have once : Evolves config manager manager.ticked := evolves_ticked manager
  refine ensures_requireActive (fun _ _ evolves _ => .failed evolves) fun record active => ?_
  refine ensures_assertPrincipal (fun _ => .failed once) fun _ => ?_
  refine ensures_assertClient (fun _ => .failed once) fun _ _ => ?_
  refine .require (fun _ => .failed once) fun _ => ?_
  exact Ensures.update (.returned (once.write active.stored .release) trivial)

theorem beginBoundUse_guarantees (manager : TakeoverSessionManager)
    (id principalBinding clientBinding : String) (clientGeneration : Nat) :
    Ensures
      (beginBoundUse config id principalBinding clientBinding clientGeneration) manager
      (Guarantees config manager noFacts) := by
  have once : Evolves config manager manager.ticked := evolves_ticked manager
  refine ensures_requireActive (fun _ _ evolves _ => .failed evolves) fun record active => ?_
  refine ensures_assertPrincipal (fun _ => .failed once) fun _ => ?_
  refine ensures_assertClient (fun _ => .failed once) fun _ _ => ?_
  refine .require (fun _ => .failed once) fun current => ensures_now (ensures_putRecord ?_)
  have unreleased : record.released = false := by
    simpa using (Bool.and_eq_true_iff.mp current).1
  exact .pure (.returned
    (once.tick.write active.stored (.beginBound (config.now manager.ticked.reads) unreleased))
    trivial)

/-- The presented capability is the one the active, unreleased generation signs. -/
def CapabilityAccepted (config : TakeoverSessionConfig) (manager : TakeoverSessionManager)
    (id capability principalBinding clientBinding : String) : Prop :=
  ∃ record, Active config manager id record ∧ record.principalBinding = principalBinding ∧
    record.clientBinding = some clientBinding ∧ record.released = false ∧
    capability = config.hmac (capabilityText record clientBinding)

theorem verify_guarantees (manager : TakeoverSessionManager)
    (id capability principalBinding clientBinding : String) :
    Ensures (verify config id capability principalBinding clientBinding) manager
      (Guarantees config manager fun _ _ =>
        CapabilityAccepted config manager id capability principalBinding clientBinding) := by
  have once : Evolves config manager manager.ticked := evolves_ticked manager
  refine ensures_requireActive (fun _ _ evolves _ => .failed evolves) fun record active => ?_
  refine ensures_assertPrincipal (fun _ => .failed once) fun principal => ?_
  refine ensures_assertClient (fun _ => .failed once) fun _ bound => ?_
  refine .require (fun _ => .failed once) fun unreleased => ?_
  refine ensures_capabilityFor bound (fun _ => .failed once) ?_
  refine .require (fun _ => .failed once) fun equal => ensures_now (ensures_putRecord ?_)
  refine .pure (.returned
    (once.tick.write active.stored (.see (config.now manager.ticked.reads)))
    ⟨record, active, principal, bound, by simpa using unreleased, ?_⟩)
  exact (beq_iff_eq.mp equal).symm

theorem beginUse_guarantees (manager : TakeoverSessionManager)
    (id capability principalBinding clientBinding : String) :
    Ensures (beginUse config id capability principalBinding clientBinding) manager
      (Guarantees config manager fun _ _ =>
        CapabilityAccepted config manager id capability principalBinding clientBinding) := by
  refine (verify_guarantees manager id capability principalBinding clientBinding).bind
    (fun _ _ failed => .failed failed.1) fun use verified holds => ?_
  refine ensures_requireActive (fun _ _ evolves _ => .failed (holds.1.trans evolves))
    fun record active => ensures_putRecord (.pure ?_)
  exact .returned (holds.1.tick.write active.stored .beginVerified) (holds.2 use rfl)

theorem endUse_guarantees (manager : TakeoverSessionManager)
    (id principalBinding clientBinding : String) (clientGeneration : Nat) :
    Ensures (endUse config id principalBinding clientBinding clientGeneration) manager
      (Guarantees config manager noFacts) := by
  have once : Evolves config manager manager.ticked := evolves_ticked manager
  refine ensures_read ?_
  split
  · exact .pure (.returned (.refl manager) trivial)
  · rename_i record stored
    split
    · exact .pure (.returned (.refl manager) trivial)
    · refine ensures_now ?_
      split
      · exact .pure (.returned once trivial)
      · refine ensures_now (Ensures.update (.returned ?_ trivial))
        exact once.tick.write stored (.finish (config.now manager.ticked.reads))

/-! ## Bulk completion and revocation -/

theorem completeVerified_spec (config : TakeoverSessionConfig) {time : Int}
    {interventionId : String} {epoch : Int} {record : TakeoverRecord}
    (concerned : verifiable time interventionId epoch record = true) :
    (completeVerified config time interventionId epoch record).locator = record.locator ∧
      (completeVerified config time interventionId epoch record).completed = true := by
  unfold completeVerified
  cases done : record.completed <;> simp [concerned, done, TakeoverRecord.locator]

/-- Every reported completion is that of a stored, completed record. -/
def VerifiedCompletions (results : List TakeoverCompletionResult)
    (after : TakeoverSessionManager) : Prop :=
  ∀ result ∈ results, ∃ id record, after.records.get? id = some record ∧
    record.locator = result.toTakeoverLocator ∧ record.completed = true

theorem completeAfterVerification_guarantees (manager : TakeoverSessionManager)
    (interventionId : String) (epoch : Int) :
    Ensures (completeAfterVerification config interventionId epoch) manager
      (Guarantees config manager VerifiedCompletions) := by
  refine ensures_pruneExpired fun after pruned => ensures_now (ensures_read (ensures_update ?_))
  refine .pure (.returned (pruned.tick.trans (Elementary.verified ⟨_, rfl, rfl⟩).evolves) ?_)
  intro result reported
  obtain ⟨record, kept, rfl⟩ := List.mem_map.mp reported
  obtain ⟨present, concerned⟩ := List.mem_filter.mp kept
  obtain ⟨id, stored⟩ := mem_values_iff.mp present
  refine ⟨id, _, ?_, completeVerified_spec config concerned⟩
  rw [get?_mapValues, stored]
  rfl

theorem isCompleted_guarantees (manager : TakeoverSessionManager) (id principalBinding : String) :
    Ensures (isCompleted config id principalBinding) manager
      (Guarantees config manager noFacts) := by
  have once : Evolves config manager manager.ticked := evolves_ticked manager
  refine ensures_read ?_
  split
  · exact .pure (.returned (.refl manager) trivial)
  · split
    · refine ensures_now ?_
      split
      · exact .pure (.returned once trivial)
      · exact ensures_assertPrincipal (fun _ => .failed once)
          fun _ => .pure (.returned once trivial)
    · exact .pure (.returned (.refl manager) trivial)

/-- Whatever is stored under the id is revoked. -/
def Revoked (id : String) (manager : TakeoverSessionManager) : Prop :=
  ∀ record, manager.records.get? id = some record → record.revoked = true

theorem revoke_guarantees (manager : TakeoverSessionManager) (id : String) :
    Ensures (revoke id) manager
      (Guarantees config manager fun _ after => Revoked id after) := by
  refine ensures_read ?_
  split
  · rename_i absent
    exact .pure (.returned (.refl manager) fun record stored => by
      rw [absent] at stored
      cases stored)
  · rename_i record stored
    refine Ensures.update (.returned ((Evolves.refl manager).write stored .revoke) ?_)
    intro current found
    cases (get?_set_self ..).symm.trans found
    rfl

/-- Whatever is stored for the intervention is revoked. -/
def InterventionRevoked (interventionId : String) (manager : TakeoverSessionManager) : Prop :=
  ∀ id record, manager.records.get? id = some record → record.interventionId = interventionId →
    record.revoked = true

theorem revokeForIntervention_guarantees (manager : TakeoverSessionManager)
    (interventionId : String) :
    Ensures (revokeForIntervention interventionId) manager
      (Guarantees config manager fun _ after => InterventionRevoked interventionId after) := by
  refine Ensures.update
    (.returned (Elementary.revokeIntervention manager interventionId).evolves ?_)
  intro id record found owned
  rw [get?_mapValues] at found
  obtain ⟨source, _, rfl⟩ := Option.map_eq_some_iff.mp found
  by_cases matches' : source.interventionId = interventionId
  · rw [if_pos matches']
  · rw [if_neg matches'] at owned
    exact absurd owned matches'

/-! ## All operations at once -/

/-- What an accepted call says about its reply and the state it left. -/
def ReplyFacts (config : TakeoverSessionConfig) (first : TakeoverSessionManager) :
    SessionOp → SessionReply → TakeoverSessionManager → Prop
  | .claimClient id _ _, .grant grant, last => Granted config id grant last
  | .reconnectClient id principalBinding reconnectHandle _, .grant grant, last =>
      HandleAccepted config first id principalBinding reconnectHandle ∧
        GenerationBumped first last id ∧ Granted config id grant last
  | .verify id capability principalBinding clientBinding, .use _, _ =>
      CapabilityAccepted config first id capability principalBinding clientBinding
  | .beginUse id capability principalBinding clientBinding, .use _, _ =>
      CapabilityAccepted config first id capability principalBinding clientBinding
  | .complete id _ _, .completions _, last =>
      ∃ record, last.records.get? id = some record ∧ record.revoked = true
  | .completeAfterVerification _ _, .completions results, last =>
      VerifiedCompletions results last
  | .revoke id, .done, last => Revoked id last
  | .revokeForIntervention interventionId, .done, last => InterventionRevoked interventionId last
  | _, .grant _, _ => False
  | _, _, _ => True

theorem perform_guarantees (manager : TakeoverSessionManager) (op : SessionOp) :
    Ensures (perform config op) manager
      (Guarantees config manager (ReplyFacts config manager op)) := by
  cases op with
  | ensure interventionId epoch principalBinding =>
      exact ensures_reply (ensure_guarantees manager _ _ _) fun _ _ _ => trivial
  | validateLocator id principalBinding =>
      exact ensures_reply (validateLocator_guarantees manager _ _) fun _ _ _ => trivial
  | issueCompletionCapability id principalBinding =>
      exact ensures_reply (issueCompletionCapability_guarantees manager _ _) fun _ _ _ => trivial
  | complete id completionCapability principalBinding =>
      exact ensures_reply (complete_guarantees manager _ _ _) fun _ _ facts => facts
  | claimClient id principalBinding clientBinding =>
      exact ensures_reply (claimClient_guarantees manager _ _ _) fun _ _ facts => facts
  | reconnectClient id principalBinding reconnectHandle nextClientBinding =>
      exact ensures_reply (reconnectClient_guarantees manager _ _ _ _) fun _ _ facts => facts
  | releaseClientGeneration id principalBinding clientBinding clientGeneration =>
      exact ensures_reply (releaseClientGeneration_guarantees manager _ _ _ _)
        fun _ _ _ => trivial
  | beginBoundUse id principalBinding clientBinding clientGeneration =>
      exact ensures_reply (beginBoundUse_guarantees manager _ _ _ _) fun _ _ _ => trivial
  | verify id capability principalBinding clientBinding =>
      exact ensures_reply (verify_guarantees manager _ _ _ _) fun _ _ facts => facts
  | beginUse id capability principalBinding clientBinding =>
      exact ensures_reply (beginUse_guarantees manager _ _ _ _) fun _ _ facts => facts
  | endUse id principalBinding clientBinding clientGeneration =>
      exact ensures_reply (endUse_guarantees manager _ _ _ _) fun _ _ _ => trivial
  | completeAfterVerification interventionId epoch =>
      exact ensures_reply (completeAfterVerification_guarantees manager _ _) fun _ _ facts => facts
  | isCompleted id principalBinding =>
      exact ensures_reply (isCompleted_guarantees manager _ _) fun _ _ _ => trivial
  | revoke id => exact ensures_reply (revoke_guarantees manager _) fun _ _ facts => facts
  | revokeForIntervention interventionId =>
      exact ensures_reply (revokeForIntervention_guarantees manager _) fun _ _ facts => facts

/-- Every call evolves the manager, and an accepted one keeps what its operation promises. -/
theorem SessionStep.guarantees {first last : TakeoverSessionManager} {call : SessionCall}
    (step : SessionStep config first call last) :
    Guarantees config first (ReplyFacts config first call.1) call.2 last := by
  have holds : Ensures (perform config call.1) first _ := perform_guarantees first call.1
  unfold Ensures at holds
  rwa [step] at holds

theorem SessionStep.evolves {first last : TakeoverSessionManager} {call : SessionCall}
    (step : SessionStep config first call last) : Evolves config first last :=
  step.guarantees.1

theorem SessionRun.evolves {first last : TakeoverSessionManager} {calls : List SessionCall}
    (run : SessionRun config first calls last) : Evolves config first last := by
  induction run with
  | refl => exact .refl _
  | step head _ ih => exact (SessionStep.evolves head).trans ih

/-- Perform the requests in order, recording the outcomes. -/
def replay (config : TakeoverSessionConfig) :
    TakeoverSessionManager → List SessionOp → List SessionCall × TakeoverSessionManager
  | manager, [] => ([], manager)
  | manager, op :: ops =>
      let outcome := perform config op manager
      let rest := replay config outcome.2 ops
      ((op, outcome.1) :: rest.1, rest.2)

/-- Every list of requests has a run. -/
theorem replay_run (manager : TakeoverSessionManager) (ops : List SessionOp) :
    SessionRun config manager (replay config manager ops).1 (replay config manager ops).2 := by
  induction ops generalizing manager with
  | nil => exact .refl manager
  | cons op ops ih => exact .step rfl (ih _)

end TakeoverSessionManager

end ExecutionHandoff.Takeover
