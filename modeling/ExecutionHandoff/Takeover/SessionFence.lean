import ExecutionHandoff.Takeover.SessionAuthority

/-!
# The generation fence

A capability and a reconnect handle sign the generation they were issued at.
With an injective signature the store accepts them only while that generation
is current, and a reconnect, a completion, a revocation or the expiry of the
record ends that for good.
-/

namespace ExecutionHandoff.Takeover

open Library

/-! ## Signed texts -/

theorem freeOf_of_shaped {least most : Nat} {text : String}
    (shape : shaped least most text = true) : FreeOf '\x00' text := by
  unfold shaped at shape
  obtain ⟨_, chars⟩ := Bool.and_eq_true_iff.mp shape
  intro mem
  have urlSafe := List.all_eq_true.mp chars _ mem
  revert urlSafe
  decide

/-- The text of a client credential: everything it signs is stated here once. -/
theorem clientText_injective {kind id interventionId epoch principal expires : String}
    {clientBinding clientBinding' : String} {generation generation' : Nat}
    (free : FreeOf '\x00' clientBinding) (free' : FreeOf '\x00' clientBinding')
    (equal : signedText [kind, id, interventionId, epoch, principal, clientBinding,
        toString generation, expires] =
      signedText [kind, id, interventionId, epoch, principal, clientBinding',
        toString generation', expires]) :
    clientBinding = clientBinding' ∧ generation = generation' := by
  have fromId := intercalate_common_head (by simp) (by simp) equal
  have fromIntervention := intercalate_common_head (by simp) (by simp) fromId
  have fromEpoch := intercalate_common_head (by simp) (by simp) fromIntervention
  have fromPrincipal := intercalate_common_head (by simp) (by simp) fromEpoch
  have fromBinding := intercalate_common_head (by simp) (by simp) fromPrincipal
  obtain ⟨bindings, rest⟩ :=
    intercalate_head_injective free free' (by simp) (by simp) fromBinding
  exact ⟨bindings, toString_nat_injective (intercalate_common_tail rest)⟩

/-- Ids in which NUL does not occur can be read back off a signed text. -/
theorem signedText_id_injective {kind id id' : String} {rest rest' : List String}
    (free : FreeOf '\x00' id) (free' : FreeOf '\x00' id') (more : rest ≠ []) (more' : rest' ≠ [])
    (equal : signedText (kind :: id :: rest) = signedText (kind :: id' :: rest')) :
    id = id' :=
  (intercalate_head_injective free free' more more'
    (intercalate_common_head (by simp) (by simp) equal)).1

namespace TakeoverSessionManager

variable {config : TakeoverSessionConfig}

/-! ## Records a grant speaks about -/

/-- How far the record may have moved since the grant was issued for it. -/
structure Standing (grant : TakeoverGrant) (record : TakeoverRecord) : Prop where
  locator : record.locator = grant.toTakeoverLocator
  generation : grant.clientGeneration ≤ record.clientGeneration
  binding : record.clientBinding ≠ some grant.clientBinding →
    grant.clientGeneration < record.clientGeneration

theorem locator_fields {record : TakeoverRecord} {grant : TakeoverGrant}
    (locator : record.locator = grant.toTakeoverLocator) :
    record.id = grant.id ∧ record.interventionId = grant.interventionId ∧
      record.epoch = grant.epoch ∧ record.principalBinding = grant.principalBinding ∧
      record.expiresAt = grant.expiresAt :=
  ⟨congrArg (·.id) locator, congrArg (·.interventionId) locator, congrArg (·.epoch) locator,
    congrArg (·.principalBinding) locator, congrArg (·.expiresAt) locator⟩

/-- The grant was issued earlier in the run. -/
structure Outstanding (config : TakeoverSessionConfig) (manager : TakeoverSessionManager)
    (grant : TakeoverGrant) : Prop where
  origin : ∃ count < manager.created, grant.id = config.createId count
  standing : ∀ record, manager.records.get? grant.id = some record → Standing grant record

/-- The credentials of the grant are the signatures of its own claims. -/
structure Signed (config : TakeoverSessionConfig) (grant : TakeoverGrant) : Prop where
  shape : shaped 24 128 grant.clientBinding = true
  capability : grant.capability = config.hmac (signedText ["mcp-execution-handoff/takeover/v2",
    grant.id, grant.interventionId, toString grant.epoch, grant.principalBinding,
    grant.clientBinding, toString grant.clientGeneration, toString grant.expiresAt])
  reconnectHandle : grant.reconnectHandle = config.hmac (signedText
    ["mcp-execution-handoff/takeover-reconnect/v1", grant.id, grant.interventionId,
      toString grant.epoch, grant.principalBinding, grant.clientBinding,
      toString grant.clientGeneration, toString grant.expiresAt])

theorem Standing.advances {grant : TakeoverGrant} {record record' : TakeoverRecord}
    (standing : Standing grant record) (advances : Advances record record') :
    Standing grant record' where
  locator := advances.locator.trans standing.locator
  generation := Nat.le_trans standing.generation advances.generation
  binding := by
    intro rebound
    by_cases kept : record.clientBinding = record'.clientBinding
    · exact Nat.lt_of_lt_of_le (standing.binding (kept ▸ rebound)) advances.generation
    · exact Nat.lt_of_le_of_lt standing.generation (advances.binding kept)

variable {id clientBinding principalBinding : String} {last manager : TakeoverSessionManager}

/-- A record at an id that had been created cannot have been minted since. -/
theorem Progress.source {first : TakeoverSessionManager} (progress : Progress config first last)
    (origin : ∃ count < first.created, id = config.createId count)
    {record' : TakeoverRecord} (stored : last.records.get? id = some record') :
    ∃ record, first.records.get? id = some record ∧ Advances record record' := by
  rcases progress.records id record' stored with source | ⟨count, new, same⟩
  · exact source
  · obtain ⟨issue, below, issuedAs⟩ := origin
    have reused := config.createId_injective (same.symm.trans issuedAs)
    omega

theorem Outstanding.progress {first : TakeoverSessionManager} {grant : TakeoverGrant}
    (outstanding : Outstanding config first grant) (progress : Progress config first last) :
    Outstanding config last grant where
  origin := by
    obtain ⟨count, below, same⟩ := outstanding.origin
    exact ⟨count, Nat.lt_of_lt_of_le below progress.created, same⟩
  standing := by
    intro record' stored
    obtain ⟨record, found, advances⟩ := progress.source outstanding.origin stored
    exact (outstanding.standing record found).advances advances

/-- A grant is outstanding and signed in the state that issued it. -/
theorem Granted.issued {grant : TakeoverGrant}
    (granted : Granted config id grant manager) (inv : Invariant config manager) :
    Outstanding config manager grant ∧ Signed config grant := by
  obtain ⟨record, stored, issuedFor⟩ := granted
  have same : grant.id = id :=
    (congrArg (·.id) issuedFor.locator).trans (inv.keyed id record stored)
  subst same
  refine ⟨⟨inv.issued grant.id record stored, ?_⟩, ?_⟩
  · intro current found
    cases stored.symm.trans found
    exact ⟨issuedFor.locator.symm, Nat.le_of_eq issuedFor.generation,
      fun rebound => absurd issuedFor.bound rebound⟩
  · have shape := ((inv.wellFormed grant.id record stored).bound _ issuedFor.bound).1
    obtain ⟨id, intervention, epoch, principal, expires⟩ := locator_fields issuedFor.locator.symm
    have capability := issuedFor.capability
    have reconnectHandle := issuedFor.reconnectHandle
    rw [capabilityText, id, intervention, epoch, principal, expires,
      ← issuedFor.generation] at capability
    rw [reconnectHandleText, id, intervention, epoch, principal, expires,
      ← issuedFor.generation] at reconnectHandle
    exact ⟨shape, capability, reconnectHandle⟩

theorem issued_of_step {issuing issued : TakeoverSessionManager} {op : SessionOp}
    {grant : TakeoverGrant} (inv : Invariant config issuing)
    (issue : SessionStep config issuing (op, .ok (.grant grant)) issued) :
    Invariant config issued ∧ Outstanding config issued grant ∧ Signed config grant := by
  obtain ⟨evolves, facts⟩ := issue.guarantees
  have inv' := (evolves.invariant_progress inv).1
  have reply := facts _ rfl
  refine ⟨inv', ?_⟩
  cases op with
  | claimClient id => exact Granted.issued reply inv'
  | reconnectClient id => exact Granted.issued reply.2.2 inv'
  | _ => exact reply.elim

/-! ## Acceptance -/

/-- `verify` or `beginUse` would accept the capability now. -/
def AcceptsCapability (config : TakeoverSessionConfig) (manager : TakeoverSessionManager)
    (id capability principalBinding clientBinding : String) : Prop :=
  ∃ op use last, (op = .verify id capability principalBinding clientBinding ∨
      op = .beginUse id capability principalBinding clientBinding) ∧
    SessionStep config manager (op, .ok (.use use)) last

/-- `reconnectClient` would accept the handle now. -/
def AcceptsHandle (config : TakeoverSessionConfig) (manager : TakeoverSessionManager)
    (id reconnectHandle principalBinding : String) : Prop :=
  ∃ nextClientBinding grant last,
    SessionStep config manager
      (.reconnectClient id principalBinding reconnectHandle nextClientBinding, .ok (.grant grant))
      last

/-- The record is unrevoked and unexpired, belongs to the principal and is at the generation. -/
structure Current (config : TakeoverSessionConfig) (manager : TakeoverSessionManager)
    (grant : TakeoverGrant) (principalBinding : String) (record : TakeoverRecord) : Prop where
  active : Active config manager grant.id record
  principal : record.principalBinding = principalBinding
  generation : record.clientGeneration = grant.clientGeneration

/-- Nothing stored under the grant's id can still be at the grant's generation. -/
def Fenced (config : TakeoverSessionConfig) (manager : TakeoverSessionManager)
    (grant : TakeoverGrant) : Prop :=
  ∀ record, manager.records.get? grant.id = some record →
    record.revoked = true ∨ grant.clientGeneration < record.clientGeneration ∨
      record.expiresAt ≤ config.now manager.reads

theorem AcceptsCapability.facts {capability : String}
    (accepts : AcceptsCapability config manager id capability principalBinding clientBinding) :
    CapabilityAccepted config manager id capability principalBinding clientBinding := by
  obtain ⟨op, use, last, rfl | rfl, step⟩ := accepts
  · exact step.guarantees.2 _ rfl
  · exact step.guarantees.2 _ rfl

theorem AcceptsHandle.facts {reconnectHandle : String}
    (accepts : AcceptsHandle config manager id reconnectHandle principalBinding) :
    HandleAccepted config manager id principalBinding reconnectHandle := by
  obtain ⟨nextClientBinding, grant, last, step⟩ := accepts
  exact (step.guarantees.2 _ rfl).1

/-- A record of the grant's locator signs the grant's text only at the grant's generation. -/
theorem Standing.generation_eq {grant : TakeoverGrant}
    {record : TakeoverRecord} (inv : Invariant config manager)
    (standing : Standing grant record) (signed : Signed config grant)
    (stored : manager.records.get? grant.id = some record)
    (bound : record.clientBinding = some clientBinding) {kind : String}
    (equal : signedText [kind, grant.id, grant.interventionId, toString grant.epoch,
        grant.principalBinding, grant.clientBinding, toString grant.clientGeneration,
        toString grant.expiresAt] =
      signedText [kind, record.id, record.interventionId, toString record.epoch,
        record.principalBinding, clientBinding, toString record.clientGeneration,
        toString record.expiresAt]) :
    record.clientGeneration = grant.clientGeneration := by
  have shape := ((inv.wellFormed grant.id record stored).bound _ bound).1
  obtain ⟨id, intervention, epoch, principal, expires⟩ := locator_fields standing.locator
  rw [id, intervention, epoch, principal, expires] at equal
  exact (clientText_injective (freeOf_of_shaped signed.shape) (freeOf_of_shaped shape)
    equal).2.symm

theorem capability_current (injective : Function.Injective config.hmac)
    {grant : TakeoverGrant} (inv : Invariant config manager)
    (outstanding : Outstanding config manager grant) (signed : Signed config grant)
    (accepts : AcceptsCapability config manager grant.id grant.capability principalBinding
      clientBinding) :
    ∃ record, Current config manager grant principalBinding record ∧
      record.clientBinding = some clientBinding ∧ record.released = false := by
  obtain ⟨record, active, principal, bound, unreleased, presented⟩ := accepts.facts
  have standing := outstanding.standing record active.stored
  have equal := injective (signed.capability.symm.trans presented)
  exact ⟨record, ⟨active, principal,
    standing.generation_eq inv signed active.stored bound equal⟩, bound, unreleased⟩

theorem handle_current (injective : Function.Injective config.hmac)
    {grant : TakeoverGrant} (inv : Invariant config manager)
    (outstanding : Outstanding config manager grant) (signed : Signed config grant)
    (accepts : AcceptsHandle config manager grant.id grant.reconnectHandle principalBinding) :
    ∃ record, Current config manager grant principalBinding record := by
  obtain ⟨record, clientBinding, active, principal, bound, presented⟩ := accepts.facts
  have standing := outstanding.standing record active.stored
  have equal := injective (signed.reconnectHandle.symm.trans presented)
  exact ⟨record, active, principal,
    standing.generation_eq inv signed active.stored bound equal⟩

/-! ## The fence -/

theorem Current.not_fenced {grant : TakeoverGrant} {record : TakeoverRecord}
    (current : Current config manager grant principalBinding record) :
    ¬ Fenced config manager grant := by
  intro fenced
  rcases fenced record current.active.stored with revoked | superseded | expired
  · exact absurd revoked (by simp [current.active.unrevoked])
  · have same := current.generation
    omega
  · have unexpired := current.active.unexpired
    omega

theorem Fenced.progress {first : TakeoverSessionManager} {grant : TakeoverGrant}
    (fenced : Fenced config first grant) (outstanding : Outstanding config first grant)
    (progress : Progress config first last) : Fenced config last grant := by
  intro record' stored
  obtain ⟨record, found, advances⟩ := progress.source outstanding.origin stored
  rcases fenced record found with revoked | superseded | expired
  · exact .inl (advances.revoked revoked)
  · exact .inr (.inl (Nat.lt_of_lt_of_le superseded advances.generation))
  · have later := config.now_monotone progress.reads
    have expiry : record'.expiresAt = record.expiresAt := congrArg (·.expiresAt) advances.locator
    exact .inr (.inr (by omega))

/-- The accepted calls that end the generation of a grant. -/
inductive Fences (grant : TakeoverGrant) : SessionCall → Prop where
  | reconnect (principalBinding reconnectHandle nextClientBinding : String)
      (next : TakeoverGrant) :
      Fences grant
        (.reconnectClient grant.id principalBinding reconnectHandle nextClientBinding,
          .ok (.grant next))
  | complete (completionCapability principalBinding : String)
      (results : List TakeoverCompletionResult) :
      Fences grant
        (.complete grant.id completionCapability principalBinding, .ok (.completions results))
  | verified (interventionId : String) (epoch : Int) {results : List TakeoverCompletionResult}
      {result : TakeoverCompletionResult} (reported : result ∈ results)
      (same : result.id = grant.id) :
      Fences grant (.completeAfterVerification interventionId epoch, .ok (.completions results))
  | revoke : Fences grant (.revoke grant.id, .ok .done)
  | revokeForIntervention :
      Fences grant (.revokeForIntervention grant.interventionId, .ok .done)

theorem Fences.fenced {first last : TakeoverSessionManager} {grant : TakeoverGrant}
    {call : SessionCall} (fences : Fences grant call) (inv : Invariant config first)
    (outstanding : Outstanding config first grant) (step : SessionStep config first call last) :
    Fenced config last grant := by
  obtain ⟨evolves, facts⟩ := step.guarantees
  obtain ⟨inv', progress⟩ := evolves.invariant_progress inv
  intro current stored
  cases fences with
  | reconnect principalBinding reconnectHandle nextClientBinding next =>
      obtain ⟨_, ⟨record, record', before, after, bumped⟩, _⟩ := facts _ rfl
      cases after.symm.trans stored
      have floor := (outstanding.standing record before).generation
      exact .inr (.inl (by omega))
  | complete completionCapability principalBinding results =>
      obtain ⟨record, found, revoked⟩ := facts _ rfl
      cases found.symm.trans stored
      exact .inl revoked
  | @verified interventionId epoch results result reported same =>
      obtain ⟨id, record, found, locator, completed⟩ := facts _ rfl result reported
      have key : id = grant.id :=
        (inv'.keyed id record found).symm.trans ((congrArg (·.id) locator).trans same)
      subst key
      cases found.symm.trans stored
      exact .inl ((inv'.wellFormed grant.id _ found).fenced completed)
  | revoke => exact .inl (facts _ rfl current stored)
  | revokeForIntervention =>
      have locator := ((outstanding.progress progress).standing current stored).locator
      exact .inl (facts _ rfl grant.id current stored (congrArg (·.interventionId) locator))

/-- The credentials of the grant are refused, whoever presents them. -/
def Refused (config : TakeoverSessionConfig) (manager : TakeoverSessionManager)
    (grant : TakeoverGrant) : Prop :=
  ∀ principalBinding clientBinding,
    ¬ AcceptsCapability config manager grant.id grant.capability principalBinding clientBinding ∧
      ¬ AcceptsHandle config manager grant.id grant.reconnectHandle principalBinding

theorem Fenced.refused (injective : Function.Injective config.hmac)
    {first : TakeoverSessionManager} {calls : List SessionCall} {grant : TakeoverGrant}
    (fenced : Fenced config first grant) (inv : Invariant config first)
    (outstanding : Outstanding config first grant) (signed : Signed config grant)
    (run : SessionRun config first calls last) : Refused config last grant := by
  obtain ⟨inv', progress⟩ := (SessionRun.evolves run).invariant_progress inv
  have still := fenced.progress outstanding progress
  have outstanding' := outstanding.progress progress
  intro principalBinding clientBinding
  constructor
  · intro accepts
    obtain ⟨record, current, _⟩ := capability_current injective inv' outstanding' signed accepts
    exact current.not_fenced still
  · intro accepts
    obtain ⟨record, current⟩ := handle_current injective inv' outstanding' signed accepts
    exact current.not_fenced still

/-- A credential names its record as long as no created id contains the separator. -/
theorem accepted_id (injective : Function.Injective config.hmac)
    {grant : TakeoverGrant} (inv : Invariant config manager)
    (outstanding : Outstanding config manager grant) (signed : Signed config grant)
    (free : ∀ count, FreeOf '\x00' (config.createId count))
    (accepts : AcceptsCapability config manager id grant.capability principalBinding clientBinding ∨
      AcceptsHandle config manager id grant.reconnectHandle principalBinding) :
    id = grant.id := by
  obtain ⟨count, _, origin⟩ := outstanding.origin
  have grantFree : FreeOf '\x00' grant.id := origin ▸ free count
  have storedFree : ∀ record, manager.records.get? id = some record →
      FreeOf '\x00' record.id ∧ record.id = id := by
    intro record stored
    obtain ⟨issue, _, same⟩ := inv.issued id record stored
    have key := inv.keyed id record stored
    exact ⟨by rw [key, same]; exact free issue, key⟩
  rcases accepts with capability | handle
  · obtain ⟨record, active, _, _, _, presented⟩ := capability.facts
    obtain ⟨recordFree, key⟩ := storedFree record active.stored
    have equal := injective (signed.capability.symm.trans presented)
    exact key.symm.trans
      (signedText_id_injective grantFree recordFree (by simp) (by simp) equal).symm
  · obtain ⟨record, _, active, _, _, presented⟩ := handle.facts
    obtain ⟨recordFree, key⟩ := storedFree record active.stored
    have equal := injective (signed.reconnectHandle.symm.trans presented)
    exact key.symm.trans
      (signedText_id_injective grantFree recordFree (by simp) (by simp) equal).symm

def sampleEnsured : TakeoverSessionManager :=
  (replay sampleConfig initial [.ensure "intervention" 1 "principal"]).2

def sampleGrant : TakeoverGrant where
  id := "takeover-0"
  interventionId := "intervention"
  epoch := 1
  principalBinding := "principal"
  expiresAt := 1001
  capability := sampleCapability
  reconnectHandle := sampleReconnectHandle
  clientBinding := sampleBinding
  clientGeneration := 1

end TakeoverSessionManager

end ExecutionHandoff.Takeover
