import ExecutionHandoff.Takeover.SessionCompletion

/-!
# Completed markers

A completed record is a marker that later requests of its holder are answered
from.  Nothing writes to it any more, so what decides about it is pruning, and
pruning tests the claim before it tests which of the two deadlines has passed.
-/

namespace ExecutionHandoff.Takeover

open Library

namespace TakeoverSessionManager

variable {config : TakeoverSessionConfig}

/-! ## What each operation does -/

/-- Operations that prune before they look. -/
def prunes : SessionOp → Bool
  | .ensure _ _ _ | .completeAfterVerification _ _ => true
  | _ => false

/-- The effect of a call on the store, by operation. -/
inductive Effect (config : TakeoverSessionConfig) (manager : TakeoverSessionManager) :
    SessionOp → TakeoverSessionManager → Prop where
  | client {op : SessionOp} {after : TakeoverSessionManager} (plain : prunes op = false)
      (touches : Touches config true manager after) : Effect config manager op after
  | ensure {interventionId : String} {epoch : Int} {principalBinding : String}
      {locator : TakeoverLocator} {after : TakeoverSessionManager}
      (ensured : Ensured config manager interventionId epoch principalBinding locator after) :
      Effect config manager (.ensure interventionId epoch principalBinding) after
  | complete {id completionCapability principalBinding : String}
      {result : Except TakeoverSessionError TakeoverCompletionResult}
      {after : TakeoverSessionManager}
      (completion : Completion config manager id principalBinding result after) :
      Effect config manager (.complete id completionCapability principalBinding) after
  | completeAfterVerification (interventionId : String) (epoch : Int) :
      Effect config manager (.completeAfterVerification interventionId epoch)
        ((swept config manager).verifiedCompletion config (decisionTime config manager)
          interventionId epoch)
  | revoke (id : String) : Effect config manager (.revoke id) (manager.recordRevoked id)
  | revokeForIntervention (interventionId : String) :
      Effect config manager (.revokeForIntervention interventionId)
        (manager.interventionRevoked interventionId)

theorem reply_state {α : Type} (action : SessionM α) (reply : α → SessionReply)
    (manager : TakeoverSessionManager) :
    ((action >>= fun value => pure (reply value) : SessionM SessionReply) manager).2 =
      (action manager).2 := by
  change (StateExcept.andThen action _ manager).2 = _
  unfold StateExcept.andThen
  cases action manager with
  | mk result after =>
      cases result with
      | error error => rfl
      | ok value => rfl

theorem perform_effect (manager : TakeoverSessionManager) (op : SessionOp) :
    Effect config manager op (perform config op manager).2 := by
  cases op with
  | ensure interventionId epoch principalBinding =>
      obtain ⟨locator, after, same, ensured⟩ :=
        @ensure_outcome config manager interventionId epoch principalBinding
      rw [perform, reply_state, same]
      exact .ensure ensured
  | complete id completionCapability principalBinding =>
      rw [perform, reply_state (complete config id completionCapability principalBinding)
        fun result => .completions [result]]
      exact .complete (complete_outcome manager id completionCapability principalBinding)
  | completeAfterVerification interventionId epoch =>
      rw [perform, reply_state]
      exact .completeAfterVerification interventionId epoch
  | revoke id =>
      have same := reply_state (revoke id) (fun _ => .done) manager
      rw [revoke_eq] at same
      exact same ▸ .revoke id
  | revokeForIntervention interventionId => exact .revokeForIntervention interventionId
  | validateLocator id principalBinding =>
      exact .client rfl (Touching.reply (validateLocator_touches id principalBinding))
  | issueCompletionCapability id principalBinding =>
      exact .client rfl (Touching.reply (issueCompletionCapability_touches id principalBinding))
  | claimClient id principalBinding clientBinding =>
      exact .client rfl (Touching.reply (claimClient_touches id principalBinding clientBinding))
  | reconnectClient id principalBinding reconnectHandle nextClientBinding =>
      exact .client rfl (Touching.reply
        (reconnectClient_touches id principalBinding reconnectHandle nextClientBinding))
  | releaseClientGeneration id principalBinding clientBinding clientGeneration =>
      exact .client rfl (Touching.reply
        (releaseClientGeneration_touches id principalBinding clientBinding clientGeneration))
  | beginBoundUse id principalBinding clientBinding clientGeneration =>
      exact .client rfl (Touching.reply
        (beginBoundUse_touches id principalBinding clientBinding clientGeneration))
  | verify id capability principalBinding clientBinding =>
      exact .client rfl (Touching.reply
        (verify_touches id capability principalBinding clientBinding))
  | beginUse id capability principalBinding clientBinding =>
      exact .client rfl (Touching.reply
        (beginUse_touches id capability principalBinding clientBinding))
  | endUse id principalBinding clientBinding clientGeneration =>
      exact .client rfl (Touching.reply
        (endUse_touches id principalBinding clientBinding clientGeneration))
  | isCompleted id principalBinding =>
      exact .client rfl (Touching.reply (isCompleted_touches id principalBinding))

/-! ## What pruning spares -/

/-- The same completed record: nothing a later request of its holder depends on has changed. -/
structure SameMarker (record record' : TakeoverRecord) : Prop where
  locator : record'.toTakeoverLocator = record.toTakeoverLocator
  completed : record'.completed = true
  deadline : record'.completionExpiresAt = record.completionExpiresAt
  claimed : record'.claimed = record.claimed

theorem SameMarker.refl {record : TakeoverRecord} (completed : record.completed = true) :
    SameMarker record record :=
  ⟨rfl, completed, rfl, rfl⟩

theorem SameMarker.trans {first middle last : TakeoverRecord} (left : SameMarker first middle)
    (right : SameMarker middle last) : SameMarker first last :=
  ⟨right.locator.trans left.locator, right.completed, right.deadline.trans left.deadline,
    right.claimed.trans left.claimed⟩

/-- The marker is stored under the id. -/
def Marked (manager : TakeoverSessionManager) (id : String) (record : TakeoverRecord) : Prop :=
  ∃ record', manager.records.get? id = some record' ∧ SameMarker record record'

variable {last manager : TakeoverSessionManager} {id : String} {op : SessionOp}

theorem Marked.same {record record' : TakeoverRecord} (marked : manager.Marked id record')
    (same : SameMarker record record') : manager.Marked id record := by
  obtain ⟨current, stored, further⟩ := marked
  exact ⟨current, stored, same.trans further⟩

theorem Touch.marked {rebinds : Bool} {first : TakeoverSessionManager}
    (touch : Touch config rebinds first last) {record : TakeoverRecord}
    (stored : first.records.get? id = some record) (revoked : record.revoked = true) :
    last.records.get? id = some record := by
  cases touch with
  | wait records => rw [records, stored]
  | @write written current next takes active wrote allowed records reads created =>
      have other : id ≠ written := by
        rintro rfl
        cases stored.symm.trans active.stored
        rw [active.unrevoked] at revoked
        cases revoked
      rw [records, OrderedMap.get?_set_ne _ _ other, stored]

theorem Touches.marked {rebinds : Bool} {first : TakeoverSessionManager}
    (touches : Touches config rebinds first last) {record : TakeoverRecord}
    (stored : first.records.get? id = some record) (revoked : record.revoked = true) :
    last.records.get? id = some record := by
  induction touches with
  | refl => exact stored
  | tail _ touch ih => exact touch.marked ih revoked

theorem swept_marked {record : TakeoverRecord} (stored : manager.records.get? id = some record)
    (spared : record.prunable (config.now manager.reads) = false) :
    (swept config manager).records.get? id = some record := by
  change (manager.ticked.pruned (config.now manager.reads)).records.get? id = some record
  rw [pruned, OrderedMap.get?_filterValues, ticked_records, stored]
  simp [spared]

theorem mapped_marked {records : OrderedMap String TakeoverRecord}
    {f : TakeoverRecord → TakeoverRecord} {record : TakeoverRecord}
    (stored : manager.records.get? id = some record) (mapped : records = manager.records.mapValues f)
    (same : SameMarker record (f record)) :
    ∃ record', records.get? id = some record' ∧ SameMarker record record' := by
  refine ⟨f record, ?_, same⟩
  rw [mapped, OrderedMap.get?_mapValues, stored]
  rfl

theorem supersede_sameMarker {time : Int} {interventionId : String} {record : TakeoverRecord}
    (completed : record.completed = true) :
    SameMarker record (supersede time interventionId record) := by
  unfold supersede
  split
  · exact ⟨rfl, completed, rfl, rfl⟩
  · exact .refl completed

theorem revokeMatching_sameMarker {interventionId : String} {record : TakeoverRecord}
    (completed : record.completed = true) :
    SameMarker record (revokeMatching interventionId record) := by
  unfold revokeMatching
  split
  · exact ⟨rfl, completed, rfl, rfl⟩
  · exact .refl completed

/-- Verified completion leaves a completed record alone. -/
theorem completeVerified_completed {time : Int} {interventionId : String} {epoch : Int}
    {record : TakeoverRecord} (completed : record.completed = true) :
    completeVerified config time interventionId epoch record = record := by
  simp [completeVerified, completed]

theorem withRecord_marked {written : String}
    {record current next : TakeoverRecord} (stored : manager.records.get? id = some record)
    (found : manager.records.get? written = some current) (completed : record.completed = true)
    (same : current.completed = true → SameMarker current next) :
    (manager.withRecord written next).Marked id record := by
  by_cases here : id = written
  · subst here
    cases stored.symm.trans found
    exact ⟨next, OrderedMap.get?_set_self _ _ _, same completed⟩
  · refine ⟨record, ?_, .refl completed⟩
    rw [withRecord_records, OrderedMap.get?_set_ne _ _ here, stored]

/-- A completed record stays as it is unless the call prunes it. -/
theorem Effect.marked {after : TakeoverSessionManager}
    (effect : Effect config manager op after) (inv : Invariant config manager)
    {record : TakeoverRecord} (stored : manager.records.get? id = some record)
    (completed : record.completed = true)
    (spared : prunes op = true → record.prunable (config.now manager.reads) = false) :
    after.Marked id record := by
  have revoked := (inv.wellFormed id record stored).fenced completed
  cases effect with
  | client plain touches => exact ⟨record, touches.marked stored revoked, .refl completed⟩
  | ensure ensured =>
      have kept := swept_marked stored (spared rfl)
      cases ensured with
      | reused => exact ⟨record, kept, .refl completed⟩
      | @minted noneReusable =>
          obtain ⟨count, below, issued⟩ := inv.issued id record stored
          have other : id ≠ config.createId (swept config manager).created := by
            intro same
            have reused := config.createId_injective (issued.symm.trans same)
            have created : (swept config manager).created = manager.created := rfl
            omega
          obtain ⟨record', found, same⟩ := mapped_marked kept rfl (supersede_sameMarker completed)
          exact ⟨record', (OrderedMap.get?_set_ne _ _ other).trans found, same⟩
  | complete completion =>
      cases completion with
      | refused error wait => exact ⟨record, wait.marked stored revoked, .refl completed⟩
      | accepted current found completable principal wait kept later =>
          apply withRecord_marked (kept ▸ stored) (kept ▸ found) completed
          exact fun _ => ⟨rfl, rfl, rfl, rfl⟩
  | completeAfterVerification interventionId epoch =>
      have kept := swept_marked stored (spared rfl)
      apply mapped_marked kept rfl
      rw [completeVerified_completed completed]
      exact .refl completed
  | revoke written =>
      unfold recordRevoked
      split
      · exact ⟨record, stored, .refl completed⟩
      · rename_i current found
        apply withRecord_marked stored found completed
        exact fun done => ⟨rfl, done, rfl, rfl⟩
  | revokeForIntervention interventionId =>
      exact mapped_marked stored rfl (revokeMatching_sameMarker completed)

/-! ## Retention along runs -/

/-- The call prunes no unclaimed marker between its media expiry and its completion expiry. -/
def sparesMarkers (config : TakeoverSessionConfig) (manager : TakeoverSessionManager)
    (op : SessionOp) : Bool :=
  !prunes op || manager.records.values.all fun record =>
    !(record.completed && !record.claimed
      && decide (record.expiresAt ≤ config.now manager.reads)
      && decide (config.now manager.reads < record.completionExpiresAt))

/-- The marker is stored, or its completion expiry has passed. -/
def Remembered (config : TakeoverSessionConfig) (id : String) (record : TakeoverRecord)
    (manager : TakeoverSessionManager) : Prop :=
  manager.Marked id record ∨
    ∃ count < manager.reads, record.completionExpiresAt ≤ config.now count

/-- Pruning reads the clock. -/
theorem Effect.prunes_reads {after : TakeoverSessionManager}
    (effect : Effect config manager op after) (pruning : prunes op = true) :
    manager.reads < after.reads := by
  cases effect with
  | client plain => exact absurd pruning (by simp [plain])
  | ensure ensured =>
      have reads := ensured.reached.2
      omega
  | completeAfterVerification => exact Nat.lt_add_of_pos_right Nat.two_pos
  | complete | revoke | revokeForIntervention => cases pruning

theorem SessionStep.effect {first : TakeoverSessionManager} {call : SessionCall}
    (step : SessionStep config first call last) : Effect config first call.1 last := by
  have effect := @perform_effect config first call.1
  rw [step] at effect
  exact effect

/-- A claimed or spared marker can only be pruned after its completion expiry. -/
theorem spared_or_passed {record : TakeoverRecord}
    (spares : record.claimed = true ∨ sparesMarkers config manager op = true)
    (stored : manager.records.get? id = some record) (completed : record.completed = true)
    (pruning : prunes op = true) :
    record.prunable (config.now manager.reads) = false ∨
      record.completionExpiresAt ≤ config.now manager.reads := by
  by_cases passed : record.completionExpiresAt ≤ config.now manager.reads
  · exact .inr passed
  · left
    rcases spares with claimed | spares
    · simp [TakeoverRecord.prunable, completed, claimed, Int.not_le.mp passed]
    · rw [sparesMarkers, pruning, Bool.not_true, Bool.false_or, List.all_eq_true] at spares
      have spared := spares record (OrderedMap.mem_values_iff.mpr ⟨id, stored⟩)
      have before := Int.not_le.mp passed
      cases claimed : record.claimed <;> simp_all [TakeoverRecord.prunable]

theorem Remembered.step {first last : TakeoverSessionManager} {call : SessionCall} {id : String}
    {record : TakeoverRecord} (step : SessionStep config first call last)
    (spares : record.claimed = true ∨ sparesMarkers config first call.1 = true)
    (inv : Invariant config first) (remembered : Remembered config id record first) : Remembered config id record last := by
  have progress := (step.evolves.invariant_progress inv).2
  rcases remembered with ⟨current, stored, same⟩ | ⟨count, below, passed⟩
  · by_cases pruning : prunes call.1 = true
    · rw [← same.claimed] at spares
      rcases spared_or_passed spares stored same.completed pruning with spared | passed
      · exact .inl ((step.effect.marked inv stored same.completed fun _ => spared).same same)
      · right
        refine ⟨first.reads, step.effect.prunes_reads pruning, ?_⟩
        rw [← same.deadline]
        exact passed
    · left
      exact (step.effect.marked inv stored same.completed
        fun yes => absurd yes pruning).same same
  · exact .inr ⟨count, Nat.lt_of_lt_of_le below progress.reads, passed⟩

theorem Remembered.run {first : TakeoverSessionManager} {calls : List SessionCall}
    {record : TakeoverRecord}
    (run : Run (Guarded (SessionStep config) fun manager call =>
      record.claimed = true ∨ sparesMarkers config manager call.1 = true) first calls last)
    (inv : Invariant config first) (remembered : Remembered config id record first) :
    Invariant config last ∧ Remembered config id record last := by
  induction run with
  | refl => exact ⟨inv, remembered⟩
  | step head _ ih =>
      obtain ⟨step, spares⟩ := head
      exact ih (step.evolves.invariant_progress inv).1 (remembered.step step spares inv)

/-- Before the completion expiry the marker is stored. -/
theorem Remembered.marked {record : TakeoverRecord}
    (remembered : Remembered config id record manager) {reads : Nat} (later : manager.reads ≤ reads)
    (before : config.now reads < record.completionExpiresAt) : manager.Marked id record := by
  rcases remembered with marked | ⟨count, below, passed⟩
  · exact marked
  · have earlier : config.now count ≤ config.now reads :=
      config.now_monotone (Nat.le_trans (Nat.le_of_lt below) later)
    omega

theorem isCompleted_marked {record : TakeoverRecord} (marked : manager.Marked id record)
    (before : config.now manager.reads < record.completionExpiresAt) :
    (isCompleted config id record.principalBinding manager).1 = .ok true := by
  obtain ⟨current, stored, same⟩ := marked
  have principal : current.principalBinding = record.principalBinding :=
    congrArg (·.principalBinding) same.locator
  have spec : StateExcept.Ensures (isCompleted config id record.principalBinding) manager
      fun result _ => result = .ok true := by
    apply ensures_read
    rw [stored]
    dsimp only
    rw [if_pos same.completed]
    apply ensures_now
    rw [if_neg (Int.not_le.mpr (same.deadline ▸ before))]
    apply StateExcept.Ensures.require
    · intro no
      simp [Takeover.same, principal] at no
    · exact fun _ => .pure rfl
  exact spec

/-- A verified completion that spares the marker reports it and leaves it alone. -/
theorem completeAfterVerification_marked {final : TakeoverSessionManager}
    {record : TakeoverRecord} {outcome : Except TakeoverSessionError SessionReply}
    (inv : Invariant config manager) (marked : manager.Marked id record)
    (step : SessionStep config manager
      (.completeAfterVerification record.interventionId record.epoch, outcome) final)
    (spares : sparesMarkers config manager
      (.completeAfterVerification record.interventionId record.epoch) = true)
    (before : config.now (manager.reads + 1) < record.completionExpiresAt) :
    (∃ results, outcome = .ok (.completions results) ∧
      { record.locator with alreadyCompleted := true } ∈ results) ∧
      ∃ record', final.records.get? id = some record' ∧
        record'.completionExpiresAt = record.completionExpiresAt := by
  obtain ⟨current, stored, same⟩ := marked
  have earlier : config.now manager.reads ≤ config.now (manager.reads + 1) :=
    config.now_monotone (Nat.le_succ _)
  have spared : current.prunable (config.now manager.reads) = false := by
    rcases spared_or_passed (.inr spares) stored same.completed rfl with spared | passed
    · exact spared
    · rw [same.deadline] at passed
      omega
  constructor
  · have kept := swept_marked stored spared
    refine ⟨_, (congrArg Prod.fst step).symm, ?_⟩
    apply List.mem_map.mpr
    refine ⟨current, List.mem_filter.mpr ⟨OrderedMap.mem_values_iff.mpr ⟨id, kept⟩, ?_⟩, ?_⟩
    · have owner : current.interventionId = record.interventionId :=
        congrArg (·.interventionId) same.locator
      have turn : current.epoch = record.epoch := congrArg (·.epoch) same.locator
      simp [verifiable, owner, turn, same.completed]
    · rw [same.completed]
      exact congrArg (fun locator => TakeoverCompletionResult.mk locator true) same.locator
  · obtain ⟨record', found, further⟩ :=
      (step.effect.marked inv stored same.completed fun _ => spared).same same
    exact ⟨record', found, further.deadline⟩

/-- Along every run that spares markers, a completed record answers `isCompleted` and is reported
by verified completion, with its deadline unchanged, until its completion expiry. -/
theorem run_marker_retained {before after : List SessionCall}
    {middle last : TakeoverSessionManager} (reached : SessionRun config initial before middle)
    {id : String} {record : TakeoverRecord} (stored : middle.records.get? id = some record)
    (completed : record.completed = true)
    (continued : Run (Guarded (SessionStep config) fun manager call =>
      sparesMarkers config manager call.1 = true) middle after last) :
    (config.now last.reads < record.completionExpiresAt →
      (isCompleted config id record.principalBinding last).1 = .ok true) ∧
      ∀ outcome final, SessionStep config last
          (.completeAfterVerification record.interventionId record.epoch, outcome) final →
        sparesMarkers config last
          (.completeAfterVerification record.interventionId record.epoch) = true →
        config.now (last.reads + 1) < record.completionExpiresAt →
        (∃ results, outcome = .ok (.completions results) ∧
          { record.locator with alreadyCompleted := true } ∈ results) ∧
          ∃ record', final.records.get? id = some record' ∧
            record'.completionExpiresAt = record.completionExpiresAt := by
  have inv : Invariant config middle := SessionRun.invariant reached
  have remembered : Remembered config id record middle := .inl ⟨record, stored, .refl completed⟩
  have spared : Run (Guarded (SessionStep config) fun manager call =>
      record.claimed = true ∨ sparesMarkers config manager call.1 = true) middle after last :=
    continued.mono fun step => ⟨step.1, .inr step.2⟩
  obtain ⟨lastInv, lastRemembered⟩ := remembered.run spared inv
  constructor
  · intro early
    exact isCompleted_marked (lastRemembered.marked (Nat.le_refl _) early) early
  · intro outcome final step spares early
    exact completeAfterVerification_marked lastInv
      (lastRemembered.marked (Nat.le_succ _) early) step spares early

/-- A clock that stands still for a while between the first calls. -/
def leapingClock (reads : Nat) : Int :=
  if reads < 2 then reads else if reads < 4 then 900 + reads else 1200 + reads

def leapingConfig : TakeoverSessionConfig :=
  { sampleConfig with
    now := leapingClock
    now_monotone := by
      intro early late le
      unfold leapingClock
      split_ifs <;> omega }

def leapingCompleted (claims : List SessionOp) : TakeoverSessionManager :=
  (replay leapingConfig initial
    (.ensure "intervention" 1 "principal" :: claims ++
      [.completeAfterVerification "intervention" 1])).2

/-- The next link of any other intervention. -/
def leapingPrune (manager : TakeoverSessionManager) : TakeoverSessionManager :=
  (replay leapingConfig manager [.ensure "other" 1 "principal"]).2

def leapingClaimed : TakeoverSessionManager :=
  leapingCompleted [.claimClient "takeover-0" "principal" sampleBinding]

/-- A claimed marker survives the same link. -/
theorem claimed_marker :
    (isCompleted leapingConfig "takeover-0" "principal" (leapingPrune leapingClaimed)).1 =
      .ok true := by
  have reached : SessionRun leapingConfig initial _ leapingClaimed := replay_run _ _
  have continued : Run (Guarded (SessionStep leapingConfig) fun manager call =>
      sparesMarkers leapingConfig manager call.1 = true) leapingClaimed
      (replay leapingConfig leapingClaimed [.ensure "other" 1 "principal"]).1
      (leapingPrune leapingClaimed) :=
    .single ⟨rfl, by decide⟩
  obtain ⟨record, stored, marked⟩ : ∃ record,
      leapingClaimed.records.get? "takeover-0" = some record ∧
      record.completed = true ∧ record.principalBinding = "principal" ∧
      leapingConfig.now (leapingPrune leapingClaimed).reads < record.completionExpiresAt :=
    ⟨_, rfl, by decide⟩
  exact marked.2.1 ▸ (run_marker_retained reached stored marked.1 continued).1 marked.2.2

/-- An unclaimed marker is pruned at its media expiry, by a link of another intervention. -/
theorem lost_marker :
    ∃ before after middle last record, SessionRun leapingConfig initial before middle ∧
      middle.records.get? "takeover-0" = some record ∧ record.completed = true ∧
      SessionRun leapingConfig middle after last ∧
      leapingConfig.now last.reads < record.completionExpiresAt ∧
      (isCompleted leapingConfig "takeover-0" record.principalBinding last).1 = .ok false := by
  refine ⟨_, _, leapingCompleted [], leapingPrune (leapingCompleted []), _, replay_run _ _, rfl, ?_,
    replay_run _ _, ?_, ?_⟩
  · decide
  · decide
  · decide

end TakeoverSessionManager

end ExecutionHandoff.Takeover
