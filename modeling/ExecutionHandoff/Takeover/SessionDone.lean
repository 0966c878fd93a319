import ExecutionHandoff.Takeover.SessionMarkers

/-!
# Repeating Done

A completion capability signs the record's identity and both of its deadlines.
Every operation keeps the identity and the media deadline, and all but one keep
the completion deadline.  As long as that one writes back the value it finds, a
holder who was served before the completion is served again after it.
-/

namespace ExecutionHandoff.Takeover

open Library
open StateExcept hiding read update

/-- What a completion capability signs is unchanged, and a claim is never withdrawn. -/
structure SameTerms (record record' : TakeoverRecord) : Prop where
  locator : record'.toTakeoverLocator = record.toTakeoverLocator
  deadline : record'.completionExpiresAt = record.completionExpiresAt
  claimed : record.claimed = true → record'.claimed = true

theorem SameTerms.refl (record : TakeoverRecord) : SameTerms record record :=
  ⟨rfl, rfl, id⟩

theorem SameTerms.trans {first middle last : TakeoverRecord} (left : SameTerms first middle)
    (right : SameTerms middle last) : SameTerms first last :=
  ⟨right.locator.trans left.locator, right.deadline.trans left.deadline,
    right.claimed ∘ left.claimed⟩

theorem SameTerms.capability (config : TakeoverSessionConfig) {record record' : TakeoverRecord}
    (same : SameTerms record record') :
    TakeoverSessionManager.completionCapabilityFor config record' =
      TakeoverSessionManager.completionCapabilityFor config record := by
  have id : record'.id = record.id := congrArg (·.id) same.locator
  have owner : record'.interventionId = record.interventionId :=
    congrArg (·.interventionId) same.locator
  have epoch : record'.epoch = record.epoch := congrArg (·.epoch) same.locator
  have principal : record'.principalBinding = record.principalBinding :=
    congrArg (·.principalBinding) same.locator
  have expiry : record'.expiresAt = record.expiresAt := congrArg (·.expiresAt) same.locator
  simp only [TakeoverSessionManager.completionCapabilityFor, completionCapabilityText, id, owner,
    epoch, principal, expiry, same.deadline]

theorem ClientWrite.sameTerms {record record' : TakeoverRecord} {rebinds : Bool}
    (wrote : ClientWrite record rebinds record') : SameTerms record record' := by
  obtain ⟨locator, _, _, deadline⟩ := wrote.keeps
  refine ⟨locator, deadline, fun claimed => ?_⟩
  obtain ⟨current, bound, nonempty, generation⟩ := TakeoverRecord.claimed_iff.mp claimed
  apply TakeoverRecord.claimed_iff.mpr
  cases wrote with
  | claim clientBinding time unbound shape =>
      rw [bound] at unbound
      cases unbound
  | reconnect clientBinding time _ idle shape =>
      refine ⟨clientBinding, rfl, ?_, Nat.le_add_left _ _⟩
      rintro rfl
      exact absurd shape (by decide)
  | see | release | beginBound | beginVerified | finish =>
      exact ⟨current, bound, nonempty, generation⟩

namespace TakeoverSessionManager

variable {config : TakeoverSessionConfig}

/-- Whatever is stored under the id afterwards was stored there before, on the same terms. -/
def TermsKept (id : String) (first last : TakeoverSessionManager) : Prop :=
  ∀ record', last.records.get? id = some record' →
    ∃ record, first.records.get? id = some record ∧ SameTerms record record'

variable {last manager : TakeoverSessionManager} {id : String}

theorem TermsKept.trans {first middle : TakeoverSessionManager}
    (left : TermsKept id first middle) (right : TermsKept id middle last) :
    TermsKept id first last := by
  intro record'' stored
  obtain ⟨record', before, further⟩ := right record'' stored
  obtain ⟨record, origin, same⟩ := left record' before
  exact ⟨record, origin, same.trans further⟩

theorem termsKept_of_records {first : TakeoverSessionManager}
    (records : last.records = first.records) : TermsKept id first last :=
  fun record stored => ⟨record, records ▸ stored, .refl record⟩

theorem swept_termsKept (id : String) (manager : TakeoverSessionManager) :
    TermsKept id manager (swept config manager) :=
  fun record stored => ⟨record, swept_stored stored, .refl record⟩

theorem withRecord_termsKept {written : String}
    {current next : TakeoverRecord} (found : manager.records.get? written = some current)
    (same : SameTerms current next) : TermsKept id manager (manager.withRecord written next) := by
  intro record' stored
  by_cases here : id = written
  · subst here
    rw [withRecord_records, OrderedMap.get?_set_self] at stored
    cases stored
    exact ⟨current, found, same⟩
  · rw [withRecord_records, OrderedMap.get?_set_ne _ _ here] at stored
    exact ⟨record', stored, .refl record'⟩

theorem mapped_termsKept {first : TakeoverSessionManager}
    {f : TakeoverRecord → TakeoverRecord} (mapped : last.records = first.records.mapValues f)
    (same : ∀ record, first.records.get? id = some record → SameTerms record (f record)) :
    TermsKept id first last := by
  intro record' stored
  rw [mapped, OrderedMap.get?_mapValues] at stored
  obtain ⟨record, before, rfl⟩ := Option.map_eq_some_iff.mp stored
  exact ⟨record, before, same record before⟩

theorem Touches.termsKept {rebinds : Bool} {first : TakeoverSessionManager}
    (touches : Touches config rebinds first last) (id : String) : TermsKept id first last := by
  induction touches with
  | refl => exact termsKept_of_records rfl
  | tail _ touch ih =>
      apply ih.trans
      cases touch with
      | wait records => exact termsKept_of_records records
      | @write written current next takes active wrote allowed records =>
          intro record' stored
          rw [records] at stored
          exact withRecord_termsKept active.stored wrote.sameTerms record' stored

theorem supersede_sameTerms (time : Int) (interventionId : String) (record : TakeoverRecord) :
    SameTerms record (supersede time interventionId record) := by
  unfold supersede
  split <;> exact ⟨rfl, rfl, id⟩

theorem revokeMatching_sameTerms (interventionId : String) (record : TakeoverRecord) :
    SameTerms record (revokeMatching interventionId record) := by
  unfold revokeMatching
  split <;> exact ⟨rfl, rfl, id⟩

/-- A verified completion of the session writes back the completion deadline it finds. -/
def keepsDeadline (config : TakeoverSessionConfig) (id : String)
    (manager : TakeoverSessionManager) : SessionOp → Bool
  | .completeAfterVerification interventionId epoch =>
      ((swept config manager).records.get? id).all fun record =>
        !verifiable (decisionTime config manager) interventionId epoch record || record.completed
          || decisionTime config manager + config.completionGraceMs == record.completionExpiresAt
  | _ => true

theorem completeVerified_sameTerms {time : Int} {interventionId : String} {epoch : Int}
    {record : TakeoverRecord}
    (keeps : (!verifiable time interventionId epoch record || record.completed
      || time + config.completionGraceMs == record.completionExpiresAt) = true) :
    SameTerms record (completeVerified config time interventionId epoch record) := by
  unfold completeVerified
  split
  · rename_i open'
    have deadline : time + config.completionGraceMs = record.completionExpiresAt := by
      simp_all
    exact ⟨rfl, deadline, id⟩
  · exact .refl record

/-- A call that keeps the deadline keeps the terms of every session issued before it. -/
theorem Effect.termsKept {after : TakeoverSessionManager} {op : SessionOp}
    (effect : Effect config manager op after)
    (issued : ∃ count < manager.created, id = config.createId count)
    (keeps : keepsDeadline config id manager op = true) : TermsKept id manager after := by
  cases effect with
  | client plain touches => exact touches.termsKept id
  | ensure ensured =>
      have pruned := @swept_termsKept config id manager
      cases ensured with
      | reused => exact pruned
      | @minted noneReusable =>
          apply pruned.trans
          intro record' stored
          obtain ⟨count, below, issue⟩ := issued
          have other : id ≠ config.createId (swept config manager).created := by
            intro same
            have reused := config.createId_injective (issue.symm.trans same)
            have created : (swept config manager).created = manager.created := rfl
            omega
          have mapped : ((swept config manager).records.mapValues
              (supersede (decisionTime config manager) _)).get? id = some record' :=
            (OrderedMap.get?_set_ne _ _ other).symm.trans stored
          rw [OrderedMap.get?_mapValues] at mapped
          obtain ⟨record, before, rfl⟩ := Option.map_eq_some_iff.mp mapped
          exact ⟨record, before, supersede_sameTerms _ _ record⟩
  | complete completion =>
      cases completion with
      | refused error wait => exact wait.touches.termsKept id
      | accepted current found completable principal wait kept later =>
          apply (wait.touches.termsKept id).trans
          rw [← kept] at found
          exact withRecord_termsKept found ⟨rfl, rfl, fun claimed => claimed⟩
  | completeAfterVerification interventionId epoch =>
      apply (swept_termsKept id manager).trans
      apply mapped_termsKept rfl
      intro record stored
      apply completeVerified_sameTerms
      rw [keepsDeadline, stored] at keeps
      exact keeps
  | revoke written =>
      unfold recordRevoked
      split
      · exact termsKept_of_records rfl
      · rename_i current found
        exact withRecord_termsKept found ⟨rfl, rfl, fun claimed => claimed⟩
  | revokeForIntervention interventionId =>
      exact mapped_termsKept rfl fun record _ => revokeMatching_sameTerms interventionId record

/-- The session is stored on the terms of the record, or gone. -/
def OnTerms (config : TakeoverSessionConfig) (record : TakeoverRecord) :
    String → TakeoverSessionManager → Prop :=
  Settled config (SameTerms record)

theorem OnTerms.step {first last : TakeoverSessionManager} {call : SessionCall} {id : String}
    {record : TakeoverRecord} (step : SessionStep config first call last)
    (keeps : keepsDeadline config id first call.1 = true) (inv : Invariant config first)
    (terms : OnTerms config record id first) : OnTerms config record id last := by
  obtain ⟨count, below, issue⟩ := terms.issued
  constructor
  · have progress := (step.evolves.invariant_progress inv).2
    exact ⟨count, Nat.lt_of_lt_of_le below progress.created, issue⟩
  · intro record'' stored
    obtain ⟨record', before, further⟩ :=
      step.effect.termsKept ⟨count, below, issue⟩ keeps record'' stored
    exact (terms.stored record' before).trans further

theorem OnTerms.run {first : TakeoverSessionManager} {calls : List SessionCall}
    {record : TakeoverRecord}
    (run : Run (Guarded (SessionStep config) fun manager call =>
      keepsDeadline config id manager call.1 = true) first calls last)
    (inv : Invariant config first) (terms : OnTerms config record id first) :
    Invariant config last ∧ OnTerms config record id last := by
  induction run with
  | refl => exact ⟨inv, terms⟩
  | step head _ ih =>
      obtain ⟨step, keeps⟩ := head
      exact ih (step.evolves.invariant_progress inv).1 (terms.step step keeps inv)

/-! ## The two ends of a holder's retry -/

/-- A reply is the value of the operation behind it. -/
theorem reply_ok {α : Type} {action : SessionM α} {reply : α → SessionReply}
    {first : TakeoverSessionManager} {answer : SessionReply}
    (step : (action >>= fun value => pure (reply value) : SessionM SessionReply) first =
      (.ok answer, last)) :
    ∃ value, (action first).1 = .ok value ∧ reply value = answer := by
  change StateExcept.andThen action _ first = _ at step
  unfold StateExcept.andThen at step
  cases result : action first with
  | mk outcome after =>
      rw [result] at step
      cases outcome with
      | error error => cases step
      | ok value =>
          cases step
          exact ⟨value, rfl, rfl⟩

/-- An issued capability is the one of the record stored at that moment. -/
theorem issueCompletionCapability_issued (manager : TakeoverSessionManager)
    (id principalBinding : String) :
    Ensures (issueCompletionCapability config id principalBinding) manager
      fun result _ => ∀ capability, result = .ok capability →
        ∀ record, manager.records.get? id = some record →
          capability = completionCapabilityFor config record ∧
            record.principalBinding = principalBinding := by
  apply ensures_read
  split
  · exact .throwing fun _ no => by cases no
  · rename_i record stored
    apply Ensures.require
    · exact fun _ _ no => by cases no
    · intro _
      apply ensures_assertPrincipal
      · exact fun _ _ no => by cases no
      · intro principal
        apply (assertCompletable_window record).bind
        · exact fun _ _ _ _ no => by cases no
        · intro _ _ _
          apply Ensures.pure
          rintro capability ⟨⟩ current found
          cases stored.symm.trans found
          exact ⟨rfl, principal⟩

/-- Before its completion expiry a claimed marker is completed again by its own capability. -/
theorem complete_marked {capability : String}
    {record : TakeoverRecord} (marked : manager.Marked id record) (claimed : record.claimed = true)
    (before : config.now (manager.reads + 1) < record.completionExpiresAt)
    (shape : shaped 32 128 capability = true)
    (own : completionCapabilityFor config record = capability) :
    (complete config id capability record.principalBinding manager).1 =
      .ok { record.locator with alreadyCompleted := true } := by
  obtain ⟨current, stored, same⟩ := marked
  have terms : SameTerms record current :=
    ⟨same.locator, same.deadline, fun claimed => same.claimed.trans claimed⟩
  have principal : current.principalBinding = record.principalBinding :=
    congrArg (·.principalBinding) same.locator
  have locator : current.locator = record.locator := same.locator
  have spec : Ensures (complete config id capability record.principalBinding) manager
      fun result _ => result = .ok { record.locator with alreadyCompleted := true } := by
    apply ensures_read
    rw [stored]
    dsimp only
    apply Ensures.require
    · intro no
      simp [same.completed] at no
    intro _
    have window : Ensures (assertCompletable config current) manager
        fun result _ => result = .ok () := by
      apply ensures_now
      split
      · apply Ensures.require
        · intro no
          simp [same.claimed, claimed] at no
        intro _
        apply ensures_now
        have later : config.now manager.ticked.reads < current.completionExpiresAt :=
          same.deadline ▸ before
        rw [decide_eq_true later]
        exact .pure rfl
      · exact .pure rfl
    apply window.bind
    · exact fun _ _ no => nomatch no
    intro _ after _
    apply Ensures.require
    · intro no
      simp [Takeover.same, principal] at no
    intro _
    apply Ensures.require
    · intro no
      rw [shape] at no
      cases no
    intro _
    apply Ensures.require
    · intro no
      simp [Takeover.same, terms.capability config, own] at no
    intro _
    apply ensures_putRecord
    apply Ensures.pure
    rw [locator, same.completed]
  exact spec

/-- A capability issued to a claimed session is served again, as already completed, from the
moment the session is completed until its completion expiry. -/
theorem run_done_repeats (shapes : ∀ text, shaped 32 128 (config.hmac text) = true)
    {calls before after : List SessionCall} {first issued done last : TakeoverSessionManager}
    {id capability principalBinding : String} {record completed : TakeoverRecord}
    (reached : SessionRun config initial calls first)
    (issue : SessionStep config first
      (.issueCompletionCapability id principalBinding, .ok (.credential capability)) issued)
    (stored : first.records.get? id = some record) (claimed : record.claimed = true)
    (continued : Run (Guarded (SessionStep config) fun manager call =>
      keepsDeadline config id manager call.1 = true) issued before done)
    (marker : done.records.get? id = some completed) (finished : completed.completed = true)
    (later : SessionRun config done after last)
    (early : config.now (last.reads + 1) < completed.completionExpiresAt) :
    (complete config id capability principalBinding last).1 =
      .ok { completed.locator with alreadyCompleted := true } := by
  have inv : Invariant config first := SessionRun.invariant reached
  obtain ⟨own, holder⟩ : capability = completionCapabilityFor config record ∧
      record.principalBinding = principalBinding := by
    have spec := @issueCompletionCapability_issued config first id principalBinding
    obtain ⟨value, result, same⟩ := reply_ok issue
    cases same
    exact spec capability result record stored
  have start : OnTerms config record id first := settled_of_stored inv stored (.refl record)
  have begun := start.step issue rfl inv
  obtain ⟨doneInv, terms⟩ := begun.run continued (issue.evolves.invariant_progress inv).1
  have same := terms.stored completed marker
  have remembered : Remembered config id completed done := .inl ⟨completed, marker, .refl finished⟩
  have spared : Run (Guarded (SessionStep config) fun manager call =>
      completed.claimed = true ∨ sparesMarkers config manager call.1 = true) done after last :=
    later.mono fun step => ⟨step, .inl (same.claimed claimed)⟩
  obtain ⟨_, lastRemembered⟩ := remembered.run spared doneInv
  have marked := lastRemembered.marked (Nat.le_succ _) early
  have principal : completed.principalBinding = principalBinding :=
    (congrArg (·.principalBinding) same.locator).trans holder
  subst own
  rw [← principal]
  exact complete_marked marked (same.claimed claimed) early (shapes _) (same.capability config)

/-! ## A sample holder -/

def sampleCompletionText (deadline : String) : String :=
  signedText ["mcp-execution-handoff/takeover-completion/v1", "takeover-0", "intervention", "1",
    "principal", "1001", deadline]

def sampleCompletionCapability : String := "sMd1CXnmhErYsWZGpbFlU-DlxsJX6jwMan59vZSzGFM"
def movedCompletionCapability : String := "jbsJmDzBQ2z-z4AGZbEy2RHwShzJf63DDXSOwplueXk"

/-- HMAC-SHA256 under the all-zero key on the texts the sample holder's calls sign. -/
def holderHmac (text : String) : String :=
  if text = sampleText "takeover/v2" sampleBinding "1" then sampleCapability
  else if text = sampleText "takeover-reconnect/v1" sampleBinding "1" then sampleReconnectHandle
  else if text = sampleCompletionText "1006" then movedCompletionCapability
  else sampleCompletionCapability

def holderConfig : TakeoverSessionConfig := { sampleConfig with hmac := holderHmac }

/-- The session is claimed, and its holder asks for a completion capability. -/
def holderClaimed : TakeoverSessionManager := (replay holderConfig initial sampleClaim).2

def holderIssued : TakeoverSessionManager :=
  (replay holderConfig holderClaimed [.issueCompletionCapability "takeover-0" "principal"]).2

theorem holderHmac_shaped (text : String) : shaped 32 128 (holderHmac text) = true := by
  unfold holderHmac
  split_ifs <;> decide

theorem holder_issue :
    SessionStep holderConfig holderClaimed
      (.issueCompletionCapability "takeover-0" "principal",
        .ok (.credential sampleCompletionCapability)) holderIssued := by
  decide

theorem holder_claimed :
    ∃ record, holderClaimed.records.get? "takeover-0" = some record ∧ record.claimed = true :=
  ⟨_, rfl, by decide⟩

def holderDone : List SessionOp := [.complete "takeover-0" sampleCompletionCapability "principal"]

def holderCompleted : TakeoverSessionManager := (replay holderConfig holderIssued holderDone).2

theorem holderCompleted_marker :
    ∃ record, holderCompleted.records.get? "takeover-0" = some record ∧
      record.completed = true ∧
      holderConfig.now (holderCompleted.reads + 1) < record.completionExpiresAt :=
  ⟨_, rfl, by decide⟩

/-- A holder who completed the session is told so again. -/
theorem holder_done_repeats :
    ∃ completion, (complete holderConfig "takeover-0" sampleCompletionCapability "principal"
      holderCompleted).1 = .ok completion ∧ completion.alreadyCompleted = true := by
  have reached : SessionRun holderConfig initial _ holderClaimed := replay_run _ sampleClaim
  obtain ⟨record, stored, claimed⟩ := holder_claimed
  obtain ⟨completed, marker, finished, early⟩ := holderCompleted_marker
  have continued : Run (Guarded (SessionStep holderConfig) fun manager call =>
      keepsDeadline holderConfig "takeover-0" manager call.1 = true) holderIssued
      (replay holderConfig holderIssued holderDone).1 holderCompleted :=
    .single ⟨rfl, by decide⟩
  have repeated := @run_done_repeats holderConfig holderHmac_shaped _ _ [] holderClaimed
    holderIssued holderCompleted holderCompleted "takeover-0" sampleCompletionCapability
    "principal" record completed reached holder_issue stored claimed continued marker finished
    (.refl holderCompleted) early
  exact ⟨_, repeated, rfl⟩

/-- The server verifies the intervention before the holder presents the capability. -/
def holderVerified : TakeoverSessionManager :=
  (replay holderConfig holderIssued [.completeAfterVerification "intervention" 1]).2

/-- After a verified completion of the session the capability its holder was given is refused
as invalid, well before the completion expiry. -/
theorem holder_done_refused :
    ∃ claimed record,
      SessionStep holderConfig holderClaimed
        (.issueCompletionCapability "takeover-0" "principal",
          .ok (.credential sampleCompletionCapability)) holderIssued ∧
      holderClaimed.records.get? "takeover-0" = some claimed ∧ claimed.claimed = true ∧
      SessionRun holderConfig holderIssued
        (replay holderConfig holderIssued [.completeAfterVerification "intervention" 1]).1
        holderVerified ∧
      holderVerified.records.get? "takeover-0" = some record ∧ record.completed = true ∧
      holderConfig.now (holderVerified.reads + 1) < record.completionExpiresAt ∧
      (complete holderConfig "takeover-0" sampleCompletionCapability "principal"
        holderVerified).1 = .error .invalidCompletionCapability := by
  obtain ⟨claimed, stored, holds⟩ := holder_claimed
  obtain ⟨record, marker, finished, early⟩ : ∃ record,
      holderVerified.records.get? "takeover-0" = some record ∧ record.completed = true ∧
      holderConfig.now (holderVerified.reads + 1) < record.completionExpiresAt :=
    ⟨_, rfl, by decide⟩
  have refused : (complete holderConfig "takeover-0" sampleCompletionCapability "principal"
      holderVerified).1 = .error .invalidCompletionCapability := by
    decide
  exact ⟨claimed, record, holder_issue, stored, holds, replay_run _ _, marker, finished, early,
    refused⟩

end TakeoverSessionManager

end ExecutionHandoff.Takeover
