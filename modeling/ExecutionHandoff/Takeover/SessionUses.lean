import Mathlib.Data.List.Count
import ExecutionHandoff.Takeover.SessionFence
import ExecutionHandoff.Takeover.SessionMarkers

/-!
# Uses of a session

A client brackets what it does by `beginUse` or `beginBoundUse` and one
`endUse`.  While a record is live it counts the brackets of its generation that
are open, however late those of an earlier generation are closed.
-/

namespace ExecutionHandoff.Takeover

open Library List
open OrderedMap (get?_set_ne get?_set_self get?_mapValues)
open StateExcept hiding read update

namespace TakeoverSessionManager

variable {config : TakeoverSessionConfig}

/-! ## Calls that begin and end no use -/

/-- Records keep their count; a generation goes up only where none is in flight or none was
claimed yet, and what was not stored before has a new id. -/
def Quiet (config : TakeoverSessionConfig) (first last : TakeoverSessionManager) : Prop :=
  ∀ id record', last.records.get? id = some record' →
    (record'.inFlight = 0 ∧ ∃ count, first.created ≤ count ∧ id = config.createId count) ∨
      ∃ record, first.records.get? id = some record ∧ record'.inFlight = record.inFlight ∧
        (record'.clientGeneration = record.clientGeneration ∨ record.inFlight = 0 ∨
          record.clientBinding = none)

section Quiet

variable {manager after : TakeoverSessionManager}

theorem Quiet.unchanged (records : after.records = manager.records) :
    Quiet config manager after := by
  intro id record stored
  exact .inr ⟨record, records ▸ stored, rfl, .inl rfl⟩

/-- One record is written through. -/
theorem Quiet.written {id : String} {record record' : TakeoverRecord}
    (stored : manager.records.get? id = some record)
    (records : after.records = manager.records.set id record')
    (count : record'.inFlight = record.inFlight)
    (generation : record'.clientGeneration = record.clientGeneration ∨ record.inFlight = 0 ∨
      record.clientBinding = none) : Quiet config manager after := by
  intro other current found
  rw [records] at found
  by_cases same : other = id
  · subst same
    cases (get?_set_self ..).symm.trans found
    exact .inr ⟨record, stored, count, generation⟩
  · rw [get?_set_ne _ _ same] at found
    exact .inr ⟨current, found, rfl, .inl rfl⟩

/-- Every record is rewritten. -/
theorem Quiet.mapped {f : TakeoverRecord → TakeoverRecord} {middle : TakeoverSessionManager}
    (kept : ∀ id record, middle.records.get? id = some record →
      manager.records.get? id = some record)
    (same : ∀ record, (f record).inFlight = record.inFlight ∧
      (f record).clientGeneration = record.clientGeneration)
    {id : String} {record' : TakeoverRecord}
    (stored : (middle.records.mapValues f).get? id = some record') :
    ∃ record, manager.records.get? id = some record ∧ record'.inFlight = record.inFlight ∧
      (record'.clientGeneration = record.clientGeneration ∨ record.inFlight = 0 ∨
        record.clientBinding = none) := by
  rw [get?_mapValues] at stored
  obtain ⟨record, found, rfl⟩ := Option.map_eq_some_iff.mp stored
  exact ⟨record, kept id record found, (same record).1, .inl (same record).2⟩

end Quiet

/-- The postcondition of a call that begins and ends no use. -/
def Quietly (config : TakeoverSessionConfig) (manager : TakeoverSessionManager) {α : Type}
    (_ : Except TakeoverSessionError α) (after : TakeoverSessionManager) : Prop :=
  Quiet config manager after

section Calls

variable (manager : TakeoverSessionManager)

theorem validateLocator_quiet (id principalBinding : String) :
    Ensures (validateLocator config id principalBinding) manager
      (Quietly config manager) := by
  have once : Quiet config manager manager.ticked := .unchanged rfl
  apply touches_requireActive
  · exact fun _ => .unchanged rfl
  · exact fun _ => once
  · intro record active
    apply ensures_assertPrincipal (fun _ => once)
    exact fun _ => .pure once

theorem issueCompletionCapability_quiet (id principalBinding : String) :
    Ensures (issueCompletionCapability config id principalBinding) manager
      (Quietly config manager) := by
  have none : Quiet config manager manager := .unchanged rfl
  apply ensures_read
  split
  · exact .throwing none
  · apply Ensures.require (fun _ => none)
    intro _
    apply ensures_assertPrincipal (fun _ => none)
    intro _
    apply (assertCompletable_window _).bind
    · exact fun _ _ failed => .unchanged failed.2.1
    · exact fun _ _ passed => .pure (.unchanged passed.2.1)

theorem complete_quiet (id completionCapability principalBinding : String) :
    Ensures (complete config id completionCapability principalBinding) manager
      (Quietly config manager) := by
  have none : Quiet config manager manager := .unchanged rfl
  apply ensures_read
  split
  · exact .throwing none
  · rename_i record stored
    apply Ensures.require (fun _ => none)
    intro _
    apply (assertCompletable_window record).bind
    · exact fun _ _ failed => .unchanged failed.2.1
    · intro _ after passed
      have wait : Quiet config manager after := .unchanged passed.2.1
      apply ensures_assertPrincipal (fun _ => wait)
      intro _
      apply Ensures.require (fun _ => wait)
      intro _
      apply Ensures.require (fun _ => wait)
      intro _
      apply ensures_putRecord
      exact .pure (.written stored (congrArg (OrderedMap.set · id _) passed.2.1) rfl (.inl rfl))

theorem revoke_quiet (id : String) :
    Ensures (revoke id) manager (Quietly config manager) := by
  apply ensures_read
  split
  · exact .pure (.unchanged rfl)
  · rename_i record stored
    apply Ensures.update
    exact .written stored rfl rfl (.inl rfl)

theorem isCompleted_quiet (id principalBinding : String) :
    Ensures (isCompleted config id principalBinding) manager
      (Quietly config manager) := by
  have once : Quiet config manager manager.ticked := .unchanged rfl
  apply ensures_read
  split
  · exact .pure (.unchanged rfl)
  · split
    · apply ensures_now
      split
      · exact .pure once
      · exact ensures_assertPrincipal (fun _ => once) fun _ => .pure once
    · exact .pure (.unchanged rfl)

theorem quiet_grant {record : TakeoverRecord} {after : TakeoverSessionManager}
    (quiet : Quiet config manager after) :
    Ensures (grant config record) after (Quietly config manager) :=
  ensures_grant (fun _ => quiet) fun _ _ => quiet

theorem claimClient_quiet (id principalBinding clientBinding : String) :
    Ensures (claimClient config id principalBinding clientBinding) manager
      (Quietly config manager) := by
  have once : Quiet config manager manager.ticked := .unchanged rfl
  apply touches_requireActive
  · exact fun _ => .unchanged rfl
  · exact fun _ => once
  · intro record active
    apply ensures_assertPrincipal (fun _ => once)
    intro _
    apply ensures_assertClientBindingShape (fun _ => once)
    intro _
    split
    · rename_i unbound
      apply ensures_now
      apply ensures_putRecord
      apply quiet_grant
      exact .written active.stored rfl rfl (.inr (.inr unbound))
    · apply Ensures.require (fun _ => once)
      intro _
      apply ensures_now
      apply ensures_putRecord
      apply quiet_grant
      exact .written active.stored rfl rfl (.inl rfl)

/-- A reconnection is quiet, and none was in flight where it succeeds. -/
theorem reconnectClient_idle (id principalBinding reconnectHandle nextClientBinding : String) :
    Ensures
      (reconnectClient config id principalBinding reconnectHandle nextClientBinding) manager
      fun result after => Quiet config manager after ∧ (result.isOk = true →
        ∃ record, Active config manager id record ∧ record.inFlight = 0) := by
  have once : Quiet config manager manager.ticked := .unchanged rfl
  have refused {α : Type} (error : TakeoverSessionError) {after : TakeoverSessionManager}
      (quiet : Quiet config manager after) :
      Quiet config manager after ∧ ((.error error : Except TakeoverSessionError α).isOk = true →
        ∃ record, Active config manager id record ∧ record.inFlight = 0) :=
    ⟨quiet, fun no => nomatch no⟩
  apply touches_requireActive
  · exact fun _ => refused _ (.unchanged rfl)
  · exact fun _ => refused _ once
  · intro record active
    apply ensures_assertPrincipal (fun _ => refused _ once)
    intro _
    apply ensures_assertClientBindingShape (fun _ => refused _ once)
    intro _
    apply Ensures.require (fun _ => refused _ once)
    intro _
    apply Ensures.require (fun _ => refused _ once)
    intro seen
    have claimed : record.claimed = true := (Bool.and_eq_true_iff.mp seen).1
    obtain ⟨current, bound, _, _⟩ := TakeoverRecord.claimed_iff.mp claimed
    apply ensures_assertReconnectHandle bound (fun _ => refused _ once)
    intro _
    apply ensures_now
    apply Ensures.require (fun _ => refused _ (.unchanged rfl))
    intro idle
    apply ensures_now
    apply ensures_putRecord
    have still : record.inFlight = 0 := by simpa using (Bool.and_eq_true_iff.mp idle).1
    refine ensures_grant (fun _ => refused _ ?_) fun _ _ => ⟨?_, fun _ => ⟨record, active, still⟩⟩
    all_goals exact .written active.stored rfl rfl (.inr (.inl still))

theorem releaseClientGeneration_quiet (id principalBinding clientBinding : String)
    (clientGeneration : Nat) :
    Ensures
      (releaseClientGeneration config id principalBinding clientBinding clientGeneration) manager
      (Quietly config manager) := by
  have once : Quiet config manager manager.ticked := .unchanged rfl
  apply touches_requireActive
  · exact fun _ => .unchanged rfl
  · exact fun _ => once
  · intro record active
    apply ensures_assertPrincipal (fun _ => once)
    intro _
    apply ensures_assertClient (fun _ => once)
    intro _ _
    apply Ensures.require (fun _ => once)
    intro _
    apply Ensures.update
    exact .written active.stored rfl rfl (.inl rfl)

/-- A verification sees the active record whose use it returns. -/
theorem verify_seen (id capability principalBinding clientBinding : String) :
    Ensures (verify config id capability principalBinding clientBinding) manager
      fun result after =>
        match result with
        | .error _ => Quiet config manager after
        | .ok use => ∃ record time, Active config manager id record ∧
            record.principalBinding = principalBinding ∧
            record.clientBinding = some clientBinding ∧ use = useOf record ∧
            after.records = manager.records.set id { record with lastSeenAt := some time } := by
  have once : Quiet config manager manager.ticked := .unchanged rfl
  apply touches_requireActive
  · exact fun _ => Quiet.unchanged rfl
  · exact fun _ => once
  · intro record active
    apply ensures_assertPrincipal (fun _ => once)
    intro principal
    apply ensures_assertClient (fun _ => once)
    intro _ bound
    apply Ensures.require (fun _ => once)
    intro _
    apply ensures_capabilityFor bound (fun _ => once)
    apply Ensures.require (fun _ => once)
    intro _
    apply ensures_now
    apply ensures_putRecord
    exact .pure ⟨record, _, active, principal, bound, rfl, rfl⟩

/-- One record is stored anew, and all others are as they were. -/
structure Stored (manager : TakeoverSessionManager) (id : String) (record : TakeoverRecord)
    (after : TakeoverSessionManager) : Prop where
  this : after.records.get? id = some record
  others : ∀ other, other ≠ id → after.records.get? other = manager.records.get? other

variable {manager} in
theorem Stored.set {id : String} {record : TakeoverRecord} {after : TakeoverSessionManager}
    (records : after.records = manager.records.set id record) : Stored manager id record after where
  this := records ▸ get?_set_self ..
  others := fun _ other => records ▸ get?_set_ne _ _ other

/-- What the beginning of a use does: nothing to the counts, or one more of them. -/
inductive UseBegun (config : TakeoverSessionConfig) (manager : TakeoverSessionManager) :
    Except TakeoverSessionError TakeoverUse → TakeoverSessionManager → Prop where
  | refused (error : TakeoverSessionError) {after : TakeoverSessionManager}
      (quiet : Quiet config manager after) : UseBegun config manager (.error error) after
  | begun {id : String} (record : TakeoverRecord) (time : Int) {after : TakeoverSessionManager}
      (active : Active config manager id record)
      (stored : Stored manager id
        { record with inFlight := record.inFlight + 1, lastSeenAt := some time } after)
      (bound : record.clientBinding ≠ none) :
      UseBegun config manager (.ok (useOf record)) after

theorem beginBoundUse_begun (id principalBinding clientBinding : String) (clientGeneration : Nat) :
    Ensures
      (beginBoundUse config id principalBinding clientBinding clientGeneration) manager
      (UseBegun config manager) := by
  have once (error : TakeoverSessionError) : UseBegun config manager (.error error) manager.ticked :=
    .refused error (.unchanged rfl)
  apply touches_requireActive
  · exact fun error => .refused error (.unchanged rfl)
  · exact once
  · intro record active
    apply ensures_assertPrincipal once
    intro _
    apply ensures_assertClient once
    intro _ bound
    apply Ensures.require (fun _ => once _)
    intro _
    apply ensures_now
    apply ensures_putRecord
    apply Ensures.pure
    exact .begun record _ active (.set rfl) (bound ▸ Option.some_ne_none _)

theorem beginUse_begun (id capability principalBinding clientBinding : String) :
    Ensures (beginUse config id capability principalBinding clientBinding) manager
      (UseBegun config manager) := by
  apply (verify_seen manager id capability principalBinding clientBinding).bind
  · exact fun error _ quiet => .refused error quiet
  · rintro use middle ⟨record, time, active, _, bound, rfl, records⟩
    have seen {after : TakeoverSessionManager} (same : after.records = middle.records) :
        Quiet config manager after := .written active.stored (same.trans records) rfl (.inl rfl)
    apply touches_requireActive
    · exact fun error => .refused error (seen rfl)
    · exact fun error => .refused error (seen rfl)
    · intro current active'
      have found := active'.stored
      rw [records, get?_set_self] at found
      cases found
      apply ensures_putRecord
      apply Ensures.pure
      refine .begun record time active ⟨get?_set_self .., fun other ne => ?_⟩
        (bound ▸ Option.some_ne_none _)
      rw [withRecord_records, get?_set_ne _ _ ne, ticked_records, records,
        get?_set_ne _ _ ne]

/-- The record counts a use of these values. -/
def Ends (record : TakeoverRecord) (principalBinding clientBinding : String)
    (clientGeneration : Nat) : Prop :=
  record.principalBinding = principalBinding ∧ record.boundTo clientBinding = true ∧
    record.clientGeneration = clientGeneration

/-- What the end of a use does: one record counts one less, or there is none that does. -/
inductive UseEnded (config : TakeoverSessionConfig) (manager : TakeoverSessionManager)
    (id principalBinding clientBinding : String) (clientGeneration : Nat)
    (after : TakeoverSessionManager) : Prop where
  | ignored (records : after.records = manager.records)
      (none' : ∀ record, manager.records.get? id = some record → record.revoked = true ∨
        (manager.reads < after.reads ∧ record.expiresAt ≤ config.now manager.reads) ∨
          ¬Ends record principalBinding clientBinding clientGeneration)
  | ended (record : TakeoverRecord) (time : Int)
      (found : manager.records.get? id = some record)
      (ends : Ends record principalBinding clientBinding clientGeneration)
      (stored : Stored manager id
        { record with inFlight := record.inFlight - 1, lastSeenAt := some time } after)

theorem endUse_ended (id principalBinding clientBinding : String) (clientGeneration : Nat) :
    Ensures (endUse config id principalBinding clientBinding clientGeneration) manager
      fun _ => UseEnded config manager id principalBinding clientBinding clientGeneration := by
  apply ensures_read
  split
  · rename_i absent
    refine .pure (.ignored rfl fun record stored => ?_)
    cases absent.symm.trans stored
  · rename_i record stored
    split
    · rename_i revoked
      refine .pure (.ignored rfl fun current found => .inl ?_)
      cases stored.symm.trans found
      exact revoked
    · apply ensures_now
      split
      · rename_i refused
        refine .pure (.ignored rfl fun current found => .inr ?_)
        cases stored.symm.trans found
        rcases Bool.or_eq_true_iff.mp refused with expired | other
        · exact .inl ⟨Nat.lt_succ_self _, of_decide_eq_true expired⟩
        · refine .inr fun ⟨principal, bound, generation⟩ => ?_
          simp [same, principal, bound, generation] at other
      · rename_i accepted
        apply ensures_now
        apply Ensures.update
        refine .ended record _ stored ?_ (.set rfl)
        have matches' := (not_or.mp (mt Bool.or_eq_true_iff.mpr accepted)).2
        simpa [same, Ends, and_assoc] using matches'

/-! ### All calls -/

/-- The calls of a bracket. -/
def brackets : SessionOp → Bool
  | .beginBoundUse _ _ _ _ | .beginUse _ _ _ _ | .endUse _ _ _ _ => true
  | _ => false

variable {manager}

theorem Quietly.reply {α : Type} {action : SessionM α} {reply : α → SessionReply}
    (holds : Ensures action manager (Quietly config manager)) :
    Quiet config manager
      ((action >>= fun value => pure (reply value) : SessionM SessionReply) manager).2 := by
  rw [reply_state action reply manager]
  exact holds

theorem supersede_count (time : Int) (interventionId : String) (record : TakeoverRecord) :
    (supersede time interventionId record).inFlight = record.inFlight ∧
      (supersede time interventionId record).clientGeneration = record.clientGeneration := by
  unfold supersede
  split <;> exact ⟨rfl, rfl⟩

theorem completeVerified_count (time : Int) (interventionId : String) (epoch : Int)
    (record : TakeoverRecord) :
    (completeVerified config time interventionId epoch record).inFlight = record.inFlight ∧
      (completeVerified config time interventionId epoch record).clientGeneration =
        record.clientGeneration := by
  unfold completeVerified
  split <;> exact ⟨rfl, rfl⟩

theorem revokeMatching_count (interventionId : String) (record : TakeoverRecord) :
    (revokeMatching interventionId record).inFlight = record.inFlight ∧
      (revokeMatching interventionId record).clientGeneration = record.clientGeneration := by
  unfold revokeMatching
  split <;> exact ⟨rfl, rfl⟩

theorem Ensured.quiet {interventionId : String} {epoch : Int} {principalBinding : String}
    {locator : TakeoverLocator} {after : TakeoverSessionManager}
    (ensured : Ensured config manager interventionId epoch principalBinding locator after) :
    Quiet config manager after := by
  intro id record' stored
  cases ensured with
  | reused => exact .inr ⟨record', swept_stored stored, rfl, .inl rfl⟩
  | minted =>
      by_cases same : id = config.createId manager.created
      · refine .inl ⟨?_, manager.created, Nat.le_refl _, same⟩
        subst same
        cases (get?_set_self ..).symm.trans stored
        rfl
      · change ((OrderedMap.mapValues _ _).set _ _).get? id = some record' at stored
        have new : (swept config manager).created = manager.created := rfl
        rw [new, get?_set_ne _ _ same] at stored
        exact .inr (Quiet.mapped (fun _ _ => swept_stored) (supersede_count _ _) stored)

theorem perform_quiet {op : SessionOp} (plain : brackets op = false) :
    Quiet config manager (perform config op manager).2 := by
  cases op with
  | ensure interventionId epoch principalBinding =>
      obtain ⟨locator, after, same, ensured⟩ :=
        @ensure_outcome config manager interventionId epoch principalBinding
      rw [perform, reply_state, same]
      exact ensured.quiet
  | complete id completionCapability principalBinding =>
      exact @Quietly.reply _ _ _ _ (fun result => .completions [result])
        (complete_quiet manager id completionCapability principalBinding)
  | completeAfterVerification interventionId epoch =>
      rw [perform, reply_state]
      intro id record' stored
      exact .inr (Quiet.mapped (fun _ _ => swept_stored) (completeVerified_count _ _ _) stored)
  | revoke id => exact @Quietly.reply _ _ _ _ (fun _ => .done) (revoke_quiet manager id)
  | revokeForIntervention interventionId =>
      intro id record' stored
      exact .inr (Quiet.mapped (fun _ _ same => same) (revokeMatching_count _) stored)
  | validateLocator id principalBinding =>
      exact Quietly.reply (validateLocator_quiet manager id principalBinding)
  | issueCompletionCapability id principalBinding =>
      exact Quietly.reply (issueCompletionCapability_quiet manager id principalBinding)
  | claimClient id principalBinding clientBinding =>
      exact Quietly.reply (claimClient_quiet manager id principalBinding clientBinding)
  | reconnectClient id principalBinding reconnectHandle nextClientBinding =>
      have idle := @reconnectClient_idle config manager id principalBinding reconnectHandle nextClientBinding
      exact Quietly.reply (idle.mono fun _ _ both => both.1)
  | releaseClientGeneration id principalBinding clientBinding clientGeneration =>
      exact Quietly.reply
        (releaseClientGeneration_quiet manager id principalBinding clientBinding clientGeneration)
  | verify id capability principalBinding clientBinding =>
      refine Quietly.reply ((verify_seen manager id capability principalBinding clientBinding).mono
        fun result after seen => ?_)
      cases result with
      | error error => exact seen
      | ok use =>
          obtain ⟨record, time, active, _, _, _, records⟩ := seen
          exact .written active.stored records rfl (.inl rfl)
  | isCompleted id principalBinding =>
      exact Quietly.reply (isCompleted_quiet manager id principalBinding)
  | beginBoundUse | beginUse | endUse => cases plain

end Calls

/-! ## Brackets -/

/-- A session manager with the uses that were begun and have not been ended. -/
structure Bracketed where
  manager : TakeoverSessionManager
  uses : List TakeoverUse

/-- The use a call has begun. -/
def begun : SessionCall → List TakeoverUse
  | (.beginBoundUse _ _ _ _, .ok (.use use)) | (.beginUse _ _ _ _, .ok (.use use)) => [use]
  | _ => []

def endsUse : SessionOp → Bool
  | .endUse _ _ _ _ => true
  | _ => false

/-- The call that closes the bracket of a use. -/
def endOf (use : TakeoverUse) : SessionOp :=
  .endUse use.id use.principalBinding use.clientBinding use.clientGeneration

/-- Any call but the end of a use, or the end of one that is open. -/
inductive BracketStep (config : TakeoverSessionConfig) :
    Bracketed → SessionCall → Bracketed → Prop where
  | call {first : Bracketed} {call : SessionCall} {after : TakeoverSessionManager}
      (step : SessionStep config first.manager call after) (open' : endsUse call.1 = false) :
      BracketStep config first call ⟨after, begun call ++ first.uses⟩
  | finish {first : Bracketed} {use : TakeoverUse}
      {outcome : Except TakeoverSessionError SessionReply} {after : TakeoverSessionManager}
      (mem : use ∈ first.uses) (step : SessionStep config first.manager (endOf use, outcome) after) :
      BracketStep config first (endOf use, outcome) ⟨after, first.uses.erase use⟩

/-- The open uses of a generation of a session. -/
def openUses (uses : List TakeoverUse) (id : String) (generation : Nat) : Nat :=
  uses.countP fun use => use.id == id && use.clientGeneration == generation

/-- How far a record may have moved since the use of it began. -/
structure UseStanding (use : TakeoverUse) (record : TakeoverRecord) : Prop where
  principal : record.principalBinding = use.principalBinding
  positive : 0 < use.clientGeneration
  named : use.clientBinding ≠ ""
  generation : use.clientGeneration ≤ record.clientGeneration
  binding : record.clientBinding ≠ some use.clientBinding →
    use.clientGeneration < record.clientGeneration

/-- What the open uses say about a manager: a record that is live at a time from the last clock
read on counts those of its generation. -/
structure UsesCounted (config : TakeoverSessionConfig) (state : Bracketed) : Prop where
  inv : Invariant config state.manager
  issued : ∀ use ∈ state.uses, ∃ count < state.manager.created, use.id = config.createId count
  standing : ∀ use ∈ state.uses, ∀ record,
    state.manager.records.get? use.id = some record → UseStanding use record
  counted : ∀ time, Reached config state.manager time → ∀ id record,
    state.manager.records.get? id = some record → Live time record →
      record.inFlight = openUses state.uses id record.clientGeneration

theorem UseStanding.advances {use : TakeoverUse} {record record' : TakeoverRecord}
    (standing : UseStanding use record) (advances : Advances record record') :
    UseStanding use record' where
  principal := (congrArg (·.principalBinding) advances.locator).trans standing.principal
  positive := standing.positive
  named := standing.named
  generation := Nat.le_trans standing.generation advances.generation
  binding := by
    intro rebound
    by_cases kept : record.clientBinding = record'.clientBinding
    · exact Nat.lt_of_lt_of_le (standing.binding (kept ▸ rebound)) advances.generation
    · exact Nat.lt_of_le_of_lt standing.generation (advances.binding kept)

/-- A record is ended by a standing use exactly if it is at the use's generation. -/
theorem UseStanding.ends_iff {use : TakeoverUse} {record : TakeoverRecord}
    (standing : UseStanding use record) :
    Ends record use.principalBinding use.clientBinding use.clientGeneration ↔
      record.clientGeneration = use.clientGeneration := by
  refine ⟨fun ends => ends.2.2, fun generation => ⟨standing.principal, ?_, generation⟩⟩
  have bound : record.clientBinding = some use.clientBinding := by
    by_contra rebound
    exact Nat.lt_irrefl _ (generation ▸ standing.binding rebound)
  simp [TakeoverRecord.boundTo, bound, same, standing.named]

section Counting

variable {uses : List TakeoverUse} {use : TakeoverUse} {id : String} {generation : Nat}

/-- A generation that no open use has reached has none. -/
theorem openUses_eq_zero (others : ∀ use ∈ uses, use.id = id → use.clientGeneration ≠ generation) :
    openUses uses id generation = 0 := by
  refine countP_eq_zero.mpr fun use mem => ?_
  rw [Bool.and_eq_true_iff, beq_iff_eq, beq_iff_eq]
  exact fun ⟨same, equal⟩ => others use mem same equal

theorem openUses_cons_self (at' : use.clientGeneration = generation) (named : use.id = id) :
    openUses (use :: uses) id generation = openUses uses id generation + 1 := by
  unfold openUses
  rw [countP_cons_of_pos (by simp [at', named])]

theorem openUses_cons_ne (other : ¬(use.id = id ∧ use.clientGeneration = generation)) :
    openUses (use :: uses) id generation = openUses uses id generation := by
  unfold openUses
  rw [countP_cons_of_neg (by simpa using other)]

/-- Ending an open use takes one off its own generation and none off another. -/
theorem openUses_erase (mem : use ∈ uses) :
    openUses uses id generation = openUses (use :: uses.erase use) id generation :=
  (perm_cons_erase mem).countP_eq _

end Counting

/-! ## Each step keeps the counts -/

section Steps

variable {first last : TakeoverSessionManager} {uses : List TakeoverUse}

/-- A record that is live after a step was live before it, and has only moved on. -/
theorem Progress.live {time : Int} (progress : Progress config first last)
    (inv : Invariant config first) (reached : Reached config last time) {id : String}
    {record record' : TakeoverRecord} (stored : first.records.get? id = some record)
    (stored' : last.records.get? id = some record') (live : Live time record') :
    Reached config first time ∧ Live time record ∧ Advances record record' := by
  have advances := progress.kept inv stored stored'
  have expiry : record'.expiresAt = record.expiresAt := congrArg (·.expiresAt) advances.locator
  refine ⟨fun count below => reached count (Nat.lt_of_lt_of_le below progress.reads), ⟨?_, ?_⟩,
    advances⟩
  · cases revoked : record.revoked with
    | false => rfl
    | true => cases (advances.revoked revoked).symm.trans live.1
  · exact expiry ▸ live.2

/-- The parts of the invariant that are not about the counts are kept by any progress. -/
theorem UsesCounted.progress (inv : UsesCounted config ⟨first, uses⟩)
    (progress : Progress config first last) {use : TakeoverUse} (mem : use ∈ uses) :
    (∃ count < last.created, use.id = config.createId count) ∧
      ∀ record, last.records.get? use.id = some record → UseStanding use record := by
  obtain ⟨count, below, same⟩ := inv.issued use mem
  refine ⟨⟨count, Nat.lt_of_lt_of_le below progress.created, same⟩, fun record' stored => ?_⟩
  obtain ⟨record, found, advances⟩ := progress.source ⟨count, below, same⟩ stored
  exact (inv.standing use mem record found).advances advances

/-- A quiet call keeps the counts. -/
theorem UsesCounted.quiet (inv : UsesCounted config ⟨first, uses⟩)
    (inv' : Invariant config last) (progress : Progress config first last)
    (quiet : Quiet config first last) : UsesCounted config ⟨last, uses⟩ where
  inv := inv'
  issued := fun use mem => (inv.progress progress mem).1
  standing := fun use mem => (inv.progress progress mem).2
  counted := by
    intro time reached id record' stored live
    rcases quiet id record' stored with ⟨none', count, new, rfl⟩ | ⟨record, found, same, raised⟩
    · -- Nobody can have begun a use of a session that was not yet created.
      rw [none', openUses_eq_zero]
      intro use mem named
      obtain ⟨issue, below, origin⟩ := inv.issued use mem
      have earlier : issue < first.created := below
      have reused := config.createId_injective (origin.symm.trans named)
      omega
    · obtain ⟨reached', live', advances⟩ := progress.live inv.inv reached found stored live
      have counted := inv.counted time reached' id record found live'
      have standing := fun use mem (named : use.id = id) =>
        inv.standing use mem record (named ▸ found)
      rw [same, counted]
      rcases Nat.eq_or_lt_of_le advances.generation with equal | higher
      · rw [equal]
      · have none' : openUses uses id record'.clientGeneration = 0 := by
          refine openUses_eq_zero fun use mem named => Nat.ne_of_lt ?_
          exact Nat.lt_of_le_of_lt (standing use mem named).generation higher
        rw [none', ← counted]
        rcases raised with equal | idle | unbound
        · exact absurd equal (Nat.ne_of_gt higher)
        · exact idle
        · have zero := (inv.inv.wellFormed id record found).unbound unbound
          rw [counted, openUses_eq_zero]
          intro use mem named
          rw [zero]
          exact Nat.ne_of_gt (standing use mem named).positive

/-- A claimed record has a binding that is not empty. -/
theorem named_of_bound {record : TakeoverRecord} (wellFormed : WellFormed record)
    (bound : record.clientBinding ≠ none) :
    ∃ current, record.clientBinding = some current ∧ current ≠ "" ∧ 0 < record.clientGeneration := by
  obtain ⟨current, same⟩ := Option.ne_none_iff_exists'.mp bound
  obtain ⟨shape, positive⟩ := wellFormed.bound current same
  refine ⟨current, same, ?_, positive⟩
  rintro rfl
  cases shape

/-- The use of a stored record stands there. -/
theorem useStanding_of_stored {record : TakeoverRecord} (wellFormed : WellFormed record)
    (bound : record.clientBinding ≠ none) : UseStanding (useOf record) record := by
  obtain ⟨current, same, named, positive⟩ := named_of_bound wellFormed bound
  have binding : (useOf record).clientBinding = current := by
    change record.clientBinding.getD "" = current
    rw [same]
    rfl
  refine ⟨rfl, positive, binding ▸ named, Nat.le_refl _, fun rebound => ?_⟩
  rw [binding] at rebound
  exact absurd same rebound

/-- A use that begins is counted. -/
theorem UsesCounted.begun (inv : UsesCounted config ⟨first, uses⟩)
    (inv' : Invariant config last) (progress : Progress config first last) {id : String}
    {record : TakeoverRecord} {seen : Int} (active : Active config first id record)
    (stored : Stored first id
      { record with inFlight := record.inFlight + 1, lastSeenAt := some seen } last)
    (bound : record.clientBinding ≠ none) :
    UsesCounted config ⟨last, useOf record :: uses⟩ := by
  have named : (useOf record).id = id := inv.inv.keyed id record active.stored
  refine ⟨inv', ?_, ?_, ?_⟩
  · refine forall_mem_cons.mpr ⟨?_, fun use mem => (inv.progress progress mem).1⟩
    obtain ⟨count, below, same⟩ := inv.inv.issued id record active.stored
    exact ⟨count, Nat.lt_of_lt_of_le below progress.created, named.trans same⟩
  · refine forall_mem_cons.mpr ⟨fun current found => ?_,
      fun use mem => (inv.progress progress mem).2⟩
    rw [named] at found
    cases stored.this.symm.trans found
    obtain ⟨principal, positive, nonempty, generation, binding⟩ :=
      useStanding_of_stored (inv.inv.wellFormed id record active.stored) bound
    exact ⟨principal, positive, nonempty, generation, binding⟩
  · intro time reached other record' found live
    by_cases same : other = id
    · subst same
      obtain ⟨reached', live', _⟩ := progress.live inv.inv reached active.stored found live
      cases stored.this.symm.trans found
      have counted := inv.counted time reached' other record active.stored live'
      exact (congrArg (· + 1) counted).trans (openUses_cons_self rfl named).symm
    · have found' := found
      rw [stored.others other same] at found'
      obtain ⟨reached', live', _⟩ := progress.live inv.inv reached found' found live
      rw [openUses_cons_ne fun both => same (both.1.symm.trans named)]
      exact inv.counted time reached' other record' found' live'

/-- An open use that ends is counted no more. -/
theorem UsesCounted.ended (inv : UsesCounted config ⟨first, uses⟩)
    (inv' : Invariant config last) (progress : Progress config first last) {use : TakeoverUse}
    (mem : use ∈ uses)
    (ended : UseEnded config first use.id use.principalBinding use.clientBinding
      use.clientGeneration last) : UsesCounted config ⟨last, uses.erase use⟩ := by
  refine ⟨inv', fun other mem' => (inv.progress progress (mem_of_mem_erase mem')).1,
    fun other mem' => (inv.progress progress (mem_of_mem_erase mem')).2, ?_⟩
  intro time reached id record' found live
  have others (other : ¬(use.id = id ∧ use.clientGeneration = record'.clientGeneration)) :
      openUses (uses.erase use) id record'.clientGeneration =
        openUses uses id record'.clientGeneration := by
    rw [openUses_erase mem, openUses_cons_ne other]
  cases ended with
  | ignored records none' =>
      rw [records] at found
      obtain ⟨reached', live', _⟩ := progress.live inv.inv reached found (records ▸ found) live
      rw [others]
      · exact inv.counted time reached' id record' found live'
      · -- Such a record would have been counted down.
        rintro ⟨rfl, generation⟩
        rcases none' record' found with revoked | ⟨read, expired⟩ | differs
        · cases revoked.symm.trans live.1
        · have passed := reached first.reads read
          have unexpired : time < record'.expiresAt := live.2
          omega
        · exact differs ((inv.standing use mem record' found).ends_iff.mpr generation.symm)
  | ended record seen before ends stored =>
      by_cases same : id = use.id
      · subst same
        obtain ⟨reached', live', _⟩ := progress.live inv.inv reached before found live
        cases stored.this.symm.trans found
        have counted := inv.counted time reached' use.id record before live'
        have split := @openUses_erase _ _ use.id record.clientGeneration mem
        rw [openUses_cons_self ends.2.2.symm rfl] at split
        change record.inFlight - 1 = openUses (uses.erase use) use.id record.clientGeneration
        change record.inFlight = openUses uses use.id record.clientGeneration at counted
        omega
      · have found' := found
        rw [stored.others id same] at found'
        obtain ⟨reached', live', _⟩ := progress.live inv.inv reached found' found live
        rw [others fun both => same both.1.symm]
        exact inv.counted time reached' id record' found' live'

/-- The reply of a call of a bracket that begins. -/
theorem perform_begun {op : SessionOp} (bracket : brackets op = true) (open' : endsUse op = false) :
    ∃ outcome, (perform config op first).1 = outcome.map .use ∧
      UseBegun config first outcome (perform config op first).2 := by
  cases op with
  | beginBoundUse id principalBinding clientBinding clientGeneration =>
      have mapped : Ensures
          (perform config (.beginBoundUse id principalBinding clientBinding clientGeneration)) first
          fun result after => ∃ outcome, result = outcome.map .use ∧
            UseBegun config first outcome after :=
        .mapping ((beginBoundUse_begun first id principalBinding clientBinding
          clientGeneration).mono fun outcome _ begun => ⟨outcome, rfl, begun⟩)
      exact mapped
  | beginUse id capability principalBinding clientBinding =>
      have mapped : Ensures
          (perform config (.beginUse id capability principalBinding clientBinding)) first
          fun result after => ∃ outcome, result = outcome.map .use ∧
            UseBegun config first outcome after :=
        .mapping ((beginUse_begun first id capability principalBinding
          clientBinding).mono fun outcome _ begun => ⟨outcome, rfl, begun⟩)
      exact mapped
  | endUse => cases open'
  | _ => cases bracket

theorem perform_ended (use : TakeoverUse) :
    UseEnded config first use.id use.principalBinding use.clientBinding use.clientGeneration
      (perform config (endOf use) first).2 := by
  have mapped : Ensures (perform config (endOf use)) first
      fun _ => UseEnded config first use.id use.principalBinding use.clientBinding
        use.clientGeneration :=
    .mapping (endUse_ended first use.id use.principalBinding use.clientBinding use.clientGeneration)
  exact mapped

theorem begun_plain {op : SessionOp} (plain : brackets op = false)
    (outcome : Except TakeoverSessionError SessionReply) : begun (op, outcome) = [] := by
  cases op with
  | beginBoundUse | beginUse | endUse => cases plain
  | _ => rfl

theorem begun_bracket {op : SessionOp} (bracket : brackets op = true)
    (open' : endsUse op = false) (outcome : Except TakeoverSessionError TakeoverUse) :
    begun (op, outcome.map .use) = outcome.toOption.toList := by
  cases op with
  | beginBoundUse | beginUse => cases outcome <;> rfl
  | endUse => cases open'
  | _ => cases bracket

theorem BracketStep.counted {first last : Bracketed} {call : SessionCall}
    (step : BracketStep config first call last) (inv : UsesCounted config first) :
    UsesCounted config last := by
  cases step with
  | @call _ after step open' =>
      obtain ⟨inv', progress⟩ := step.evolves.invariant_progress inv.inv
      obtain ⟨op, outcome⟩ := call
      have state : (perform config op first.manager).2 = after := congrArg Prod.snd step
      have reply : (perform config op first.manager).1 = outcome := congrArg Prod.fst step
      cases plain : brackets op with
      | false =>
          rw [begun_plain plain]
          exact inv.quiet inv' progress (state ▸ perform_quiet plain)
      | true =>
          obtain ⟨used, same, begins⟩ := @perform_begun config first.manager _ plain open'
          rw [reply] at same
          subst same
          rw [state] at begins
          rw [begun_bracket plain open']
          cases begins with
          | refused error quiet => exact inv.quiet inv' progress quiet
          | begun record time active stored bound =>
              exact inv.begun inv' progress active stored bound
  | @finish use outcome after mem step =>
      obtain ⟨inv', progress⟩ := step.evolves.invariant_progress inv.inv
      have state : (perform config (endOf use) first.manager).2 = after := congrArg Prod.snd step
      exact inv.ended inv' progress mem (state ▸ perform_ended use)

end Steps

/-! ## Runs -/

theorem initial_counted : UsesCounted config ⟨initial, []⟩ := by
  refine ⟨initial_invariant, fun _ no => (nomatch no), fun _ no => (nomatch no), ?_⟩
  intro time reached id record stored
  cases stored

/-- Calls that end no use open brackets only. -/
theorem bracketed_replay (manager : TakeoverSessionManager) (uses : List TakeoverUse)
    {ops : List SessionOp} (open' : ∀ op ∈ ops, endsUse op = false) :
    ∃ uses', Run (BracketStep config) ⟨manager, uses⟩ (replay config manager ops).1
      ⟨(replay config manager ops).2, uses'⟩ := by
  induction ops generalizing manager uses with
  | nil => exact ⟨uses, .refl _⟩
  | cons op ops ih =>
      obtain ⟨uses', rest⟩ := ih (perform config op manager).2
        (begun (op, (perform config op manager).1) ++ uses)
        fun other mem => open' other (mem_cons_of_mem _ mem)
      exact ⟨uses', .step (.call rfl (open' op mem_cons_self)) rest⟩

def sampleUse : List SessionOp :=
  sampleClaim ++ [.beginBoundUse "takeover-0" "principal" sampleBinding 1]

def sampleUsed : TakeoverSessionManager := (replay sampleConfig initial sampleUse).2

end TakeoverSessionManager

end ExecutionHandoff.Takeover
