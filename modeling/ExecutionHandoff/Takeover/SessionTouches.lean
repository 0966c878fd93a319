import ExecutionHandoff.Takeover.SessionAuthority

/-!
# What each call does to the store

The exact effect of every operation on the records.  The calls of a client
touch one active record, or only read the clock.  The four operations that
decide about a whole session (minting, completion, verified completion,
revocation) have one specification each.
-/

namespace ExecutionHandoff.Takeover

open Library
open StateExcept hiding read update

/-- The writes of a client's calls; the flag marks the one that takes over a generation. -/
inductive ClientWrite (record : TakeoverRecord) : Bool → TakeoverRecord → Prop where
  | claim (clientBinding : String) (time : Int)
      (unbound : record.clientBinding = none) (shape : shaped 24 128 clientBinding = true) :
      ClientWrite record false
        { record with
          clientBinding := some clientBinding, clientGeneration := 1, released := false,
          lastSeenAt := some time }
  | see (time : Int) : ClientWrite record false { record with lastSeenAt := some time }
  | reconnect (clientBinding : String) (time : Int)
      (claimed : record.claimed = true) (idle : record.inFlight = 0)
      (shape : shaped 24 128 clientBinding = true) :
      ClientWrite record true
        { record with
          clientBinding := some clientBinding
          clientGeneration := record.clientGeneration + 1
          lastSeenAt := some time, released := false }
  | release (bound : record.clientBinding ≠ none) :
      ClientWrite record false { record with released := true }
  | beginBound (time : Int) (unreleased : record.released = false) :
      ClientWrite record false
        { record with inFlight := record.inFlight + 1, lastSeenAt := some time }
  | beginVerified : ClientWrite record false { record with inFlight := record.inFlight + 1 }
  | finish (time : Int) :
      ClientWrite record false
        { record with inFlight := record.inFlight - 1, lastSeenAt := some time }

theorem ClientWrite.recordWrite {record record' : TakeoverRecord} {rebinds : Bool}
    (wrote : ClientWrite record rebinds record') : RecordWrite record record' := by
  cases wrote with
  | claim clientBinding time unbound shape => exact .claim clientBinding time unbound shape
  | see time => exact .see time
  | reconnect clientBinding time claimed idle shape =>
      exact .reconnect clientBinding time claimed idle shape
  | release => exact .release
  | beginBound time unreleased => exact .beginBound time unreleased
  | beginVerified => exact .beginVerified
  | finish time => exact .finish time

/-- A client's call neither revokes nor completes, and keeps both deadlines. -/
theorem ClientWrite.keeps {record record' : TakeoverRecord} {rebinds : Bool}
    (wrote : ClientWrite record rebinds record') :
    record'.toTakeoverLocator = record.toTakeoverLocator ∧ record'.revoked = record.revoked ∧
      record'.completed = record.completed ∧
      record'.completionExpiresAt = record.completionExpiresAt := by
  cases wrote <;> exact ⟨rfl, rfl, rfl, rfl⟩

namespace TakeoverRecord

/-- Inside the media lease, or claimed and inside the completion grace. -/
def inWindow (time : Int) (record : TakeoverRecord) : Bool :=
  decide (time < record.expiresAt)
    || (record.claimed && decide (time < record.completionExpiresAt))

/-- `complete` accepts the record's own credentials at that time. -/
def completable (time : Int) (record : TakeoverRecord) : Bool :=
  !(record.revoked && !record.completed) && record.inWindow time

end TakeoverRecord

namespace TakeoverSessionManager

variable {config : TakeoverSessionConfig}

/-! ## Client calls -/

/-- One write of a client's call, or none; `rebinds` allows a reconnection. -/
inductive Touch (config : TakeoverSessionConfig) (rebinds : Bool)
    (first last : TakeoverSessionManager) : Prop where
  | wait (records : last.records = first.records) (reads : first.reads ≤ last.reads)
      (created : last.created = first.created)
  | write {id : String} {record record' : TakeoverRecord} {takes : Bool}
      (active : Active config first id record) (wrote : ClientWrite record takes record')
      (allowed : takes = true → rebinds = true)
      (records : last.records = first.records.set id record')
      (reads : first.reads < last.reads) (created : last.created = first.created)

/-- What a whole call of a client does. -/
def Touches (config : TakeoverSessionConfig) (rebinds : Bool) :
    TakeoverSessionManager → TakeoverSessionManager → Prop :=
  Relation.ReflTransGen (Touch config rebinds)

theorem Touch.touches {rebinds : Bool} {first last : TakeoverSessionManager}
    (touch : Touch config rebinds first last) : Touches config rebinds first last :=
  Relation.ReflTransGen.single touch

theorem Touches.refl (rebinds : Bool) (manager : TakeoverSessionManager) :
    Touches config rebinds manager manager :=
  Relation.ReflTransGen.refl

theorem Touches.trans {rebinds : Bool} {first middle last : TakeoverSessionManager}
    (left : Touches config rebinds first middle) (right : Touches config rebinds middle last) :
    Touches config rebinds first last :=
  Relation.ReflTransGen.trans left right

theorem touches_ticked (rebinds : Bool) (manager : TakeoverSessionManager) :
    Touches config rebinds manager manager.ticked := by
  apply Touch.touches
  exact .wait rfl (Nat.le_succ _) rfl

theorem Touches.tick {rebinds : Bool} {first last : TakeoverSessionManager}
    (before : Touches config rebinds first last) : Touches config rebinds first last.ticked :=
  before.trans (touches_ticked rebinds last)

/-- A write through the active record, after one more clock read or none. -/
theorem Active.touches {rebinds takes : Bool} {first : TakeoverSessionManager} {id : String}
    {record record' : TakeoverRecord} (active : Active config first id record)
    (wrote : ClientWrite record takes record') (allowed : takes = true → rebinds = true)
    {middle : TakeoverSessionManager} (records : middle.records = first.records)
    (reads : first.reads < middle.reads) (created : middle.created = first.created) :
    Touches config rebinds first (middle.withRecord id record') := by
  apply Touch.touches
  refine .write active wrote allowed ?_ reads created
  rw [withRecord_records, records]

/-- A store with more clock reads and the same records is reached by ticking. -/
theorem evolves_reads {first last : TakeoverSessionManager}
    (records : last.records = first.records) (reads : first.reads ≤ last.reads)
    (created : last.created = first.created) : Evolves config first last := by
  obtain ⟨more, same⟩ := Nat.exists_eq_add_of_le reads
  induction more generalizing last with
  | zero =>
      have equal : last = first := by
        cases first
        cases last
        simp_all
      rw [equal]
      exact .refl first
  | succ more ih =>
      have before : Evolves config first { last with reads := first.reads + more } :=
        ih records (Nat.le_add_right _ _) created rfl
      have tick := before.tick
      have equal : ticked { last with reads := first.reads + more } = last := by
        cases last
        simp_all [ticked, Nat.add_assoc]
      exact equal ▸ tick

theorem Touch.evolves {rebinds : Bool} {first last : TakeoverSessionManager}
    (touch : Touch config rebinds first last) : Evolves config first last := by
  cases touch with
  | wait records reads created => exact evolves_reads records reads created
  | @write id record record' takes active wrote allowed records reads created =>
      have wait : Evolves config first { last with records := first.records } :=
        evolves_reads rfl (Nat.le_of_lt reads) created
      have written := wait.write active.stored wrote.recordWrite
      have equal : withRecord { last with records := first.records } id record' = last := by
        cases last
        simp_all [withRecord]
      exact equal ▸ written

theorem Touches.evolves {rebinds : Bool} {first last : TakeoverSessionManager}
    (touches : Touches config rebinds first last) : Evolves config first last := by
  induction touches with
  | refl => exact .refl first
  | tail _ touch ih => exact ih.trans touch.evolves

/-! ### Rules for the building blocks of a client's call -/

section Rules

variable {α : Type} {manager : TakeoverSessionManager}
  {post : Except TakeoverSessionError α → TakeoverSessionManager → Prop}

/-- `requireActive` costs at most one clock read and returns only an active record. -/
theorem touches_requireActive {id : String} {next : TakeoverRecord → SessionM α}
    (missing : ∀ error, post (.error error) manager)
    (expired : ∀ error, post (.error error) manager.ticked)
    (passed : ∀ record, Active config manager id record →
      Ensures (next record) manager.ticked post) :
    Ensures (requireActive config id >>= next) manager post := by
  have spec : Ensures (requireActive config id) manager fun result after =>
      match result with
      | .error _ => after = manager ∨ after = manager.ticked
      | .ok record => Active config manager id record ∧ after = manager.ticked := by
    unfold requireActive
    apply ensures_read
    split
    · exact .throwing (.inl rfl)
    · rename_i record stored
      apply Ensures.require
      · exact fun _ => .inl rfl
      · intro unrevoked
        apply ensures_now
        apply Ensures.require
        · exact fun _ => .inr rfl
        · intro unexpired
          exact .pure ⟨⟨stored, by simpa using unrevoked, of_decide_eq_true unexpired⟩, rfl⟩
  refine spec.bind ?_ ?_
  · rintro error after (rfl | rfl)
    · exact missing error
    · exact expired error
  · rintro record after ⟨active, rfl⟩
    exact passed record active

end Rules

/-- The postcondition of a client's call. -/
def Touching (config : TakeoverSessionConfig) (rebinds : Bool) (manager : TakeoverSessionManager)
    {α : Type} (_ : Except TakeoverSessionError α) (after : TakeoverSessionManager) : Prop :=
  Touches config rebinds manager after

/-- The completion window is tested at one clock value. -/
theorem assertCompletable_window {manager : TakeoverSessionManager} (record : TakeoverRecord) :
    Ensures (assertCompletable config record) manager fun result after =>
      (∀ rebinds, Touch config rebinds manager after) ∧ after.records = manager.records ∧
        manager.reads < after.reads ∧
        (result = .ok () → record.inWindow (config.now manager.reads) = true) := by
  have once : ∀ rebinds, Touch config rebinds manager manager.ticked :=
    fun _ => .wait rfl (Nat.le_succ _) rfl
  have twice : ∀ rebinds, Touch config rebinds manager manager.ticked.ticked :=
    fun _ => .wait rfl (Nat.le_add_right _ 2) rfl
  apply ensures_now
  split
  · rename_i expired
    apply Ensures.require
    · exact fun _ => ⟨once, rfl, Nat.lt_succ_self _, fun no => nomatch no⟩
    · intro claimed
      apply ensures_now
      have later : manager.reads < manager.ticked.ticked.reads :=
        Nat.lt_succ_of_lt (Nat.lt_succ_self _)
      unfold StateExcept.require
      split
      · rename_i inside
        refine ⟨twice, rfl, later, fun _ => ?_⟩
        have earlier : config.now manager.reads ≤ config.now manager.ticked.reads :=
          config.now_monotone (Nat.le_succ _)
        have before : config.now manager.reads < record.completionExpiresAt :=
          Int.lt_of_le_of_lt earlier (of_decide_eq_true inside)
        simp [TakeoverRecord.inWindow, claimed, before]
      · exact ⟨twice, rfl, later, fun no => nomatch no⟩
  · rename_i current
    refine .pure ⟨once, rfl, Nat.lt_succ_self _, fun _ => ?_⟩
    simp [TakeoverRecord.inWindow, Int.not_le.mp current]

section Calls

variable {α : Type} {manager : TakeoverSessionManager} {rebinds : Bool}

theorem Touching.reply {action : SessionM α} {reply : α → SessionReply}
    (holds : Ensures action manager (Touching config rebinds manager)) :
    Ensures (action >>= fun value => pure (reply value)) manager
      (Touching config rebinds manager) := by
  apply holds.bind
  · exact fun _ _ failed => failed
  · exact fun _ _ returned => .pure returned

theorem validateLocator_touches (id principalBinding : String) :
    Ensures (validateLocator config id principalBinding) manager
      (Touching config rebinds manager) := by
  have once : Touches config rebinds manager manager.ticked := touches_ticked rebinds manager
  apply touches_requireActive
  · exact fun _ => .refl rebinds manager
  · exact fun _ => once
  · intro record _
    apply ensures_assertPrincipal
    · exact fun _ => once
    · exact fun _ => .pure once

theorem touches_grant {record : TakeoverRecord} {after : TakeoverSessionManager}
    (touches : Touches config rebinds manager after) :
    Ensures (grant config record) after (Touching config rebinds manager) := by
  apply ensures_claimedBinding
  · exact fun _ => touches
  · intro clientBinding bound _
    apply ensures_capabilityFor bound
    · exact fun _ => touches
    · apply ensures_reconnectHandleFor bound
      · exact fun _ => touches
      · exact .pure touches

theorem claimClient_touches (id principalBinding clientBinding : String) :
    Ensures (claimClient config id principalBinding clientBinding) manager
      (Touching config rebinds manager) := by
  have once : Touches config rebinds manager manager.ticked := touches_ticked rebinds manager
  apply touches_requireActive
  · exact fun _ => .refl rebinds manager
  · exact fun _ => once
  · intro record active
    apply ensures_assertPrincipal (fun _ => once)
    intro _
    apply ensures_assertClientBindingShape (fun _ => once)
    intro shape
    split
    · rename_i unbound
      apply ensures_now
      apply ensures_putRecord
      apply touches_grant
      exact active.touches (.claim clientBinding _ unbound shape) (fun no => nomatch no) rfl
        (Nat.lt_succ_of_lt (Nat.lt_succ_self _)) rfl
    · apply Ensures.require (fun _ => once)
      intro _
      apply ensures_now
      apply ensures_putRecord
      apply touches_grant
      exact active.touches (.see _) (fun no => nomatch no) rfl
        (Nat.lt_succ_of_lt (Nat.lt_succ_self _)) rfl

theorem reconnectClient_touches
    (id principalBinding reconnectHandle nextClientBinding : String) :
    Ensures
      (reconnectClient config id principalBinding reconnectHandle nextClientBinding) manager
      (Touching config true manager) := by
  have once : Touches config true manager manager.ticked := touches_ticked true manager
  apply touches_requireActive
  · exact fun _ => .refl true manager
  · exact fun _ => once
  · intro record active
    apply ensures_assertPrincipal (fun _ => once)
    intro _
    apply ensures_assertClientBindingShape (fun _ => once)
    intro shape
    apply Ensures.require (fun _ => once)
    intro _
    apply Ensures.require (fun _ => once)
    intro seen
    have claimed : record.claimed = true := (Bool.and_eq_true_iff.mp seen).1
    obtain ⟨current, bound, _, _⟩ := TakeoverRecord.claimed_iff.mp claimed
    apply ensures_assertReconnectHandle bound (fun _ => once)
    intro _
    apply ensures_now
    apply Ensures.require (fun _ => once.tick)
    intro idle
    apply ensures_now
    apply ensures_putRecord
    apply touches_grant
    have still : record.inFlight = 0 := by simpa using (Bool.and_eq_true_iff.mp idle).1
    exact active.touches (.reconnect nextClientBinding _ claimed still shape) (fun _ => rfl) rfl
      (Nat.lt_succ_of_lt (Nat.lt_succ_of_lt (Nat.lt_succ_self _))) rfl

theorem releaseClientGeneration_touches (id principalBinding clientBinding : String)
    (clientGeneration : Nat) :
    Ensures
      (releaseClientGeneration config id principalBinding clientBinding clientGeneration) manager
      (Touching config rebinds manager) := by
  have once : Touches config rebinds manager manager.ticked := touches_ticked rebinds manager
  apply touches_requireActive
  · exact fun _ => .refl rebinds manager
  · exact fun _ => once
  · intro record active
    apply ensures_assertPrincipal (fun _ => once)
    intro _
    apply ensures_assertClient (fun _ => once)
    intro _ bound
    apply Ensures.require (fun _ => once)
    intro _
    apply Ensures.update
    have claimed : record.clientBinding ≠ none := by
      rw [bound]
      exact Option.some_ne_none clientBinding
    exact active.touches (.release claimed) (fun no => nomatch no) rfl (Nat.lt_succ_self _) rfl

theorem beginBoundUse_touches (id principalBinding clientBinding : String)
    (clientGeneration : Nat) :
    Ensures
      (beginBoundUse config id principalBinding clientBinding clientGeneration) manager
      (Touching config rebinds manager) := by
  have once : Touches config rebinds manager manager.ticked := touches_ticked rebinds manager
  apply touches_requireActive
  · exact fun _ => .refl rebinds manager
  · exact fun _ => once
  · intro record active
    apply ensures_assertPrincipal (fun _ => once)
    intro _
    apply ensures_assertClient (fun _ => once)
    intro _ _
    apply Ensures.require (fun _ => once)
    intro current
    have unreleased : record.released = false := by
      simpa using (Bool.and_eq_true_iff.mp current).1
    apply ensures_now
    apply ensures_putRecord
    apply Ensures.pure
    exact active.touches (.beginBound _ unreleased) (fun no => nomatch no) rfl
      (Nat.lt_succ_of_lt (Nat.lt_succ_self _)) rfl

theorem verify_touches (id capability principalBinding clientBinding : String) :
    Ensures (verify config id capability principalBinding clientBinding) manager
      (Touching config rebinds manager) := by
  have once : Touches config rebinds manager manager.ticked := touches_ticked rebinds manager
  apply touches_requireActive
  · exact fun _ => .refl rebinds manager
  · exact fun _ => once
  · intro record active
    apply ensures_assertPrincipal (fun _ => once)
    intro _
    apply ensures_assertClient (fun _ => once)
    intro _ bound
    apply Ensures.require (fun _ => once)
    intro _
    apply ensures_capabilityFor bound (fun _ => once)
    apply Ensures.require (fun _ => once)
    intro _
    apply ensures_now
    apply ensures_putRecord
    apply Ensures.pure
    exact active.touches (.see _) (fun no => nomatch no) rfl
      (Nat.lt_succ_of_lt (Nat.lt_succ_self _)) rfl

theorem beginUse_touches (id capability principalBinding clientBinding : String) :
    Ensures (beginUse config id capability principalBinding clientBinding) manager
      (Touching config rebinds manager) := by
  apply (verify_touches id capability principalBinding clientBinding).bind
  · exact fun _ _ failed => failed
  · intro use after verified
    apply touches_requireActive
    · exact fun _ => verified
    · exact fun _ => Touches.tick verified
    · intro record active
      apply ensures_putRecord
      apply Ensures.pure
      apply Touches.trans verified
      exact active.touches .beginVerified (fun no => nomatch no) rfl (Nat.lt_succ_self _) rfl

theorem endUse_touches (id principalBinding clientBinding : String) (clientGeneration : Nat) :
    Ensures (endUse config id principalBinding clientBinding clientGeneration) manager
      (Touching config rebinds manager) := by
  have once : Touches config rebinds manager manager.ticked := touches_ticked rebinds manager
  apply ensures_read
  split
  · exact .pure (.refl rebinds manager)
  · rename_i record stored
    split
    · exact .pure (.refl rebinds manager)
    · rename_i unrevoked
      apply ensures_now
      split
      · exact .pure once
      · rename_i current
        have active : Active config manager id record := by
          refine ⟨stored, by simpa using unrevoked, ?_⟩
          simp only [Bool.or_eq_true, decide_eq_true_eq, not_or, Int.not_le] at current
          exact current.1
        apply ensures_now
        apply Ensures.update
        exact active.touches (.finish _) (fun no => nomatch no) rfl
          (Nat.lt_succ_of_lt (Nat.lt_succ_self _)) rfl

theorem isCompleted_touches (id principalBinding : String) :
    Ensures (isCompleted config id principalBinding) manager
      (Touching config rebinds manager) := by
  have once : Touches config rebinds manager manager.ticked := touches_ticked rebinds manager
  apply ensures_read
  split
  · exact .pure (.refl rebinds manager)
  · split
    · apply ensures_now
      split
      · exact .pure once
      · apply ensures_assertPrincipal (fun _ => once)
        exact fun _ => .pure once
    · exact .pure (.refl rebinds manager)

theorem issueCompletionCapability_touches (id principalBinding : String) :
    Ensures (issueCompletionCapability config id principalBinding) manager
      (Touching config rebinds manager) := by
  apply ensures_read
  split
  · exact .throwing (.refl rebinds manager)
  · rename_i record stored
    apply Ensures.require (fun _ => .refl rebinds manager)
    intro _
    apply ensures_assertPrincipal (fun _ => .refl rebinds manager)
    intro _
    apply (assertCompletable_window record).bind
    · exact fun _ _ failed => (failed.1 rebinds).touches
    · exact fun _ _ passed => .pure (passed.1 rebinds).touches

end Calls

/-! ## Decisions about a whole session -/

/-- What a completion request does: nothing to the records, or it completes one of them. -/
inductive Completion (config : TakeoverSessionConfig) (manager : TakeoverSessionManager)
    (id principalBinding : String) :
    Except TakeoverSessionError TakeoverCompletionResult → TakeoverSessionManager → Prop where
  | refused (error : TakeoverSessionError) {after : TakeoverSessionManager}
      (wait : Touch config false manager after) :
      Completion config manager id principalBinding (.error error) after
  | accepted (record : TakeoverRecord) {after : TakeoverSessionManager}
      (stored : manager.records.get? id = some record)
      (completable : record.completable (config.now manager.reads) = true)
      (principal : record.principalBinding = principalBinding)
      (wait : Touch config false manager after) (kept : after.records = manager.records)
      (later : manager.reads < after.reads) :
      Completion config manager id principalBinding
        (.ok { record.locator with alreadyCompleted := record.completed })
        (after.withRecord id { record with completed := true, revoked := true, released := true })

theorem complete_outcome (manager : TakeoverSessionManager)
    (id completionCapability principalBinding : String) :
    Ensures (complete config id completionCapability principalBinding) manager
      (Completion config manager id principalBinding) := by
  have none : Touch config false manager manager := .wait rfl (Nat.le_refl _) rfl
  apply ensures_read
  split
  · exact .throwing (.refused _ none)
  · rename_i record stored
    apply Ensures.require (fun _ => .refused _ none)
    intro open'
    apply (assertCompletable_window record).bind
    · exact fun _ _ failed => .refused _ (failed.1 false)
    · intro _ after passed
      obtain ⟨waits, kept, later, window⟩ := passed
      have wait := waits false
      apply ensures_assertPrincipal (fun _ => .refused _ wait)
      intro principal
      apply Ensures.require (fun _ => .refused _ wait)
      intro _
      apply Ensures.require (fun _ => .refused _ wait)
      intro _
      apply ensures_putRecord
      apply Ensures.pure
      refine .accepted record stored ?_ principal wait kept later
      exact Bool.and_eq_true_iff.mpr ⟨open', window rfl⟩

/-- The store in which `ensure` and `completeAfterVerification` look: pruned, one read later. -/
def swept (config : TakeoverSessionConfig) (manager : TakeoverSessionManager) :
    TakeoverSessionManager :=
  (manager.ticked.pruned (config.now manager.reads)).ticked

/-- The time at which they decide. -/
def decisionTime (config : TakeoverSessionConfig) (manager : TakeoverSessionManager) : Int :=
  config.now (manager.reads + 1)

theorem swept_read (manager : TakeoverSessionManager) :
    JustRead config (swept config manager) (decisionTime config manager) :=
  ⟨manager.reads + 1, rfl, rfl⟩

theorem swept_evolves (manager : TakeoverSessionManager) :
    Evolves config manager (swept config manager) := by
  have pruned : Elementary config manager.ticked
      (manager.ticked.pruned (config.now manager.reads)) := .prune ⟨manager.reads, rfl, rfl⟩
  exact ((evolves_ticked manager).trans pruned.evolves).tick

theorem swept_stored {manager : TakeoverSessionManager} {id : String} {record : TakeoverRecord}
    (stored : (swept config manager).records.get? id = some record) :
    manager.records.get? id = some record := by
  change (manager.ticked.pruned (config.now manager.reads)).records.get? id = some record at stored
  rw [pruned, OrderedMap.get?_filterValues] at stored
  exact (Option.filter_eq_some_iff.mp stored).1

/-- What `ensure` does: it hands out a live record again, or mints one. -/
inductive Ensured (config : TakeoverSessionConfig) (manager : TakeoverSessionManager)
    (interventionId : String) (epoch : Int) (principalBinding : String) :
    TakeoverLocator → TakeoverSessionManager → Prop where
  | reused {id : String} {record : TakeoverRecord}
      (stored : (swept config manager).records.get? id = some record)
      (live : reusable (decisionTime config manager) interventionId epoch principalBinding record =
        true) :
      Ensured config manager interventionId epoch principalBinding record.locator
        (swept config manager)
  | minted
      (noneReusable : ∀ id record, (swept config manager).records.get? id = some record →
        reusable (decisionTime config manager) interventionId epoch principalBinding record = false) :
      Ensured config manager interventionId epoch principalBinding
        (minted config (config.createId manager.created) interventionId epoch principalBinding
          (decisionTime config manager)).locator
        ((swept config manager).minting config (decisionTime config manager) interventionId epoch
          principalBinding)

theorem ensure_outcome (manager : TakeoverSessionManager) (interventionId : String) (epoch : Int)
    (principalBinding : String) :
    ∃ locator after, ensure config interventionId epoch principalBinding manager =
        (.ok locator, after) ∧
      Ensured config manager interventionId epoch principalBinding locator after := by
  have spec : Ensures (ensure config interventionId epoch principalBinding) manager
      fun result after => ∃ locator, result = .ok locator ∧
        Ensured config manager interventionId epoch principalBinding locator after := by
    unfold ensure
    apply ensures_update
    apply ensures_now
    apply ensures_read
    split
    · rename_i record found
      obtain ⟨id, stored⟩ := OrderedMap.mem_values_iff.mp (List.mem_of_find?_eq_some found)
      exact .pure ⟨_, rfl, .reused stored (List.find?_some found)⟩
    · rename_i absent
      refine ensures_update (ensures_createId (ensures_putRecord (.pure ⟨_, rfl, .minted ?_⟩)))
      intro id record stored
      have none := List.find?_eq_none.mp absent record (OrderedMap.mem_values_iff.mpr ⟨id, stored⟩)
      exact Bool.eq_false_iff.mpr none
  obtain ⟨locator, result, ensured⟩ := spec
  exact ⟨locator, _, Prod.ext result rfl, ensured⟩

theorem completeAfterVerification_eq (manager : TakeoverSessionManager) (interventionId : String)
    (epoch : Int) :
    completeAfterVerification config interventionId epoch manager =
      (.ok (((swept config manager).records.values.filter
          (verifiable (decisionTime config manager) interventionId epoch)).map fun record =>
            { record.locator with alreadyCompleted := record.completed }),
        (swept config manager).verifiedCompletion config (decisionTime config manager)
          interventionId epoch) :=
  rfl

/-- The store with whatever is stored under the id revoked. -/
def recordRevoked (manager : TakeoverSessionManager) (id : String) : TakeoverSessionManager :=
  match manager.records.get? id with
  | none => manager
  | some record => manager.withRecord id { record with revoked := true }

theorem revoke_eq (manager : TakeoverSessionManager) (id : String) :
    (revoke id manager).2 = manager.recordRevoked id := by
  have spec : Ensures (revoke id) manager fun _ after =>
      after = manager.recordRevoked id := by
    unfold recordRevoked
    apply ensures_read
    cases found : manager.records.get? id with
    | none => exact .pure rfl
    | some record => exact Ensures.update rfl
  exact spec

end TakeoverSessionManager

end ExecutionHandoff.Takeover
