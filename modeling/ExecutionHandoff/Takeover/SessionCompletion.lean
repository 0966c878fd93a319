import ExecutionHandoff.Takeover.SessionTouches

/-!
# Completion against single authority

A record stays completable beyond its media lease, so completing one record
says nothing about another live record of the same intervention and epoch.
This module states when it does, what a store keeps once an intervention has
no live record, and where the two deadlines of a record lie.
-/

namespace ExecutionHandoff.Takeover

open Library Bool
open OrderedMap (get?_set_ne get?_set_self get?_mapValues get?_set)
open Option (map_eq_some_iff)

variable {early late : Int} {record' : TakeoverRecord}

theorem TakeoverRecord.inWindow_antitone {record : TakeoverRecord}
    (le : early ≤ late) (window : record.inWindow late = true) : record.inWindow early = true := by
  simp only [inWindow, or_eq_true, and_eq_true, decide_eq_true_eq] at window ⊢
  rcases window with media | ⟨claimed, grace⟩
  · exact .inl (Int.lt_of_le_of_lt le media)
  · exact .inr ⟨claimed, Int.lt_of_le_of_lt le grace⟩

theorem TakeoverRecord.completable_iff {record : TakeoverRecord} {time : Int} :
    record.completable time = true ↔
      (record.revoked = true → record.completed = true) ∧ record.inWindow time = true := by
  unfold completable
  cases record.revoked <;> cases record.completed <;> simp

theorem TakeoverRecord.completable_antitone {record : TakeoverRecord}
    (le : early ≤ late) (completable : record.completable late = true) :
    record.completable early = true := by
  rw [completable_iff] at completable ⊢
  exact ⟨completable.1, inWindow_antitone le completable.2⟩

theorem Live.antitone {record : TakeoverRecord} (le : early ≤ late)
    (live : Live late record) : Live early record :=
  ⟨live.1, Int.lt_of_le_of_lt le live.2⟩

/-- What is live now was live before its record advanced. -/
theorem Advances.live {record : TakeoverRecord} (advances : Advances record record')
    {time : Int} (live : Live time record') : Live time record := by
  have expiry : record'.expiresAt = record.expiresAt := congrArg (·.expiresAt) advances.locator
  constructor
  · cases revoked : record.revoked with
    | false => rfl
    | true =>
        have still := advances.revoked revoked
        rw [live.1] at still
        cases still
  · exact expiry ▸ live.2

theorem Advances.interventionId {record : TakeoverRecord}
    (advances : Advances record record') : record'.interventionId = record.interventionId :=
  congrArg (·.interventionId) advances.locator

theorem Advances.epoch {record : TakeoverRecord} (advances : Advances record record') :
    record'.epoch = record.epoch :=
  congrArg (·.epoch) advances.locator

theorem Advances.expiresAt {record : TakeoverRecord} (advances : Advances record record') :
    record'.expiresAt = record.expiresAt :=
  congrArg (·.expiresAt) advances.locator

namespace TakeoverSessionManager

variable {config : TakeoverSessionConfig}

variable {time : Int} {record' : TakeoverRecord} {last : TakeoverSessionManager}

theorem Reached.mono {first : TakeoverSessionManager}
    (reached : Reached config last time) (reads : first.reads ≤ last.reads) :
    Reached config first time :=
  fun count below => reached count (Nat.lt_of_lt_of_le below reads)

theorem reached_now (manager : TakeoverSessionManager) :
    Reached config manager (config.now manager.reads) :=
  fun _ below => config.now_monotone (Nat.le_of_lt below)

/-- A clock value read before the last state is no later than any time reached there. -/
theorem Reached.after {first : TakeoverSessionManager}
    (reached : Reached config last time) (later : first.reads < last.reads) :
    config.now first.reads ≤ time :=
  reached first.reads later

/-! ## Stores without minting -/

/-- Every record descends from one stored before under the same id. -/
structure Kept (first last : TakeoverSessionManager) : Prop where
  reads : first.reads ≤ last.reads
  created : last.created = first.created
  records : ∀ id record', last.records.get? id = some record' →
    ∃ record, first.records.get? id = some record ∧ Advances record record'

theorem Kept.refl (manager : TakeoverSessionManager) : Kept manager manager :=
  ⟨Nat.le_refl _, rfl, fun _ record stored => ⟨record, stored, .refl record⟩⟩

theorem Kept.trans {first middle : TakeoverSessionManager} (left : Kept first middle)
    (right : Kept middle last) : Kept first last where
  reads := Nat.le_trans left.reads right.reads
  created := right.created.trans left.created
  records := by
    intro id record'' stored
    obtain ⟨record', found, late⟩ := right.records id record'' stored
    obtain ⟨record, start, early⟩ := left.records id record' found
    exact ⟨record, start, early.trans late⟩

theorem Touch.kept {rebinds : Bool} {first : TakeoverSessionManager}
    (touch : Touch config rebinds first last) (inv : Invariant config first) : Kept first last := by
  cases touch with
  | wait records reads created =>
      exact ⟨reads, created, fun _ record stored => ⟨record, records ▸ stored, .refl record⟩⟩
  | @write written record next takes active wrote allowed records reads created =>
      refine ⟨Nat.le_of_lt reads, created, fun id record' stored => ?_⟩
      rw [records, get?_set] at stored
      split at stored
      · rename_i same
        cases stored
        exact ⟨record, same ▸ active.stored,
          wrote.recordWrite.advances (inv.wellFormed written record active.stored)⟩
      · exact ⟨record', stored, .refl record'⟩

theorem Touches.kept {rebinds : Bool} {first : TakeoverSessionManager}
    (touches : Touches config rebinds first last) (inv : Invariant config first) :
    Kept first last := by
  induction touches with
  | refl => exact .refl first
  | @tail middle last before touch ih =>
      have middleInv : Invariant config middle :=
        ((Touches.evolves before).invariant_progress inv).1
      exact ih.trans (touch.kept middleInv)

theorem swept_kept (manager : TakeoverSessionManager) : Kept manager (swept config manager) :=
  ⟨Nat.le_add_right _ 2, rfl, fun _ record stored => ⟨record, swept_stored stored, .refl record⟩⟩

variable {id : String}

theorem withRecord_kept {manager : TakeoverSessionManager}
    {record : TakeoverRecord} (stored : manager.records.get? id = some record)
    (advances : Advances record record') : Kept manager (manager.withRecord id record') := by
  refine ⟨Nat.le_refl _, rfl, fun other current found => ?_⟩
  rw [withRecord_records, get?_set] at found
  split at found
  · rename_i same
    cases found
    exact ⟨record, same ▸ stored, advances⟩
  · exact ⟨current, found, .refl current⟩

theorem mapped_kept {first : TakeoverSessionManager} {f : TakeoverRecord → TakeoverRecord}
    (advances : ∀ record, Advances record (f record))
    (records : last.records = first.records.mapValues f) (reads : first.reads ≤ last.reads)
    (created : last.created = first.created) : Kept first last := by
  refine ⟨reads, created, fun id record' stored => ?_⟩
  rw [records, get?_mapValues] at stored
  obtain ⟨record, found, rfl⟩ := map_eq_some_iff.mp stored
  exact ⟨record, found, advances record⟩

theorem revoked_advances {record : TakeoverRecord}
    (locator : record'.toTakeoverLocator = record.toTakeoverLocator)
    (generation : record'.clientGeneration = record.clientGeneration)
    (binding : record'.clientBinding = record.clientBinding)
    (revoked : record.revoked = true → record'.revoked = true) : Advances record record' :=
  ⟨locator, generation.ge, fun changed => absurd binding.symm changed, revoked⟩

theorem revokeMatching_advances (interventionId : String) (record : TakeoverRecord) :
    Advances record (revokeMatching interventionId record) := by
  unfold revokeMatching
  split
  · exact revoked_advances rfl rfl rfl fun _ => rfl
  · exact .refl record

theorem supersede_advances (time : Int) (interventionId : String) (record : TakeoverRecord) :
    Advances record (supersede time interventionId record) := by
  unfold supersede
  split
  · exact revoked_advances rfl rfl rfl fun _ => rfl
  · exact .refl record

theorem completeVerified_advances (time : Int) (interventionId : String) (epoch : Int)
    (record : TakeoverRecord) :
    Advances record (completeVerified config time interventionId epoch record) := by
  unfold completeVerified
  split
  · exact revoked_advances rfl rfl rfl fun _ => rfl
  · exact .refl record

theorem interventionRevoked_kept (manager : TakeoverSessionManager) (interventionId : String) :
    Kept manager (manager.interventionRevoked interventionId) :=
  mapped_kept (revokeMatching_advances interventionId) rfl (Nat.le_refl _) rfl

theorem verifiedCompletion_kept (manager : TakeoverSessionManager) (time : Int)
    (interventionId : String) (epoch : Int) :
    Kept manager (manager.verifiedCompletion config time interventionId epoch) :=
  mapped_kept (completeVerified_advances time interventionId epoch) rfl (Nat.le_refl _) rfl

theorem recordRevoked_kept (manager : TakeoverSessionManager) (id : String) :
    Kept manager (manager.recordRevoked id) := by
  unfold recordRevoked
  split
  · exact .refl manager
  · rename_i record stored
    exact withRecord_kept stored (revoked_advances rfl rfl rfl fun _ => rfl)

theorem Completion.kept {manager after : TakeoverSessionManager} {principalBinding : String}
    {result : Except TakeoverSessionError TakeoverCompletionResult}
    (completion : Completion config manager id principalBinding result after)
    (inv : Invariant config manager) : Kept manager after := by
  cases completion with
  | refused error wait => exact wait.kept inv
  | @accepted record middle stored completable principal wait kept later =>
      have waited : middle.records.get? id = some record := by
        rw [kept]
        exact stored
      apply (wait.kept inv).trans
      exact withRecord_kept waited (revoked_advances rfl rfl rfl fun _ => rfl)

/-! ## An intervention without a live record -/

/-- From the last clock read on, no record of the intervention and epoch is live. -/
def NoneLive (config : TakeoverSessionConfig) (manager : TakeoverSessionManager)
    (interventionId : String) (epoch : Int) : Prop :=
  ∀ time, Reached config manager time → ∀ id record, manager.records.get? id = some record →
    record.interventionId = interventionId → record.epoch = epoch → ¬ Live time record

theorem NoneLive.kept {first : TakeoverSessionManager} {interventionId : String} {epoch : Int}
    (none : NoneLive config first interventionId epoch) (kept : Kept first last) :
    NoneLive config last interventionId epoch := by
  intro time reached id record' stored owned turn live
  obtain ⟨record, found, advances⟩ := kept.records id record' stored
  have mine : record.interventionId = interventionId := advances.interventionId.symm.trans owned
  have mineToo : record.epoch = epoch := advances.epoch.symm.trans turn
  exact none time (reached.mono kept.reads) id record found mine mineToo (advances.live live)

/-- An active record is live at the next clock read. -/
theorem NoneLive.not_active {manager : TakeoverSessionManager} {interventionId : String}
    {epoch : Int} (none : NoneLive config manager interventionId epoch)
    {record : TakeoverRecord} (active : Active config manager id record)
    (owned : record.interventionId = interventionId) (turn : record.epoch = epoch) : False :=
  none _ (reached_now manager) id record active.stored owned turn
    ⟨active.unrevoked, active.unexpired⟩

/-- Whatever `beginUse` admits, its record is active. -/
theorem beginUse_admits {manager : TakeoverSessionManager} {use : TakeoverUse}
    {capability principalBinding clientBinding : String}
    (admitted : (beginUse config id capability principalBinding clientBinding manager).1 = .ok use) :
    ∃ record, Active config manager id record := by
  have accepted : CapabilityAccepted config manager id capability principalBinding clientBinding :=
    (beginUse_guarantees manager id capability principalBinding clientBinding).2 use admitted
  obtain ⟨record, active, _⟩ := accepted
  exact ⟨record, active⟩

/-- Whatever `beginBoundUse` admits, its record is active and not released. -/
theorem beginBoundUse_admits {manager : TakeoverSessionManager} {use : TakeoverUse}
    {principalBinding clientBinding : String} {clientGeneration : Nat}
    (admitted :
      (beginBoundUse config id principalBinding clientBinding clientGeneration manager).1 = .ok use) :
    ∃ record, Active config manager id record ∧ record.released = false := by
  have spec : StateExcept.Ensures
      (beginBoundUse config id principalBinding clientBinding clientGeneration) manager
      fun result _ => ∀ value, result = .ok value →
        ∃ record, Active config manager id record ∧ record.released = false := by
    apply touches_requireActive
    · exact fun _ _ no => nomatch no
    · exact fun _ _ no => nomatch no
    · intro record active
      apply ensures_assertPrincipal (fun _ _ no => nomatch no)
      intro _
      apply ensures_assertClient (fun _ _ no => nomatch no)
      intro _ _
      apply StateExcept.Ensures.require (fun _ _ no => nomatch no)
      intro current
      apply ensures_now
      apply ensures_putRecord
      apply StateExcept.Ensures.pure
      intro _ _
      exact ⟨record, active, by simpa using (and_eq_true_iff.mp current).1⟩
  exact spec use admitted

/-! ## The two deadlines -/

/-- The media lease runs from a past clock read; the completion deadline follows it, and
verified completion moves it by at most one more grace. -/
structure Dated (config : TakeoverSessionConfig) (reads : Nat) (record : TakeoverRecord) :
    Prop where
  begun : ∃ count < reads, record.expiresAt = config.now count + config.ttlMs
  undecided : record.completed = false →
    record.completionExpiresAt = record.expiresAt + config.completionGraceMs
  bounded : record.completionExpiresAt ≤ record.expiresAt + 2 * config.completionGraceMs

def AllDated (config : TakeoverSessionConfig) (manager : TakeoverSessionManager) : Prop :=
  ∀ id record, manager.records.get? id = some record → Dated config manager.reads record

theorem Dated.later {first last : Nat} {record : TakeoverRecord} (dated : Dated config first record)
    (le : first ≤ last) : Dated config last record := by
  obtain ⟨count, below, begun⟩ := dated.begun
  exact ⟨⟨count, Nat.lt_of_lt_of_le below le, begun⟩, dated.undecided, dated.bounded⟩

/-- Only a completion may touch the completion deadline. -/
theorem Dated.change {reads : Nat} {record : TakeoverRecord} (dated : Dated config reads record)
    (locator : record'.toTakeoverLocator = record.toTakeoverLocator)
    (deadline : record'.completionExpiresAt = record.completionExpiresAt)
    (completed : record'.completed = false → record.completed = false) :
    Dated config reads record' := by
  have expiry : record'.expiresAt = record.expiresAt := congrArg (·.expiresAt) locator
  constructor
  · rw [expiry]
    exact dated.begun
  · intro undecided
    rw [expiry, deadline]
    exact dated.undecided (completed undecided)
  · rw [expiry, deadline]
    exact dated.bounded

theorem Dated.write {reads : Nat} {record record' : TakeoverRecord}
    (dated : Dated config reads record) (wrote : RecordWrite record record') :
    Dated config reads record' := by
  cases wrote with
  | complete => exact dated.change rfl rfl fun no => nomatch no
  | claim | see | reconnect | release | beginBound | beginVerified | finish | revoke =>
      exact dated.change rfl rfl id

theorem Dated.completeVerified {reads : Nat} {record : TakeoverRecord}
    (dated : Dated config reads record) (time : Int) (interventionId : String) (epoch : Int) :
    Dated config reads (completeVerified config time interventionId epoch record) := by
  unfold TakeoverSessionManager.completeVerified
  split
  · rename_i concerned
    simp only [verifiable, and_eq_true, or_eq_true, not_eq_true',
      decide_eq_true_eq] at concerned
    obtain ⟨⟨_, done | ⟨_, inside⟩⟩, undecided⟩ := concerned
    · rw [undecided] at done
      cases done
    · have deadline := dated.undecided undecided
      have within : time + config.completionGraceMs ≤
          record.expiresAt + 2 * config.completionGraceMs := by omega
      exact ⟨dated.begun, fun no => (nomatch no), within⟩
  · exact dated

theorem Elementary.dated {first : TakeoverSessionManager}
    (step : Elementary config first last) (dated : AllDated config first) :
    AllDated config last := by
  intro id record' stored
  cases step with
  | tick => exact (dated id record' stored).later (Nat.le_succ _)
  | @write written record next found wrote =>
      rw [withRecord_records, get?_set] at stored
      split at stored
      · cases stored
        exact (dated written record found).write wrote
      · exact dated id record' stored
  | prune read =>
      rw [pruned, OrderedMap.get?_filterValues] at stored
      exact dated id record' (Option.filter_eq_some_iff.mp stored).1
  | @mint time interventionId epoch principalBinding read noneReusable =>
      rw [minting, get?_set] at stored
      split at stored
      · cases stored
        obtain ⟨count, counted, rfl⟩ := read
        refine ⟨⟨count, ?_, rfl⟩, fun _ => rfl, ?_⟩
        · change count < first.reads
          omega
        · have grace := config.completionGrace_valid.1
          simp only [minted]
          omega
      · rw [get?_mapValues] at stored
        obtain ⟨record, found, rfl⟩ := map_eq_some_iff.mp stored
        unfold supersede
        split
        · exact (dated id record found).change rfl rfl fun undecided => undecided
        · exact dated id record found
  | verified =>
      rw [verifiedCompletion, get?_mapValues] at stored
      obtain ⟨record, found, rfl⟩ := map_eq_some_iff.mp stored
      exact (dated id record found).completeVerified _ _ _
  | revokeIntervention =>
      rw [interventionRevoked, get?_mapValues] at stored
      obtain ⟨record, found, rfl⟩ := map_eq_some_iff.mp stored
      unfold revokeMatching
      split
      · exact (dated id record found).change rfl rfl fun undecided => undecided
      · exact dated id record found

theorem Evolves.dated {first : TakeoverSessionManager} (evolves : Evolves config first last)
    (dated : AllDated config first) : AllDated config last := by
  induction evolves with
  | refl => exact dated
  | tail _ step ih => exact step.dated ih

/-! ## Completing the only record that could be live -/

/-- While a record can be completed, no other record of its intervention and epoch is live. -/
def CompletionAlone (config : TakeoverSessionConfig) (manager : TakeoverSessionManager) : Prop :=
  ∀ time, Reached config manager time → ∀ id record other current,
    manager.records.get? id = some record → manager.records.get? other = some current →
    current.interventionId = record.interventionId → current.epoch = record.epoch →
    record.completable time = true → Live time current → id = other

/-- No other record of the record's intervention and epoch is live at that time. -/
def OthersDead (manager : TakeoverSessionManager) (id : String) (record : TakeoverRecord)
    (time : Int) : Prop :=
  ∀ other current, manager.records.get? other = some current →
    current.interventionId = record.interventionId → current.epoch = record.epoch →
    Live time current → id = other

/-- Without minting, a record that becomes completable must be the only live one. -/
theorem CompletionAlone.kept {first : TakeoverSessionManager}
    (alone : CompletionAlone config first) (kept : Kept first last)
    (becomes : ∀ time, Reached config last time → ∀ id record record',
      first.records.get? id = some record → last.records.get? id = some record' →
      record'.completable time = true →
        record.completable time = true ∨ OthersDead last id record' time) :
    CompletionAlone config last := by
  intro time reached id record' other current' stored stored' owned turn completable live
  obtain ⟨record, found, advances⟩ := kept.records id record' stored
  obtain ⟨current, found', advances'⟩ := kept.records other current' stored'
  rcases becomes time reached id record record' found stored completable with before | dead
  · apply alone time (reached.mono kept.reads) id record other current found found' _ _ before
    · exact advances'.live live
    · rw [← advances.interventionId, ← advances'.interventionId]
      exact owned
    · rw [← advances.epoch, ← advances'.epoch]
      exact turn
  · exact dead other current' stored' owned turn live

/-- A client's call writes only through a live record, which has no live companion. -/
theorem CompletionAlone.touch {rebinds : Bool} {first : TakeoverSessionManager}
    (alone : CompletionAlone config first) (touch : Touch config rebinds first last)
    (inv : Invariant config first) : CompletionAlone config last := by
  have kept := touch.kept inv
  apply alone.kept kept
  intro time reached id record record' found stored completable
  cases touch with
  | wait records reads created =>
      rw [records, found] at stored
      cases stored
      exact .inl completable
  | @write written active' next takes active wrote allowed records reads created =>
      by_cases same : id = written
      · right
        subst same
        intro other current' stored' owned turn live
        obtain ⟨current, found', advances⟩ := kept.records other current' stored'
        have now : config.now first.reads ≤ time := reached.after reads
        have mine := (wrote.recordWrite.advances (inv.wellFormed id active' active.stored)).interventionId
        rw [records, get?_set_self] at stored
        cases stored
        have shared : active'.interventionId = current.interventionId :=
          mine.symm.trans (owned.symm.trans advances.interventionId)
        exact inv.exclusive _ (reached_now first) id active' other current active.stored found'
          shared ⟨active.unrevoked, active.unexpired⟩ ((advances.live live).antitone now)
      · rw [records, get?_set_ne _ _ same, found] at stored
        cases stored
        exact .inl completable

theorem CompletionAlone.touches {rebinds : Bool} {first : TakeoverSessionManager}
    (alone : CompletionAlone config first) (touches : Touches config rebinds first last)
    (inv : Invariant config first) : CompletionAlone config last := by
  induction touches with
  | refl => exact alone
  | @tail middle last before touch ih =>
      exact ih.touch touch ((Touches.evolves before).invariant_progress inv).1

theorem CompletionAlone.swept {manager : TakeoverSessionManager}
    (alone : CompletionAlone config manager) : CompletionAlone config (swept config manager) := by
  apply alone.kept (swept_kept manager)
  intro time _ id record record' found stored completable
  cases found.symm.trans (swept_stored stored)
  exact .inl completable

/-- Completing or revoking makes no record completable that was not. -/
theorem CompletionAlone.withRecord {manager : TakeoverSessionManager} {written : String}
    {current next : TakeoverRecord} (alone : CompletionAlone config manager)
    (found : manager.records.get? written = some current) (advances : Advances current next)
    (fewer : ∀ time, next.completable time = true → current.completable time = true) :
    CompletionAlone config (manager.withRecord written next) := by
  apply alone.kept (withRecord_kept found advances)
  intro time _ id record record' before stored completable
  rw [withRecord_records, get?_set] at stored
  split at stored
  · rename_i same
    cases stored
    cases (same ▸ before).symm.trans found
    exact .inl (fewer time completable)
  · cases before.symm.trans stored
    exact .inl completable

theorem CompletionAlone.mapped {first : TakeoverSessionManager}
    {f : TakeoverRecord → TakeoverRecord} (alone : CompletionAlone config first)
    (advances : ∀ record, Advances record (f record))
    (records : last.records = first.records.mapValues f) (reads : first.reads ≤ last.reads)
    (created : last.created = first.created)
    (becomes : ∀ time, Reached config last time → ∀ id record,
      first.records.get? id = some record → (f record).completable time = true →
        record.completable time = true ∨ OthersDead last id (f record) time) :
    CompletionAlone config last := by
  apply alone.kept (mapped_kept advances records reads created)
  intro time reached id record record' found stored completable
  rw [records, get?_mapValues, found] at stored
  cases stored
  exact becomes time reached id record found completable

theorem revoked_fewer {record : TakeoverRecord}
    (completable : { record with revoked := true }.completable time = true) :
    record.completable time = true := by
  rw [TakeoverRecord.completable_iff] at completable ⊢
  exact ⟨fun _ => completable.1 rfl, completable.2⟩

theorem revokeMatching_fewer {interventionId : String} {record : TakeoverRecord}
    (completable : (revokeMatching interventionId record).completable time = true) :
    record.completable time = true := by
  unfold revokeMatching at completable
  split at completable
  · exact revoked_fewer completable
  · exact completable

theorem supersede_fewer {now : Int} {interventionId : String} {record : TakeoverRecord}
    (completable : (supersede now interventionId record).completable time = true) :
    record.completable time = true := by
  unfold supersede at completable
  split at completable
  · exact revoked_fewer completable
  · exact completable

theorem CompletionAlone.interventionRevoked {manager : TakeoverSessionManager}
    (alone : CompletionAlone config manager) (interventionId : String) :
    CompletionAlone config (manager.interventionRevoked interventionId) := by
  refine alone.mapped (revokeMatching_advances interventionId) rfl (Nat.le_refl _) rfl ?_
  exact fun _ _ _ _ _ completable => .inl (revokeMatching_fewer completable)

theorem CompletionAlone.recordRevoked {manager : TakeoverSessionManager}
    (alone : CompletionAlone config manager) (id : String) :
    CompletionAlone config (manager.recordRevoked id) := by
  unfold TakeoverSessionManager.recordRevoked
  split
  · exact alone
  · rename_i record stored
    refine alone.withRecord stored (revoked_advances rfl rfl rfl fun _ => rfl) ?_
    exact fun _ completable => revoked_fewer completable

/-- Verified completion revokes every live record of the intervention and epoch. -/
theorem verifiedCompletion_noneLive {manager : TakeoverSessionManager}
    {interventionId : String} {epoch : Int} (inv : Invariant config manager)
    (dated : AllDated config manager) (read : JustRead config manager time) :
    NoneLive config (manager.verifiedCompletion config time interventionId epoch) interventionId
      epoch := by
  intro later reached id record' stored owned turn live
  obtain ⟨count, counted, rfl⟩ := read
  have after : config.now count ≤ later := by
    apply reached count
    change count < manager.reads
    omega
  rw [verifiedCompletion, get?_mapValues] at stored
  obtain ⟨record, found, rfl⟩ := map_eq_some_iff.mp stored
  have advances : Advances record
      (completeVerified config (config.now count) interventionId epoch record) :=
    completeVerified_advances _ _ _ record
  have before : Live (config.now count) record := (advances.live live).antitone after
  have undecided : record.completed = false := by
    cases completed : record.completed with
    | false => rfl
    | true =>
        have fenced := (inv.wellFormed id record found).fenced completed
        rw [before.1] at fenced
        cases fenced
  have deadline := (dated id record found).undecided undecided
  have grace := config.completionGrace_valid.1
  have inside : config.now count < record.completionExpiresAt := by
    have media := before.2
    omega
  have concerned : verifiable (config.now count) interventionId epoch record = true := by
    have mine : record.interventionId = interventionId := advances.interventionId.symm.trans owned
    have mineToo : record.epoch = epoch := advances.epoch.symm.trans turn
    simp [verifiable, mine, mineToo, before.1, inside]
  have revoked := live.1
  rw [completeVerified, concerned, undecided] at revoked
  cases revoked

theorem CompletionAlone.verifiedCompletion {manager : TakeoverSessionManager}
    {interventionId : String} {epoch : Int} (alone : CompletionAlone config manager)
    (inv : Invariant config manager) (dated : AllDated config manager)
    (read : JustRead config manager time) :
    CompletionAlone config (manager.verifiedCompletion config time interventionId epoch) := by
  have none : NoneLive config _ interventionId epoch := verifiedCompletion_noneLive inv dated read
  refine alone.mapped (completeVerified_advances time interventionId epoch) rfl (Nat.le_refl _)
    rfl ?_
  intro later reached id record found completable
  by_cases concerned : verifiable time interventionId epoch record = true
  · right
    intro other current stored owned turn live
    simp only [verifiable, and_eq_true, beq_iff_eq] at concerned
    have advances : Advances record (completeVerified config time interventionId epoch record) :=
      completeVerified_advances _ _ _ record
    exact absurd live (none later reached other current stored
      (owned.trans (advances.interventionId.trans concerned.1.1))
      (turn.trans (advances.epoch.trans concerned.1.2)))
  · rw [completeVerified, if_neg] at completable
    · exact .inl completable
    · simp [concerned]

/-- Minting keeps completion alone when no record of the same intervention and epoch can still
be completed. -/
theorem CompletionAlone.minting {manager : TakeoverSessionManager}
    {interventionId : String} {epoch : Int} {principalBinding : String}
    (alone : CompletionAlone config manager) (read : JustRead config manager time)
    (noneCompletable : ∀ id record, manager.records.get? id = some record →
      record.interventionId = interventionId → record.epoch = epoch →
      (supersede time interventionId record).completable time = false) :
    CompletionAlone config (manager.minting config time interventionId epoch principalBinding) := by
  obtain ⟨count, counted, rfl⟩ := read
  intro later reached id record' other current' stored stored' owned turn completable live
  have after : config.now count ≤ later := by
    apply reached count
    change count < manager.reads
    omega
  have earlier : Reached config manager later := reached
  rw [TakeoverSessionManager.minting, get?_set] at stored stored'
  split at stored
  · split at stored'
    · rename_i same same'
      exact same.trans same'.symm
    · -- the fresh record against an old one: minting superseded whatever was live
      cases stored
      rw [get?_mapValues] at stored'
      obtain ⟨current, found', rfl⟩ := map_eq_some_iff.mp stored'
      have mine : current.interventionId = interventionId :=
        (supersede_advances _ _ current).interventionId.symm.trans owned
      have before := (supersede_advances (config.now count) interventionId current).live live
      have revoked := live.1
      rw [supersede, if_pos ⟨mine, (before.antitone after).2⟩] at revoked
      cases revoked
  · rw [get?_mapValues] at stored
    obtain ⟨record, found, rfl⟩ := map_eq_some_iff.mp stored
    have advances := supersede_advances (config.now count) interventionId record
    split at stored'
    · -- an old record against the fresh one: excluded by assumption
      cases stored'
      have none := noneCompletable id record found (advances.interventionId.symm.trans owned.symm)
        (advances.epoch.symm.trans turn.symm)
      have still := TakeoverRecord.completable_antitone after completable
      rw [none] at still
      cases still
    · rw [get?_mapValues] at stored'
      obtain ⟨current, found', rfl⟩ := map_eq_some_iff.mp stored'
      have advances' := supersede_advances (config.now count) interventionId current
      apply alone later earlier id record other current found found'
      · exact advances'.interventionId.symm.trans (owned.trans advances.interventionId)
      · exact advances'.epoch.symm.trans (turn.trans advances.epoch)
      · exact supersede_fewer completable
      · exact advances'.live live

/-- An accepted completion leaves no live record of its intervention and epoch. -/
theorem CompletionAlone.completed {manager after : TakeoverSessionManager}
    {principalBinding : String} {completion : TakeoverCompletionResult}
    (alone : CompletionAlone config manager)
    (outcome : Completion config manager id principalBinding (.ok completion) after) :
    NoneLive config after completion.interventionId completion.epoch := by
  cases outcome with
  | @accepted record middle stored completable principal wait kept later =>
      intro time reached other current' stored' owned turn live
      have now : config.now manager.reads ≤ time := Reached.after reached later
      rw [withRecord_records, kept, get?_set] at stored'
      split at stored'
      · cases stored'
        cases live.1
      · rename_i ne
        have same := alone _ (reached_now manager) id record other current' stored stored' owned turn
          completable (live.antitone now)
        exact ne same.symm

theorem CompletionAlone.completion {manager after : TakeoverSessionManager}
    {principalBinding : String}
    {result : Except TakeoverSessionError TakeoverCompletionResult}
    (alone : CompletionAlone config manager)
    (outcome : Completion config manager id principalBinding result after)
    (inv : Invariant config manager) : CompletionAlone config after := by
  cases outcome with
  | refused error wait => exact alone.touch wait inv
  | @accepted record middle stored completable principal wait kept later =>
      have waited : middle.records.get? id = some record := by
        rw [kept]
        exact stored
      refine (alone.touch wait inv).withRecord waited (revoked_advances rfl rfl rfl fun _ => rfl) ?_
      intro time completable'
      rw [TakeoverRecord.completable_iff] at completable completable' ⊢
      exact ⟨completable.1, completable'.2⟩

/-! ## What `ensure` hands out -/

/-- `ensure` finds no record to hand out again. -/
def mints (config : TakeoverSessionConfig) (manager : TakeoverSessionManager)
    (interventionId : String) (epoch : Int) (principalBinding : String) : Bool :=
  !(swept config manager).records.values.any
    (reusable (decisionTime config manager) interventionId epoch principalBinding)

/-- A record of the intervention and epoch that minting leaves completable. -/
def leavesCompletable (config : TakeoverSessionConfig) (manager : TakeoverSessionManager)
    (interventionId : String) (epoch : Int) : Bool :=
  (swept config manager).records.values.any fun record =>
    record.interventionId == interventionId && record.epoch == epoch &&
      (supersede (decisionTime config manager) interventionId record).completable
        (decisionTime config manager)

section Ensured

variable {manager after : TakeoverSessionManager} {interventionId : String} {epoch : Int}
  {principalBinding : String} {locator : TakeoverLocator}

theorem Ensured.evolves
    (ensured : Ensured config manager interventionId epoch principalBinding locator after) :
    Evolves config manager after := by
  cases ensured with
  | reused => exact swept_evolves manager
  | minted noneReusable =>
      exact (swept_evolves manager).trans (Elementary.mint (swept_read manager) noneReusable).evolves

/-- The locator belongs to a stored record that is live at the time of the decision. -/
theorem Ensured.live
    (ensured : Ensured config manager interventionId epoch principalBinding locator after)
    (inv : Invariant config manager) :
    ∃ record, after.records.get? locator.id = some record ∧ record.toTakeoverLocator = locator ∧
      record.interventionId = interventionId ∧ Live (decisionTime config manager) record := by
  cases ensured with
  | @reused id record stored live =>
      have sweptInv : Invariant config (swept config manager) :=
        ((swept_evolves manager).invariant_progress inv).1
      have keyed : record.id = id := sweptInv.keyed id record stored
      simp only [reusable, and_eq_true, not_eq_true', decide_eq_true_eq,
        beq_iff_eq] at live
      exact ⟨record, by rw [← keyed] at stored; exact stored, rfl, live.1.1.2,
        live.1.1.1.1, live.1.1.1.2⟩
  | minted noneReusable =>
      refine ⟨_, get?_set_self _ _ _, rfl, rfl, rfl, ?_⟩
      have media := config.ttl_valid
      change decisionTime config manager < decisionTime config manager + config.ttlMs
      omega

/-- The time of the decision has been read. -/
theorem Ensured.reached
    (ensured : Ensured config manager interventionId epoch principalBinding locator after) :
    Reached config after (decisionTime config manager) ∧ after.reads = manager.reads + 2 := by
  have reads : after.reads = manager.reads + 2 := by
    cases ensured <;> rfl
  refine ⟨fun count below => config.now_monotone ?_, reads⟩
  omega

theorem Ensured.kept
    (ensured : Ensured config manager interventionId epoch principalBinding locator after)
    (reuses : mints config manager interventionId epoch principalBinding = false) :
    Kept manager after := by
  cases ensured with
  | reused => exact swept_kept manager
  | minted noneReusable =>
      simp only [mints, not_eq_false', List.any_eq_true] at reuses
      obtain ⟨record, present, live⟩ := reuses
      obtain ⟨id, stored⟩ := OrderedMap.mem_values_iff.mp present
      rw [noneReusable id record stored] at live
      cases live

/-- Minting for one intervention and epoch leaves the others without a live record. -/
theorem Ensured.noneLive
    (ensured : Ensured config manager interventionId epoch principalBinding locator after)
    {other : String} {turn : Int} (none : NoneLive config manager other turn)
    (elsewhere : mints config manager interventionId epoch principalBinding = true →
      interventionId = other → epoch ≠ turn) :
    NoneLive config after other turn := by
  have sweptNone : NoneLive config (swept config manager) other turn :=
    none.kept (swept_kept manager)
  cases reuses : mints config manager interventionId epoch principalBinding with
  | false => exact none.kept (ensured.kept reuses)
  | true =>
      cases ensured with
      | reused => exact sweptNone
      | minted noneReusable =>
          intro time reached id record' stored owned same live
          rw [minting, get?_set] at stored
          split at stored
          · cases stored
            exact elsewhere reuses owned same
          · rw [get?_mapValues] at stored
            obtain ⟨record, found, rfl⟩ := map_eq_some_iff.mp stored
            have advances :=
              supersede_advances (decisionTime config manager) interventionId record
            exact sweptNone time reached id record found (advances.interventionId.symm.trans owned)
              (advances.epoch.symm.trans same) (advances.live live)

theorem Ensured.completionAlone
    (ensured : Ensured config manager interventionId epoch principalBinding locator after)
    (alone : CompletionAlone config manager)
    (clear : mints config manager interventionId epoch principalBinding = true →
      leavesCompletable config manager interventionId epoch = false) :
    CompletionAlone config after := by
  cases reuses : mints config manager interventionId epoch principalBinding with
  | false =>
      cases ensured with
      | reused => exact alone.swept
      | minted noneReusable =>
          simp only [mints, not_eq_false', List.any_eq_true] at reuses
          obtain ⟨record, present, live⟩ := reuses
          obtain ⟨id, stored⟩ := OrderedMap.mem_values_iff.mp present
          rw [noneReusable id record stored] at live
          cases live
  | true =>
      cases ensured with
      | reused => exact alone.swept
      | minted noneReusable =>
          apply alone.swept.minting (swept_read manager)
          intro id record stored owned turn
          by_contra completable
          have found := clear reuses
          simp only [leavesCompletable, List.any_eq_false] at found
          have excluded := found record (OrderedMap.mem_values_iff.mpr ⟨id, stored⟩)
          simp [owned, turn, completable] at excluded

end Ensured

/-! ## What holds of a session from now on -/

/-- The id was issued, and whatever is stored under it has the property. -/
structure Settled (config : TakeoverSessionConfig) (holds : TakeoverRecord → Prop) (id : String)
    (manager : TakeoverSessionManager) : Prop where
  issued : ∃ count < manager.created, id = config.createId count
  stored : ∀ record, manager.records.get? id = some record → holds record

/-- Ids are not reused, so what advancing keeps is settled for good. -/
theorem Settled.progress {first : TakeoverSessionManager}
    {holds : TakeoverRecord → Prop} (settled : Settled config holds id first)
    (stable : ∀ record record', Advances record record' → holds record → holds record')
    (progress : Progress config first last) : Settled config holds id last := by
  obtain ⟨count, below, issue⟩ := settled.issued
  constructor
  · exact ⟨count, Nat.lt_of_lt_of_le below progress.created, issue⟩
  · intro record' found
    rcases progress.records id record' found with ⟨record, before, advances⟩ | ⟨more, new, same⟩
    · exact stable record record' advances (settled.stored record before)
    · have reused := config.createId_injective (issue.symm.trans same)
      omega

/-- The session is revoked, or gone. -/
def Withdrawn (config : TakeoverSessionConfig) : String → TakeoverSessionManager → Prop :=
  Settled config fun record => record.revoked = true

/-- The session is one of the intervention, or gone. -/
def OwnedBy (config : TakeoverSessionConfig) (interventionId : String) :
    String → TakeoverSessionManager → Prop :=
  Settled config fun record => record.interventionId = interventionId

/-- The media lease of the session ends at the given time at the latest. -/
def EndsBy (config : TakeoverSessionConfig) (time : Int) :
    String → TakeoverSessionManager → Prop :=
  Settled config fun record => record.expiresAt ≤ time

theorem Withdrawn.progress {first : TakeoverSessionManager}
    (fenced : Withdrawn config id first) (progress : Progress config first last) :
    Withdrawn config id last :=
  Settled.progress fenced (fun _ _ advances revoked => advances.revoked revoked) progress

theorem OwnedBy.progress {first : TakeoverSessionManager} {interventionId : String}
    (owned : OwnedBy config interventionId id first) (progress : Progress config first last) :
    OwnedBy config interventionId id last :=
  Settled.progress owned (fun _ _ advances mine => advances.interventionId.trans mine) progress

theorem EndsBy.progress {first : TakeoverSessionManager}
    (ends : EndsBy config time id first) (progress : Progress config first last) :
    EndsBy config time id last :=
  Settled.progress ends (fun _ _ advances le => advances.expiresAt.trans_le le) progress

theorem EndsBy.mono {manager : TakeoverSessionManager} {early late : Int}
    (ends : EndsBy config early id manager) (le : early ≤ late) : EndsBy config late id manager :=
  ⟨ends.issued, fun record stored => Int.le_trans (ends.stored record stored) le⟩

/-- A stored session was issued. -/
theorem settled_of_stored {manager : TakeoverSessionManager}
    {record : TakeoverRecord} {holds : TakeoverRecord → Prop} (inv : Invariant config manager)
    (stored : manager.records.get? id = some record) (held : holds record) :
    Settled config holds id manager := by
  refine ⟨inv.issued id record stored, fun current found => ?_⟩
  cases stored.symm.trans found
  exact held

/-- `ensure` never hands out a withdrawn session. -/
theorem Ensured.not_withdrawn {manager after : TakeoverSessionManager} {interventionId : String}
    {epoch : Int} {principalBinding : String} {locator : TakeoverLocator}
    (ensured : Ensured config manager interventionId epoch principalBinding locator after)
    (inv : Invariant config manager) (fenced : Withdrawn config id manager) :
    locator.id ≠ id := by
  intro same
  have progress := (ensured.evolves.invariant_progress inv).2
  obtain ⟨record, stored, _, _, live⟩ := ensured.live inv
  have revoked := (fenced.progress progress).stored record (same ▸ stored)
  rw [live.1] at revoked
  cases revoked

end TakeoverSessionManager

end ExecutionHandoff.Takeover
