import Mathlib.Logic.Relation
import ExecutionHandoff.Takeover.Session

/-!
# Elementary steps of the session manager

Every operation of the manager, accepted or rejected, is a finite sequence of a
few elementary steps: a clock read, a write through one record, a pruning, a
minting, and the two bulk rewrites.  An invariant is therefore checked once for
each elementary step, and never by unfolding an operation.
-/

namespace ExecutionHandoff.Takeover

open Library
open StateExcept hiding read update

/-- The writes an operation makes through a record it holds. -/
inductive RecordWrite (record : TakeoverRecord) : TakeoverRecord → Prop where
  | claim (clientBinding : String) (time : Int)
      (unbound : record.clientBinding = none) (shape : shaped 24 128 clientBinding = true) :
      RecordWrite record
        { record with
          clientBinding := some clientBinding, clientGeneration := 1, released := false,
          lastSeenAt := some time }
  | see (time : Int) : RecordWrite record { record with lastSeenAt := some time }
  | reconnect (clientBinding : String) (time : Int)
      (claimed : record.claimed = true) (idle : record.inFlight = 0)
      (shape : shaped 24 128 clientBinding = true) :
      RecordWrite record
        { record with
          clientBinding := some clientBinding
          clientGeneration := record.clientGeneration + 1
          lastSeenAt := some time, released := false }
  | release : RecordWrite record { record with released := true }
  | beginBound (time : Int) (unreleased : record.released = false) :
      RecordWrite record
        { record with inFlight := record.inFlight + 1, lastSeenAt := some time }
  | beginVerified : RecordWrite record { record with inFlight := record.inFlight + 1 }
  | finish (time : Int) :
      RecordWrite record
        { record with inFlight := record.inFlight - 1, lastSeenAt := some time }
  | complete :
      RecordWrite record { record with completed := true, revoked := true, released := true }
  | revoke : RecordWrite record { record with revoked := true }

namespace TakeoverRecord

theorem boundTo_eq_true {record : TakeoverRecord} {clientBinding : String}
    (bound : record.boundTo clientBinding = true) :
    record.clientBinding = some clientBinding := by
  unfold boundTo at bound
  cases binding : record.clientBinding with
  | none => simp [binding] at bound
  | some current => simpa [binding, same] using (by simpa [binding, same] using bound :
      ¬current = "" ∧ current = clientBinding).2

theorem claimed_iff {record : TakeoverRecord} :
    record.claimed = true ↔
      ∃ current, record.clientBinding = some current ∧ current ≠ "" ∧
        1 ≤ record.clientGeneration := by
  unfold claimed
  cases record.clientBinding <;> simp

end TakeoverRecord

namespace TakeoverSessionManager

variable (config : TakeoverSessionConfig)

/-- The record is stored under the id and passes `requireActive` at the next clock read. -/
structure Active (manager : TakeoverSessionManager) (id : String) (record : TakeoverRecord) :
    Prop where
  stored : manager.records.get? id = some record
  unrevoked : record.revoked = false
  unexpired : config.now manager.reads < record.expiresAt

def ticked (manager : TakeoverSessionManager) : TakeoverSessionManager :=
  { manager with reads := manager.reads + 1 }

@[simp] theorem ticked_records (manager : TakeoverSessionManager) :
    manager.ticked.records = manager.records := rfl

def withRecord (manager : TakeoverSessionManager) (id : String) (record : TakeoverRecord) :
    TakeoverSessionManager :=
  { manager with records := manager.records.set id record }

@[simp] theorem withRecord_records (manager : TakeoverSessionManager) (id : String)
    (record : TakeoverRecord) :
    (manager.withRecord id record).records = manager.records.set id record := rfl

def pruned (manager : TakeoverSessionManager) (time : Int) : TakeoverSessionManager :=
  { manager with records := manager.records.filterValues fun record => !record.prunable time }

/-- Supersede the intervention's live media and store a fresh record under the next id. -/
def minting (manager : TakeoverSessionManager) (time : Int) (interventionId : String) (epoch : Int)
    (principalBinding : String) : TakeoverSessionManager where
  records := (manager.records.mapValues (supersede time interventionId)).set
    (config.createId manager.created)
    (minted config (config.createId manager.created) interventionId epoch principalBinding time)
  reads := manager.reads
  created := manager.created + 1

def verifiedCompletion (manager : TakeoverSessionManager) (time : Int) (interventionId : String)
    (epoch : Int) : TakeoverSessionManager :=
  { manager with
    records := manager.records.mapValues (completeVerified config time interventionId epoch) }

def revokeMatching (interventionId : String) (record : TakeoverRecord) : TakeoverRecord :=
  if record.interventionId = interventionId then { record with revoked := true } else record

def interventionRevoked (manager : TakeoverSessionManager) (interventionId : String) :
    TakeoverSessionManager :=
  { manager with records := manager.records.mapValues (revokeMatching interventionId) }

/-- The clock value `time` was read by the last read before this state. -/
def JustRead (manager : TakeoverSessionManager) (time : Int) : Prop :=
  ∃ reads, manager.reads = reads + 1 ∧ time = config.now reads

inductive Elementary : TakeoverSessionManager → TakeoverSessionManager → Prop where
  | tick (manager : TakeoverSessionManager) : Elementary manager manager.ticked
  | write {manager : TakeoverSessionManager} {id : String} {record record' : TakeoverRecord}
      (stored : manager.records.get? id = some record) (wrote : RecordWrite record record') :
      Elementary manager (manager.withRecord id record')
  | prune {manager : TakeoverSessionManager} {time : Int} (read : JustRead config manager time) :
      Elementary manager (manager.pruned time)
  | mint {manager : TakeoverSessionManager} {time : Int} {interventionId : String} {epoch : Int}
      {principalBinding : String} (read : JustRead config manager time)
      (noneReusable : ∀ id record, manager.records.get? id = some record →
        reusable time interventionId epoch principalBinding record = false) :
      Elementary manager (manager.minting config time interventionId epoch principalBinding)
  | verified {manager : TakeoverSessionManager} {time : Int} {interventionId : String}
      {epoch : Int} (read : JustRead config manager time) :
      Elementary manager (manager.verifiedCompletion config time interventionId epoch)
  | revokeIntervention (manager : TakeoverSessionManager) (interventionId : String) :
      Elementary manager (manager.interventionRevoked interventionId)

/-- Finitely many elementary steps. -/
def Evolves : TakeoverSessionManager → TakeoverSessionManager → Prop :=
  Relation.ReflTransGen (Elementary config)

variable {config}

theorem Evolves.refl (manager : TakeoverSessionManager) : Evolves config manager manager :=
  Relation.ReflTransGen.refl

theorem Evolves.trans {first middle last : TakeoverSessionManager}
    (left : Evolves config first middle) (right : Evolves config middle last) :
    Evolves config first last :=
  Relation.ReflTransGen.trans left right

theorem Elementary.evolves {first last : TakeoverSessionManager}
    (step : Elementary config first last) : Evolves config first last :=
  Relation.ReflTransGen.single step

theorem evolves_ticked (manager : TakeoverSessionManager) :
    Evolves config manager manager.ticked :=
  (Elementary.tick manager).evolves

theorem Evolves.write {first last : TakeoverSessionManager} {id : String}
    {record record' : TakeoverRecord} (before : Evolves config first last)
    (stored : last.records.get? id = some record) (wrote : RecordWrite record record') :
    Evolves config first (last.withRecord id record') :=
  before.trans (Elementary.write stored wrote).evolves

theorem Evolves.tick {first last : TakeoverSessionManager} (before : Evolves config first last) :
    Evolves config first last.ticked :=
  before.trans (evolves_ticked last)

/-! ## Rules for the building blocks -/

section Rules

variable {α : Type} {manager : TakeoverSessionManager}
  {post : Except TakeoverSessionError α → TakeoverSessionManager → Prop}

theorem ensures_now {next : Int → SessionM α}
    (holds : Ensures (next (config.now manager.reads)) manager.ticked post) :
    Ensures (now config >>= next) manager post :=
  holds

theorem ensures_read {next : TakeoverSessionManager → SessionM α}
    (holds : Ensures (next manager) manager post) :
    Ensures (StateExcept.read >>= next) manager post :=
  holds

theorem ensures_update {f : TakeoverSessionManager → TakeoverSessionManager}
    {next : Unit → SessionM α} (holds : Ensures (next ()) (f manager) post) :
    Ensures (StateExcept.update f >>= next) manager post :=
  holds

theorem ensures_putRecord {id : String} {record : TakeoverRecord} {next : Unit → SessionM α}
    (holds : Ensures (next ()) (manager.withRecord id record) post) :
    Ensures (putRecord id record >>= next) manager post :=
  holds

/-- `requireActive` reads the clock at most once and returns only an active record. -/
theorem ensures_requireActive {id : String} {next : TakeoverRecord → SessionM α}
    (failed : ∀ error after, Evolves config manager after → after.records = manager.records →
      post (.error error) after)
    (passed : ∀ record, Active config manager id record →
      Ensures (next record) manager.ticked post) :
    Ensures (requireActive config id >>= next) manager post := by
  have spec : Ensures (requireActive config id) manager fun result after =>
      match result with
      | .error _ => Evolves config manager after ∧ after.records = manager.records
      | .ok record => Active config manager id record ∧ after = manager.ticked := by
    unfold requireActive
    refine ensures_read ?_
    split
    · exact .throwing ⟨.refl manager, rfl⟩
    · rename_i record stored
      refine .require (fun _ => ⟨.refl manager, rfl⟩) fun unrevoked => ensures_now ?_
      refine .require (fun _ => ⟨evolves_ticked manager, rfl⟩) fun unexpired => ?_
      exact .pure ⟨⟨stored, by simpa using unrevoked, of_decide_eq_true unexpired⟩, rfl⟩
  refine spec.bind (fun error after holds => failed error after holds.1 holds.2) ?_
  rintro record after ⟨active, rfl⟩
  exact passed record active

theorem ensures_assertPrincipal {record : TakeoverRecord} {principalBinding : String}
    {next : Unit → SessionM α} (failed : ∀ error, post (.error error) manager)
    (passed : record.principalBinding = principalBinding →
      Ensures (next ()) manager post) :
    Ensures (assertPrincipal record principalBinding >>= next) manager post :=
  .require (fun _ => failed _) fun test => passed (by simpa [same] using test)

theorem ensures_assertClientBindingShape {clientBinding : String} {next : Unit → SessionM α}
    (failed : ∀ error, post (.error error) manager)
    (passed : shaped 24 128 clientBinding = true → Ensures (next ()) manager post) :
    Ensures (assertClientBindingShape clientBinding >>= next) manager post :=
  .require (fun _ => failed _) passed

theorem ensures_assertClient {record : TakeoverRecord} {clientBinding : String}
    {next : Unit → SessionM α} (failed : ∀ error, post (.error error) manager)
    (passed : shaped 24 128 clientBinding = true → record.clientBinding = some clientBinding →
      Ensures (next ()) manager post) :
    Ensures (assertClient record clientBinding >>= next) manager post := by
  have spec : Ensures (assertClient record clientBinding) manager fun result after =>
      after = manager ∧ ∀ value, result = .ok value →
        shaped 24 128 clientBinding = true ∧ record.clientBinding = some clientBinding := by
    unfold assertClient
    refine ensures_assertClientBindingShape (fun _ => ⟨rfl, fun _ no => nomatch no⟩) fun shape => ?_
    unfold StateExcept.require
    split
    · rename_i test
      exact ⟨rfl, fun _ _ => ⟨shape, TakeoverRecord.boundTo_eq_true test⟩⟩
    · exact ⟨rfl, fun _ no => nomatch no⟩
  refine spec.bind (fun error after holds => holds.1 ▸ failed error) ?_
  rintro value after ⟨rfl, facts⟩
  exact passed (facts value rfl).1 (facts value rfl).2

theorem ensures_claimedBinding {record : TakeoverRecord} {next : String → SessionM α}
    (failed : ∀ error, post (.error error) manager)
    (passed : ∀ clientBinding, record.clientBinding = some clientBinding →
      1 ≤ record.clientGeneration → Ensures (next clientBinding) manager post) :
    Ensures (claimedBinding record >>= next) manager post := by
  have spec : Ensures (claimedBinding record) manager fun result after =>
      after = manager ∧ ∀ clientBinding, result = .ok clientBinding →
        record.clientBinding = some clientBinding ∧ 1 ≤ record.clientGeneration := by
    unfold claimedBinding
    refine .require (fun _ => ⟨rfl, fun _ no => nomatch no⟩) fun claimed => .pure ⟨rfl, ?_⟩
    rintro _ ⟨⟩
    obtain ⟨current, bound, _, generation⟩ := TakeoverRecord.claimed_iff.mp claimed
    exact ⟨by rw [bound]; rfl, generation⟩
  refine spec.bind (fun error after holds => holds.1 ▸ failed error) ?_
  rintro value after ⟨rfl, facts⟩
  exact passed value (facts value rfl).1 (facts value rfl).2

end Rules

end TakeoverSessionManager

end ExecutionHandoff.Takeover
