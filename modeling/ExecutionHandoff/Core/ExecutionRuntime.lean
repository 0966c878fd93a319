import ExecutionHandoff.Core.CheckpointStore
import ExecutionHandoff.Library.Runs

/-!
# The checkpoints of the execution runtime

Runtimes that share one store write checkpoints of their active interventions,
clear them and recover from them.  A write that fails cancels the intervention;
what the audit sink does has no effect.  A checkpoint is recovered once its file
has been renamed into place, even if flushing the directory has failed after
that.
-/

namespace ExecutionHandoff.Core

open Library Library.JsString
open SignedFileHandoffCheckpointStore (clear put_self write_spec recoverHandoffCheckpoint_record
  verify_of_loadVerified fileText_paired)

variable {ν : Type}

structure CheckpointableIntervention (ν : Type) where
  id : JsString
  status : JsString
  epoch : ν
  resumePolicy : JsString
  updatedAt : ν

/-- The adapter and the options of a runtime. -/
structure ExecutionHandoffRuntime where
  adapterKind : JsString
  checkpointTtlMs : Nat

/-- How the sink and the handler of its failures take an event; an error is thrown. -/
structure AuditIo where
  sink : Except String Unit
  failureHandler : Option (Except String Unit)

/-- The numbers that a runtime computes. -/
structure RuntimeNumbers (ν : Type) extends NumberModel ν where
  one : ν
  later : ClockReading → Nat → FieldValue ν

inductive RuntimeError where
  | store (error : StoreError)
  | audit (error : String)
  deriving DecidableEq

def recordAudit (audit : AuditIo) : Except RuntimeError Unit :=
  tryCatch (audit.sink.mapError .audit) fun _ =>
    tryCatch ((audit.failureHandler.getD (.ok ())).mapError .audit) fun _ => .ok ()

def isText (left : JsString) : FieldValue ν → Bool
  | .string right => left == right
  | _ => false

/-- `same`: the bytes of the two texts are compared. -/
def sameText (left : JsString) : FieldValue ν → Bool
  | .string right => utf8 left == utf8 right
  | _ => false

namespace ExecutionHandoffRuntime

variable (runtime : ExecutionHandoffRuntime) (numbers : RuntimeNumbers ν)

/-- The checkpoint of an intervention. An empty action digest is left out. -/
def checkpointRecord (active : CheckpointableIntervention ν) (principalBinding : JsString)
    (actionDigest : Option JsString) (now : ClockReading) : CheckpointRecord ν :=
  .ofEntries
    ([(ascii "version", .number numbers.one), (ascii "adapterKind", .string runtime.adapterKind),
      (ascii "interventionId", .string active.id), (ascii "status", .string active.status),
      (ascii "epoch", .number active.epoch), (ascii "resumePolicy", .string active.resumePolicy),
      (ascii "principalBinding", .string principalBinding)] ++
      ((actionDigest.filter fun digest => !digest.isEmpty).toList.map fun digest =>
        (ascii "actionDigest", .string digest)) ++
      [(ascii "updatedAt", .number active.updatedAt),
        (ascii "expiresAt", numbers.later now runtime.checkpointTtlMs)])

end ExecutionHandoffRuntime

/-- A call with all that it meets: the adapter's active intervention, the clock and the files. -/
inductive RuntimeCall (ν : Type) where
  | checkpoint (active : Option (CheckpointableIntervention ν)) (principalBinding : JsString)
      (actionDigest : Option JsString) (now : ClockReading) (random : JsString) (io : WriteIo)
      (removal : ClearIo)
  | clearCheckpoint (removal : ClearIo)
  | recover (principalBinding : JsString) (now : ClockReading) (io : ReadIo)

structure RuntimeRequest (ν : Type) where
  runtime : ExecutionHandoffRuntime
  audit : AuditIo
  call : RuntimeCall ν

/-- What a call returns or throws, and the intervention it cancels. -/
structure RuntimeOutcome (numbers : NumberModel ν) where
  result : Except RuntimeError (Option (HandoffRecoveryRecord numbers))
  cancelled : Option JsString

variable (store : SignedFileHandoffCheckpointStore) (numbers : RuntimeNumbers ν)

/-- What a runtime makes of an operation of its store, if it cancels an intervention over a failure. -/
def answered (audit : AuditIo) (cancels : Option JsString) :
    Except StoreError Unit → RuntimeOutcome numbers.toNumberModel
  | .error error => ⟨.error (.store error), cancels⟩
  | .ok () => ⟨(recordAudit audit).map fun _ => none, none⟩

def recoverOutcome (runtime : ExecutionHandoffRuntime) (audit : AuditIo)
    (principalBinding : JsString) (now : ClockReading) (io : ReadIo) (directory : Directory) :
    RuntimeOutcome numbers.toNumberModel :=
  match store.loadVerified numbers.toNumberModel io directory with
  | .error error => ⟨.error (.store (.checkpoint error)), none⟩
  | .ok none => ⟨.ok none, none⟩
  | .ok (some raw) =>
      match recoverHandoffCheckpoint numbers.toNumberModel (.object raw.record) now with
      | .error error => ⟨.error (.store (.checkpoint error)), none⟩
      | .ok record =>
          if isText runtime.adapterKind (record.checkpoint.field "adapterKind") &&
              sameText principalBinding (record.checkpoint.field "principalBinding") then
            ⟨(recordAudit audit).map fun _ => some record, none⟩
          else
            ⟨.ok none, none⟩

def perform (request : RuntimeRequest ν) (directory : Directory) :
    RuntimeOutcome numbers.toNumberModel × Directory :=
  match request.call with
  | .checkpoint (some active) principalBinding actionDigest now random io _ =>
      let written := store.write numbers.toNumberModel random io (.object
        (request.runtime.checkpointRecord numbers active principalBinding actionDigest now)) directory
      (answered numbers request.audit (some active.id) written.1, written.2)
  | .checkpoint none _ _ _ _ _ removal | .clearCheckpoint removal =>
      let cleared := store.clear removal directory
      (answered numbers request.audit none (cleared.1.mapError .io), cleared.2)
  | .recover principalBinding now io =>
      (recoverOutcome store numbers request.runtime request.audit principalBinding now io directory,
        directory)

/-! ## What stands in the file -/

abbrev RuntimeAnswer (numbers : RuntimeNumbers ν) :=
  RuntimeRequest ν × RuntimeOutcome numbers.toNumberModel

/-- What a call makes of the checkpoint that stands. A checkpoint stands when its file has been
renamed into place, until a call that clears it succeeds. -/
def stands (standing : Option (HandoffCheckpoint numbers.toNumberModel))
    (answer : RuntimeAnswer numbers) : Option (HandoffCheckpoint numbers.toNumberModel) :=
  match answer.1.call with
  | .checkpoint (some active) principalBinding actionDigest now _ io _ =>
      if SignedFileHandoffCheckpointStore.renames io then
        (parseHandoffCheckpoint numbers.toNumberModel (.object (answer.1.runtime.checkpointRecord
          numbers active principalBinding actionDigest now))).toOption.or standing
      else standing
  | .checkpoint none _ _ _ _ _ _ | .clearCheckpoint _ =>
      match answer.2.result with
      | .ok _ => none
      | .error _ => standing
  | .recover _ _ _ => standing

def standing (past : List (RuntimeAnswer numbers)) :
    Option (HandoffCheckpoint numbers.toNumberModel) :=
  past.foldl (stands numbers) none

/-- The file is missing or holds the checkpoint that stands. -/
def Holds (past : List (RuntimeAnswer numbers)) (directory : Directory) : Prop :=
  directory store.fileName = none ∨ ∃ checkpoint, standing numbers past = some checkpoint ∧
    directory store.fileName = some (characters (checkpoint.fileText store.hmac))

variable {store numbers}

theorem recordAudit_ok (audit : AuditIo) : recordAudit audit = .ok () := by
  unfold recordAudit
  cases audit.sink with
  | ok _ => rfl
  | error _ =>
      cases audit.failureHandler with
      | none => rfl
      | some handled =>
          cases handled with
          | ok _ => rfl
          | error _ => rfl

theorem standing_concat (past : List (RuntimeAnswer numbers)) (answer : RuntimeAnswer numbers) :
    standing numbers (past ++ [answer]) = stands numbers (standing numbers past) answer :=
  List.foldl_concat _ _ _ _

theorem Holds.unchanged {past : List (RuntimeAnswer numbers)} {directory directory' : Directory}
    {answer : RuntimeAnswer numbers} (holds : Holds store numbers past directory)
    (same : directory' store.fileName = directory store.fileName)
    (stays : stands numbers (standing numbers past) answer = standing numbers past) :
    Holds store numbers (past ++ [answer]) directory' := by
  unfold Holds
  rw [same, standing_concat, stays]
  exact holds

/-- A clearing leaves no file, or it fails and leaves the file. -/
theorem clear_spec (removal : ClearIo) (directory : Directory) :
    (store.clear removal directory).2 store.fileName = none ∨
    (store.clear removal directory).2 = directory ∧
      ∃ error, (store.clear removal directory).1 = .error error := by
  unfold clear
  cases here : directory store.fileName with
  | none => exact .inl here
  | some contents =>
      cases removal.unlink with
      | some error => exact .inr ⟨rfl, error, rfl⟩
      | none => exact .inl (put_self _ _ _)

theorem Holds.cleared {past : List (RuntimeAnswer numbers)} {directory : Directory}
    (holds : Holds store numbers past directory) (request : RuntimeRequest ν) (removal : ClearIo)
    (clears : ∀ (outcome : RuntimeOutcome numbers.toNumberModel) (error : RuntimeError),
      outcome.result = .error error →
      stands numbers (standing numbers past) (request, outcome) = standing numbers past) :
    Holds store numbers (past ++ [(request, answered numbers request.audit none
      ((store.clear removal directory).1.mapError .io))]) (store.clear removal directory).2 := by
  rcases @clear_spec store removal directory with gone | ⟨same, error, failed⟩
  · exact .inl gone
  · rw [same, failed]
    exact holds.unchanged rfl (clears _ (.store (.io error)) rfl)

theorem Holds.written {past : List (RuntimeAnswer numbers)} {directory : Directory}
    (holds : Holds store numbers past directory) (request : RuntimeRequest ν)
    (outcome : RuntimeOutcome numbers.toNumberModel) {active : CheckpointableIntervention ν}
    {principalBinding random : JsString} {actionDigest : Option JsString} {now : ClockReading}
    {io : WriteIo} {removal : ClearIo} (checkpoint : request.call =
      .checkpoint (some active) principalBinding actionDigest now random io removal) :
    Holds store numbers (past ++ [(request, outcome)])
      (store.write numbers.toNumberModel random io (.object (request.runtime.checkpointRecord
        numbers active principalBinding actionDigest now)) directory).2 := by
  rcases write_spec random io (.object
    (request.runtime.checkpointRecord numbers active principalBinding actionDigest now)) directory
    with ⟨stayed, same, _⟩ | ⟨written, parsed, renamed, text, _⟩
  · refine holds.unchanged same ?_
    unfold stands
    rw [checkpoint]
    dsimp only
    rcases stayed with ⟨error, refused⟩ | failed
    · rw [refused]
      split
      · rfl
      · rfl
    · rw [failed]
      rfl
  · refine .inr ⟨written, ?_, text⟩
    rw [standing_concat]
    unfold stands
    rw [checkpoint]
    dsimp only
    rw [renamed, parsed]
    rfl

theorem holds_step {past : List (RuntimeAnswer numbers)} {answer : RuntimeAnswer numbers}
    {directory directory' : Directory}
    (step : CallStep (perform store numbers) directory answer directory')
    (holds : Holds store numbers past directory) :
    Holds store numbers (past ++ [answer]) directory' := by
  obtain ⟨request, outcome⟩ := answer
  unfold CallStep perform at step
  cases call : request.call with
  | checkpoint active principalBinding actionDigest now random io removal =>
      rw [call] at step
      cases active with
      | some active =>
          rw [← (Prod.mk.inj step).2]
          exact holds.written request outcome call
      | none =>
          dsimp only at step
          obtain ⟨rfl, rfl⟩ := Prod.mk.inj step
          refine holds.cleared request removal fun outcome error failed => ?_
          unfold stands
          rw [call]
          dsimp only
          rw [failed]
  | clearCheckpoint removal =>
      rw [call] at step
      dsimp only at step
      obtain ⟨rfl, rfl⟩ := Prod.mk.inj step
      refine holds.cleared request removal fun outcome error failed => ?_
      unfold stands
      rw [call]
      dsimp only
      rw [failed]
  | recover principalBinding now io =>
      rw [call] at step
      rw [← (Prod.mk.inj step).2]
      refine holds.unchanged rfl ?_
      unfold stands
      rw [call]

/-- What is recovered is what stands, for the same adapter and principal and before it expires. -/
theorem recoverOutcome_spec {past : List (RuntimeAnswer numbers)} {directory : Directory}
    (holds : Holds store numbers past directory) {runtime : ExecutionHandoffRuntime}
    {audit : AuditIo} {principalBinding : JsString} {now : ClockReading} {io : ReadIo}
    {record : HandoffRecoveryRecord numbers.toNumberModel}
    (recovered : (recoverOutcome store numbers runtime audit principalBinding now io
      directory).result = .ok (some record)) :
    ∃ checkpoint, standing numbers past = some checkpoint ∧ record.checkpoint.Same checkpoint ∧
      isText runtime.adapterKind (checkpoint.field "adapterKind") = true ∧
      sameText principalBinding (checkpoint.field "principalBinding") = true ∧
      now.reached checkpoint.expiresAt = false := by
  unfold recoverOutcome at recovered
  split at recovered
  · cases recovered
  · cases recovered
  · rename_i raw loaded
    split at recovered
    · cases recovered
    · rename_i record' passed
      split at recovered
      · rename_i bound
        rw [recordAudit_ok] at recovered
        cases recovered
        obtain ⟨_, early, own⟩ :=
          (recoverHandoffCheckpoint_record raw now record).mp passed
        obtain ⟨contents, here, verified⟩ :=
          verify_of_loadVerified loaded
        rcases holds with gone | ⟨checkpoint, stands, text⟩
        · cases gone.symm.trans here
        · cases text.symm.trans here
          rw [units_characters (fileText_paired checkpoint _),
            verify_fileText] at verified
          cases verified
          have same : record.checkpoint.Same checkpoint := by
            rw [own]
            exact checkpoint.stored_same
          obtain ⟨kind, principal⟩ := Bool.and_eq_true_iff.mp bound
          unfold HandoffCheckpoint.field at kind principal ⊢
          rw [same] at kind principal
          rw [HandoffCheckpoint.expiresAt_of_same checkpoint.stored_same] at early
          exact ⟨checkpoint, stands, same, kind, principal, early⟩
      · cases recovered

/-- Whatever the sink and the handler of its failures do, the call comes to the same. -/
theorem perform_audit (request : RuntimeRequest ν) (audit : AuditIo) (directory : Directory) :
    perform store numbers { request with audit } directory =
      perform store numbers request directory := by
  have answers (cancels : Option JsString) (outcome : Except StoreError Unit) :
      answered numbers audit cancels outcome = answered numbers request.audit cancels outcome := by
    unfold answered
    rw [recordAudit_ok, recordAudit_ok]
  unfold perform recoverOutcome
  dsimp only
  simp only [answers, recordAudit_ok]

/-- A write that fails cancels the intervention; the audit changes nothing; and what is recovered is
the checkpoint that stands. -/
theorem run_recovered {past : List (RuntimeAnswer numbers)} {directory directory' : Directory}
    {answer : RuntimeAnswer numbers}
    (run : Run (CallStep (perform store numbers)) (fun _ => none) past directory)
    (step : CallStep (perform store numbers) directory answer directory') :
    (∀ active principalBinding actionDigest now random io removal,
      answer.1.call =
        .checkpoint (some active) principalBinding actionDigest now random io removal →
      ∀ error, (store.write numbers.toNumberModel random io (.object
          (answer.1.runtime.checkpointRecord numbers active principalBinding actionDigest now))
          directory).1 = .error error →
        answer.2.result = .error (.store error) ∧ answer.2.cancelled = some active.id) ∧
    (∀ audit, perform store numbers { answer.1 with audit } directory = (answer.2, directory')) ∧
    ∀ principalBinding now io record, answer.1.call = .recover principalBinding now io →
      answer.2.result = .ok (some record) →
      ∃ checkpoint, standing numbers past = some checkpoint ∧ record.checkpoint.Same checkpoint ∧
        isText answer.1.runtime.adapterKind (checkpoint.field "adapterKind") = true ∧
        sameText principalBinding (checkpoint.field "principalBinding") = true ∧
        now.reached checkpoint.expiresAt = false := by
  have start : Holds store numbers [] fun _ => none := .inl rfl
  have holds := run.history (fun step holds => holds_step step holds) start
  obtain ⟨request, outcome⟩ := answer
  refine ⟨?_, fun audit => ?_, ?_⟩
  · intro active principalBinding actionDigest now random io removal call error failed
    unfold CallStep perform at step
    dsimp only at call
    rw [call] at step
    dsimp only at step
    rw [failed] at step
    obtain ⟨rfl, _⟩ := Prod.mk.inj step
    exact ⟨rfl, rfl⟩
  · rw [← step]
    exact perform_audit request audit directory
  · intro principalBinding now io record call recovered
    unfold CallStep perform at step
    dsimp only at call
    rw [call] at step
    dsimp only at step
    obtain ⟨rfl, _⟩ := Prod.mk.inj step
    exact recoverOutcome_spec holds recovered

/-! ## Samples -/

def sampleRuntimeNumbers : RuntimeNumbers Int where
  toNumberModel := SignedFileHandoffCheckpointStore.sampleNumbers
  one := 1
  later := fun now ttl =>
    match now with
    | .finite value => if value.den = 1 then .number (value.num + ttl) else .other
    | _ => .other

/-- The signed text of the sample for a principal, as it is written in JSON. -/
def sampleRuntimeMessage (principalBinding : String) : List UInt8 :=
  utf8 (ascii "mcp-execution-handoff/checkpoint/v1" ++ [0]) ++
    utf8 (ascii "\x7b\"version\":1,\"adapterKind\":\"browser.test\",\"interventionId\":\"i1\"," ++
      (ascii "\"status\":\"human_active\",\"epoch\":1,\"resumePolicy\":\"revalidate\",\"principalBinding\":\"" ++
        (ascii principalBinding ++ ascii "\",\"updatedAt\":12000,\"expiresAt\":73000\x7d")))

def sampleRuntimeStore : SignedFileHandoffCheckpointStore where
  fileName := ascii "checkpoint.json"
  processId := ascii "42"
  win32 := false
  hmac := fun message =>
    if message = sampleRuntimeMessage "principal-binding-1" then
      ascii "jqieVCBghpTL4EsxRUGIvXmss-gLWS9NsjA3vMMORwE"
    else if message = sampleRuntimeMessage
        "\\ud800\\ud800\\ud800\\ud800\\ud800\\ud800\\ud800\\ud800\\ud800\\ud800\\ud800\\ud800\\ud800\\ud800\\ud800\\ud800"
    then ascii "kGavnT6_xXEMlJ7Wi-ulIsB-I9GDpFvbtvFQY-FG1jE"
    else []

def sampleRequest (call : RuntimeCall Int) : RuntimeRequest Int where
  runtime := ⟨ascii "browser.test", 60000⟩
  audit := ⟨.error "sink", some (.error "handler")⟩
  call

def sampleWrite (principalBinding : JsString) (io : WriteIo) : RuntimeRequest Int :=
  sampleRequest (.checkpoint
    (some ⟨ascii "i1", ascii "human_active", 1, ascii "revalidate", 12000⟩) principalBinding none
    (.finite 13000) (ascii "00ff") io ⟨none, .plain⟩)

def sampleRecover (principalBinding : JsString) : RuntimeRequest Int :=
  sampleRequest (.recover principalBinding (.finite 14000) .plain)

/-- Whether a call returns, the intervention of the record it returns and the one it cancels. -/
def sampleView (answer : RuntimeAnswer sampleRuntimeNumbers) :
    Option (Option (FieldValue Int)) × Option JsString :=
  (answer.2.result.toOption.map (Option.map fun record => record.checkpoint.field "interventionId"),
    answer.2.cancelled)

/-- A record is recovered whose write has been reported as failed, and a record of one principal by
another that has the same bytes. -/
theorem sampleBarrier_recovered :
    ((replayCalls (perform sampleRuntimeStore sampleRuntimeNumbers) (fun _ => none)
      [sampleWrite (ascii "principal-binding-1")
        { WriteIo.plain with directory := ⟨none, some ⟨"EIO"⟩, none⟩ },
        sampleRecover (ascii "principal-binding-1")]).1.map sampleView =
      [(none, some (ascii "i1")), (some (some (.string (ascii "i1"))), none)]) ∧
    (replayCalls (perform sampleRuntimeStore sampleRuntimeNumbers) (fun _ => none)
      [sampleWrite (List.replicate 16 0xD800) .plain,
        sampleRecover (List.replicate 16 0xDC00)]).1.map sampleView =
      [(some none, none), (some (some (.string (ascii "i1"))), none)] :=
  ⟨by decide +kernel, by decide +kernel⟩

def sampleWritten : List (RuntimeAnswer sampleRuntimeNumbers) × Directory :=
  replayCalls (perform sampleRuntimeStore sampleRuntimeNumbers) (fun _ => none)
    [sampleWrite (ascii "principal-binding-1") .plain]

def sampleRecovery : RuntimeOutcome sampleRuntimeNumbers.toNumberModel × Directory :=
  perform sampleRuntimeStore sampleRuntimeNumbers (sampleRecover (ascii "principal-binding-1"))
    sampleWritten.2

theorem sampleWrite_recovered :
    ∃ record checkpoint, sampleRecovery.1.result = .ok (some record) ∧
      standing sampleRuntimeNumbers sampleWritten.1 = some checkpoint ∧
      record.checkpoint.Same checkpoint := by
  have seen : (sampleView (sampleRecover (ascii "principal-binding-1"), sampleRecovery.1)).1 =
      some (some (.string (ascii "i1"))) := by decide +kernel
  have run := replayCalls_run (perform sampleRuntimeStore sampleRuntimeNumbers) (fun _ => none)
    [sampleWrite (ascii "principal-binding-1") .plain]
  have step : CallStep (perform sampleRuntimeStore sampleRuntimeNumbers) sampleWritten.2
      (sampleRecover (ascii "principal-binding-1"), sampleRecovery.1) sampleRecovery.2 := by
    unfold CallStep
    rw [Prod.mk.eta]
    unfold sampleRecovery
    rfl
  unfold sampleView at seen
  cases outcome : sampleRecovery.1.result with
  | error error =>
      rw [outcome] at seen
      cases seen
  | ok result =>
      rw [outcome] at seen
      cases result with
      | none => cases seen
      | some record =>
          obtain ⟨checkpoint, stands, same, _⟩ :=
            (run_recovered run step).2.2 (ascii "principal-binding-1") (.finite 14000) .plain record
              rfl outcome
          exact ⟨record, checkpoint, rfl, stands, same⟩

end ExecutionHandoff.Core
