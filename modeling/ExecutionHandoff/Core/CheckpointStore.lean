import ExecutionHandoff.Core.Checkpoint

/-!
# The signed checkpoint file

A checkpoint is written to a temporary file, which is flushed and then renamed
into place.  Whatever operation fails, the file holds the checkpoint it held or
the new one; what can be loaded from it has been signed.
-/

namespace ExecutionHandoff.Core

open Library Library.JsString

/-! ## Files -/

/-- The files of a directory by name, with the characters their contents decode to. -/
abbrev Directory := JsString → Option (List Char)

def Directory.put (directory : Directory) (name : JsString) (contents : Option (List Char)) :
    Directory := fun other => if other = name then contents else directory other

/-- The error of a file operation. -/
structure IoError where
  code : String
  deriving DecidableEq

inductive StoreError where
  | checkpoint (error : CheckpointError)
  | io (error : IoError)
  deriving DecidableEq

/-- Opening, flushing and closing a descriptor, with the error of each if it fails. -/
structure SyncIo where
  opened : Option IoError
  flushed : Option IoError
  closed : Option IoError

/-- Creating the temporary file, which fails if there is one of that name. A failure may leave a part
of it. -/
inductive CreateIo where
  | created
  | failed (error : IoError) (left : Option (List Char))

/-- The operations of a write, in their order. -/
structure WriteIo where
  mkdir : Option IoError
  create : CreateIo
  chmod : Option IoError
  file : SyncIo
  rename : Option IoError
  directory : SyncIo
  unlink : Option IoError

/-- `existsSync` says no where it cannot tell; reading may fail. -/
structure ReadIo where
  hidden : Bool
  fails : Bool

/-- Removing a file that is there. -/
structure ClearIo where
  unlink : Option IoError
  directory : SyncIo

def SyncIo.plain : SyncIo := ⟨none, none, none⟩

def WriteIo.plain : WriteIo := ⟨none, .created, none, .plain, none, .plain, none⟩

def ReadIo.plain : ReadIo := ⟨false, false⟩

def raised : Option IoError → Except IoError Unit
  | none => .ok ()
  | some error => .error error

def unsupportedDirectoryFsyncCodes : List String := ["EINVAL", "ENOTSUP", "EOPNOTSUPP"]

/-- A failure that the platform does not support what was asked for is let pass. -/
def unlessUnsupported : Option IoError → Except IoError Unit
  | none => .ok ()
  | some error => if error.code ∈ unsupportedDirectoryFsyncCodes then .ok () else .error error

def syncCheckpointFile (io : SyncIo) : Except IoError Unit :=
  match io.opened with
  | some error => .error error
  | none =>
      -- the descriptor is closed in any case, and a failure of that is the one that is thrown
      match io.closed with
      | some error => .error error
      | none => raised io.flushed

def syncCheckpointDirectoryIfSupported (win32 : Bool) (io : SyncIo) : Except IoError Unit :=
  if win32 then .ok ()
  else
    match io.opened with
    | some error => unlessUnsupported (some error)
    | none =>
        match io.closed with
        | some error => .error error
        | none => unlessUnsupported io.flushed

/-! ## The store -/

/-- A store, with the name of its file and the code that its key authenticates messages with. -/
structure SignedFileHandoffCheckpointStore where
  fileName : JsString
  processId : JsString
  win32 : Bool
  hmac : List UInt8 → JsString

namespace SignedFileHandoffCheckpointStore

variable (store : SignedFileHandoffCheckpointStore)

def temporaryName (random : JsString) : JsString :=
  46 :: (store.fileName ++ 46 :: (store.processId ++ 46 :: (random ++ ascii ".tmp")))

/-- What `write` does between creating the temporary file and removing it. -/
def replaceFile (temp : JsString) (io : WriteIo) (text : JsString) (directory : Directory) :
    Except IoError Unit × Directory :=
  match io.create with
  | .failed error left => (.error error, directory.put temp left)
  | .created =>
      let directory := directory.put temp (some (characters text))
      match io.chmod with
      | some error => (.error error, directory)
      | none =>
          match syncCheckpointFile io.file with
          | .error error => (.error error, directory)
          | .ok () =>
              match io.rename with
              | some error => (.error error, directory)
              | none =>
                  (syncCheckpointDirectoryIfSupported store.win32 io.directory,
                    (directory.put store.fileName (directory temp)).put temp none)

variable {ν : Type} (numbers : NumberModel ν)

def write (random : JsString) (io : WriteIo) (checkpoint : UnknownValue ν) (directory : Directory) :
    Except StoreError Unit × Directory :=
  match parseHandoffCheckpoint numbers checkpoint with
  | .error error => (.error (.checkpoint error), directory)
  | .ok validated =>
      match io.mkdir with
      | some error => (.error (.io error), directory)
      | none =>
          let temp := store.temporaryName random
          let outcome := store.replaceFile temp io (validated.fileText store.hmac) directory
          (outcome.1.mapError .io,
            if io.unlink.isSome then outcome.2 else outcome.2.put temp none)

def loadVerified (io : ReadIo) (directory : Directory) :
    Except CheckpointError (Option (HandoffCheckpoint numbers)) :=
  match directory store.fileName with
  | none => .ok none
  | some contents =>
      if io.hidden then .ok none
      else if io.fails then .error (.invalid "Handoff checkpoint is unreadable")
      else (verify numbers store.hmac (units contents)).map some

def load (io : ReadIo) (now : ClockReading) (directory : Directory) :
    Except CheckpointError (Option (HandoffCheckpoint numbers)) :=
  match store.loadVerified numbers io directory with
  | .error error => .error error
  | .ok none => .ok none
  | .ok (some checkpoint) =>
      if now.reached checkpoint.expiresAt then .error (.expired "Handoff checkpoint expired")
      else .ok (some checkpoint)

def recover (io : ReadIo) (now : ClockReading) (directory : Directory) :
    Except CheckpointError (Option (HandoffRecoveryRecord numbers)) :=
  match store.loadVerified numbers io directory with
  | .error error => .error error
  | .ok none => .ok none
  | .ok (some checkpoint) =>
      (recoverHandoffCheckpoint numbers (.object checkpoint.record) now).map some

def clear (io : ClearIo) (directory : Directory) : Except IoError Unit × Directory :=
  match directory store.fileName with
  | none => (.ok (), directory)
  | some _ =>
      match io.unlink with
      | some error => (.error error, directory)
      | none =>
          (syncCheckpointDirectoryIfSupported store.win32 io.directory,
            directory.put store.fileName none)

/-! ## Writing -/

variable {store}

theorem temporaryName_ne (random : JsString) : store.temporaryName random ≠ store.fileName := by
  intro same
  have lengths := congrArg List.length same
  unfold temporaryName at lengths
  rw [List.length_cons, List.length_append] at lengths
  omega

theorem put_self (directory : Directory) (name : JsString) (contents : Option (List Char)) :
    directory.put name contents name = contents := if_pos rfl

theorem put_ne (directory : Directory) {name other : JsString} (contents : Option (List Char))
    (apart : other ≠ name) : directory.put name contents other = directory other := if_neg apart

/-- Everything goes well up to the rename. -/
def renames (io : WriteIo) : Bool :=
  io.mkdir.isNone && (io.create matches .created) && io.chmod.isNone &&
    (syncCheckpointFile io.file matches .ok ()) && io.rename.isNone

/-- The file is replaced or it is as it was. -/
theorem replaceFile_spec {temp : JsString} (apart : temp ≠ store.fileName) (io : WriteIo)
    (text : JsString) (directory : Directory) (made : io.mkdir = none) :
    (renames io = false ∧
      (store.replaceFile temp io text directory).2 store.fileName = directory store.fileName ∧
      (store.replaceFile temp io text directory).1 ≠ .ok ()) ∨
    (renames io = true ∧
      (store.replaceFile temp io text directory).2 store.fileName = some (characters text) ∧
      (store.replaceFile temp io text directory).1 =
        syncCheckpointDirectoryIfSupported store.win32 io.directory) := by
  have other (directory : Directory) (contents : Option (List Char)) :
      directory.put temp contents store.fileName = directory store.fileName :=
    put_ne directory contents (Ne.symm apart)
  unfold replaceFile renames
  rw [made]
  cases created : io.create with
  | failed error left => exact .inl ⟨rfl, other _ _, fun no => by cases no⟩
  | created =>
      cases changed : io.chmod with
      | some error => exact .inl ⟨rfl, other _ _, fun no => by cases no⟩
      | none =>
          cases flushed : syncCheckpointFile io.file with
          | error error => exact .inl ⟨rfl, other _ _, fun no => by cases no⟩
          | ok =>
              cases renamed : io.rename with
              | some error => exact .inl ⟨rfl, other _ _, fun no => by cases no⟩
              | none =>
                  exact .inr ⟨rfl, (other _ _).trans ((put_self _ _ _).trans (put_self _ _ _)), rfl⟩

variable {numbers}

/-- A write leaves the file as it was, and fails, or puts the new checkpoint there; then all that may
still fail is flushing the directory. -/
theorem write_spec (random : JsString) (io : WriteIo) (value : UnknownValue ν)
    (directory : Directory) :
    (((∃ error, parseHandoffCheckpoint numbers value = .error error) ∨ renames io = false) ∧
      (store.write numbers random io value directory).2 store.fileName =
        directory store.fileName ∧
      (store.write numbers random io value directory).1 ≠ .ok ()) ∨
    ∃ checkpoint, parseHandoffCheckpoint numbers value = .ok checkpoint ∧ renames io = true ∧
      (store.write numbers random io value directory).2 store.fileName =
        some (characters (checkpoint.fileText store.hmac)) ∧
      (store.write numbers random io value directory).1 =
        (syncCheckpointDirectoryIfSupported store.win32 io.directory).mapError .io := by
  unfold write
  split
  · rename_i error refused
    exact .inl ⟨.inl ⟨error, refused⟩, rfl, by intro no; cases no⟩
  · rename_i checkpoint parsed
    split
    · rename_i failed
      refine .inl ⟨.inr ?_, rfl, by intro no; cases no⟩
      unfold renames
      rw [failed]
      rfl
    · rename_i made
      dsimp only
      have kept (after : Directory) : (if io.unlink.isSome then after
          else after.put (store.temporaryName random) none) store.fileName =
            after store.fileName := by
        split
        · rfl
        · exact put_ne _ _ (Ne.symm (temporaryName_ne random))
      rw [kept]
      rcases replaceFile_spec (temporaryName_ne random) io (checkpoint.fileText store.hmac) directory
        made with ⟨unrenamed, same, failed⟩ | ⟨renamed, fresh, answer⟩
      · refine .inl ⟨.inr unrenamed, same, fun no => failed ?_⟩
        cases outcome : (store.replaceFile (store.temporaryName random) io
            (checkpoint.fileText store.hmac) directory).1 with
        | error error =>
            rw [outcome] at no
            cases no
        | ok => rfl
      · exact .inr ⟨checkpoint, parsed, renamed, fresh,
          congrArg (Except.mapError StoreError.io) answer⟩

/-! ## Reading -/

theorem fileText_paired (checkpoint : HandoffCheckpoint numbers) (hmac : List UInt8 → JsString) :
    Paired (checkpoint.fileText hmac) := by
  refine .append (ofTexts_paired.stringify numbers.numeric _) (.of_units fun unit mem => ?_)
  rw [List.mem_singleton.mp mem]
  decide

variable {checkpoint : HandoffCheckpoint numbers} {directory : Directory} {io : ReadIo}

/-- What has been written is verified. -/
theorem loadVerified_written
    (written : directory store.fileName = some (characters (checkpoint.fileText store.hmac))) :
    store.loadVerified numbers .plain directory = .ok (some checkpoint.stored) := by
  have text := units_characters (fileText_paired checkpoint store.hmac)
  unfold loadVerified
  rw [written]
  dsimp only [ReadIo.plain]
  rw [text, verify_fileText]
  rfl

/-- What is loaded has been verified. -/
theorem verify_of_loadVerified
    (loaded : store.loadVerified numbers io directory = .ok (some checkpoint)) :
    ∃ contents, directory store.fileName = some contents ∧
      verify numbers store.hmac (units contents) = .ok checkpoint := by
  unfold loadVerified at loaded
  split at loaded
  · cases loaded
  · rename_i contents here
    split at loaded
    · cases loaded
    · split at loaded
      · cases loaded
      · cases verified : verify numbers store.hmac (units contents) with
        | error error =>
            rw [verified] at loaded
            cases loaded
        | ok checkpoint' =>
            rw [verified] at loaded
            cases loaded
            exact ⟨contents, here, verified⟩

theorem loadVerified_of_load {now : ClockReading}
    (loaded : store.load numbers io now directory = .ok (some checkpoint)) :
    store.loadVerified numbers io directory = .ok (some checkpoint) := by
  unfold load at loaded
  split at loaded
  · cases loaded
  · cases loaded
  · rename_i checkpoint' verified
    split at loaded
    · cases loaded
    · cases loaded
      exact verified

theorem parse_record (checkpoint : HandoffCheckpoint numbers) :
    parseHandoffCheckpoint numbers (.object checkpoint.record) = .ok checkpoint :=
  dif_pos checkpoint.accepted

/-- Only a checkpoint that has not expired is recovered, and only at a proper time. -/
theorem recoverHandoffCheckpoint_record (checkpoint : HandoffCheckpoint numbers)
    (now : ClockReading) (record : HandoffRecoveryRecord numbers) :
    recoverHandoffCheckpoint numbers (.object checkpoint.record) now = .ok record ↔
      now.isSafeInteger = true ∧ now.reached checkpoint.expiresAt = false ∧
        record = ⟨checkpoint, .reissueAndRevalidate⟩ := by
  unfold recoverHandoffCheckpoint
  rw [parse_record]
  dsimp only
  cases safe : now.isSafeInteger with
  | false =>
      rw [if_pos rfl]
      exact ⟨(fun no => by cases no), fun no => by cases no.1⟩
  | true =>
      rw [if_neg (by decide)]
      cases passed : now.reached checkpoint.expiresAt with
      | true =>
          rw [if_pos rfl]
          exact ⟨(fun no => by cases no), fun no => by cases no.2.1⟩
      | false =>
          rw [if_neg (by decide)]
          exact ⟨(fun same => ⟨rfl, rfl, (Except.ok.inj same).symm⟩), fun same => by rw [same.2.2]⟩

theorem loadVerified_of_recover {now : ClockReading} {record : HandoffRecoveryRecord numbers}
    (recovered : store.recover numbers io now directory = .ok (some record)) :
    store.loadVerified numbers io directory = .ok (some record.checkpoint) := by
  unfold recover at recovered
  split at recovered
  · cases recovered
  · cases recovered
  · rename_i checkpoint verified
    cases outcome : recoverHandoffCheckpoint numbers (.object checkpoint.record) now with
    | error error =>
        rw [outcome] at recovered
        cases recovered
    | ok record' =>
        rw [outcome] at recovered
        cases recovered
        rw [((recoverHandoffCheckpoint_record checkpoint now _).mp outcome).2.2]
        exact verified

/-- What a store that has been written to answers. -/
theorem load_written
    (written : directory store.fileName = some (characters (checkpoint.fileText store.hmac)))
    {now : ClockReading} (early : now.reached checkpoint.expiresAt = false) :
    store.load numbers .plain now directory = .ok (some checkpoint.stored) := by
  unfold load
  rw [loadVerified_written written]
  dsimp only
  rw [HandoffCheckpoint.expiresAt_of_same checkpoint.stored_same, early]
  rfl

theorem recover_written
    (written : directory store.fileName = some (characters (checkpoint.fileText store.hmac)))
    (now : ClockReading) :
    (∃ record, store.recover numbers .plain now directory = .ok (some record) ∧
      record.checkpoint.Same checkpoint) ↔
      now.isSafeInteger = true ∧ now.reached checkpoint.expiresAt = false := by
  have expiry := HandoffCheckpoint.expiresAt_of_same checkpoint.stored_same
  have recovery := recoverHandoffCheckpoint_record checkpoint.stored now
  unfold recover
  rw [loadVerified_written written]
  dsimp only
  rw [expiry] at recovery
  constructor
  · rintro ⟨record, recovered, _⟩
    cases outcome : recoverHandoffCheckpoint numbers (.object checkpoint.stored.record) now with
    | error error =>
        rw [outcome] at recovered
        cases recovered
    | ok record' =>
        obtain ⟨safe, early, _⟩ := (recovery record').mp outcome
        exact ⟨safe, early⟩
  · rintro ⟨safe, early⟩
    rw [(recovery _).mpr ⟨safe, early, rfl⟩]
    exact ⟨_, rfl, checkpoint.stored_same⟩

/-- A checkpoint that has been written is read back until it expires; only signed checkpoints are
read; and a write that fails anywhere leaves the file complete. -/
theorem signed_store_faithful (store : SignedFileHandoffCheckpointStore)
    (numbers : NumberModel ν) :
    (∀ (random : JsString) (io : WriteIo) (value : UnknownValue ν) (directory : Directory)
        (checkpoint : HandoffCheckpoint numbers),
      parseHandoffCheckpoint numbers value = .ok checkpoint →
      (store.write numbers random io value directory).1 = .ok () →
      ∀ now : ClockReading,
        (now.reached checkpoint.expiresAt = false → ∃ loaded, loaded.Same checkpoint ∧
          store.load numbers .plain now (store.write numbers random io value directory).2 =
            .ok (some loaded)) ∧
        ((∃ record, store.recover numbers .plain now
            (store.write numbers random io value directory).2 = .ok (some record) ∧
            record.checkpoint.Same checkpoint) ↔
          now.isSafeInteger = true ∧ now.reached checkpoint.expiresAt = false)) ∧
    (∀ (written : List (HandoffCheckpoint numbers)) (directory : Directory) (io : ReadIo)
        (now : ClockReading),
      (∀ contents, directory store.fileName = some contents →
        Unforged store.hmac written (units contents)) →
      (∀ checkpoint, store.load numbers io now directory = .ok (some checkpoint) →
        ∃ checkpoint' ∈ written, checkpoint.Same checkpoint') ∧
      ∀ record, store.recover numbers io now directory = .ok (some record) →
        ∃ checkpoint' ∈ written, record.checkpoint.Same checkpoint') ∧
    ∀ (random : JsString) (io : WriteIo) (value : UnknownValue ν) (directory : Directory),
      (store.write numbers random io value directory).2 store.fileName =
          directory store.fileName ∨
        ∃ checkpoint, parseHandoffCheckpoint numbers value = .ok checkpoint ∧
          (store.write numbers random io value directory).2 store.fileName =
            some (characters (checkpoint.fileText store.hmac)) := by
  refine ⟨fun random io value directory checkpoint parsed done now => ?_,
    fun written directory io now unforged => ?_, fun random io value directory => ?_⟩
  · rcases write_spec random io value directory with
      ⟨_, _, failed⟩ | ⟨checkpoint', parsed', _, text, _⟩
    · exact absurd done failed
    · cases parsed.symm.trans parsed'
      exact ⟨fun early => ⟨_, checkpoint.stored_same, load_written text early⟩,
        recover_written text now⟩
  · have signed {checkpoint : HandoffCheckpoint numbers}
        (loaded : store.loadVerified numbers io directory = .ok (some checkpoint)) :
        ∃ checkpoint' ∈ written, checkpoint.Same checkpoint' := by
      obtain ⟨contents, here, verified⟩ := verify_of_loadVerified loaded
      exact verify_written (unforged contents here) verified
    exact ⟨fun checkpoint loaded => signed (loadVerified_of_load loaded),
      fun record recovered => signed (loadVerified_of_recover recovered)⟩
  · rcases write_spec random io value directory with
      ⟨_, same, _⟩ | ⟨checkpoint, parsed, _, text, _⟩
    · exact .inl same
    · exact .inr ⟨checkpoint, parsed, text⟩

/-! ## A sample -/

def sampleNumbers : NumberModel Int where
  toNumberFormat := integerFormat
  safeInteger := fun value => if value.natAbs ≤ 9007199254740991 then some value else none

/-- A checkpoint with its keys in another order and an action digest that is undefined. -/
def sampleRecord : CheckpointRecord Int :=
  .ofEntries [(ascii "version", .number 1), (ascii "expiresAt", .number 20000),
    (ascii "adapterKind", .string (ascii "browser.test")),
    (ascii "interventionId", .string (ascii "i1")), (ascii "status", .string (ascii "human_active")),
    (ascii "actionDigest", .undefined), (ascii "epoch", .number 1),
    (ascii "resumePolicy", .string (ascii "revalidate")),
    (ascii "principalBinding", .string (ascii "principal-binding-1")),
    (ascii "updatedAt", .number 12000)]

theorem sampleRecord_accepted : accepts sampleNumbers sampleRecord = true := by decide +kernel

def sampleCheckpoint : HandoffCheckpoint sampleNumbers := ⟨sampleRecord, sampleRecord_accepted⟩

/-- What is signed for the sample. -/
def sampleMessage : List UInt8 :=
  utf8 (ascii "mcp-execution-handoff/checkpoint/v1" ++ [0]) ++
    utf8 (ascii "\x7b\"version\":1,\"expiresAt\":20000,\"adapterKind\":\"browser.test\",\"interventionId\":\"i1\"," ++
      ascii "\"status\":\"human_active\",\"epoch\":1,\"resumePolicy\":\"revalidate\",\"principalBinding\":\"principal-binding-1\",\"updatedAt\":12000\x7d")

def sampleStore : SignedFileHandoffCheckpointStore where
  fileName := ascii "checkpoint.json"
  processId := ascii "42"
  win32 := false
  hmac := fun message =>
    if message = sampleMessage then ascii "XRC1ZAnpi37bELWr5Qolr1yEiaA7sIdXVjO3yvqnQX4" else []

/-- The directory after the sample has been written. -/
def sampleDirectory : Directory :=
  (sampleStore.write sampleNumbers (ascii "00ff") .plain (.object sampleRecord) fun _ => none).2

theorem sampleCheckpoint_parsed :
    parseHandoffCheckpoint sampleNumbers (.object sampleRecord) = .ok sampleCheckpoint :=
  parse_record sampleCheckpoint

theorem sampleDirectory_written : sampleDirectory sampleStore.fileName =
    some (characters (sampleCheckpoint.fileText sampleStore.hmac)) := by
  rcases @write_spec sampleStore Int sampleNumbers (ascii "00ff") .plain (.object sampleRecord)
    (fun _ => none) with ⟨failed, _⟩ | ⟨checkpoint, parsed, _, text, _⟩
  · rcases failed with ⟨error, refused⟩ | failed
    · cases sampleCheckpoint_parsed.symm.trans refused
    · cases failed
  · cases sampleCheckpoint_parsed.symm.trans parsed
    exact text

/-- Before the checkpoint expires, but between two milliseconds, nothing is recovered. -/
theorem sampleHalf_unrecovered :
    parseHandoffCheckpoint sampleNumbers (.object sampleRecord) = .ok sampleCheckpoint ∧
      (sampleStore.write sampleNumbers (ascii "00ff") .plain (.object sampleRecord)
        fun _ => none).1 = .ok () ∧
      (ClockReading.finite (mkRat 1 2)).reached sampleCheckpoint.expiresAt = false ∧
      sampleStore.recover sampleNumbers .plain (.finite (mkRat 1 2)) sampleDirectory =
        .error (.invalid "Invalid checkpoint recovery time") := by
  refine ⟨sampleCheckpoint_parsed, by decide +kernel, by decide +kernel, ?_⟩
  have improper : (ClockReading.finite (mkRat 1 2)).isSafeInteger = false := by decide +kernel
  unfold recover
  rw [loadVerified_written sampleDirectory_written]
  dsimp only
  unfold recoverHandoffCheckpoint
  rw [parse_record]
  dsimp only
  rw [if_pos improper]
  rfl

theorem sampleCheckpoint_faithful :
    (∃ loaded, loaded.Same sampleCheckpoint ∧
      sampleStore.load sampleNumbers .plain (.finite 13000) sampleDirectory =
        .ok (some loaded)) ∧
      ∀ record, sampleStore.recover sampleNumbers .plain (.finite 13000) sampleDirectory =
        .ok (some record) → ∃ checkpoint' ∈ [sampleCheckpoint], record.checkpoint.Same checkpoint' := by
  obtain ⟨stored, signed, _⟩ := signed_store_faithful sampleStore sampleNumbers
  have unforged : ∀ contents, sampleDirectory sampleStore.fileName = some contents →
      Unforged sampleStore.hmac [sampleCheckpoint] (units contents) := by
    intro contents here message supplied carries _
    rw [sampleDirectory_written] at here
    cases here
    have own : (carried sampleNumbers (units (characters
        (sampleCheckpoint.fileText sampleStore.hmac)))).map Prod.fst = some sampleMessage := by
      decide +kernel
    rw [carries] at own
    cases own
    exact ⟨sampleCheckpoint, .head _, by decide +kernel⟩
  exact ⟨(stored (ascii "00ff") .plain (.object sampleRecord) (fun _ => none) sampleCheckpoint
      sampleCheckpoint_parsed (by decide +kernel) (.finite 13000)).1 (by decide +kernel),
    (signed [sampleCheckpoint] sampleDirectory .plain (.finite 13000) unforged).2⟩

end SignedFileHandoffCheckpointStore

end ExecutionHandoff.Core
