import ExecutionHandoff.Library.JsonText
import Mathlib.Data.Rat.Init
import Mathlib.Algebra.Order.Ring.Unbundled.Rat

/-!
# Hand-off checkpoints

The strict schema of a checkpoint, its text, which is signed, and the envelope
that is stored.  An envelope that is read back yields the same fields, and so
the same signature.
-/

namespace ExecutionHandoff.Core

open Library Library.JsString List
open OrderedMap (lookupEntry get?)

/-! ## Values -/

/-- What the schema can tell of the value of a property. -/
inductive FieldValue (ν : Type) where
  | undefined
  | string (text : JsString)
  | number (value : ν)
  | other
  deriving DecidableEq

/-- The own properties of a plain object in their order. -/
abbrev CheckpointRecord (ν : Type) := OrderedMap JsString (FieldValue ν)

inductive UnknownValue (ν : Type) where
  | object (record : CheckpointRecord ν)
  | other

/-- The finite numbers with their texts; which of them are safe integers, and what integers. -/
structure NumberModel (ν : Type) extends NumberFormat ν where
  safeInteger : ν → Option Int

/-- What a clock may show. -/
inductive ClockReading where
  | finite (value : ℚ)
  | infinite (positive : Bool)
  | notANumber

namespace ClockReading

/-- `Number.isSafeInteger`. -/
def isSafeInteger : ClockReading → Bool
  | finite value => value.den == 1 && decide (value.num.natAbs ≤ 9007199254740991)
  | _ => false

/-- `expiresAt <= now`. -/
def reached (expiresAt : Int) : ClockReading → Bool
  | finite value => decide ((expiresAt : ℚ) ≤ value)
  | infinite positive => positive
  | notANumber => false

end ClockReading

inductive CheckpointError where
  | invalid (message : String)
  | expired (message : String)
  deriving DecidableEq

/-! ## The schema -/

section Schema

variable {ν : Type} (numbers : NumberModel ν)

namespace FieldValue

/-- `typeof value === "string"` of a length in between. -/
def textBetween (least most : Nat) : FieldValue ν → Bool
  | string text => decide (least ≤ text.length) && decide (text.length ≤ most)
  | _ => false

/-- `[…].includes(value ?? "")`. -/
def oneOf (texts : List String) : FieldValue ν → Bool
  | string text => (texts.map ascii).contains text
  | _ => false

def safeInteger : FieldValue ν → Option Int
  | number value => numbers.safeInteger value
  | _ => none

def isSafeInteger (value : FieldValue ν) : Bool := (value.safeInteger numbers).isSome

end FieldValue

/-- The property of an object; one that is missing is undefined. -/
def property (record : CheckpointRecord ν) (key : JsString) : FieldValue ν :=
  (record.get? key).getD .undefined

/-- The keys of a checkpoint and what is checked under each. -/
def checkpointChecks : List (JsString × (FieldValue ν → Bool)) :=
  [(ascii "version", fun value => value.safeInteger numbers == some 1),
    (ascii "adapterKind", FieldValue.textBetween 1 80),
    (ascii "interventionId", FieldValue.textBetween 1 160),
    (ascii "status",
      FieldValue.oneOf ["awaiting_human", "human_active", "verifying", "ready_to_resume"]),
    (ascii "epoch", fun value => (value.safeInteger numbers).any fun epoch => decide (0 ≤ epoch)),
    (ascii "resumePolicy",
      FieldValue.oneOf ["replay_safe", "revalidate", "confirm_before_execute", "never_replay"]),
    (ascii "principalBinding", FieldValue.textBetween 16 160),
    (ascii "actionDigest", fun value =>
      match value with
      | .undefined => true
      | value => value.textBetween 16 160),
    (ascii "updatedAt", FieldValue.isSafeInteger numbers),
    (ascii "expiresAt", FieldValue.isSafeInteger numbers)]

/-- `CHECKPOINT_KEYS`. -/
def checkpointKeys : List JsString := (checkpointChecks numbers).map Prod.fst

def accepts (record : CheckpointRecord ν) : Bool :=
  record.entries.all (fun entry => (checkpointKeys numbers).contains entry.1) &&
    (checkpointChecks numbers).all fun check => check.2 (property record check.1)

/-- A record that the schema accepts. -/
structure HandoffCheckpoint where
  record : CheckpointRecord ν
  accepted : accepts numbers record = true

variable {numbers}

namespace HandoffCheckpoint

def field (checkpoint : HandoffCheckpoint numbers) (key : String) : FieldValue ν :=
  property checkpoint.record (ascii key)

def expiresAt (checkpoint : HandoffCheckpoint numbers) : Int :=
  ((checkpoint.field "expiresAt").safeInteger numbers).getD 0

/-- Equal in every property. -/
def Same (left right : HandoffCheckpoint numbers) : Prop :=
  ∀ key, property left.record key = property right.record key

end HandoffCheckpoint

variable (numbers)

def parseHandoffCheckpoint : UnknownValue ν → Except CheckpointError (HandoffCheckpoint numbers)
  | .object record =>
      if accepted : accepts numbers record = true then .ok ⟨record, accepted⟩
      else .error (.invalid "Invalid handoff checkpoint")
  | .other => .error (.invalid "Invalid handoff checkpoint")

inductive HandoffRecovery where
  | reissueAndRevalidate

structure HandoffRecoveryRecord where
  checkpoint : HandoffCheckpoint numbers
  recovery : HandoffRecovery

def recoverHandoffCheckpoint (value : UnknownValue ν) (now : ClockReading) :
    Except CheckpointError (HandoffRecoveryRecord numbers) :=
  match parseHandoffCheckpoint numbers value with
  | .error error => .error error
  | .ok checkpoint =>
      if now.isSafeInteger = false then
        .error (.invalid "Invalid checkpoint recovery time")
      else if now.reached checkpoint.expiresAt then
        .error (.expired "Handoff checkpoint expired")
      else
        .ok ⟨checkpoint, .reissueAndRevalidate⟩

end Schema

/-! ## Texts -/

section Texts

variable {ν : Type} {numbers : NumberModel ν}

/-- A property as `JSON.stringify` writes it, if it does. -/
def jsonMember : JsString × FieldValue ν → Option (JsString × JsonValue ν)
  | (key, .string text) => some (key, .string text)
  | (key, .number value) => some (key, .number value)
  | _ => none

def jsonMembers (record : CheckpointRecord ν) : List (JsString × JsonValue ν) :=
  record.entries.filterMap jsonMember

/-- A property as it comes out of `JSON.parse`. -/
def fieldOf : JsonValue ν → FieldValue ν
  | .string text => .string text
  | .number value => .number value
  | _ => .other

/-- The members of an object that has been parsed. -/
def recordOf (fields : List (JsString × JsonValue ν)) : CheckpointRecord ν :=
  .ofEntries (fields.map (Prod.map id fieldOf))

def unknownOf : Option (JsonValue ν) → UnknownValue ν
  | some (.object fields) => .object (recordOf fields)
  | _ => .other

variable (hmac : List UInt8 → JsString)

namespace HandoffCheckpoint

variable (checkpoint : HandoffCheckpoint numbers)

def json : JsonValue ν := .object (jsonMembers checkpoint.record)

/-- What is signed. -/
def signed : List UInt8 :=
  utf8 (ascii "mcp-execution-handoff/checkpoint/v1" ++ [0]) ++
    utf8 (stringify numbers.text checkpoint.json)

def mac : JsString := hmac checkpoint.signed

def envelope : JsonValue ν :=
  .object [(ascii "checkpoint", checkpoint.json), (ascii "mac", .string (checkpoint.mac hmac))]

/-- `${JSON.stringify(envelope)}\n`. -/
def fileText : JsString := stringify numbers.text (checkpoint.envelope hmac) ++ [10]

end HandoffCheckpoint

variable (numbers)

/-- What `loadVerified` does with the text of the file. -/
def verify (text : JsString) : Except CheckpointError (HandoffCheckpoint numbers) :=
  match parseJson numbers.toNumberFormat text with
  | none => .error (.invalid "Handoff checkpoint is unreadable")
  | some (.object fields) =>
      match OrderedMap.lookupEntry (ascii "mac") fields with
      | some (.string supplied) =>
          match parseHandoffCheckpoint numbers
              (unknownOf (OrderedMap.lookupEntry (ascii "checkpoint") fields)) with
          | .error error => .error error
          | .ok checkpoint =>
              if utf8 (checkpoint.mac hmac) = utf8 supplied then .ok checkpoint
              else .error (.invalid "Handoff checkpoint integrity check failed")
      | _ => .error (.invalid "Handoff checkpoint envelope is invalid")
  | some _ => .error (.invalid "Handoff checkpoint envelope is invalid")

end Texts

/-! ## Reading a record back -/

section Records

variable {ν : Type} {numbers : NumberModel ν}

theorem checks_refuse_other :
    ∀ check ∈ checkpointChecks numbers, check.2 FieldValue.other = false := by
  unfold checkpointChecks
  simp only [forall_mem_cons, not_mem_nil, false_imp_iff, implies_true, and_true]
  exact ⟨rfl, rfl, rfl, rfl, rfl, rfl, rfl, rfl, rfl, rfl⟩

theorem property_of_mem {record : CheckpointRecord ν} {key : JsString} {value : FieldValue ν}
    (mem : (key, value) ∈ record.entries) : property record key = value := by
  unfold property
  rw [OrderedMap.get?_eq_some_iff.mpr mem]
  rfl

/-- Every property of a checkpoint is of a kind that its key allows. -/
theorem HandoffCheckpoint.ne_other (checkpoint : HandoffCheckpoint numbers) :
    ∀ entry ∈ checkpoint.record.entries, entry.2 ≠ .other := by
  rintro ⟨key, value⟩ mem other
  have accepted := checkpoint.accepted
  unfold accepts at accepted
  obtain ⟨known, checked⟩ := Bool.and_eq_true_iff.mp accepted
  have here := all_eq_true.mp known _ mem
  obtain ⟨check, inside, same⟩ := mem_map.mp (contains_iff_mem.mp here)
  have passes := all_eq_true.mp checked check inside
  rw [same, property_of_mem mem] at passes
  change check.2 value = true at passes
  dsimp only at other
  rw [other, checks_refuse_other check inside] at passes
  cases passes

/-- The value of a property, if there is one. -/
def valueOf : Option (JsonValue ν) → FieldValue ν
  | none => .undefined
  | some value => fieldOf value

theorem jsonMember_some {entry : JsString × FieldValue ν} {member : JsString × JsonValue ν}
    (written : jsonMember entry = some member) :
    member.1 = entry.1 ∧ fieldOf member.2 = entry.2 ∧ jsonMember (Prod.map id fieldOf member) =
      some member := by
  obtain ⟨key, value⟩ := entry
  cases value with
  | undefined => cases written
  | other => cases written
  | string text =>
      cases written
      exact ⟨rfl, rfl, rfl⟩
  | number value =>
      cases written
      exact ⟨rfl, rfl, rfl⟩

theorem jsonMember_none {entry : JsString × FieldValue ν} (unwritten : jsonMember entry = none)
    (plain : entry.2 ≠ .other) : entry.2 = .undefined := by
  obtain ⟨key, value⟩ := entry
  cases value with
  | undefined => rfl
  | other => exact absurd rfl plain
  | string text => cases unwritten
  | number value => cases unwritten

theorem keys_filterMap (entries : List (JsString × FieldValue ν)) :
    ((entries.filterMap jsonMember).map Prod.fst).Sublist (entries.map Prod.fst) := by
  induction entries with
  | nil => exact .refl _
  | cons entry entries ih =>
      cases written : jsonMember entry with
      | none =>
          rw [filterMap_cons_none written]
          exact ih.cons _
      | some member =>
          rw [filterMap_cons_some written, map_cons, map_cons,
            (jsonMember_some written).1]
          exact ih.cons_cons _

theorem lookup_absent {α : Type} {key : JsString} {entries : List (JsString × α)}
    (absent : key ∉ entries.map Prod.fst) : lookupEntry key entries = none := by
  induction entries with
  | nil => rfl
  | cons entry entries ih =>
      rw [map_cons, mem_cons, not_or] at absent
      rw [lookupEntry, if_neg (Ne.symm absent.1), ih absent.2]

/-- What is written determines every property. -/
theorem lookup_filterMap {entries : List (JsString × FieldValue ν)}
    (nodup : (entries.map Prod.fst).Nodup) (plain : ∀ entry ∈ entries, entry.2 ≠ .other)
    (key : JsString) : (lookupEntry key entries).getD .undefined =
      valueOf (lookupEntry key (entries.filterMap jsonMember)) := by
  induction entries with
  | nil => rfl
  | cons entry entries ih =>
      rw [map_cons, nodup_cons] at nodup
      have others := ih nodup.2 fun entry mem => plain entry (.tail _ mem)
      cases written : jsonMember entry with
      | none =>
          rw [filterMap_cons_none written, lookupEntry]
          split
          · rename_i here
            rw [← here, lookup_absent fun mem => nodup.1 ((keys_filterMap entries).subset mem)]
            exact jsonMember_none written (plain entry (.head _))
          · exact others
      | some member =>
          obtain ⟨key', value, _⟩ := jsonMember_some written
          rw [filterMap_cons_some written, lookupEntry, lookupEntry, key']
          split
          · exact value.symm
          · exact others

theorem HandoffCheckpoint.property_eq (checkpoint : HandoffCheckpoint numbers) (key : JsString) :
    property checkpoint.record key =
      valueOf (lookupEntry key (jsonMembers checkpoint.record)) :=
  lookup_filterMap checkpoint.record.nodup checkpoint.ne_other key

theorem nodup_jsonMembers (record : CheckpointRecord ν) :
    ((jsonMembers record).map Prod.fst).Nodup :=
  record.nodup.sublist (keys_filterMap record.entries)

theorem entries_recordOf {fields : List (JsString × JsonValue ν)}
    (nodup : (fields.map Prod.fst).Nodup) :
    (recordOf fields).entries = fields.map (Prod.map id fieldOf) := by
  refine OrderedMap.entries_ofEntries ?_
  rw [map_map]
  exact nodup

/-- A record that has been written and parsed writes the same members. -/
theorem jsonMembers_recordOf (record : CheckpointRecord ν) :
    jsonMembers (recordOf (jsonMembers record)) = jsonMembers record := by
  change (recordOf (jsonMembers record)).entries.filterMap jsonMember = _
  rw [entries_recordOf (nodup_jsonMembers record), filterMap_map]
  refine (filterMap_congr fun member mem => ?_).trans filterMap_some
  obtain ⟨entry, _, written⟩ := mem_filterMap.mp mem
  exact (jsonMember_some written).2.2

theorem property_recordOf {fields : List (JsString × JsonValue ν)}
    (nodup : (fields.map Prod.fst).Nodup) (key : JsString) :
    property (recordOf fields) key = valueOf (lookupEntry key fields) := by
  unfold property get?
  rw [entries_recordOf nodup]
  induction fields with
  | nil => rfl
  | cons field fields ih =>
      rw [map_cons, nodup_cons] at nodup
      rw [map_cons, lookupEntry, lookupEntry]
      change (if field.1 = key then _ else _ : Option (FieldValue ν)).getD _ = _
      split
      · rfl
      · exact ih nodup.2

/-- What has been written and parsed is accepted again. -/
theorem HandoffCheckpoint.accepted_recordOf (checkpoint : HandoffCheckpoint numbers) :
    accepts numbers (recordOf (jsonMembers checkpoint.record)) = true := by
  have accepted := checkpoint.accepted
  have nodup := nodup_jsonMembers checkpoint.record
  unfold accepts at accepted ⊢
  obtain ⟨known, checked⟩ := Bool.and_eq_true_iff.mp accepted
  refine Bool.and_eq_true_iff.mpr ⟨all_eq_true.mpr fun entry mem => ?_, ?_⟩
  · rw [entries_recordOf nodup] at mem
    obtain ⟨member, inside, rfl⟩ := mem_map.mp mem
    have key : member.1 ∈ checkpoint.record.entries.map Prod.fst :=
      (keys_filterMap _).subset (mem_map_of_mem inside)
    obtain ⟨entry, mem, same⟩ := mem_map.mp key
    have here := all_eq_true.mp known entry mem
    rw [same] at here
    exact here
  · refine all_eq_true.mpr fun check mem => ?_
    rw [property_recordOf nodup, ← checkpoint.property_eq]
    exact all_eq_true.mp checked check mem

/-- The checkpoint as it is read back. -/
def HandoffCheckpoint.stored (checkpoint : HandoffCheckpoint numbers) : HandoffCheckpoint numbers :=
  ⟨recordOf (jsonMembers checkpoint.record), checkpoint.accepted_recordOf⟩

theorem HandoffCheckpoint.stored_same (checkpoint : HandoffCheckpoint numbers) :
    checkpoint.stored.Same checkpoint := fun key => by
  rw [checkpoint.property_eq]
  exact property_recordOf (nodup_jsonMembers checkpoint.record) key

theorem HandoffCheckpoint.same_of_json {left right : HandoffCheckpoint numbers}
    (same : left.json = right.json) : left.Same right := fun key => by
  rw [left.property_eq, right.property_eq, JsonValue.object.inj same]

theorem HandoffCheckpoint.expiresAt_of_same {left right : HandoffCheckpoint numbers}
    (same : left.Same right) : left.expiresAt = right.expiresAt := by
  unfold HandoffCheckpoint.expiresAt HandoffCheckpoint.field
  rw [same]

end Records

/-! ## Reading a file back -/

section Files

variable {ν : Type} {numbers : NumberModel ν} {hmac : List UInt8 → JsString}

theorem HandoffCheckpoint.json_distinct (checkpoint : HandoffCheckpoint numbers) :
    DistinctKeys checkpoint.json := by
  refine .object _ (nodup_jsonMembers checkpoint.record) fun member mem => ?_
  obtain ⟨⟨key, value⟩, _, written⟩ := mem_filterMap.mp mem
  cases value with
  | undefined => cases written
  | other => cases written
  | string text =>
      cases written
      exact .string text
  | number value =>
      cases written
      exact .number value

theorem HandoffCheckpoint.envelope_distinct (checkpoint : HandoffCheckpoint numbers) :
    DistinctKeys (checkpoint.envelope hmac) := by
  have apart : [ascii "checkpoint", ascii "mac"].Nodup := by decide
  refine .object _ apart fun member mem => ?_
  rcases mem_cons.mp mem with rfl | mem
  · exact checkpoint.json_distinct
  · rw [mem_singleton.mp mem]
    exact .string _

/-- The signature survives being stored. -/
theorem HandoffCheckpoint.stored_json (checkpoint : HandoffCheckpoint numbers) :
    checkpoint.stored.json = checkpoint.json :=
  congrArg JsonValue.object (jsonMembers_recordOf checkpoint.record)

theorem HandoffCheckpoint.stored_mac (checkpoint : HandoffCheckpoint numbers) :
    checkpoint.stored.mac hmac = checkpoint.mac hmac := by
  unfold HandoffCheckpoint.mac HandoffCheckpoint.signed
  rw [checkpoint.stored_json]

/-- The text of a checkpoint is verified and yields its fields. -/
theorem verify_fileText (checkpoint : HandoffCheckpoint numbers) :
    verify numbers hmac (checkpoint.fileText hmac) = .ok checkpoint.stored := by
  have parsed : parseJson numbers.toNumberFormat (checkpoint.fileText hmac) =
      some (checkpoint.envelope hmac) :=
    parseJson_append numbers.toNumberFormat checkpoint.envelope_distinct (stops_cons rfl []) rfl
  have supplied : lookupEntry (ascii "mac")
      [(ascii "checkpoint", checkpoint.json), (ascii "mac", .string (checkpoint.mac hmac))] =
        some (.string (checkpoint.mac hmac)) := rfl
  have inside : lookupEntry (ascii "checkpoint")
      [(ascii "checkpoint", checkpoint.json), (ascii "mac", .string (checkpoint.mac hmac))] =
        some checkpoint.json := rfl
  have again : parseHandoffCheckpoint numbers (unknownOf (some checkpoint.json)) =
      .ok checkpoint.stored := dif_pos checkpoint.accepted_recordOf
  unfold verify
  rw [parsed]
  unfold HandoffCheckpoint.envelope
  dsimp only
  rw [supplied, inside, again]
  exact if_pos (congrArg utf8 checkpoint.stored_mac)

/-- The message that a file carries, as far as its signature is checked, and that signature. -/
def carried (numbers : NumberModel ν) (text : JsString) : Option (List UInt8 × JsString) :=
  match parseJson numbers.toNumberFormat text with
  | some (.object fields) =>
      match OrderedMap.lookupEntry (ascii "mac") fields with
      | some (.string supplied) =>
          match parseHandoffCheckpoint numbers
              (unknownOf (OrderedMap.lookupEntry (ascii "checkpoint") fields)) with
          | .ok checkpoint => some (checkpoint.signed, supplied)
          | .error _ => none
      | _ => none
  | _ => none

/-- A checkpoint that is verified is what the file carries, with its signature. -/
theorem verify_carried {text : JsString} {checkpoint : HandoffCheckpoint numbers}
    (verified : verify numbers hmac text = .ok checkpoint) :
    ∃ supplied, carried numbers text = some (checkpoint.signed, supplied) ∧
      utf8 (hmac checkpoint.signed) = utf8 supplied := by
  unfold verify at verified
  unfold carried
  split at verified
  · cases verified
  · rename_i fields parsed
    rw [parsed]
    dsimp only
    split at verified
    · rename_i supplied found
      split at verified
      · cases verified
      · rename_i checkpoint' inside
        split at verified
        · rename_i same
          cases verified
          refine ⟨supplied, ?_, same⟩
          rw [inside]
        · cases verified
    · cases verified
  · cases verified

/-- What is signed determines every field. -/
theorem HandoffCheckpoint.same_of_signed {left right : HandoffCheckpoint numbers}
    (same : left.signed = right.signed) : left.Same right := by
  have texts := append_cancel_left same
  have paired (checkpoint : HandoffCheckpoint numbers) :
      Paired (stringify numbers.text checkpoint.json) :=
    ofTexts_paired.stringify numbers.numeric checkpoint.json
  exact HandoffCheckpoint.same_of_json (stringify_injective numbers.toNumberFormat
    left.json_distinct right.json_distinct (utf8_injective (paired left) (paired right) texts))

/-- No message but those that have been signed comes with a signature that is right. -/
def Unforged (hmac : List UInt8 → JsString) (written : List (HandoffCheckpoint numbers))
    (text : JsString) : Prop :=
  ∀ message supplied, carried numbers text = some (message, supplied) →
    utf8 (hmac message) = utf8 supplied → ∃ checkpoint ∈ written, checkpoint.signed = message

theorem verify_written {written : List (HandoffCheckpoint numbers)} {text : JsString}
    (unforged : Unforged hmac written text) {checkpoint : HandoffCheckpoint numbers}
    (verified : verify numbers hmac text = .ok checkpoint) :
    ∃ checkpoint' ∈ written, checkpoint.Same checkpoint' := by
  obtain ⟨supplied, message, same⟩ := verify_carried verified
  obtain ⟨checkpoint', mem, signed⟩ := unforged _ supplied message same
  exact ⟨checkpoint', mem, HandoffCheckpoint.same_of_signed signed.symm⟩

end Files

end ExecutionHandoff.Core
