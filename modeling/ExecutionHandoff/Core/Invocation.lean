import ExecutionHandoff.Library.Fields
import ExecutionHandoff.Library.JsonOrder
import ExecutionHandoff.Library.JsonText

/-!
# Tool invocations

The canonical text of a JSON value, in which the keys of every object are
sorted, and the digest of a tool invocation.  The canonical text has no control
character in it, so the last zero of a digested text is the separator.
-/

namespace ExecutionHandoff.Core

open Library Library.JsString List

/-- A JSON value; a key stands once in an object. -/
structure JsonData where
  value : JsonValue JsonNumber
  distinct : DistinctKeys value

namespace JsonData

/-- The same value, but for the order of object keys. -/
def Same (left right : JsonData) : Prop := SameUpToOrder left.value right.value

end JsonData

/-- `${JSON.stringify(key)}:${…}`. -/
def canonicalMember (member : JsString × JsString) : JsString := quote member.1 ++ 58 :: member.2

mutual

def canonicalJson : JsonValue JsonNumber → JsString
  | .null => stringify JsonNumber.text .null
  | .boolean value => stringify JsonNumber.text (.boolean value)
  | .number value => stringify JsonNumber.text (.number value)
  | .string text => stringify JsonNumber.text (.string text)
  | .array items => 91 :: (commaSeparated (canonicalItems items) ++ [93])
  | .object fields =>
      123 :: (commaSeparated ((sortByKey (canonicalFields fields)).map canonicalMember) ++ [125])

def canonicalItems : List (JsonValue JsonNumber) → List JsString
  | [] => []
  | item :: rest => canonicalJson item :: canonicalItems rest

def canonicalFields : List (JsString × JsonValue JsonNumber) → List (JsString × JsString)
  | [] => []
  | (key, value) :: rest => (key, canonicalJson value) :: canonicalFields rest

end

/-- The text whose digest is taken. -/
def digestedText (toolName : JsString) (args : JsonData) : JsString :=
  toolName ++ 0 :: canonicalJson args.value

/-- What the three updates of the hash pass on. -/
def digestedBytes (toolName : JsString) (args : JsonData) : List UInt8 :=
  utf8 toolName ++ utf8 [0] ++ utf8 (canonicalJson args.value)

def digestToolInvocation (sha256 : List UInt8 → JsString) (toolName : JsString) (args : JsonData) :
    JsString :=
  sha256 (digestedBytes toolName args)

/-! ## The canonical text -/

theorem canonicalItems_eq (items : List (JsonValue JsonNumber)) :
    canonicalItems items = items.map canonicalJson := by
  induction items with
  | nil => rfl
  | cons item items ih => exact congrArg (_ :: ·) ih

theorem canonicalFields_eq (fields : List (JsString × JsonValue JsonNumber)) :
    canonicalFields fields = fields.map (Prod.map id canonicalJson) := by
  induction fields with
  | nil => rfl
  | cons field fields ih => exact congrArg (_ :: ·) ih

/-- The canonical text is the text of the value with its keys in order. -/
theorem canonicalJson_eq (value : JsonValue JsonNumber) :
    canonicalJson value = stringify JsonNumber.text (sorted value) := by
  induction value using JsonValue.induct with
  | null => rfl
  | boolean value => rfl
  | number value => rfl
  | string text => rfl
  | array items ih =>
      rw [canonicalJson, sorted, stringify, canonicalItems_eq, stringifyItems_eq, sortedItems_eq,
        map_map]
      exact congrArg (fun texts => 91 :: (commaSeparated texts ++ [93])) (map_congr_left ih)
  | object fields ih =>
      have under : canonicalFields fields =
          (sortedFields fields).map (Prod.map id (stringify JsonNumber.text)) := by
        rw [canonicalFields_eq, sortedFields_eq, map_map]
        exact map_congr_left fun field mem => congrArg (field.1, ·) (ih field mem)
      rw [canonicalJson, sorted, stringify, stringifyFields_eq, under, ← map_sortByKey, map_map]
      rfl

theorem canonicalJson_injective {left right : JsonData} :
    canonicalJson left.value = canonicalJson right.value ↔ left.Same right := by
  have sorts := sorted_eq_iff left.distinct right.distinct
  rw [canonicalJson_eq, canonicalJson_eq]
  constructor
  · intro same
    exact sorts.mp
      (stringify_injective JsonNumber.format left.distinct.sorted right.distinct.sorted same)
  · intro same
    exact congrArg _ (sorts.mpr same)

theorem canonicalJson_uncontrolled (value : JsonValue JsonNumber) :
    (0 : UInt16) ∉ canonicalJson value := by
  intro mem
  rw [canonicalJson_eq] at mem
  exact absurd (ofTexts_uncontrolled.stringify JsonNumber.text_numeric (sorted value) 0 mem)
    (by decide)

theorem canonicalJson_paired (value : JsonValue JsonNumber) : Paired (canonicalJson value) := by
  rw [canonicalJson_eq]
  exact ofTexts_paired.stringify JsonNumber.text_numeric (sorted value)

/-! ## The digest -/

/-- The digested text determines the tool and its arguments. -/
theorem digestedText_injective {toolName toolName' : JsString} {args args' : JsonData} :
    digestedText toolName args = digestedText toolName' args' ↔
      toolName = toolName' ∧ args.Same args' := by
  constructor
  · intro same
    obtain ⟨names, texts⟩ := append_last_separator_injective (canonicalJson_uncontrolled args.value)
      (canonicalJson_uncontrolled args'.value) same
    exact ⟨names, canonicalJson_injective.mp texts⟩
  · rintro ⟨rfl, same⟩
    exact congrArg (fun text => toolName ++ 0 :: text) (canonicalJson_injective.mpr same)

theorem digestedBytes_eq (toolName : JsString) (args : JsonData) :
    digestedBytes toolName args =
      bytes (characters toolName ++ pointChar 0 :: characters (canonicalJson args.value)) := by
  unfold digestedBytes utf8
  rw [append_assoc, bytes_append, bytes_append]
  rfl

/-- Its bytes determine the arguments, and the name of the tool as far as it can be encoded. -/
theorem digestedBytes_injective {toolName toolName' : JsString} {args args' : JsonData} :
    digestedBytes toolName args = digestedBytes toolName' args' ↔
      characters toolName = characters toolName' ∧ args.Same args' := by
  have free (args : JsonData) : pointChar 0 ∉ characters (canonicalJson args.value) := fun mem =>
    canonicalJson_uncontrolled args.value
      (mem_characters (canonicalJson_paired args.value) (by decide) mem)
  rw [digestedBytes_eq, digestedBytes_eq]
  constructor
  · intro same
    obtain ⟨names, texts⟩ := append_last_separator_injective (free args) (free args')
      (bytes_injective same)
    exact ⟨names, canonicalJson_injective.mp (characters_injective
      (canonicalJson_paired args.value) (canonicalJson_paired args'.value) texts)⟩
  · rintro ⟨names, same⟩
    rw [names, canonicalJson_injective.mpr same]

end ExecutionHandoff.Core
