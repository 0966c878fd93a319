import ExecutionHandoff.Library.JsonConversion
import ExecutionHandoff.Takeover.Session
import ExecutionHandoff.WebSocket.Messages

/-!
# Messages of a terminal takeover

What the Human page may send over its data channel: terminal bytes, a new size,
or Done.  Bytes travel in base64, of which only the canonical spelling is
accepted, so a text stands for its bytes and the model counts them.
-/

namespace ExecutionHandoff.Experimental

open Library
open WebSocket (maxSafeInteger)
open JsString (ascii)
open JsonValue (numberOf)

inductive TerminalWebRtcEvent where
  | input (dataBase64 : String)
  | resize (rows cols : Int)
  | done
  deriving DecidableEq

def maxSignalingSdpBytes : Nat := 128 * 1024
def maxChannelMessageBytes : Nat := 8 * 1024
def maxTerminalInputBytes : Nat := 2 * 1024
def maxEventQueueItems : Nat := 64
def maxEventQueueBytes : Nat := 64 * 1024

/-! ## Base64 -/

def base64Alphabet : List Char :=
  "ABCDEFGHIJKLMNOPQRSTUVWXYZabcdefghijklmnopqrstuvwxyz0123456789+/".toList

/-- The bits of the last character that no byte takes up are zero. -/
def base64Tail (body : List Char) (padding : Nat) : Bool :=
  match body.getLast? with
  | none => padding == 0
  | some last =>
      let value := base64Alphabet.idxOf last
      match padding with
      | 0 => true
      | 1 => value % 4 == 0
      | 2 => value % 16 == 0
      | _ => false

/-- The number of bytes a text encodes, when it is their canonical encoding. -/
def base64Length (value : String) : Option Nat :=
  let chars := value.toList
  let body := chars.takeWhile fun char => char != '='
  let padding := chars.length - body.length
  if chars.length % 4 == 0 && body.all base64Alphabet.contains
      && (chars.drop body.length).all (fun char => char == '=') && base64Tail body padding then
    some (chars.length / 4 * 3 - padding)
  else
    none

/-- The bytes a text stands for are counted; any other text throws. -/
def decodeBase64 (value : String) (maxBytes : Nat) : Except String Nat :=
  match base64Length value with
  | some bytes =>
      if 1 ≤ bytes ∧ bytes ≤ maxBytes then .ok bytes else .error "terminal bytes invalid"
  | none => .error "terminal bytes invalid"

/-! ## Parsing -/

/-- A number that is a safe integer in its bounds. -/
def boundedSize (value : Option ℚ) (least most : Int) : Option Int :=
  match value with
  | some value =>
      if value.den = 1 ∧ -maxSafeInteger ≤ value.num ∧ value.num ≤ maxSafeInteger
          ∧ least ≤ value.num ∧ value.num ≤ most then
        some value.num
      else
        none
  | none => none

/-- The text of a field that holds one. -/
def fieldText : Option (JsonValue (Option ℚ)) → Option String
  | some (.string text) => some (String.ofList (JsString.characters text))
  | _ => none

/-- A message that is no event of the protocol is `none`; bytes that do not decode throw, and so
does the conversion of a size that has no text. -/
def parseTerminalEvent : JsonValue (Option ℚ) → Except String (Option TerminalWebRtcEvent)
  | .object fields =>
      let field := fun key => fields.lookup (JsString.ascii key)
      match fieldText (field "kind"), fieldText (field "dataBase64") with
      | some "input", some dataBase64 =>
          (decodeBase64 dataBase64 maxTerminalInputBytes).map fun _ => some (.input dataBase64)
      | some "resize", _ => do
          let rows ← JsonValue.numberOf (field "rows")
          let cols ← JsonValue.numberOf (field "cols")
          match boundedSize rows 2 200, boundedSize cols 2 400 with
          | some rows, some cols => return some (.resize rows cols)
          | _, _ => return none
      | some "done", _ => if fields.length = 1 then .ok (some .done) else .ok none
      | _, _ => .ok none
  | _ => .ok none

/-- What an event counts for in the queue's byte limit. -/
def terminalEventCost : TerminalWebRtcEvent → Nat
  | .input dataBase64 => (decodeBase64 dataBase64 maxTerminalInputBytes).toOption.getD 0
  | _ => 16

/-! ## The grammar -/

/-- The size fields of a resize have texts, so that they convert. -/
def Sized (fields : List (JsString × JsonValue (Option ℚ))) : Prop :=
  ∀ key ∈ ["rows", "cols"], ∀ value, fields.lookup (JsString.ascii key) = some value →
    value.textless = false

/-- The number a field converts to. -/
def fieldNumber (fields : List (JsString × JsonValue (Option ℚ))) (key : String) : Option ℚ :=
  (fields.lookup (JsString.ascii key)).bind JsonValue.toNumber

/-- The event that a message stands for. -/
inductive Denotes (fields : List (JsString × JsonValue (Option ℚ))) : TerminalWebRtcEvent → Prop where
  | input (dataBase64 : String) (bytes : Nat)
      (kind : fieldText (fields.lookup (JsString.ascii "kind")) = some "input")
      (data : fieldText (fields.lookup (JsString.ascii "dataBase64")) = some dataBase64)
      (decodes : decodeBase64 dataBase64 maxTerminalInputBytes = .ok bytes) :
      Denotes fields (.input dataBase64)
  | resize (rows cols : Int)
      (kind : fieldText (fields.lookup (JsString.ascii "kind")) = some "resize")
      (sized : Sized fields)
      (tall : boundedSize (fieldNumber fields "rows") 2 200 = some rows)
      (wide : boundedSize (fieldNumber fields "cols") 2 400 = some cols) :
      Denotes fields (.resize rows cols)
  | done (kind : fieldText (fields.lookup (JsString.ascii "kind")) = some "done")
      (alone : fields.length = 1) : Denotes fields .done

/-- What the parser throws on: bytes that do not decode, and sizes without a text. -/
inductive Garbled (fields : List (JsString × JsonValue (Option ℚ))) : Prop where
  | input (dataBase64 : String)
      (kind : fieldText (fields.lookup (JsString.ascii "kind")) = some "input")
      (data : fieldText (fields.lookup (JsString.ascii "dataBase64")) = some dataBase64)
      (decodes : ∀ bytes, decodeBase64 dataBase64 maxTerminalInputBytes ≠ .ok bytes)
  | resize (kind : fieldText (fields.lookup (JsString.ascii "kind")) = some "resize")
      (sized : ¬ Sized fields)

theorem numberOf_ok {fields : List (JsString × JsonValue (Option ℚ))} (sized : Sized fields)
    {key : String} (size : key ∈ ["rows", "cols"]) :
    numberOf (fields.lookup (ascii key)) = .ok (fieldNumber fields key) := by
  unfold fieldNumber
  cases found : fields.lookup (ascii key) with
  | none => rfl
  | some value =>
      change (if value.textless then _ else _) = _
      rw [sized key size value found]
      rfl

theorem numberOf_error {value : JsonValue (Option ℚ)} (textless : value.textless = true) :
    ∃ error, numberOf (some value) = .error error :=
  ⟨_, if_pos textless⟩

/-- Some size of a message that is not sized makes the conversion throw. -/
theorem not_sized {fields : List (JsString × JsonValue (Option ℚ))} (sized : ¬ Sized fields) :
    (∃ error, numberOf (fields.lookup (ascii "rows")) = .error error) ∨
      ∃ error, numberOf (fields.lookup (ascii "cols")) = .error error := by
  by_contra converts
  obtain ⟨rows, cols⟩ := not_or.mp converts
  refine sized fun key size value found => Bool.eq_false_iff.mpr fun textless => ?_
  obtain ⟨error, throws⟩ := numberOf_error textless
  rw [← found] at throws
  rcases List.mem_pair.mp size with rfl | rfl
  · exact rows ⟨error, throws⟩
  · exact cols ⟨error, throws⟩

section Parsed

variable {fields : List (JsString × JsonValue (Option ℚ))}

theorem parse_input {dataBase64 : String}
    (kind : fieldText (fields.lookup (ascii "kind")) = some "input")
    (data : fieldText (fields.lookup (ascii "dataBase64")) = some dataBase64) :
    parseTerminalEvent (.object fields) =
      (decodeBase64 dataBase64 maxTerminalInputBytes).map fun _ => some (.input dataBase64) := by
  unfold parseTerminalEvent
  dsimp only
  rw [kind, data]
  rfl

theorem parse_resize (kind : fieldText (fields.lookup (ascii "kind")) = some "resize") :
    parseTerminalEvent (.object fields) =
      (numberOf (fields.lookup (ascii "rows"))).bind fun rows =>
        (numberOf (fields.lookup (ascii "cols"))).bind fun cols =>
          match boundedSize rows 2 200, boundedSize cols 2 400 with
          | some rows, some cols => .ok (some (.resize rows cols))
          | _, _ => .ok none := by
  unfold parseTerminalEvent
  dsimp only
  rw [kind]
  rfl

theorem parse_sized (kind : fieldText (fields.lookup (ascii "kind")) = some "resize")
    (sized : Sized fields) :
    parseTerminalEvent (.object fields) =
      match boundedSize (fieldNumber fields "rows") 2 200,
        boundedSize (fieldNumber fields "cols") 2 400 with
      | some rows, some cols => .ok (some (.resize rows cols))
      | _, _ => .ok none := by
  rw [parse_resize kind, numberOf_ok sized (by decide), numberOf_ok sized (by decide)]
  rfl

theorem parse_done (kind : fieldText (fields.lookup (ascii "kind")) = some "done") :
    parseTerminalEvent (.object fields) =
      if fields.length = 1 then .ok (some .done) else .ok none := by
  unfold parseTerminalEvent
  dsimp only
  rw [kind]
  rfl

/-- The kinds that the parser tells apart. -/
theorem parse_cases (fields : List (JsString × JsonValue (Option ℚ))) :
    (∃ dataBase64, fieldText (fields.lookup (ascii "kind")) = some "input" ∧
      fieldText (fields.lookup (ascii "dataBase64")) = some dataBase64) ∨
    fieldText (fields.lookup (ascii "kind")) = some "resize" ∨
    fieldText (fields.lookup (ascii "kind")) = some "done" ∨
    parseTerminalEvent (.object fields) = .ok none := by
  unfold parseTerminalEvent
  dsimp only
  split
  · rename_i kind data
    exact .inl ⟨_, kind, data⟩
  · rename_i kind
    exact .inr (.inl kind)
  · rename_i kind
    exact .inr (.inr (.inl kind))
  · exact .inr (.inr (.inr rfl))

/-- The parser throws on the garbled messages. -/
theorem parse_error_iff :
    (∃ error, parseTerminalEvent (.object fields) = .error error) ↔ Garbled fields := by
  constructor
  · rintro ⟨error, parsed⟩
    rcases parse_cases fields with ⟨dataBase64, kind, data⟩ | kind | kind | none
    · refine .input dataBase64 kind data fun bytes decoded => ?_
      rw [parse_input kind data, decoded] at parsed
      cases parsed
    · refine .resize kind fun sized => ?_
      rw [parse_sized kind sized] at parsed
      split at parsed <;> cases parsed
    · rw [parse_done kind] at parsed
      split at parsed <;> cases parsed
    · cases none.symm.trans parsed
  · intro garbled
    cases garbled with
    | input dataBase64 kind data decodes =>
        rw [parse_input kind data]
        cases decoded : decodeBase64 dataBase64 maxTerminalInputBytes with
        | error error => exact ⟨error, rfl⟩
        | ok bytes => exact absurd decoded (decodes bytes)
    | resize kind sized =>
        rw [parse_resize kind]
        rcases not_sized sized with ⟨error, rows⟩ | ⟨error, cols⟩
        · rw [rows]
          exact ⟨error, rfl⟩
        · rw [cols]
          cases numberOf (fields.lookup (ascii "rows")) with
          | error error => exact ⟨error, rfl⟩
          | ok rows => exact ⟨error, rfl⟩

/-- The parser takes the events that messages stand for. -/
theorem parse_event_iff {event : TerminalWebRtcEvent} :
    parseTerminalEvent (.object fields) = .ok (some event) ↔ Denotes fields event := by
  constructor
  · intro parsed
    rcases parse_cases fields with ⟨dataBase64, kind, data⟩ | kind | kind | none
    · rw [parse_input kind data] at parsed
      cases decoded : decodeBase64 dataBase64 maxTerminalInputBytes with
      | error error =>
          rw [decoded] at parsed
          cases parsed
      | ok bytes =>
          rw [decoded] at parsed
          cases parsed
          exact .input dataBase64 bytes kind data decoded
    · by_cases sized : Sized fields
      · rw [parse_sized kind sized] at parsed
        split at parsed
        · rename_i rows cols tall wide
          cases parsed
          exact .resize rows cols kind sized tall wide
        · cases parsed
      · obtain ⟨error, throws⟩ := parse_error_iff.mpr (.resize kind sized)
        cases throws.symm.trans parsed
    · rw [parse_done kind] at parsed
      split at parsed
      · rename_i alone
        cases parsed
        exact .done kind alone
      · cases parsed
    · cases none.symm.trans parsed
  · intro denotes
    cases denotes with
    | input dataBase64 bytes kind data decodes =>
        rw [parse_input kind data, decodes]
        rfl
    | resize rows cols kind sized tall wide => rw [parse_sized kind sized, tall, wide]
    | done kind alone => rw [parse_done kind, if_pos alone]

end Parsed

/-- What an event counts for is what it was decoded to when it was taken. -/
theorem Denotes.cost {fields : List (JsString × JsonValue (Option ℚ))} {dataBase64 : String}
    (denotes : Denotes fields (.input dataBase64)) :
    decodeBase64 dataBase64 maxTerminalInputBytes = .ok (terminalEventCost (.input dataBase64)) := by
  cases denotes with
  | input _ bytes _ _ decodes =>
      unfold terminalEventCost
      dsimp only
      rw [decodes]
      rfl

end ExecutionHandoff.Experimental
