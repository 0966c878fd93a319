import Mathlib.Data.Rat.Init
import Mathlib.Algebra.Order.Ring.Unbundled.Rat
import ExecutionHandoff.Library.Text

/-!
# Messages of a WebSocket takeover

What a peer may send, what it is sent, and the options a channel is built
with.  Numbers of the protocol are doubles: a finite one is a rational, any
other is `none`.  Texts are measured in bytes of their UTF-8 encoding.
-/

namespace ExecutionHandoff.WebSocket

/-- A field of a parsed object; no field of the protocol is an array or an object. -/
inductive JsonField where
  | null
  | boolean (value : Bool)
  | number (value : Option ℚ)
  | string (text : String)
  | composite
  deriving DecidableEq

/-- What `JSON.parse` returns: an object with its own fields, or anything else. -/
inductive JsonValue where
  | object (fields : List (String × JsonField))
  | other
  deriving DecidableEq

inductive WebSocketTakeoverState where
  | open
  | closing
  | closed
  | revoked
  | failed
  deriving DecidableEq

structure WebSocketTakeoverBinding where
  interventionId : String
  epoch : Int
  principalBinding : String
  clientBinding : String
  clientGeneration : Int
  deriving DecidableEq

structure WebSocketTakeoverInputPolicy where
  tap : Bool
  scroll : Bool
  text : Bool
  key : Bool
  deriving DecidableEq

inductive WebSocketTakeoverHumanInput where
  | tap (x y : ℚ)
  | scroll (deltaY : ℚ)
  | text (text : String)
  | key (key : String)
  deriving DecidableEq

/-- The kinds of input the policy allows. -/
def WebSocketTakeoverInputPolicy.allows (policy : WebSocketTakeoverInputPolicy) :
    WebSocketTakeoverHumanInput → Bool
  | .tap _ _ => policy.tap
  | .scroll _ => policy.scroll
  | .text _ => policy.text
  | .key _ => policy.key

inductive WebSocketTakeoverFailureCode where
  | invalidMessage
  | inputNotAllowed
  | staleGeneration
  | frameTooLarge
  | inboundQueueOverflow
  | transportFailure
  | authorityReleaseFailed
  deriving DecidableEq

namespace WebSocketTakeoverFailureCode

/-- The code as it is sent to the peer. -/
def text : WebSocketTakeoverFailureCode → String
  | .invalidMessage => "invalid_message"
  | .inputNotAllowed => "input_not_allowed"
  | .staleGeneration => "stale_generation"
  | .frameTooLarge => "frame_too_large"
  | .inboundQueueOverflow => "inbound_queue_overflow"
  | .transportFailure => "transport_failure"
  | .authorityReleaseFailed => "authority_release_failed"

end WebSocketTakeoverFailureCode

structure WebSocketTakeoverError where
  code : WebSocketTakeoverFailureCode
  message : String
  deriving DecidableEq

structure WebSocketTakeoverFrame where
  data : List UInt8
  width : ℚ
  height : ℚ
  mimeType : String
  deriving DecidableEq

inductive WebSocketTakeoverServerMessage where
  | ready
  | closing
  | closed
  | pong (nonce : Option String)
  | error (code : WebSocketTakeoverFailureCode)
  deriving DecidableEq

/-- What `parseHumanMessage` returns. -/
inductive WebSocketTakeoverMessage where
  | input (input : WebSocketTakeoverHumanInput)
  | diagnostic (event : String)
  | latency (metric : String) (valueMs : ℚ)
  | done
  | ping (nonce : Option String)
  deriving DecidableEq

/-! ## Bounds -/

def boundedNumber (value : Option ℚ) (min max : ℚ) : Bool :=
  match value with
  | some value => decide (min ≤ value) && decide (value ≤ max)
  | none => false

def boundedInteger (value : ℚ) (min max : Int) : Bool :=
  value.den == 1 && decide (min ≤ value.num) && decide (value.num ≤ max)

def maxSafeInteger : Int := 9007199254740991

def maxScrollDelta : Int := 2000
def maxTextBytes : Nat := 4 * 1024
def maxKeyBytes : Nat := 64

def utf8Length (text : String) : Nat := text.utf8ByteSize

def hasOnlyKeys (record : List (String × JsonField)) (allowed : List String) : Bool :=
  record.length == allowed.length && record.all fun field => allowed.contains field.1

/-! ## Parsing -/

def clientDiagnosticEvents : List String :=
  ["client_editable_regions_available", "client_editable_regions_empty",
    "client_tap_editable_predicted", "client_tap_editable_not_predicted",
    "client_keyboard_focus_requested", "client_keyboard_focus_active",
    "client_keyboard_focus_inactive"]

def webSocketClientLatencyMetrics : List String :=
  ["client_frame_decode", "client_frame_cadence", "client_first_frame", "client_first_ready",
    "client_ready_to_first_frame", "client_reconnect_frame", "client_reconnect_ready"]

def maxLatencyMs : ℚ := 120000

def invalidMessage (message : String) : WebSocketTakeoverError := ⟨.invalidMessage, message⟩

def notAllowed (message : String) : WebSocketTakeoverError := ⟨.inputNotAllowed, message⟩

abbrev Parsed := Except WebSocketTakeoverError WebSocketTakeoverMessage

section Kinds

variable (record : List (String × JsonField))

/-- An input message has exactly its keys, then is allowed, then has fields in their bounds. -/
def parseInput (keys : List String) (extra : String) (allowed : Bool) (refused : String)
    (input : Option WebSocketTakeoverHumanInput) (unbounded : String) : Parsed :=
  if hasOnlyKeys record ("kind" :: keys) = false then
    .error (invalidMessage extra)
  else if allowed = false then
    .error (notAllowed refused)
  else
    match input with
    | some input => .ok (.input input)
    | none => .error (invalidMessage unbounded)

def parseTap (policy : WebSocketTakeoverInputPolicy) : Parsed :=
  parseInput record ["x", "y"] "Tap message has extra fields" policy.tap "Tap input is not allowed"
    (match record.lookup "x", record.lookup "y" with
      | some (.number (some x)), some (.number (some y)) =>
          if boundedNumber (some x) 0 1 && boundedNumber (some y) 0 1 then some (.tap x y) else none
      | _, _ => none)
    "Tap coordinates must be normalized"

def parseScroll (policy : WebSocketTakeoverInputPolicy) : Parsed :=
  parseInput record ["deltaY"] "Scroll message has extra fields" policy.scroll
    "Scroll input is not allowed"
    (match record.lookup "deltaY" with
      | some (.number (some deltaY)) =>
          if boundedInteger deltaY (-maxScrollDelta) maxScrollDelta then some (.scroll deltaY)
          else none
      | _ => none)
    "Scroll delta is out of bounds"

def parseText (policy : WebSocketTakeoverInputPolicy) : Parsed :=
  parseInput record ["text"] "Text message has extra fields" policy.text "Text input is not allowed"
    (match record.lookup "text" with
      | some (.string text) => if utf8Length text ≤ maxTextBytes then some (.text text) else none
      | _ => none)
    "Text input is out of bounds"

def parseKey (policy : WebSocketTakeoverInputPolicy) : Parsed :=
  parseInput record ["key"] "Key message has extra fields" policy.key "Key input is not allowed"
    (match record.lookup "key" with
      | some (.string key) =>
          if utf8Length key ≤ maxKeyBytes ∧ key ≠ "" then some (.key key) else none
      | _ => none)
    "Key input is out of bounds"

def parseDiagnostic : Parsed :=
  if hasOnlyKeys record ["kind", "event"] = false then
    .error (invalidMessage "Diagnostic message has extra fields")
  else
    match record.lookup "event" with
    | some (.string event) =>
        if clientDiagnosticEvents.contains event then .ok (.diagnostic event)
        else .error (invalidMessage "Diagnostic event is invalid")
    | _ => .error (invalidMessage "Diagnostic event is invalid")

def parseLatency : Parsed :=
  let invalid := invalidMessage "Latency diagnostic is invalid"
  if hasOnlyKeys record ["kind", "metric", "valueMs"] = false then
    .error invalid
  else
    match record.lookup "metric", record.lookup "valueMs" with
    | some (.string metric), some (.number (some valueMs)) =>
        if webSocketClientLatencyMetrics.contains metric
            && boundedNumber (some valueMs) 0 maxLatencyMs then
          .ok (.latency metric valueMs)
        else
          .error invalid
    | _, _ => .error invalid

def parseDone : Parsed :=
  if hasOnlyKeys record ["kind"] then .ok .done
  else .error (invalidMessage "Done message has extra fields")

def parsePing : Parsed :=
  match record.lookup "nonce" with
  | none =>
      if hasOnlyKeys record ["kind"] then .ok (.ping none)
      else .error (invalidMessage "Ping message has extra fields")
  | some (.string nonce) =>
      if hasOnlyKeys record ["kind", "nonce"] && decide (utf8Length nonce ≤ 64) then
        .ok (.ping (some nonce))
      else
        .error (invalidMessage "Ping nonce is out of bounds")
  | some _ => .error (invalidMessage "Ping nonce is out of bounds")

end Kinds

def parseHumanMessage (parse : String → Option JsonValue) (raw : String) (maxInboundBytes : Nat)
    (inputPolicy : WebSocketTakeoverInputPolicy) : Parsed :=
  if maxInboundBytes < utf8Length raw then
    .error (invalidMessage "WebSocket takeover message is too large")
  else
    match parse raw with
    | none => .error (invalidMessage "WebSocket takeover message is invalid JSON")
    | some .other => .error (invalidMessage "WebSocket takeover message must be an object")
    | some (.object record) =>
        match record.lookup "kind" with
        | some (.string "tap") => parseTap record inputPolicy
        | some (.string "scroll") => parseScroll record inputPolicy
        | some (.string "text") => parseText record inputPolicy
        | some (.string "key") => parseKey record inputPolicy
        | some (.string "diagnostic") => parseDiagnostic record
        | some (.string "latency") => parseLatency record
        | some (.string "done") => parseDone record
        | some (.string "ping") => parsePing record
        | _ => .error (invalidMessage "Unknown WebSocket takeover message")

/-! An accepted input is one the policy allows. -/

theorem parseInput_input {record : List (String × JsonField)} {keys : List String}
    {extra refused unbounded : String} {allowed : Bool}
    {candidate : Option WebSocketTakeoverHumanInput} {input : WebSocketTakeoverHumanInput}
    (parsed : parseInput record keys extra allowed refused candidate unbounded = .ok (.input input)) :
    allowed = true ∧ candidate = some input := by
  unfold parseInput at parsed
  split at parsed
  · cases parsed
  split at parsed
  · cases parsed
  · rename_i _ permitted
    cases candidate with
    | none => cases parsed
    | some other =>
        cases parsed
        exact ⟨by simpa using permitted, rfl⟩

variable {policy : WebSocketTakeoverInputPolicy}

theorem parseTap_allows {record : List (String × JsonField)}
    {input : WebSocketTakeoverHumanInput} (parsed : parseTap record policy = .ok (.input input)) :
    policy.allows input = true := by
  obtain ⟨allowed, same⟩ := parseInput_input parsed
  split at same
  · split at same
    · cases same
      exact allowed
    · cases same
  · cases same

theorem parseScroll_allows {record : List (String × JsonField)}
    {input : WebSocketTakeoverHumanInput}
    (parsed : parseScroll record policy = .ok (.input input)) : policy.allows input = true := by
  obtain ⟨allowed, same⟩ := parseInput_input parsed
  split at same
  · split at same
    · cases same
      exact allowed
    · cases same
  · cases same

theorem parseText_allows {record : List (String × JsonField)}
    {input : WebSocketTakeoverHumanInput} (parsed : parseText record policy = .ok (.input input)) :
    policy.allows input = true := by
  obtain ⟨allowed, same⟩ := parseInput_input parsed
  split at same
  · split at same
    · cases same
      exact allowed
    · cases same
  · cases same

theorem parseKey_allows {record : List (String × JsonField)}
    {input : WebSocketTakeoverHumanInput} (parsed : parseKey record policy = .ok (.input input)) :
    policy.allows input = true := by
  obtain ⟨allowed, same⟩ := parseInput_input parsed
  split at same
  · split at same
    · cases same
      exact allowed
    · cases same
  · cases same

theorem parseHumanMessage_allows {parse : String → Option JsonValue} {raw : String}
    {maxInboundBytes : Nat}
    {input : WebSocketTakeoverHumanInput}
    (parsed : parseHumanMessage parse raw maxInboundBytes policy = .ok (.input input)) :
    policy.allows input = true := by
  unfold parseHumanMessage at parsed
  split at parsed
  · cases parsed
  split at parsed
  · cases parsed
  · cases parsed
  split at parsed
  · exact parseTap_allows parsed
  · exact parseScroll_allows parsed
  · exact parseText_allows parsed
  · exact parseKey_allows parsed
  · unfold parseDiagnostic at parsed
    grind
  · unfold parseLatency at parsed
    grind
  · unfold parseDone at parsed
    grind
  · unfold parsePing at parsed
    grind
  · cases parsed

end ExecutionHandoff.WebSocket
