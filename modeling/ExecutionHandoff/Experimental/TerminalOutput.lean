import ExecutionHandoff.Experimental.AdapterCoupling
import ExecutionHandoff.Library.Base64
import ExecutionHandoff.Library.Utf8

/-!
# Terminal output

The adapter takes bytes that the Human is to see, the runtime sends them to the
page as a message of the data channel, and the page reads the message.  Both
bound the bytes; the runtime also bounds the message that they are written as.
-/

namespace ExecutionHandoff.Experimental

open Library List
open StateExcept hiding read update
open JsString (Scalar ascii utf8)

variable {ν : Type} (format : NumberFormat ν)

/-- What waits to be sent on an open data channel, and the messages that were handed to it. -/
structure TerminalDataChannel where
  bufferedAmount : Nat
  sent : List JsString
  deriving DecidableEq

def maxTerminalOutputBytes : Nat := 16 * 1024

def maxBufferedAmount : Nat := 64 * 1024

/-- `decodeBase64` with the bytes that it returns. -/
def decodeBase64Bytes (value : JsString) (maxBytes : Nat) : Except String (List UInt8) :=
  if base64Shaped value = false ∨ value.length > (maxBytes + 2) / 3 * 4 + 4 then
    .error "terminal bytes invalid"
  else
    let bytes := fromBase64 value
    if bytes.length < 1 ∨ bytes.length > maxBytes ∨ toBase64 bytes ≠ value then
      .error "terminal bytes invalid"
    else .ok bytes

def outputMessage (bytes : List UInt8) : JsonValue ν :=
  .object [(JsString.ascii "kind", .string (JsString.ascii "output")),
    (JsString.ascii "dataBase64", .string (toBase64 bytes))]

/-- What `sendOutput` does once the channel is known to be open. -/
def sendOutput (channel : TerminalDataChannel) (dataBase64 : JsString) :
    Except String TerminalDataChannel :=
  match decodeBase64Bytes dataBase64 maxTerminalOutputBytes with
  | .error message => .error message
  | .ok bytes =>
      let payload := stringify format.text (outputMessage bytes)
      if (JsString.utf8 payload).length > maxChannelMessageBytes ∨
          channel.bufferedAmount > maxBufferedAmount then
        .error "terminal WebRTC output backpressure"
      else
        .ok ⟨channel.bufferedAmount + (JsString.utf8 payload).length, channel.sent ++ [payload]⟩

/-- `transport.pushOutput` with its text. -/
def pushOutputText (interventionId : String) (epoch : Int) (dataBase64 : JsString)
    (channel : TerminalDataChannel) : TransportM TerminalDataChannel := do
  let (_, session) ← ExperimentalTerminalWebRtcTakeover.requireIntervention interventionId epoch
  match session.clientGeneration with
  | none => StateExcept.throwing "terminal Human output unavailable"
  | some generation =>
      StateExcept.require session.humanActive "terminal Human output unavailable"
      match (← StateExcept.read).runtime.requireGeneration session.id generation with
      | none => StateExcept.throwing "terminal WebRTC generation unavailable"
      | some (_, active) =>
          StateExcept.require (active.inputEnabled && decide (active.channel = some .open))
            "terminal WebRTC output unavailable"
          match sendOutput format channel dataBase64 with
          | .error message => StateExcept.throwing message
          | .ok channel => return channel

namespace TerminalHandoffAdapter

variable (config : TerminalHandoffAdapterConfig)

/-- `pushHumanOutput` with its bytes. -/
def pushHumanOutputBytes (human : TerminalHandoffInterventionRef) (data : List UInt8)
    (channel : TerminalDataChannel) : AdapterM TerminalDataChannel := do
  requireTransportRef human
  assertHumanObservation config human
  StateExcept.require (decide (1 ≤ data.length) && decide (data.length ≤ maxHumanOutputBytes))
    .outputInvalid
  onTransport (pushOutputText format human.interventionId human.epoch (toBase64 data) channel)

/-- The Human of the adapter's transport is active, on an open data channel. -/
structure HumanOpen (human : TerminalHandoffInterventionRef) (adapter : TerminalHandoffAdapter) :
    Prop where
  started : adapter.transportRef = some ⟨human.interventionId, human.epoch⟩
  observes : (assertHumanObservation config human adapter).1 = .ok ()
  open_ : ∃ key session generation index active,
    adapter.transport.current? human.interventionId human.epoch = some (key, session) ∧
    session.humanActive = true ∧ session.clientGeneration = some generation ∧
    adapter.transport.runtime.requireGeneration session.id generation = some (index, active) ∧
    active.inputEnabled = true ∧ active.channel = some .open

end TerminalHandoffAdapter

/-! ## The page -/

/-- A property of what is parsed. -/
def property (key : String) : JsonValue ν → Option (JsonValue ν)
  | .object fields => (fields.find? fun field => field.1 == JsString.ascii key).map Prod.snd
  | _ => none

/-- The bytes that the page gives to its decoder for a message. -/
def pageOutput (data : JsString) : Option (List UInt8) :=
  (parseJson format data).bind fun message =>
    match property "kind" message, property "dataBase64" message with
    | some (.string kind), some (.string dataBase64) =>
        if kind = JsString.ascii "output" then atob dataBase64 else none
    | _, _ => none

/-! ## The message -/

/-- Units that are written into a text as they are. -/
def Plain (text : JsString) : Prop :=
  ∀ unit ∈ text, 32 ≤ unit.toNat ∧ unit.toNat < 128 ∧ unit.toNat ≠ 34 ∧ unit.toNat ≠ 92

theorem quote_plain {text : JsString} (plain : Plain text) : quote text = 34 :: (text ++ [34]) := by
  have written : (JsString.codePoints text).flatMap quotePoint = text := by
    induction text with
    | nil => rfl
    | cons unit text ih =>
        obtain ⟨low, high, mark, slash⟩ := plain unit mem_cons_self
        have single : JsString.highSurrogate unit = false := by
          refine Bool.eq_false_iff.mpr fun surrogate => ?_
          have bounds := JsString.highSurrogate_iff.mp surrogate
          omega
        have scalar : Scalar unit.toNat := .inl (by omega)
        have point : quotePoint unit.toNat = [unit] := by
          unfold quotePoint
          rw [if_neg (by omega), if_neg (by omega), if_neg (by omega), if_neg (by omega),
            if_neg (by omega), if_neg mark, if_neg slash,
            if_neg (not_or.mpr ⟨by omega, not_not.mpr scalar⟩), JsString.encodePoint_unit]
        rw [JsString.codePoints_cons_unit single, flatMap_cons, point,
          ih fun other mem => plain other (mem_cons_of_mem _ mem)]
        rfl
  rw [quote, written]

theorem plain_toBase64 (bytes : List UInt8) : Plain (toBase64 bytes) := by
  intro unit mem
  obtain ⟨low, high, slash⟩ := mem_toBase64 bytes unit mem
  exact ⟨by omega, by omega, by omega, slash⟩

/-- The text before the bytes. -/
def outputStart : JsString := JsString.ascii "\x7b\"kind\":\"output\",\"dataBase64\":\""

/-- The text behind the bytes. -/
def outputEnd : JsString := JsString.ascii "\"\x7d"

theorem stringify_outputMessage (bytes : List UInt8) :
    stringify format.text (outputMessage bytes) = outputStart ++ (toBase64 bytes ++ outputEnd) := by
  have kind : quote (ascii "kind") = ascii "\"kind\"" := by decide
  have output : quote (ascii "output") = ascii "\"output\"" := by decide
  have data : quote (ascii "dataBase64") = ascii "\"dataBase64\"" := by decide
  have joined : stringify format.text (outputMessage bytes) =
      123 :: ((quote (ascii "kind") ++ 58 :: quote (ascii "output")) ++
        44 :: (quote (ascii "dataBase64") ++ 58 :: quote (toBase64 bytes)) ++ [125]) := rfl
  rw [joined, kind, output, data, quote_plain (plain_toBase64 bytes)]
  simp [outputStart, outputEnd, ascii]

theorem length_outputMessage (bytes : List UInt8) :
    (utf8 (stringify format.text (outputMessage bytes))).length =
      33 + 4 * ((bytes.length + 2) / 3) := by
  have around : (outputStart ++ outputEnd).all (fun unit => decide (unit.toNat < 128)) = true := rfl
  have around : ∀ unit ∈ outputStart ++ outputEnd, unit.toNat < 128 := fun unit mem =>
    of_decide_eq_true (all_eq_true.mp around unit mem)
  have start : outputStart.length = 31 := rfl
  have rest : outputEnd.length = 2 := rfl
  rw [stringify_outputMessage, length_utf8, length_append, length_append, length_toBase64]
  · omega
  · intro unit mem
    rcases mem_append.mp mem with mem | mem
    · exact around unit (mem_append_left _ mem)
    · rcases mem_append.mp mem with mem | mem
      · exact (plain_toBase64 bytes unit mem).2.1
      · exact around unit (mem_append_right _ mem)

theorem decodeBase64Bytes_toBase64 {data : List UInt8} {maxBytes : Nat} (nonempty : 1 ≤ data.length)
    (bounded : data.length ≤ maxBytes) : decodeBase64Bytes (toBase64 data) maxBytes = .ok data := by
  unfold decodeBase64Bytes
  rw [if_neg, fromBase64_toBase64]
  · dsimp only
    rw [if_neg]
    simp only [ne_eq, not_true, or_false]
    omega
  · rw [base64Shaped_toBase64, length_toBase64]
    simp only [reduceCtorEq, false_or]
    omega

/-- The page reads the bytes that the message is made of. -/
theorem pageOutput_outputMessage (bytes : List UInt8) :
    pageOutput format (stringify format.text (outputMessage bytes)) = some bytes := by
  have keys : [ascii "kind", ascii "dataBase64"].Nodup := by decide
  have distinct : DistinctKeys (outputMessage bytes : JsonValue ν) := by
    refine .object _ keys fun field mem => ?_
    rcases mem_cons.mp mem with rfl | mem
    · exact .string _
    · cases mem_singleton.mp mem
      exact .string _
  have kind : property "kind" (outputMessage bytes : JsonValue ν) =
      some (.string (ascii "output")) := rfl
  have data : property "dataBase64" (outputMessage bytes : JsonValue ν) =
      some (.string (toBase64 bytes)) := rfl
  unfold pageOutput
  rw [parseJson_stringify format distinct, Option.bind_some]
  simp only [kind, data]
  rw [if_pos trivial, atob_toBase64]

/-- What is handed to a channel with nothing buffered. -/
theorem sendOutput_toBase64 {data : List UInt8} (nonempty : 1 ≤ data.length)
    (bounded : data.length ≤ maxTerminalOutputBytes) {channel : TerminalDataChannel}
    (idle : channel.bufferedAmount = 0) :
    sendOutput format channel (toBase64 data) =
      if data.length ≤ 6117 then
        .ok ⟨33 + 4 * ((data.length + 2) / 3),
          channel.sent ++ [stringify format.text (outputMessage data)]⟩
      else .error "terminal WebRTC output backpressure" := by
  unfold sendOutput
  rw [decodeBase64Bytes_toBase64 nonempty bounded]
  simp only [length_outputMessage, idle]
  have limit : 33 + 4 * ((data.length + 2) / 3) > maxChannelMessageBytes ↔ ¬ data.length ≤ 6117 := by
    unfold maxChannelMessageBytes
    omega
  by_cases small : data.length ≤ 6117
  · rw [if_pos small, if_neg, Nat.zero_add]
    rintro (large | buffered)
    · exact limit.mp large small
    · cases buffered
  · rw [if_neg small, if_pos (.inl (limit.mpr small))]

/-! ## The call -/

namespace TerminalHandoffAdapter

variable {config : TerminalHandoffAdapterConfig} {human : TerminalHandoffInterventionRef}
  {adapter : TerminalHandoffAdapter} {format}

/-- The call of the transport is what the channel is handed. -/
theorem pushOutputText_open {takeover : ExperimentalTerminalWebRtcTakeover}
    {interventionId : String} {epoch : Int} {key index : Nat} {session : TerminalSession}
    {generation : Nat} {active : ActiveRuntime}
    (current : takeover.current? interventionId epoch = some (key, session))
    (humanActive : session.humanActive = true)
    (client : session.clientGeneration = some generation)
    (peer : takeover.runtime.requireGeneration session.id generation = some (index, active))
    (enabled : active.inputEnabled = true) (isOpen : active.channel = some .open)
    (dataBase64 : JsString) (channel : TerminalDataChannel) :
    Ensures (pushOutputText format interventionId epoch dataBase64 channel) takeover
      fun result _ => result = sendOutput format channel dataBase64 := by
  apply Ensures.running
    (ExperimentalTerminalWebRtcTakeover.requireIntervention_ok current)
  simp only [client]
  apply Ensures.require
  · exact fun no => absurd humanActive (by rw [no]; exact Bool.false_ne_true)
  intro _
  apply Ensures.reading
  simp only [peer]
  apply Ensures.require
  · rw [enabled, isOpen]
    exact fun no => by cases no
  intro _
  split <;> rename_i sent
  · exact .throwing sent.symm
  · exact .pure sent.symm

theorem requireTransportRef_ok
    (started : adapter.transportRef = some ⟨human.interventionId, human.epoch⟩) :
    requireTransportRef human adapter = (.ok (), adapter) := by
  have required : Ensures (requireTransportRef human) adapter
      fun result after => result = .ok () ∧ after = adapter := by
    apply Ensures.reading
    simp only [started, beq_self_eq_true, Bool.and_self]
    exact ⟨rfl, rfl⟩
  exact Prod.ext required.1 required.2

theorem assertHumanObservation_unchanged :
    Ensures (assertHumanObservation config human) adapter
      fun _ after => after = adapter := by
  have spec : Ensures (TerminalPtyAuthority.assertHumanInput config.authority
      config.binding human.interventionId human.epoch) adapter.authority
      fun _ after => after = adapter.authority :=
    TerminalPtyAuthority.assertHumanInput_spec.mono fun _ _ kept => kept.1
  unfold Ensures assertHumanObservation onAuthority
  unfold Ensures at spec
  unfold TerminalPtyAuthority.assertHumanObservation
  cases outcome : TerminalPtyAuthority.assertHumanInput config.authority config.binding
      human.interventionId human.epoch adapter.authority with
  | mk result authority =>
      rw [outcome] at spec
      cases spec
      cases result <;> rfl

/-- With the Human active on an open channel, the call is what the channel is handed. -/
theorem HumanOpen.pushHumanOutputBytes (active : HumanOpen config human adapter)
    {data : List UInt8} (nonempty : 1 ≤ data.length) (bounded : data.length ≤ maxHumanOutputBytes)
    (channel : TerminalDataChannel) :
    (pushHumanOutputBytes format config human data channel adapter).1 =
      (sendOutput format channel (toBase64 data)).mapError .transport := by
  obtain ⟨key, session, generation, index, peer, current, humanActive, client, found, enabled,
    isOpen⟩ := active.open_
  have observed : assertHumanObservation config human adapter = (.ok (), adapter) :=
    Prod.ext active.observes assertHumanObservation_unchanged
  have pushed : Ensures (TerminalHandoffAdapter.pushHumanOutputBytes format config human
      data channel) adapter fun result _ =>
        result = (sendOutput format channel (toBase64 data)).mapError .transport := by
    apply Ensures.running (requireTransportRef_ok active.started)
    apply Ensures.running observed
    apply Ensures.require
    · rw [decide_eq_true nonempty, decide_eq_true bounded]
      exact fun no => by cases no
    intro _
    have sent : Ensures (pushOutputText format human.interventionId human.epoch
        (toBase64 data) channel) adapter.transport
        fun result _ => result = sendOutput format channel (toBase64 data) :=
      pushOutputText_open current humanActive client found enabled isOpen _ _
    unfold Ensures at sent
    unfold Ensures onTransport
    rw [← sent]
    cases outcome : pushOutputText format human.interventionId human.epoch (toBase64 data) channel
        adapter.transport with
    | mk result transport => cases result <;> rfl
  exact pushed

/-- The same calls, run from the same state, have the same result when their ends have. -/
theorem andThen_map {σ err α β γ : Type} {first : StateExcept σ err α}
    {next : α → StateExcept σ err β} {other : α → StateExcept σ err γ} {reply : β → γ} {state : σ}
    (same : ∀ value after, (next value after).1.map reply = (other value after).1) :
    ((first >>= next) state).1.map reply = ((first >>= other) state).1 := by
  change ((StateExcept.andThen first next state).1.map reply) =
    (StateExcept.andThen first other state).1
  unfold StateExcept.andThen
  cases first state with
  | mk result after =>
      cases result with
      | error error => rfl
      | ok value => exact same value after

theorem onTransport_map {α β : Type} {action : TransportM α} {other : TransportM β} {reply : α → β}
    (same : (action adapter.transport).1.map reply = (other adapter.transport).1) :
    (onTransport action adapter).1.map reply = (onTransport other adapter).1 := by
  unfold onTransport
  cases done : action adapter.transport with
  | mk result takeover =>
      cases also : other adapter.transport with
      | mk second second' =>
          rw [done, also] at same
          cases same
          cases result <;> rfl

/-- There is room when the channel is handed the message. -/
def hasRoom (format : NumberFormat ν) (channel : TerminalDataChannel) (data : List UInt8) : Bool :=
  (sendOutput format channel (toBase64 data)).isOk

theorem sendOutput_refused {data : List UInt8} (nonempty : 1 ≤ data.length)
    (bounded : data.length ≤ maxTerminalOutputBytes) {channel : TerminalDataChannel} {error : String}
    (refused : sendOutput format channel (toBase64 data) = .error error) :
    error = "terminal WebRTC output backpressure" := by
  unfold sendOutput at refused
  rw [decodeBase64Bytes_toBase64 nonempty bounded] at refused
  dsimp only at refused
  split at refused <;> cases refused
  rfl

theorem pushOutputText_refines (interventionId : String) (epoch : Int) {data : List UInt8}
    (nonempty : 1 ≤ data.length) (bounded : data.length ≤ maxTerminalOutputBytes)
    (channel : TerminalDataChannel) (takeover : ExperimentalTerminalWebRtcTakeover) :
    (pushOutputText format interventionId epoch (toBase64 data) channel takeover).1.map
        (fun _ => ()) =
      (pushOutput interventionId epoch (hasRoom format channel data) takeover).1 := by
  apply andThen_map
  rintro ⟨key, session⟩ found
  dsimp only
  cases client : session.clientGeneration with
  | none => rfl
  | some generation =>
      apply andThen_map
      intro _ active
      apply andThen_map
      intro read _
      cases peer : read.runtime.requireGeneration session.id generation with
      | none => rfl
      | some found =>
          apply andThen_map
          intro _ after
          unfold hasRoom
          cases sent : sendOutput format channel (toBase64 data) with
          | error error => cases sendOutput_refused nonempty bounded sent; rfl
          | ok channel => rfl

/-- One message was sent, it fits the channel, and the page reads the bytes in it. -/
def Delivered (format : NumberFormat ν) (channel : TerminalDataChannel) (data : List UInt8)
    (result : Except TerminalHandoffError TerminalDataChannel) : Prop :=
  ∃ message after, result = .ok after ∧ after.sent = channel.sent ++ [message] ∧
    (JsString.utf8 message).length ≤ maxChannelMessageBytes ∧ pageOutput format message = some data

/-- With nothing waiting to be sent, the output is delivered if and only if its message fits, which
is so up to 6117 bytes. -/
theorem pushHumanOutput_delivers_iff (config : TerminalHandoffAdapterConfig)
    (format : NumberFormat ν) (human : TerminalHandoffInterventionRef)
    (adapter : TerminalHandoffAdapter) (active : HumanOpen config human adapter)
    (channel : TerminalDataChannel) (idle : channel.bufferedAmount = 0) (data : List UInt8)
    (nonempty : 1 ≤ data.length) (bounded : data.length ≤ maxHumanOutputBytes) :
    Delivered format channel data
        (pushHumanOutputBytes format config human data channel adapter).1 ↔
      data.length ≤ 6117 := by
  rw [active.pushHumanOutputBytes nonempty bounded, sendOutput_toBase64 format nonempty bounded idle]
  by_cases small : data.length ≤ 6117
  · rw [if_pos small]
    refine iff_of_true ⟨_, _, rfl, rfl, ?_, pageOutput_outputMessage format data⟩ small
    rw [length_outputMessage]
    unfold maxChannelMessageBytes
    omega
  · rw [if_neg small]
    refine iff_of_false ?_ small
    rintro ⟨_, _, no, _⟩
    cases no

/-- The Human of the sample is active on an open channel. -/
theorem sampleClaim_open :
    ∃ adapter, execute (next sampleAdapter) initial sampleClaim = some adapter ∧
      HumanOpen sampleAdapter sampleHuman adapter := by
  have claimed : (execute (next sampleAdapter) initial sampleClaim).any (fun adapter =>
      decide (adapter.transportRef = some ⟨"intervention", 1⟩) &&
      (assertHumanObservation sampleAdapter sampleHuman adapter).1.isOk &&
      (adapter.transport.current? "intervention" 1).any fun found =>
        found.2.humanActive && found.2.clientGeneration.any fun generation =>
          (adapter.transport.runtime.requireGeneration found.2.id generation).any fun peer =>
            peer.2.inputEnabled && decide (peer.2.channel = some .open)) = true := by
    decide +kernel
  obtain ⟨adapter, executed, checks⟩ := (Option.any_eq_true _ _).mp claimed
  simp only [Bool.and_eq_true, decide_eq_true_eq, Option.any_eq_true] at checks
  obtain ⟨⟨started, observes⟩, ⟨key, session⟩, current, human, generation, client, ⟨index, active⟩,
    peer, enabled, isOpen⟩ := checks
  refine ⟨adapter, executed, started, ?_, key, session, generation, index, active, current, human,
    client, peer, enabled, isOpen⟩
  cases result : (assertHumanObservation sampleAdapter sampleHuman adapter).1 with
  | error error => rw [result] at observes; cases observes
  | ok value => rfl

theorem sampleOutput_delivered :
    ∃ adapter, execute (next sampleAdapter) initial sampleClaim = some adapter ∧
      Delivered integerFormat ⟨0, []⟩ (List.replicate 6117 0)
        (pushHumanOutputBytes integerFormat sampleAdapter sampleHuman (List.replicate 6117 0)
          ⟨0, []⟩ adapter).1 := by
  have length : (List.replicate 6117 (0 : UInt8)).length = 6117 := List.length_replicate
  obtain ⟨adapter, executed, active⟩ := sampleClaim_open
  refine ⟨adapter, executed, (pushHumanOutput_delivers_iff sampleAdapter integerFormat sampleHuman
    adapter active ⟨0, []⟩ rfl (List.replicate 6117 0) ?_ ?_).mpr ?_⟩ <;> rw [length]
  · decide
  · decide

/-- One byte more, well within the bound of the adapter, and nothing is sent. -/
theorem sampleOutput_refused :
    ∃ adapter, execute (next sampleAdapter) initial sampleClaim = some adapter ∧
      HumanOpen sampleAdapter sampleHuman adapter ∧
      (List.replicate 6118 (0 : UInt8)).length ≤ maxHumanOutputBytes ∧
      (pushHumanOutputBytes integerFormat sampleAdapter sampleHuman (List.replicate 6118 0)
        ⟨0, []⟩ adapter).1 = .error (.transport "terminal WebRTC output backpressure") ∧
      ¬ Delivered integerFormat ⟨0, []⟩ (List.replicate 6118 0)
        (pushHumanOutputBytes integerFormat sampleAdapter sampleHuman (List.replicate 6118 0)
          ⟨0, []⟩ adapter).1 := by
  have length : (List.replicate 6118 (0 : UInt8)).length = 6118 := List.length_replicate
  have bounded : (List.replicate 6118 (0 : UInt8)).length ≤ maxHumanOutputBytes := by
    rw [length]
    decide
  have nonempty : 1 ≤ (List.replicate 6118 (0 : UInt8)).length := by rw [length]; decide
  obtain ⟨adapter, executed, active⟩ := sampleClaim_open
  have refused : (pushHumanOutputBytes integerFormat sampleAdapter sampleHuman
      (List.replicate 6118 0) ⟨0, []⟩ adapter).1 =
        .error (.transport "terminal WebRTC output backpressure") := by
    rw [active.pushHumanOutputBytes nonempty bounded,
      sendOutput_toBase64 integerFormat nonempty bounded rfl, length, if_neg (by decide)]
    rfl
  refine ⟨adapter, executed, active, bounded, refused, ?_⟩
  rw [refused]
  rintro ⟨_, _, no, _⟩
  cases no

end TerminalHandoffAdapter

end ExecutionHandoff.Experimental
