import ExecutionHandoff.TakeoverCore.SecureDatagrams

/-!
# The secure codecs

What one codec has sealed is opened by the codec with the same key, session,
epoch, generation, direction and channel, and by no other; and nothing else is
opened.
-/

namespace ExecutionHandoff.TakeoverCore

open Library List

/-- What `open` throws. -/
inductive SecureDatagramError where
  | input (error : SecureInputError)
  | event (error : InputProtocolError)
  | feedback (error : FeedbackProtocolError)
  | control (error : ControlProtocolError)
  | crypto (error : TransportCryptoError)
  deriving DecidableEq

structure SecureInputCodec where
  cipher : TransportCipher
  sessionHash : UInt64
  epoch : UInt64
  generation : UInt32
  deriving DecidableEq

namespace SecureInputCodec

variable (crypto : CryptoKit) (codec : SecureInputCodec)

def context (lane : InputLane) : TransportCryptoContext where
  sessionHash := codec.sessionHash
  epoch := codec.epoch
  generation := codec.generation
  direction := .clientToHost
  channel := if lane = .realtime then .inputRealtime else .inputCritical

/-- `seal` with the nonce that is drawn for it. -/
def sealEvent (nonce : List UInt8) (event : InputEvent) : List UInt8 :=
  let header : SecureInputHeader := ⟨event.lane, event.sequence⟩
  header.encode ++ codec.cipher.sealPayload crypto nonce event.encode event.sequence
    (codec.context event.lane) header.encode

/-- The call of the cipher in `seal`. -/
def call (nonce : List UInt8) (event : InputEvent) : SealCall :=
  ⟨codec.cipher, nonce, event.encode, event.sequence, codec.context event.lane,
    (SecureInputHeader.mk event.lane event.sequence).encode⟩

/-- `open`. -/
def openEvent (datagram : List UInt8) : Except SecureDatagramError InputEvent :=
  match SecureInputHeader.decode datagram with
  | .error error => .error (.input error)
  | .ok header =>
      match codec.cipher.openPayload crypto (datagram.drop SecureInputHeader.encodedSize)
          header.sequence (codec.context header.lane)
          (datagram.take SecureInputHeader.encodedSize) with
      | .error error => .error (.crypto error)
      | .ok plaintext =>
          match InputEvent.decode plaintext with
          | .error error => .error (.event error)
          | .ok event =>
              if event.sequence = header.sequence ∧ event.lane = header.lane then .ok event
              else .error (.input .bindingMismatch)

end SecureInputCodec

/-- The direction and the channel are those that `init` asks for. -/
structure SecureFeedbackCodec where
  cipher : TransportCipher
  context : TransportCryptoContext
  matched : context.direction = .hostToClient ∧ context.channel = .inputFeedback ∨
    context.direction = .clientToHost ∧ context.channel = .videoFeedback
  deriving DecidableEq

namespace SecureFeedbackCodec

variable (crypto : CryptoKit) (codec : SecureFeedbackCodec)

def magic : Nat := 0x54544B51

def errors : EnvelopeErrors FeedbackProtocolError :=
  ⟨.invalidLength, .badMagic, .unsupportedVersion⟩

def kindIsAllowed (kind : FeedbackKind) : Bool :=
  match codec.context.direction, codec.context.channel, kind with
  | .hostToClient, .inputFeedback, .criticalInputAck => true
  | .clientToHost, .videoFeedback, .requestIDR => true
  | _, _, _ => false

/-- `seal` with the nonce that is drawn for it. -/
def sealMessage (nonce : List UInt8) (message : FeedbackMessage) :
    Except SecureDatagramError (List UInt8) :=
  if codec.kindIsAllowed message.kind then
    let header := encodeEnvelope magic message.sequence
    .ok (header ++ codec.cipher.sealPayload crypto nonce message.encode message.sequence
      codec.context header)
  else .error (.feedback .directionMismatch)

/-- The call of the cipher in `seal`. -/
def call (nonce : List UInt8) (message : FeedbackMessage) : SealCall :=
  ⟨codec.cipher, nonce, message.encode, message.sequence, codec.context,
    encodeEnvelope magic message.sequence⟩

/-- `open`. -/
def openMessage (datagram : List UInt8) : Except SecureDatagramError FeedbackMessage :=
  match decodeEnvelope errors magic datagram with
  | .error error => .error (.feedback error)
  | .ok sequence =>
      match codec.cipher.openPayload crypto (datagram.drop envelopeSize) sequence codec.context
          (datagram.take envelopeSize) with
      | .error error => .error (.crypto error)
      | .ok plaintext =>
          match FeedbackMessage.decode plaintext with
          | .error error => .error (.feedback error)
          | .ok message =>
              if message.sequence ≠ sequence then .error (.feedback .bindingMismatch)
              else if codec.kindIsAllowed message.kind then .ok message
              else .error (.feedback .directionMismatch)

end SecureFeedbackCodec

structure SecureControlCodec where
  cipher : TransportCipher
  sessionHash : UInt64
  epoch : UInt64
  generation : UInt32
  deriving DecidableEq

namespace SecureControlCodec

variable (crypto : CryptoKit) (codec : SecureControlCodec)

def magic : Nat := 0x54544B56

def errors : EnvelopeErrors ControlProtocolError :=
  ⟨.invalidLength, .badMagic, .unsupportedVersion⟩

def context : TransportCryptoContext where
  sessionHash := codec.sessionHash
  epoch := codec.epoch
  generation := codec.generation
  direction := .clientToHost
  channel := .control

/-- `seal` with the nonce that is drawn for it. -/
def sealMessage (nonce : List UInt8) (message : ControlMessage) : List UInt8 :=
  let header := encodeEnvelope magic message.sequence
  header ++ codec.cipher.sealPayload crypto nonce message.encode message.sequence codec.context
    header

/-- The call of the cipher in `seal`. -/
def call (nonce : List UInt8) (message : ControlMessage) : SealCall :=
  ⟨codec.cipher, nonce, message.encode, message.sequence, codec.context,
    encodeEnvelope magic message.sequence⟩

/-- `open`. -/
def openMessage (datagram : List UInt8) : Except SecureDatagramError ControlMessage :=
  match decodeEnvelope errors magic datagram with
  | .error error => .error (.control error)
  | .ok sequence =>
      match codec.cipher.openPayload crypto (datagram.drop envelopeSize) sequence codec.context
          (datagram.take envelopeSize) with
      | .error error => .error (.crypto error)
      | .ok plaintext =>
          match ControlMessage.decode plaintext with
          | .error error => .error (.control error)
          | .ok message =>
              if message.sequence = sequence then .ok message
              else .error (.control .bindingMismatch)

end SecureControlCodec

/-! ## All codecs -/

inductive SecureCodec where
  | input (codec : SecureInputCodec)
  | feedback (codec : SecureFeedbackCodec)
  | control (codec : SecureControlCodec)
  deriving DecidableEq

inductive SecureMessage where
  | input (event : InputEvent)
  | feedback (message : FeedbackMessage)
  | control (message : ControlMessage)
  deriving DecidableEq

namespace SecureCodec

variable (crypto : CryptoKit)

def cipher : SecureCodec → TransportCipher
  | .input codec => codec.cipher
  | .feedback codec => codec.cipher
  | .control codec => codec.cipher

/-- The datagram of a message, unless it is not for this codec. -/
def sealDatagram (nonce : List UInt8) : SecureCodec → SecureMessage → Option (List UInt8)
  | .input codec, .input event => some (codec.sealEvent crypto nonce event)
  | .feedback codec, .feedback message => (codec.sealMessage crypto nonce message).toOption
  | .control codec, .control message => some (codec.sealMessage crypto nonce message)
  | _, _ => none

def openDatagram (datagram : List UInt8) : SecureCodec → Except SecureDatagramError SecureMessage
  | .input codec => (codec.openEvent crypto datagram).map .input
  | .feedback codec => (codec.openMessage crypto datagram).map .feedback
  | .control codec => (codec.openMessage crypto datagram).map .control

/-- The call of the cipher that seals a message, if it is for this codec. -/
def sealCall (nonce : List UInt8) : SecureCodec → SecureMessage → Option SealCall
  | .input codec, .input event => some (codec.call nonce event)
  | .feedback codec, .feedback message =>
      if codec.kindIsAllowed message.kind then some (codec.call nonce message) else none
  | .control codec, .control message => some (codec.call nonce message)
  | _, _ => none

/-- A datagram is the envelope and what the call of the cipher has sealed. -/
theorem sealDatagram_eq (nonce : List UInt8) (codec : SecureCodec) (message : SecureMessage) :
    codec.sealDatagram crypto nonce message =
      (codec.sealCall nonce message).map fun call => call.associatedData ++ call.payload crypto := by
  cases codec <;> cases message <;> try rfl
  rename_i codec message
  change (codec.sealMessage crypto nonce message).toOption =
    Option.map _ (if codec.kindIsAllowed message.kind then _ else _)
  unfold SecureFeedbackCodec.sealMessage
  split <;> rfl

/-- Which codec made a call, and for which message. -/
inductive Makes (nonce : List UInt8) : SecureCodec → SecureMessage → SealCall → Prop
  | input (codec : SecureInputCodec) (event : InputEvent) :
      Makes nonce (.input codec) (.input event) (codec.call nonce event)
  | feedback (codec : SecureFeedbackCodec) (message : FeedbackMessage)
      (allowed : codec.kindIsAllowed message.kind = true) :
      Makes nonce (.feedback codec) (.feedback message) (codec.call nonce message)
  | control (codec : SecureControlCodec) (message : ControlMessage) :
      Makes nonce (.control codec) (.control message) (codec.call nonce message)

theorem makes_iff {nonce : List UInt8} {codec : SecureCodec} {message : SecureMessage}
    {call : SealCall} : codec.sealCall nonce message = some call ↔ Makes nonce codec message call := by
  constructor
  · intro sealed
    cases codec <;> cases message <;> try cases sealed
    · exact .input _ _
    · change (if _ then _ else _) = some call at sealed
      split at sealed
      · rename_i allowed
        cases sealed
        exact .feedback _ _ allowed
      · cases sealed
    · exact .control _ _
  · intro made
    cases made with
    | input codec event => rfl
    | feedback codec message allowed => exact if_pos allowed
    | control codec message => rfl

end SecureCodec

/-- Of the calls of the cipher, one is made by the codec for the message. -/
def SealedBy (calls : Set SealCall) (codec : SecureCodec) (message : SecureMessage)
    (nonce : List UInt8) : Prop :=
  ∃ call ∈ calls, codec.sealCall nonce message = some call

/-- But for the frames of video, the cipher is called by the codecs alone. -/
def CodecsOnly (calls : Set SealCall) : Prop :=
  ∀ call ∈ calls, call.context.channel ≠ .video →
    ∃ codec message, SecureCodec.sealCall call.nonce codec message = some call

/-! ## What is sealed is opened -/

variable {crypto : CryptoKit} {ciphers : Set TransportCipher} {calls : Set SealCall}

theorem payload_long (ideal : Ideal crypto ciphers calls) {call : SealCall} (made : call ∈ calls) :
    TransportCipher.nonceBytes + TransportCipher.tagBytes ≤ (call.payload crypto).length := by
  change _ ≤ (call.nonce ++ ((call.box crypto).1 ++ (call.box crypto).2)).length
  rw [length_append, length_append, ideal.drawn call made, ideal.tagged call made]
  omega

variable {nonce : List UInt8} {message : SecureMessage} {maker : SecureCodec}

theorem SecureCodec.Makes.associatedData_length {codec : SecureCodec}
    {call : SealCall} (makes : Makes nonce codec message call) :
    call.associatedData.length = envelopeSize := by
  cases makes with
  | input codec event => exact SecureInputHeader.encode_length _
  | feedback codec message _ => exact encodeEnvelope_length _ _
  | control codec message => exact encodeEnvelope_length _ _

theorem SecureInputCodec.openEvent_sealEvent (ideal : Ideal crypto ciphers calls)
    {codec : SecureInputCodec} {event : InputEvent}
    (made : codec.call nonce event ∈ calls) :
    codec.openEvent crypto (codec.sealEvent crypto nonce event) = .ok event := by
  have size := SecureInputHeader.encode_length ⟨event.lane, event.sequence⟩
  have opened := ideal.openPayload_payload made
  unfold SealCall.payload call at opened
  unfold openEvent sealEvent
  dsimp only at opened ⊢
  rw [SecureInputHeader.decode_encode]
  dsimp only
  rw [drop_left' size, take_left' size, opened]
  dsimp only
  rw [InputEvent.decode_encode]
  exact if_pos ⟨rfl, rfl⟩

theorem SecureFeedbackCodec.openMessage_sealMessage (ideal : Ideal crypto ciphers calls)
    {codec : SecureFeedbackCodec} {message : FeedbackMessage}
    (made : codec.call nonce message ∈ calls) (allowed : codec.kindIsAllowed message.kind = true) :
    codec.openMessage crypto (encodeEnvelope magic message.sequence ++
      codec.cipher.sealPayload crypto nonce message.encode message.sequence codec.context
        (encodeEnvelope magic message.sequence)) = .ok message := by
  have size := encodeEnvelope_length magic message.sequence
  have opened := ideal.openPayload_payload made
  have long := payload_long ideal made
  unfold SealCall.payload call at opened long
  unfold openMessage
  dsimp only at opened long ⊢
  rw [decodeEnvelope_encode errors (by decide) message.sequence long]
  dsimp only
  rw [drop_left' size, take_left' size, opened]
  dsimp only
  rw [FeedbackMessage.decode_encode]
  dsimp only
  rw [if_neg (fun no => no rfl), if_pos allowed]

theorem SecureControlCodec.openMessage_sealMessage (ideal : Ideal crypto ciphers calls)
    {codec : SecureControlCodec} {message : ControlMessage}
    (made : codec.call nonce message ∈ calls) :
    codec.openMessage crypto (codec.sealMessage crypto nonce message) = .ok message := by
  have size := encodeEnvelope_length magic message.sequence
  have opened := ideal.openPayload_payload made
  have long := payload_long ideal made
  unfold SealCall.payload call at opened long
  unfold openMessage sealMessage
  dsimp only at opened long ⊢
  rw [decodeEnvelope_encode errors (by decide) message.sequence long]
  dsimp only
  rw [drop_left' size, take_left' size, opened]
  dsimp only
  rw [ControlMessage.decode_encode]
  exact if_pos rfl

/-! ## Nothing else is opened -/

theorem SecureInputCodec.context_channel (codec : SecureInputCodec) (lane : InputLane) :
    (codec.context lane).channel = .inputRealtime ∨ (codec.context lane).channel = .inputCritical := by
  cases lane
  · exact .inl rfl
  · exact .inr rfl

theorem SecureFeedbackCodec.context_channel (codec : SecureFeedbackCodec) :
    codec.context.channel = .inputFeedback ∨ codec.context.channel = .videoFeedback :=
  codec.matched.imp And.right And.right

/-- A call with the key and the context of an input codec was made by it. -/
theorem SecureInputCodec.of_makes {codec : SecureInputCodec} {lane : InputLane} {call : SealCall}
    (makes : SecureCodec.Makes nonce maker message call) (cipher : call.cipher = codec.cipher)
    (context : call.context = codec.context lane) :
    maker = .input codec ∧ ∃ event, call = codec.call nonce event := by
  cases makes with
  | input other event =>
      have same : other = codec := by
        obtain ⟨_, _, _, _⟩ := other
        obtain ⟨_, _, _, _⟩ := codec
        cases cipher
        obtain ⟨session, epoch, generation, _⟩ := TransportCryptoContext.mk.injEq .. ▸ context
        cases session
        cases epoch
        cases generation
        rfl
      exact ⟨congrArg _ same, event, same ▸ rfl⟩
  | feedback other message _ =>
      have channel : other.context.channel = (codec.context lane).channel :=
        congrArg TransportCryptoContext.channel context
      rcases codec.context_channel lane with own | own <;>
        rcases other.context_channel with theirs | theirs <;>
        rw [own, theirs] at channel <;> cases channel
  | control other message =>
      have channel : TransportChannel.control = (codec.context lane).channel :=
        congrArg TransportCryptoContext.channel context
      rcases codec.context_channel lane with own | own <;> rw [own] at channel <;> cases channel

theorem SecureFeedbackCodec.of_makes {codec : SecureFeedbackCodec} {call : SealCall}
    (makes : SecureCodec.Makes nonce maker message call) (cipher : call.cipher = codec.cipher)
    (context : call.context = codec.context) :
    maker = .feedback codec ∧ ∃ message, call = codec.call nonce message := by
  cases makes with
  | input other event =>
      have channel : (other.context event.lane).channel = codec.context.channel :=
        congrArg TransportCryptoContext.channel context
      rcases other.context_channel event.lane with theirs | theirs <;>
        rcases codec.context_channel with own | own <;>
        rw [own, theirs] at channel <;> cases channel
  | feedback other message _ =>
      have same : other = codec := by
        obtain ⟨_, _, _⟩ := other
        obtain ⟨_, _, _⟩ := codec
        cases cipher
        cases context
        rfl
      exact ⟨congrArg _ same, message, same ▸ rfl⟩
  | control other message =>
      have channel : TransportChannel.control = codec.context.channel :=
        congrArg TransportCryptoContext.channel context
      rcases codec.context_channel with own | own <;> rw [own] at channel <;> cases channel

theorem SecureControlCodec.of_makes {codec : SecureControlCodec} {call : SealCall}
    (makes : SecureCodec.Makes nonce maker message call) (cipher : call.cipher = codec.cipher)
    (context : call.context = codec.context) :
    maker = .control codec ∧ ∃ message, call = codec.call nonce message := by
  cases makes with
  | input other event =>
      have channel : (other.context event.lane).channel = TransportChannel.control :=
        congrArg TransportCryptoContext.channel context
      rcases other.context_channel event.lane with theirs | theirs <;>
        rw [theirs] at channel <;> cases channel
  | feedback other message _ =>
      have channel : other.context.channel = TransportChannel.control :=
        congrArg TransportCryptoContext.channel context
      rcases other.context_channel with theirs | theirs <;> rw [theirs] at channel <;> cases channel
  | control other message =>
      have same : other = codec := by
        obtain ⟨_, _, _, _⟩ := other
        obtain ⟨_, _, _, _⟩ := codec
        cases cipher
        obtain ⟨session, epoch, generation, _⟩ := TransportCryptoContext.mk.injEq .. ▸ context
        cases session
        cases epoch
        cases generation
        rfl
      exact ⟨congrArg _ same, message, same ▸ rfl⟩

theorem SecureInputCodec.of_openEvent (ideal : Ideal crypto ciphers calls)
    (only : CodecsOnly calls) {codec : SecureInputCodec} (used : codec.cipher ∈ ciphers)
    {datagram : List UInt8} {event : InputEvent}
    (opened : codec.openEvent crypto datagram = .ok event) :
    ∃ nonce, codec.call nonce event ∈ calls ∧ datagram = codec.sealEvent crypto nonce event := by
  unfold openEvent at opened
  split at opened
  · cases opened
  · rename_i header decoded
    split at opened
    · cases opened
    · rename_i plaintext unsealed
      split at opened
      · cases opened
      · rename_i read decodedEvent
        split at opened
        · cases opened
          obtain ⟨nonce, made, payload⟩ := ideal.of_openPayload used unsealed
          have another : (codec.context header.lane).channel ≠ .video := by
            rcases codec.context_channel header.lane with own | own <;> rw [own] <;> decide
          obtain ⟨maker, message, sealed⟩ := only _ made another
          obtain ⟨-, sent, same⟩ := of_makes (SecureCodec.makes_iff.mp sealed) rfl rfl
          unfold call at same
          obtain ⟨-, -, text, sequence, context, envelope⟩ := SealCall.mk.injEq .. ▸ same
          rw [text, InputEvent.decode_encode] at decodedEvent
          cases decodedEvent
          refine ⟨nonce, ?_, ?_⟩
          · rw [same] at made
            exact made
          · rw [← take_append_drop SecureInputHeader.encodedSize datagram, payload, envelope,
              text, sequence, context]
            rfl
        · cases opened

theorem SecureFeedbackCodec.of_openMessage (ideal : Ideal crypto ciphers calls)
    (only : CodecsOnly calls) {codec : SecureFeedbackCodec} (used : codec.cipher ∈ ciphers)
    {datagram : List UInt8} {message : FeedbackMessage}
    (opened : codec.openMessage crypto datagram = .ok message) :
    ∃ nonce, codec.call nonce message ∈ calls ∧
      codec.sealMessage crypto nonce message = .ok datagram := by
  unfold openMessage at opened
  split at opened
  · cases opened
  · rename_i sequence decoded
    split at opened
    · cases opened
    · rename_i plaintext unsealed
      split at opened
      · cases opened
      · rename_i read decodedMessage
        split at opened
        · cases opened
        · split at opened
          · rename_i allowed
            cases opened
            obtain ⟨nonce, made, payload⟩ := ideal.of_openPayload used unsealed
            have another : codec.context.channel ≠ .video := by
              rcases codec.context_channel with own | own <;> rw [own] <;> decide
            obtain ⟨maker, other, sealed⟩ := only _ made another
            obtain ⟨-, sent, same⟩ := of_makes (SecureCodec.makes_iff.mp sealed) rfl rfl
            unfold call at same
            obtain ⟨-, -, text, sequence, -, envelope⟩ := SealCall.mk.injEq .. ▸ same
            rw [text, FeedbackMessage.decode_encode] at decodedMessage
            cases decodedMessage
            refine ⟨nonce, ?_, ?_⟩
            · rw [same] at made
              exact made
            · unfold sealMessage
              rw [if_pos allowed, ← take_append_drop envelopeSize datagram, payload, envelope,
                text, sequence]
          · cases opened

theorem SecureControlCodec.of_openMessage (ideal : Ideal crypto ciphers calls)
    (only : CodecsOnly calls) {codec : SecureControlCodec} (used : codec.cipher ∈ ciphers)
    {datagram : List UInt8} {message : ControlMessage}
    (opened : codec.openMessage crypto datagram = .ok message) :
    ∃ nonce, codec.call nonce message ∈ calls ∧
      datagram = codec.sealMessage crypto nonce message := by
  unfold openMessage at opened
  split at opened
  · cases opened
  · rename_i sequence decoded
    split at opened
    · cases opened
    · rename_i plaintext unsealed
      split at opened
      · cases opened
      · rename_i read decodedMessage
        split at opened
        · cases opened
          obtain ⟨nonce, made, payload⟩ := ideal.of_openPayload used unsealed
          have another : codec.context.channel ≠ .video := fun no => by cases no
          obtain ⟨maker, other, sealed⟩ := only _ made another
          obtain ⟨-, sent, same⟩ := of_makes (SecureCodec.makes_iff.mp sealed) rfl rfl
          unfold call at same
          obtain ⟨-, -, text, sequence, -, envelope⟩ := SealCall.mk.injEq .. ▸ same
          rw [text, ControlMessage.decode_encode] at decodedMessage
          cases decodedMessage
          refine ⟨nonce, ?_, ?_⟩
          · rw [same] at made
            exact made
          · rw [← take_append_drop envelopeSize datagram, payload, envelope, text, sequence]
            rfl
        · cases opened

namespace SecureCodec

variable {nonce : List UInt8} {message : SecureMessage}

/-- The codec opens what it has sealed. -/
theorem openDatagram_sealed (ideal : Ideal crypto ciphers calls) {codec : SecureCodec}
    {datagram : List UInt8}
    (sealed : SealedBy calls codec message nonce)
    (sent : codec.sealDatagram crypto nonce message = some datagram) :
    codec.openDatagram crypto datagram = .ok message := by
  obtain ⟨call, made, sealed⟩ := sealed
  cases makes_iff.mp sealed with
  | input codec event =>
      cases sent
      unfold openDatagram
      dsimp only
      rw [codec.openEvent_sealEvent ideal made]
      rfl
  | feedback codec message allowed =>
      change (codec.sealMessage crypto nonce message).toOption = some datagram at sent
      unfold SecureFeedbackCodec.sealMessage at sent
      rw [if_pos allowed] at sent
      cases sent
      unfold openDatagram
      dsimp only
      rw [codec.openMessage_sealMessage ideal made allowed]
      rfl
  | control codec message =>
      cases sent
      unfold openDatagram
      dsimp only
      rw [codec.openMessage_sealMessage ideal made]
      rfl

/-- What a codec opens it has sealed. -/
theorem sealed_of_openDatagram (ideal : Ideal crypto ciphers calls) (only : CodecsOnly calls)
    {codec : SecureCodec} (used : codec.cipher ∈ ciphers) {datagram : List UInt8}
    (opened : codec.openDatagram crypto datagram = .ok message) :
    ∃ nonce, SealedBy calls codec message nonce ∧
      codec.sealDatagram crypto nonce message = some datagram := by
  cases codec with
  | input codec =>
      change (codec.openEvent crypto datagram).map .input = .ok message at opened
      cases outcome : codec.openEvent crypto datagram with
      | error error => rw [outcome] at opened; cases opened
      | ok event =>
          rw [outcome] at opened
          cases opened
          obtain ⟨nonce, made, rfl⟩ := codec.of_openEvent ideal only used outcome
          exact ⟨nonce, ⟨_, made, rfl⟩, rfl⟩
  | feedback codec =>
      change (codec.openMessage crypto datagram).map .feedback = .ok message at opened
      cases outcome : codec.openMessage crypto datagram with
      | error error => rw [outcome] at opened; cases opened
      | ok event =>
          rw [outcome] at opened
          cases opened
          obtain ⟨nonce, made, sealed⟩ := codec.of_openMessage ideal only used outcome
          have allowed : codec.kindIsAllowed event.kind = true := by
            by_contra refused
            unfold SecureFeedbackCodec.sealMessage at sealed
            rw [if_neg refused] at sealed
            cases sealed
          exact ⟨nonce, ⟨_, made, if_pos allowed⟩, congrArg Except.toOption sealed⟩
  | control codec =>
      change (codec.openMessage crypto datagram).map .control = .ok message at opened
      cases outcome : codec.openMessage crypto datagram with
      | error error => rw [outcome] at opened; cases opened
      | ok event =>
          rw [outcome] at opened
          cases opened
          obtain ⟨nonce, made, rfl⟩ := codec.of_openMessage ideal only used outcome
          exact ⟨nonce, ⟨_, made, rfl⟩, rfl⟩

theorem Makes.unique {number : List UInt8} {codec other : SecureCodec}
    {said : SecureMessage} {call : SealCall} (first : Makes nonce codec message call)
    (second : Makes number other said call) : codec = other := by
  cases first with
  | input codec event => exact (SecureInputCodec.of_makes second rfl rfl).1.symm
  | feedback codec message _ => exact (SecureFeedbackCodec.of_makes second rfl rfl).1.symm
  | control codec message => exact (SecureControlCodec.of_makes second rfl rfl).1.symm

/-- A datagram that two codecs have sealed is one codec's. -/
theorem sealed_unique (ideal : Ideal crypto ciphers calls) {codec other : SecureCodec}
    {said : SecureMessage} {number datagram : List UInt8}
    (first : SealedBy calls codec message nonce) (second : SealedBy calls other said number)
    (sent : codec.sealDatagram crypto nonce message = some datagram)
    (sent' : other.sealDatagram crypto number said = some datagram) : codec = other := by
  obtain ⟨call, made, sealed⟩ := first
  obtain ⟨call', made', sealed'⟩ := second
  rw [sealDatagram_eq, sealed, Option.map_some] at sent
  rw [sealDatagram_eq, sealed', Option.map_some] at sent'
  have whole : call.associatedData ++ call.payload crypto =
      call'.associatedData ++ call'.payload crypto :=
    Option.some.inj (sent.trans sent'.symm)
  have makes := makes_iff.mp sealed
  have makes' := makes_iff.mp sealed'
  have payload : call.nonce ++ _ = call'.nonce ++ _ := append_inj_right whole
    (makes.associatedData_length.trans makes'.associatedData_length.symm)
  have nonces : call.nonce = call'.nonce :=
    append_inj_left payload ((ideal.drawn call made).trans (ideal.drawn call' made').symm)
  cases ideal.fresh call made call' made' nonces
  exact makes.unique makes'

/-- With an ideal cipher, a codec opens what it has sealed, every other codec in use rejects that,
and whatever a codec has not sealed, such as an altered datagram, it rejects; an input event is read
back from its bytes, and bytes that are not as long as their header says are no event. -/
theorem secureCodecs (ideal : Ideal crypto ciphers calls) (only : CodecsOnly calls) :
    (∀ codec message nonce datagram, SealedBy calls codec message nonce →
      codec.sealDatagram crypto nonce message = some datagram →
      codec.openDatagram crypto datagram = .ok message ∧
      ∀ other : SecureCodec, other.cipher ∈ ciphers → other ≠ codec →
        ∃ error, other.openDatagram crypto datagram = .error error) ∧
    (∀ (codec : SecureCodec) altered, codec.cipher ∈ ciphers →
      (∀ message nonce, SealedBy calls codec message nonce →
        codec.sealDatagram crypto nonce message ≠ some altered) →
      ∃ error, codec.openDatagram crypto altered = .error error) ∧
    (∀ event : InputEvent, InputEvent.decode event.encode = .ok event) ∧
    ∀ data, data.length ≠ InputEvent.fixedHeaderBytes + InputEvent.statedLength data →
      ∃ error, InputEvent.decode data = .error error := by
  refine ⟨fun codec message nonce datagram sealed sent =>
    ⟨openDatagram_sealed ideal sealed sent, fun other used another => ?_⟩,
    fun codec altered used unsealed => ?_, InputEvent.decode_encode, fun data unsized => ?_⟩
  · cases outcome : other.openDatagram crypto datagram with
    | error error => exact ⟨error, rfl⟩
    | ok said =>
        obtain ⟨number, sealed', sent'⟩ := sealed_of_openDatagram ideal only used outcome
        exact absurd (sealed_unique ideal sealed' sealed sent' sent) another
  · cases outcome : codec.openDatagram crypto altered with
    | error error => exact ⟨error, rfl⟩
    | ok message =>
        obtain ⟨nonce, sealed, sent⟩ := sealed_of_openDatagram ideal only used outcome
        exact absurd sent (unsealed message nonce sealed)
  · cases outcome : InputEvent.decode data with
    | error error => exact ⟨error, rfl⟩
    | ok event => exact absurd (InputEvent.decode_sized outcome) unsized

/-! ## A sample datagram -/

def sampleCipher : TransportCipher := ⟨List.replicate 32 7, rfl⟩

def sampleInputCodec : SecureInputCodec := ⟨sampleCipher, 1, 2, 3⟩

def sampleControlCodec : SecureControlCodec := ⟨sampleCipher, 1, 2, 3⟩

def sampleEvent : InputEvent where
  lane := .critical
  kind := .textCommit
  sequence := 9
  clientNanos := 100
  x := -1
  y := 2
  value := 0
  payload := [104, 105]
  short := by decide

/-- An input event, and a control message of the same session. -/
def sampleSealCalls : List SealCall :=
  [sampleInputCodec.call (List.replicate 12 1) sampleEvent,
    sampleControlCodec.call (List.replicate 12 2) ⟨.revoke, 9⟩]

theorem sampleCodecs_separate :
    (SecureCodec.input sampleInputCodec).openDatagram (recordedKit sampleSealCalls)
        (sampleInputCodec.sealEvent (recordedKit sampleSealCalls) (List.replicate 12 1) sampleEvent) =
      .ok (.input sampleEvent) ∧
    ∀ other : SecureCodec, other ≠ .input sampleInputCodec →
      ∃ error, other.openDatagram (recordedKit sampleSealCalls)
        (sampleInputCodec.sealEvent (recordedKit sampleSealCalls) (List.replicate 12 1) sampleEvent) =
          .error error := by
  have ideal : Ideal (recordedKit sampleSealCalls) Set.univ {call | call ∈ sampleSealCalls} :=
    recordedKit_ideal (by decide) (by decide)
  have only : CodecsOnly {call | call ∈ sampleSealCalls} := by
    intro call made _
    rcases List.mem_cons.mp made with rfl | made
    · exact ⟨.input sampleInputCodec, .input sampleEvent, rfl⟩
    · cases List.mem_singleton.mp made
      exact ⟨.control sampleControlCodec, .control ⟨.revoke, 9⟩, rfl⟩
  obtain ⟨opens, others⟩ := (secureCodecs ideal only).1 (.input sampleInputCodec)
    (.input sampleEvent) (List.replicate 12 1) _ ⟨_, List.mem_cons_self, rfl⟩ rfl
  exact ⟨opens, fun other another => others other trivial another⟩

end SecureCodec

end ExecutionHandoff.TakeoverCore
