import ExecutionHandoff.TakeoverCore.InputProtocol
import ExecutionHandoff.TakeoverCore.TransportCrypto

/-!
# Secure datagrams

The codecs of input events, feedback and control messages.  A datagram is a
clear envelope with the sequence, and behind it the sealed message, with the
envelope authenticated beside it.
-/

namespace ExecutionHandoff.TakeoverCore

open Library ByteCursor
open TransportCipher (nonceBytes tagBytes)

/-! ## Envelopes -/

inductive SecureInputError where
  | truncated
  | badMagic
  | unsupportedVersion
  | invalidLane
  | bindingMismatch
  deriving DecidableEq

structure SecureInputHeader where
  lane : InputLane
  sequence : UInt64
  deriving DecidableEq

namespace SecureInputHeader

def magic : Nat := 0x54544B55

def version : UInt8 := 1

def encodedSize : Nat := 16

def encode (header : SecureInputHeader) : List UInt8 :=
  bigEndian 4 magic ++ (version :: header.lane.rawValue ::
    (bigEndian 2 encodedSize ++ bigEndian 8 header.sequence.toNat))

def read : ByteCursor SecureInputError SecureInputHeader :=
  readInteger .truncated 4 >>= fun receivedMagic =>
    if receivedMagic ≠ magic then throw .badMagic
    else
      readByte .truncated >>= fun receivedVersion =>
        if receivedVersion ≠ version then throw .unsupportedVersion
        else
          readByte .truncated >>= fun lane =>
            match InputLane.ofRawValue lane with
            | none => throw .invalidLane
            | some lane =>
                readInteger .truncated 2 >>= fun headerLength =>
                  if headerLength ≠ encodedSize then throw .truncated
                  else
                    readInteger .truncated 8 >>= fun sequence => return ⟨lane, .ofNat sequence⟩

def decode (data : List UInt8) : Except SecureInputError SecureInputHeader :=
  if data.length < encodedSize then .error .truncated else (read data).map Prod.fst

theorem encode_length (header : SecureInputHeader) : header.encode.length = encodedSize := by
  unfold encode
  simp only [List.length_append, List.length_cons, bigEndian_length]
  rfl

theorem decode_encode (header : SecureInputHeader) (rest : List UInt8) :
    decode (header.encode ++ rest) = .ok header := by
  have long : ¬ (header.encode ++ rest).length < encodedSize := by
    rw [List.length_append, encode_length]
    omega
  unfold decode
  rw [if_neg long]
  unfold encode read
  simp only [List.append_assoc, List.cons_append]
  rw [readInteger_bind (by decide), if_neg (fun no => no rfl), readByte_bind,
    if_neg (fun no => no rfl), readByte_bind, InputLane.ofRawValue_rawValue]
  dsimp only
  rw [readInteger_bind (by decide), if_neg (fun no => no rfl),
    readInteger_bind header.sequence.toNat_lt, UInt64.ofNat_toNat]
  rfl

end SecureInputHeader

/-- The errors of an envelope that has nothing but a sequence. -/
structure EnvelopeErrors (ε : Type) where
  invalidLength : ε
  badMagic : ε
  unsupportedVersion : ε

section Envelopes

variable {ε : Type} (errors : EnvelopeErrors ε) (magic : Nat)

def envelopeSize : Nat := 16

def envelopeVersion : UInt8 := 1

def encodeEnvelope (sequence : UInt64) : List UInt8 :=
  bigEndian 4 magic ++ (envelopeVersion :: 0 ::
    (bigEndian 2 envelopeSize ++ bigEndian 8 sequence.toNat))

def readEnvelope : ByteCursor ε UInt64 :=
  readInteger errors.invalidLength 4 >>= fun receivedMagic =>
    if receivedMagic ≠ magic then throw errors.badMagic
    else
      readByte errors.invalidLength >>= fun receivedVersion =>
        if receivedVersion ≠ envelopeVersion then throw errors.unsupportedVersion
        else
          readByte errors.invalidLength >>= fun _ =>
            readInteger errors.invalidLength 2 >>= fun length =>
              if length ≠ envelopeSize then throw errors.invalidLength
              else readInteger errors.invalidLength 8 >>= fun sequence => return .ofNat sequence

def decodeEnvelope (datagram : List UInt8) : Except ε UInt64 :=
  if datagram.length < envelopeSize + TransportCipher.nonceBytes + TransportCipher.tagBytes then
    .error errors.invalidLength
  else (readEnvelope errors magic datagram).map Prod.fst

theorem encodeEnvelope_length (sequence : UInt64) :
    (encodeEnvelope magic sequence).length = envelopeSize := by
  unfold encodeEnvelope
  simp only [List.length_append, List.length_cons, bigEndian_length]
  rfl

variable {magic}

theorem decodeEnvelope_encode (bound : magic < 256 ^ 4) (sequence : UInt64) {rest : List UInt8}
    (long : nonceBytes + tagBytes ≤ rest.length) :
    decodeEnvelope errors magic (encodeEnvelope magic sequence ++ rest) = .ok sequence := by
  have whole : ¬ (encodeEnvelope magic sequence ++ rest).length <
      envelopeSize + nonceBytes + tagBytes := by
    rw [List.length_append, encodeEnvelope_length]
    omega
  unfold decodeEnvelope
  rw [if_neg whole]
  unfold encodeEnvelope readEnvelope
  simp only [List.append_assoc, List.cons_append]
  rw [readInteger_bind bound, if_neg (fun no => no rfl), readByte_bind,
    if_neg (fun no => no rfl), readByte_bind, readInteger_bind (by decide),
    if_neg (fun no => no rfl), readInteger_bind sequence.toNat_lt, UInt64.ofNat_toNat]
  rfl

end Envelopes

/-! ## Messages -/

inductive FeedbackKind where
  | criticalInputAck
  | requestIDR
  deriving DecidableEq

namespace FeedbackKind

def rawValue : FeedbackKind → UInt8
  | criticalInputAck => 1
  | requestIDR => 2

def ofRawValue (raw : UInt8) : Option FeedbackKind :=
  if raw = 1 then some criticalInputAck else if raw = 2 then some requestIDR else none

theorem ofRawValue_rawValue (kind : FeedbackKind) : ofRawValue kind.rawValue = some kind := by
  cases kind <;> rfl

end FeedbackKind

inductive FeedbackProtocolError where
  | invalidLength
  | badMagic
  | unsupportedVersion
  | invalidKind
  | bindingMismatch
  | directionMismatch
  deriving DecidableEq

structure FeedbackMessage where
  kind : FeedbackKind
  sequence : UInt64
  reference : UInt64
  monotonicNanos : UInt64
  deriving DecidableEq

namespace FeedbackMessage

def magic : Nat := 0x54544B46

def version : UInt8 := 1

def encodedSize : Nat := 32

def encode (message : FeedbackMessage) : List UInt8 :=
  bigEndian 4 magic ++ (version :: message.kind.rawValue ::
    (bigEndian 2 encodedSize ++ (bigEndian 8 message.sequence.toNat ++
    (bigEndian 8 message.reference.toNat ++ bigEndian 8 message.monotonicNanos.toNat))))

/-- The fields behind the length. -/
def readFields (kind : FeedbackKind) : ByteCursor FeedbackProtocolError FeedbackMessage := do
  let sequence ← readInteger .invalidLength 8
  let reference ← readInteger .invalidLength 8
  let monotonicNanos ← readInteger .invalidLength 8
  return ⟨kind, .ofNat sequence, .ofNat reference, .ofNat monotonicNanos⟩

def read : ByteCursor FeedbackProtocolError FeedbackMessage :=
  readInteger .invalidLength 4 >>= fun receivedMagic =>
    if receivedMagic ≠ magic then throw .badMagic
    else
      readByte .invalidLength >>= fun receivedVersion =>
        if receivedVersion ≠ version then throw .unsupportedVersion
        else
          readByte .invalidLength >>= fun kind =>
            match FeedbackKind.ofRawValue kind with
            | none => throw .invalidKind
            | some kind =>
                readInteger .invalidLength 2 >>= fun length =>
                  if length ≠ encodedSize then throw .invalidLength else readFields kind

def decode (data : List UInt8) : Except FeedbackProtocolError FeedbackMessage :=
  if data.length ≠ encodedSize then .error .invalidLength else (read data).map Prod.fst

theorem decode_encode (message : FeedbackMessage) : decode message.encode = .ok message := by
  have size : ¬ message.encode.length ≠ encodedSize := by
    unfold encode
    simp only [List.length_append, List.length_cons, bigEndian_length]
    decide
  have fields : readFields message.kind
      (bigEndian 8 message.sequence.toNat ++ (bigEndian 8 message.reference.toNat ++
        (bigEndian 8 message.monotonicNanos.toNat ++ []))) = .ok (message, []) := by
    unfold readFields
    rw [readInteger_bind message.sequence.toNat_lt, readInteger_bind message.reference.toNat_lt,
      readInteger_bind message.monotonicNanos.toNat_lt]
    simp only [UInt64.ofNat_toNat]
    rfl
  rw [List.append_nil] at fields
  unfold decode
  rw [if_neg size]
  unfold encode read
  rw [readInteger_bind (by decide), if_neg (fun no => no rfl), readByte_bind,
    if_neg (fun no => no rfl), readByte_bind, FeedbackKind.ofRawValue_rawValue]
  dsimp only
  rw [readInteger_bind (by decide), if_neg (fun no => no rfl), fields]
  rfl

end FeedbackMessage

inductive ControlMessageKind where
  | revoke
  deriving DecidableEq

namespace ControlMessageKind

def rawValue : ControlMessageKind → UInt8
  | revoke => 1

def ofRawValue (raw : UInt8) : Option ControlMessageKind := if raw = 1 then some revoke else none

theorem ofRawValue_rawValue (kind : ControlMessageKind) : ofRawValue kind.rawValue = some kind := by
  cases kind
  rfl

end ControlMessageKind

inductive ControlProtocolError where
  | invalidLength
  | badMagic
  | unsupportedVersion
  | invalidKind
  | bindingMismatch
  deriving DecidableEq

structure ControlMessage where
  kind : ControlMessageKind
  sequence : UInt64
  deriving DecidableEq

namespace ControlMessage

def magic : Nat := 0x54544B43

def version : UInt8 := 1

def encodedSize : Nat := 16

def encode (message : ControlMessage) : List UInt8 :=
  bigEndian 4 magic ++ (version :: message.kind.rawValue ::
    (bigEndian 2 encodedSize ++ bigEndian 8 message.sequence.toNat))

def read : ByteCursor ControlProtocolError ControlMessage :=
  readInteger .invalidLength 4 >>= fun receivedMagic =>
    if receivedMagic ≠ magic then throw .badMagic
    else
      readByte .invalidLength >>= fun receivedVersion =>
        if receivedVersion ≠ version then throw .unsupportedVersion
        else
          readByte .invalidLength >>= fun kind =>
            match ControlMessageKind.ofRawValue kind with
            | none => throw .invalidKind
            | some kind =>
                readInteger .invalidLength 2 >>= fun length =>
                  if length ≠ encodedSize then throw .invalidLength
                  else readInteger .invalidLength 8 >>= fun sequence => return ⟨kind, .ofNat sequence⟩

def decode (data : List UInt8) : Except ControlProtocolError ControlMessage :=
  if data.length ≠ encodedSize then .error .invalidLength else (read data).map Prod.fst

theorem decode_encode (message : ControlMessage) : decode message.encode = .ok message := by
  have size : ¬ message.encode.length ≠ encodedSize := by
    unfold encode
    simp only [List.length_append, List.length_cons, bigEndian_length]
    decide
  have last : (readInteger .invalidLength 8 >>= fun sequence =>
      return ⟨message.kind, .ofNat sequence⟩ : ByteCursor ControlProtocolError ControlMessage)
        (bigEndian 8 message.sequence.toNat ++ []) = .ok (message, []) := by
    rw [readInteger_bind message.sequence.toNat_lt, UInt64.ofNat_toNat]
    rfl
  rw [List.append_nil] at last
  unfold decode
  rw [if_neg size]
  unfold encode read
  rw [readInteger_bind (by decide), if_neg (fun no => no rfl), readByte_bind,
    if_neg (fun no => no rfl), readByte_bind, ControlMessageKind.ofRawValue_rawValue]
  dsimp only
  rw [readInteger_bind (by decide), if_neg (fun no => no rfl), last]
  rfl

end ControlMessage

end ExecutionHandoff.TakeoverCore
