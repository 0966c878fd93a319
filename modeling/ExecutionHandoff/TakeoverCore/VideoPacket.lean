import ExecutionHandoff.Library.BigEndian

/-!
# Video packets

A sealed frame is cut into datagrams, each with a header of fixed size in front
of its part of the payload.  The tag of a header is the start of a keyed digest
of the fields before it; the digest function with its key is the variable `mac`.
-/

namespace ExecutionHandoff.TakeoverCore

open Library

/-! ## Headers -/

structure VideoPacketHeader where
  flags : UInt8
  sessionHash : UInt64
  epoch : UInt64
  generation : UInt32
  frameID : UInt64
  packetIndex : UInt16
  packetCount : UInt16
  captureNanos : UInt64
  encodeDoneNanos : UInt64
  authTagHigh : UInt64
  authTagLow : UInt64
  deriving DecidableEq

inductive VideoPacketError where
  | truncated
  | badMagic
  | unsupportedVersion
  | invalidHeaderLength
  deriving DecidableEq

namespace VideoPacketHeader

def magic : Nat := 0x54544B52

def version : UInt8 := 1

def encodedSize : Nat := 72

def withAuthenticationTag (header : VideoPacketHeader) (high low : UInt64) : VideoPacketHeader :=
  { header with authTagHigh := high, authTagLow := low }

/-- `writeAuthenticatedFields`. -/
def authenticationData (header : VideoPacketHeader) : List UInt8 :=
  bigEndian 4 magic ++ ([version] ++ ([header.flags] ++ (bigEndian 2 encodedSize ++
    (bigEndian 8 header.sessionHash.toNat ++ (bigEndian 8 header.epoch.toNat ++
    (bigEndian 4 header.generation.toNat ++ (bigEndian 8 header.frameID.toNat ++
    (bigEndian 2 header.packetIndex.toNat ++ (bigEndian 2 header.packetCount.toNat ++
    (bigEndian 8 header.captureNanos.toNat ++ bigEndian 8 header.encodeDoneNanos.toNat))))))))))

def encode (header : VideoPacketHeader) : List UInt8 :=
  header.authenticationData ++
    (bigEndian 8 header.authTagHigh.toNat ++ bigEndian 8 header.authTagLow.toNat)

end VideoPacketHeader

/-- A reader of the bytes that are left. -/
abbrev RawByteCursor := StateT (List UInt8) (Except VideoPacketError)

namespace RawByteCursor

def readByte : RawByteCursor UInt8 := fun bytes =>
  match bytes with
  | [] => .error .truncated
  | byte :: rest => .ok (byte, rest)

def readInteger (width : Nat) : RawByteCursor Nat := fun bytes =>
  match readBigEndian width bytes with
  | none => .error .truncated
  | some value => .ok value

theorem readByte_bind {α : Type} (byte : UInt8) (rest : List UInt8) (next : UInt8 → RawByteCursor α) :
    (readByte >>= next) ([byte] ++ rest) = next byte rest := rfl

theorem readInteger_bind {α : Type} {width value : Nat} (bound : value < 256 ^ width)
    (rest : List UInt8) (next : Nat → RawByteCursor α) :
    (readInteger width >>= next) (bigEndian width value ++ rest) = next value rest := by
  change (match readBigEndian width (bigEndian width value ++ rest) with
    | none => (.error .truncated : Except VideoPacketError (Nat × List UInt8))
    | some value => .ok value) >>= (fun read => next read.1 read.2) = next value rest
  rw [readBigEndian_append bound]
  rfl

end RawByteCursor

namespace VideoPacketHeader

open RawByteCursor

/-- The fields behind the length of the header. -/
def readFields (flags : UInt8) : RawByteCursor VideoPacketHeader := do
  let sessionHash ← readInteger 8
  let epoch ← readInteger 8
  let generation ← readInteger 4
  let frameID ← readInteger 8
  let packetIndex ← readInteger 2
  let packetCount ← readInteger 2
  let captureNanos ← readInteger 8
  let encodeDoneNanos ← readInteger 8
  let authTagHigh ← readInteger 8
  let authTagLow ← readInteger 8
  return {
    flags
    sessionHash := .ofNat sessionHash
    epoch := .ofNat epoch
    generation := .ofNat generation
    frameID := .ofNat frameID
    packetIndex := .ofNat packetIndex
    packetCount := .ofNat packetCount
    captureNanos := .ofNat captureNanos
    encodeDoneNanos := .ofNat encodeDoneNanos
    authTagHigh := .ofNat authTagHigh
    authTagLow := .ofNat authTagLow }

def read : RawByteCursor VideoPacketHeader :=
  readInteger 4 >>= fun receivedMagic =>
    if receivedMagic ≠ magic then
      throw .badMagic
    else
      readByte >>= fun receivedVersion =>
        if receivedVersion ≠ version then
          throw .unsupportedVersion
        else
          readByte >>= fun flags =>
            readInteger 2 >>= fun headerLength =>
              if headerLength ≠ encodedSize then throw .invalidHeaderLength else readFields flags

def decode (bytes : List UInt8) : Except VideoPacketError VideoPacketHeader :=
  if bytes.length < encodedSize then .error .truncated
  else (read bytes).map Prod.fst

theorem encode_length (header : VideoPacketHeader) : header.encode.length = encodedSize := by
  unfold encode authenticationData
  simp only [List.length_append, bigEndian_length, List.length_singleton]
  rfl

/-- The fields are read back as they were written. -/
theorem readFields_encode (header : VideoPacketHeader) (rest : List UInt8) :
    readFields header.flags
      (bigEndian 8 header.sessionHash.toNat ++ (bigEndian 8 header.epoch.toNat ++
      (bigEndian 4 header.generation.toNat ++ (bigEndian 8 header.frameID.toNat ++
      (bigEndian 2 header.packetIndex.toNat ++ (bigEndian 2 header.packetCount.toNat ++
      (bigEndian 8 header.captureNanos.toNat ++ (bigEndian 8 header.encodeDoneNanos.toNat ++
      (bigEndian 8 header.authTagHigh.toNat ++ (bigEndian 8 header.authTagLow.toNat ++
      rest)))))))))) = .ok (header, rest) := by
  unfold readFields
  rw [readInteger_bind header.sessionHash.toNat_lt, readInteger_bind header.epoch.toNat_lt,
    readInteger_bind header.generation.toNat_lt, readInteger_bind header.frameID.toNat_lt,
    readInteger_bind header.packetIndex.toNat_lt, readInteger_bind header.packetCount.toNat_lt,
    readInteger_bind header.captureNanos.toNat_lt, readInteger_bind header.encodeDoneNanos.toNat_lt,
    readInteger_bind header.authTagHigh.toNat_lt, readInteger_bind header.authTagLow.toNat_lt]
  simp only [UInt64.ofNat_toNat, UInt32.ofNat_toNat, UInt16.ofNat_toNat]
  rfl

/-- A header is read back from the front of its datagram. -/
theorem decode_encode (header : VideoPacketHeader) (rest : List UInt8) :
    decode (header.encode ++ rest) = .ok header := by
  have long : ¬ (header.encode ++ rest).length < encodedSize := by
    rw [List.length_append, encode_length]
    omega
  unfold decode
  rw [if_neg long]
  unfold encode authenticationData read
  simp only [List.append_assoc]
  rw [readInteger_bind (by decide), if_neg (fun no => no rfl), readByte_bind,
    if_neg (fun no => no rfl), readByte_bind, readInteger_bind (by decide),
    if_neg (fun no => no rfl), readFields_encode]
  rfl

end VideoPacketHeader

/-! ## Header tags -/

section HeaderTags

variable (mac : List UInt8 → List UInt8)

/-- Bytes shifted one after another into a register. -/
def shiftIn (bytes : List UInt8) : UInt64 :=
  bytes.foldl (fun value byte => value <<< 8 ||| byte.toUInt64) 0

namespace VideoHeaderAuthenticator

def authenticate (header : VideoPacketHeader) : VideoPacketHeader :=
  let bytes := (mac header.authenticationData).take 16
  header.withAuthenticationTag (shiftIn (bytes.take 8)) (shiftIn ((bytes.drop 8).take 8))

def verify (header : VideoPacketHeader) : Bool :=
  let expected := authenticate mac (header.withAuthenticationTag 0 0)
  ((expected.authTagHigh ^^^ header.authTagHigh) ||| (expected.authTagLow ^^^ header.authTagLow)) == 0

/-- The tag of a header does not depend on the tag it already has. -/
theorem verify_authenticate (header : VideoPacketHeader) :
    verify mac (authenticate mac header) = true := by
  have same : authenticate mac ((authenticate mac header).withAuthenticationTag 0 0) =
      authenticate mac header := rfl
  unfold verify
  dsimp only
  rw [same, UInt64.xor_self, UInt64.xor_self]
  rfl

end VideoHeaderAuthenticator

end HeaderTags

/-! ## Packets -/

structure VideoPacketSlice where
  header : VideoPacketHeader
  lower : Nat
  upper : Nat
  deriving DecidableEq

/-- The session a video stream belongs to. -/
structure VideoSession where
  sessionHash : UInt64
  epoch : UInt64
  generation : UInt32
  deriving DecidableEq

/-- A frame as it is handed to the packetizer. -/
structure SealedFrame where
  flags : UInt8
  frameID : UInt64
  captureNanos : UInt64
  encodeDoneNanos : UInt64
  payload : List UInt8
  deriving DecidableEq

structure VideoPacketizer where
  maxDatagramBytes : Nat
  roomy : VideoPacketHeader.encodedSize < maxDatagramBytes

namespace VideoPacketizer

variable (packetizer : VideoPacketizer) (session : VideoSession) (frame : SealedFrame)

def maxPayload : Nat := packetizer.maxDatagramBytes - VideoPacketHeader.encodedSize

def packetCount : Nat :=
  max 1 ((frame.payload.length + packetizer.maxPayload - 1) / packetizer.maxPayload)

def header (index : Nat) : VideoPacketHeader where
  flags := frame.flags
  sessionHash := session.sessionHash
  epoch := session.epoch
  generation := session.generation
  frameID := frame.frameID
  packetIndex := .ofNat index
  packetCount := .ofNat (packetizer.packetCount frame)
  captureNanos := frame.captureNanos
  encodeDoneNanos := frame.encodeDoneNanos
  authTagHigh := 0
  authTagLow := 0

def slice (index : Nat) : VideoPacketSlice where
  header := packetizer.header session frame index
  lower := index * packetizer.maxPayload
  upper := min frame.payload.length (index * packetizer.maxPayload + packetizer.maxPayload)

/-- `forEachPacket`, as the list of what it hands on; it traps on more packets than can be
numbered. -/
def forEachPacket : Option (List VideoPacketSlice) :=
  if packetizer.packetCount frame ≤ 65535 then
    some ((List.range (packetizer.packetCount frame)).map (packetizer.slice session frame))
  else
    none

end VideoPacketizer

/-- The bytes of the payload that go with a slice. -/
def VideoPacketSlice.part (slice : VideoPacketSlice) (payload : List UInt8) : List UInt8 :=
  (payload.drop slice.lower).take (slice.upper - slice.lower)

/-- What is sent for a slice. -/
def VideoPacketSlice.datagram (mac : List UInt8 → List UInt8) (payload : List UInt8)
    (slice : VideoPacketSlice) : List UInt8 :=
  (VideoHeaderAuthenticator.authenticate mac slice.header).encode ++ slice.part payload

/-- `packetize` with an authenticator. -/
def VideoPacketizer.packetize (packetizer : VideoPacketizer) (mac : List UInt8 → List UInt8)
    (session : VideoSession) (frame : SealedFrame) : Option (List (List UInt8)) :=
  (packetizer.forEachPacket session frame).map fun slices =>
    slices.map (VideoPacketSlice.datagram mac frame.payload)

end ExecutionHandoff.TakeoverCore
