import ExecutionHandoff.Library.Pieces
import ExecutionHandoff.Library.Runs
import ExecutionHandoff.TakeoverCore.VideoPacket

/-!
# The frame reassembler

The receiver keeps the pieces of one frame, the newest it has seen a datagram
of, and the identity of the newest frame that was completed.
-/

namespace ExecutionHandoff.TakeoverCore

open Library

structure ReassembledFrame where
  header : VideoPacketHeader
  sealedPayload : List UInt8
  deriving DecidableEq

inductive FrameReassemblyResult where
  | incomplete
  | complete (frame : ReassembledFrame)
  | droppedStale
  | droppedInvalid
  | droppedOversize
  deriving DecidableEq

structure Assembly where
  header : VideoPacketHeader
  parts : List (Option (List UInt8))
  received : Nat
  totalBytes : Nat
  deriving DecidableEq

def Assembly.begin (header : VideoPacketHeader) : Assembly :=
  ⟨header, List.replicate header.packetCount.toNat none, 0, 0⟩

/-- What a reassembler is made with. -/
structure FrameReassemblerConfig where
  session : VideoSession
  maxFrameBytes : Nat
  maxPacketCount : Nat
  maxDatagramBytes : Nat
  holdsBytes : 0 < maxFrameBytes
  countsPackets : 0 < maxPacketCount ∧ maxPacketCount ≤ 65535
  holdsHeader : VideoPacketHeader.encodedSize ≤ maxDatagramBytes

structure FrameReassembler where
  assembly : Option Assembly
  highestCompletedFrameID : Option UInt64
  deriving DecidableEq

namespace FrameReassembler

def initial : FrameReassembler := ⟨none, none⟩

variable (config : FrameReassemblerConfig) (mac : List UInt8 → List UInt8)
  (reassembler : FrameReassembler)

/-- The header is one of this session's, and counts its packets properly. -/
def belongs (header : VideoPacketHeader) : Bool :=
  header.sessionHash == config.session.sessionHash && header.epoch == config.session.epoch &&
    header.generation == config.session.generation && decide (0 < header.packetCount) &&
    decide (header.packetIndex < header.packetCount) &&
    decide (header.packetCount.toNat ≤ config.maxPacketCount)

/-- The header of a datagram that is looked at any further. -/
def admitted (datagram : List UInt8) : Option VideoPacketHeader :=
  if datagram.length < VideoPacketHeader.encodedSize ∨ config.maxDatagramBytes < datagram.length then
    none
  else
    match VideoPacketHeader.decode datagram with
    | .error _ => none
    | .ok header =>
        if VideoHeaderAuthenticator.verify mac header && belongs config header then some header
        else none

/-- The frame is completed already, or a newer one has been begun. -/
def stale (header : VideoPacketHeader) : Bool :=
  (reassembler.highestCompletedFrameID.any fun highest => decide (header.frameID ≤ highest)) ||
    reassembler.assembly.any fun assembly => decide (header.frameID < assembly.header.frameID)

/-- The pieces to go on with; a newer frame takes the place of an older one. -/
def current (header : VideoPacketHeader) : Assembly :=
  match reassembler.assembly with
  | none => .begin header
  | some assembly =>
      if assembly.header.frameID < header.frameID then .begin header else assembly

/-- The fields on which the packets of a frame agree. -/
def agrees (first header : VideoPacketHeader) : Bool :=
  first.frameID == header.frameID && first.packetCount == header.packetCount &&
    first.flags == header.flags && first.captureNanos == header.captureNanos &&
    first.encodeDoneNanos == header.encodeDoneNanos

/-- The frame is handed on once no piece is missing. -/
def finish (current : Assembly) : FrameReassemblyResult × FrameReassembler :=
  let kept := { reassembler with assembly := some current }
  if current.received ≠ current.parts.length then
    (.incomplete, kept)
  else
    match joined current.parts with
    | none => (.incomplete, kept)
    | some payload =>
        (.complete ⟨current.header, payload⟩, ⟨none, some current.header.frameID⟩)

def place (current : Assembly) (index : Nat) (payload : List UInt8) :
    FrameReassemblyResult × FrameReassembler :=
  match current.parts[index]?.join with
  | some _ => reassembler.finish current
  | none =>
      if config.maxFrameBytes < current.totalBytes + payload.length then
        (.droppedOversize, { reassembler with assembly := none })
      else
        reassembler.finish
          { current with
            parts := current.parts.set index (some payload)
            totalBytes := current.totalBytes + payload.length
            received := current.received + 1 }

def ingest (datagram : List UInt8) : FrameReassemblyResult × FrameReassembler :=
  match admitted config mac datagram with
  | none => (.droppedInvalid, reassembler)
  | some header =>
      if reassembler.stale header then
        (.droppedStale, reassembler)
      else
        let current := reassembler.current header
        if agrees current.header header then
          reassembler.place config current header.packetIndex.toNat
            (datagram.drop VideoPacketHeader.encodedSize)
        else
          (.droppedInvalid, { reassembler with assembly := some current })

/-- How much is kept of the frame that is being put together. -/
def heldBytes : Nat :=
  match reassembler.assembly with
  | none => 0
  | some assembly => held assembly.parts

/-- One datagram after another. -/
abbrev Step : FrameReassembler → List UInt8 × FrameReassemblyResult → FrameReassembler → Prop :=
  CallStep fun datagram reassembler => reassembler.ingest config mac datagram

end FrameReassembler

end ExecutionHandoff.TakeoverCore
