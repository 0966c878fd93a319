import Mathlib.Algebra.Ring.Int.Defs
import ExecutionHandoff.Host.LinuxVideo
import ExecutionHandoff.Library.TaggedRecords
import ExecutionHandoff.Library.Text

/-!
# What the Linux host writes

The records of `frameRecord` and `jpegFrameRecord` byte by byte, as the two
parsers on the other side of the pipe read them.
-/

namespace ExecutionHandoff.Host

open Library

namespace HostWire

/-- `[…].every(Number.isSafeInteger)`, and both are sizes of 16 bits. -/
def sizeInBounds (width height : Int) : Bool :=
  decide (1 ≤ width) && decide (width ≤ 65_535) && decide (1 ≤ height) && decide (height ≤ 65_535)

def frameRecord (avcc : List UInt8) (timestamp : Int) (keyframe : Bool) (width height : Int) :
    Except String (List UInt8) :=
  if avcc.length < 1 ∨ maxHostFrameBytes - 9 < avcc.length then
    .error "Linux WebRTC host frame is out of bounds"
  else if isSafeInteger timestamp = false ∨ timestamp < 0 ∨ sizeInBounds width height = false then
    .error "Linux WebRTC host frame metadata is invalid"
  else
    .ok (writeTagged 1 (bigEndian 4 (timestamp % 2 ^ 32).toNat ++ (if keyframe then 1 else 0) ::
      (bigEndian 2 width.toNat ++ bigEndian 2 height.toNat ++ avcc)))

def jpegSoi : List UInt8 := [0xff, 0xd8]
def jpegEoi : List UInt8 := [0xff, 0xd9]

def jpegFrameRecord (jpeg : List UInt8) (width height : Int) : Except String (List UInt8) :=
  if jpeg.length < 4 ∨ maxHostFrameBytes - 4 < jpeg.length then
    .error "Linux WebSocket host JPEG frame is out of bounds"
  else if jpeg.take 2 ≠ jpegSoi ∨ jpeg.drop (jpeg.length - 2) ≠ jpegEoi then
    .error "Linux WebSocket host JPEG frame is invalid"
  else if sizeInBounds width height = false then
    .error "Linux WebSocket host JPEG metadata is invalid"
  else
    .ok (writeTagged 2 (bigEndian 2 width.toNat ++ bigEndian 2 height.toNat ++ jpeg))

theorem sizeInBounds_iff {width height : Int} : sizeInBounds width height = true ↔
    (0 < width.toNat ∧ width.toNat < 256 ^ 2 ∧ width = width.toNat) ∧
      0 < height.toNat ∧ height.toNat < 256 ^ 2 ∧ height = height.toNat := by
  simp only [sizeInBounds, Bool.and_eq_true, decide_eq_true_eq]
  omega

end HostWire

end ExecutionHandoff.Host
