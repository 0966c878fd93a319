import ExecutionHandoff.Library.ByteCursor

/-!
# Input events

The bytes of an input event: a header of fixed size, whose last field but one is
the length of the payload behind it.
-/

namespace ExecutionHandoff.TakeoverCore

open Library ByteCursor List

inductive InputLane where
  | realtime
  | critical
  deriving DecidableEq

namespace InputLane

def rawValue : InputLane → UInt8
  | realtime => 1
  | critical => 2

def ofRawValue (raw : UInt8) : Option InputLane :=
  if raw = 1 then some realtime else if raw = 2 then some critical else none

theorem ofRawValue_rawValue (lane : InputLane) : ofRawValue lane.rawValue = some lane := by
  cases lane <;> rfl

end InputLane

inductive InputEventKind where
  | pointerMove
  | pointerButton
  | scroll
  | key
  | textCommit
  deriving DecidableEq

namespace InputEventKind

def rawValue : InputEventKind → UInt8
  | pointerMove => 1
  | pointerButton => 2
  | scroll => 3
  | key => 4
  | textCommit => 5

def ofRawValue (raw : UInt8) : Option InputEventKind :=
  if raw = 1 then some pointerMove else if raw = 2 then some pointerButton
  else if raw = 3 then some scroll else if raw = 4 then some key
  else if raw = 5 then some textCommit else none

theorem ofRawValue_rawValue (kind : InputEventKind) : ofRawValue kind.rawValue = some kind := by
  cases kind <;> rfl

end InputEventKind

structure InputEvent where
  lane : InputLane
  kind : InputEventKind
  sequence : UInt64
  clientNanos : UInt64
  x : Int32
  y : Int32
  value : Int32
  payload : List UInt8
  short : payload.length ≤ 65535
  deriving DecidableEq

inductive InputProtocolError where
  | truncated
  | badMagic
  | unsupportedVersion
  | invalidLane
  | invalidKind
  | invalidPayloadLength
  deriving DecidableEq

namespace InputEvent

def magic : Nat := 0x54544B49

def version : UInt8 := 1

def fixedHeaderBytes : Nat := 40

def encode (event : InputEvent) : List UInt8 :=
  bigEndian 4 magic ++ (version :: event.lane.rawValue :: event.kind.rawValue :: 0 ::
    (bigEndian 8 event.sequence.toNat ++ (bigEndian 8 event.clientNanos.toNat ++
    (bigEndian 4 event.x.toUInt32.toNat ++ (bigEndian 4 event.y.toUInt32.toNat ++
    (bigEndian 4 event.value.toUInt32.toNat ++ (bigEndian 2 event.payload.length ++
    (bigEndian 2 0 ++ event.payload))))))))

/-- The fields behind the kind. -/
def readFields (lane : InputLane) (kind : InputEventKind) :
    ByteCursor InputProtocolError InputEvent := do
  let _ ← readByte .truncated
  let sequence ← readInteger .truncated 8
  let clientNanos ← readInteger .truncated 8
  let xBits ← readInteger .truncated 4
  let yBits ← readInteger .truncated 4
  let valueBits ← readInteger .truncated 4
  let payloadLength ← readInteger .truncated 2
  let _ ← readInteger .truncated 2
  let payload ← remaining
  if sized : payload.length = (UInt16.ofNat payloadLength).toNat then
    return {
      lane
      kind
      sequence := .ofNat sequence
      clientNanos := .ofNat clientNanos
      x := (UInt32.ofNat xBits).toInt32
      y := (UInt32.ofNat yBits).toInt32
      value := (UInt32.ofNat valueBits).toInt32
      payload
      short := Nat.le_of_lt_succ (sized ▸ (UInt16.ofNat payloadLength).toNat_lt) }
  else throw .invalidPayloadLength

def read : ByteCursor InputProtocolError InputEvent :=
  readInteger .truncated 4 >>= fun receivedMagic =>
    if receivedMagic ≠ magic then throw .badMagic
    else
      readByte .truncated >>= fun receivedVersion =>
        if receivedVersion ≠ version then throw .unsupportedVersion
        else
          readByte .truncated >>= fun lane =>
            match InputLane.ofRawValue lane with
            | none => throw .invalidLane
            | some lane =>
                readByte .truncated >>= fun kind =>
                  match InputEventKind.ofRawValue kind with
                  | none => throw .invalidKind
                  | some kind => readFields lane kind

def decode (data : List UInt8) : Except InputProtocolError InputEvent :=
  if data.length < fixedHeaderBytes then .error .truncated else (read data).map Prod.fst

/-- The length of the payload as the header has it. -/
def statedLength (data : List UInt8) : Nat := fromBigEndian 0 ((data.drop 36).take 2)

theorem readFields_encode (event : InputEvent) :
    readFields event.lane event.kind
      (0 :: (bigEndian 8 event.sequence.toNat ++ (bigEndian 8 event.clientNanos.toNat ++
      (bigEndian 4 event.x.toUInt32.toNat ++ (bigEndian 4 event.y.toUInt32.toNat ++
      (bigEndian 4 event.value.toUInt32.toNat ++ (bigEndian 2 event.payload.length ++
      (bigEndian 2 0 ++ event.payload)))))))) = .ok (event, event.payload) := by
  have short : event.payload.length < 65536 := Nat.lt_succ_of_le event.short
  have sized : event.payload.length = (UInt16.ofNat event.payload.length).toNat :=
    (UInt16.toNat_ofNat_of_lt' short).symm
  unfold readFields
  rw [readByte_bind, readInteger_bind event.sequence.toNat_lt,
    readInteger_bind event.clientNanos.toNat_lt, readInteger_bind event.x.toUInt32.toNat_lt,
    readInteger_bind event.y.toUInt32.toNat_lt, readInteger_bind event.value.toUInt32.toNat_lt,
    readInteger_bind short, readInteger_bind (by decide), remaining_bind, dif_pos sized]
  simp only [UInt64.ofNat_toNat, UInt32.ofNat_toNat, Int32.toInt32_toUInt32]
  rfl

/-- An event is read back from its bytes. -/
theorem decode_encode (event : InputEvent) : decode event.encode = .ok event := by
  have long : ¬ event.encode.length < fixedHeaderBytes := by
    unfold encode fixedHeaderBytes
    simp only [length_append, length_cons, bigEndian_length]
    omega
  unfold decode
  rw [if_neg long]
  unfold encode read
  rw [readInteger_bind (by decide), if_neg (fun no => no rfl), readByte_bind,
    if_neg (fun no => no rfl), readByte_bind, InputLane.ofRawValue_rawValue]
  dsimp only
  rw [readByte_bind, InputEventKind.ofRawValue_rawValue]
  dsimp only
  rw [readFields_encode]
  rfl

/-- Behind the kind there are 29 bytes, the length, two more bytes and the payload. -/
theorem readFields_sized {lane : InputLane} {kind : InputEventKind} {bytes : List UInt8}
    {last : InputEvent × List UInt8} (passed : readFields lane kind bytes = .ok last) :
    ∃ front length unused payload, front.length = 29 ∧ length < 256 ^ 2 ∧
      payload.length = length ∧
      bytes = front ++ (bigEndian 2 length ++ (bigEndian 2 unused ++ payload)) := by
  unfold readFields at passed
  obtain ⟨reserved, one, whole, passed⟩ := readByte_ok passed
  obtain ⟨sequence, two, _, first, passed⟩ := readInteger_ok passed
  obtain ⟨nanos, three, _, second, passed⟩ := readInteger_ok passed
  obtain ⟨x, four, _, third, passed⟩ := readInteger_ok passed
  obtain ⟨y, five, _, fourth, passed⟩ := readInteger_ok passed
  obtain ⟨value, six, _, fifth, passed⟩ := readInteger_ok passed
  obtain ⟨length, seven, bound, sixth, passed⟩ := readInteger_ok passed
  obtain ⟨unused, payload, _, seventh, passed⟩ := readInteger_ok passed
  rw [remaining_bind] at passed
  split at passed
  · rename_i sized
    rw [UInt16.toNat_ofNat_of_lt' bound] at sized
    refine ⟨reserved :: (bigEndian 8 sequence ++ (bigEndian 8 nanos ++ (bigEndian 4 x ++
      (bigEndian 4 y ++ bigEndian 4 value)))), length, unused, payload, ?_, bound, sized, ?_⟩
    · simp only [length_cons, length_append, bigEndian_length]
    · rw [whole, first, second, third, fourth, fifth, sixth, seventh]
      simp only [append_assoc, cons_append]
  · cases passed

/-- The length in the header is that of the bytes behind it. -/
theorem length_stated {data front payload : List UInt8} {length unused : Nat}
    (before : front.length = 36) (bound : length < 256 ^ 2) (sized : payload.length = length)
    (whole : data = front ++ (bigEndian 2 length ++ (bigEndian 2 unused ++ payload))) :
    data.length = fixedHeaderBytes + statedLength data := by
  have stated : statedLength data = length := by
    unfold statedLength
    rw [whole, drop_left' before, take_left' (bigEndian_length 2 length),
      fromBigEndian_bigEndian, Nat.zero_mul, Nat.zero_add, Nat.mod_eq_of_lt bound]
  rw [stated, whole]
  simp only [length_append, bigEndian_length, before, sized, fixedHeaderBytes]
  omega

/-- What is read as an event is as long as its header says. -/
theorem decode_sized {data : List UInt8} {event : InputEvent} (decoded : decode data = .ok event) :
    data.length = fixedHeaderBytes + statedLength data := by
  unfold decode at decoded
  split at decoded
  · cases decoded
  · cases passed : read data with
    | error error => rw [passed] at decoded; cases decoded
    | ok last =>
        unfold read at passed
        obtain ⟨word, one, _, whole, passed⟩ := readInteger_ok passed
        split at passed
        · cases passed
        · obtain ⟨version, two, first, passed⟩ := readByte_ok passed
          split at passed
          · cases passed
          · obtain ⟨laneByte, three, second, passed⟩ := readByte_ok passed
            cases lane : InputLane.ofRawValue laneByte with
            | none => rw [lane] at passed; cases passed
            | some lane =>
                simp only [‹InputLane.ofRawValue laneByte = _›] at passed
                obtain ⟨kindByte, four, third, passed⟩ := readByte_ok passed
                cases kind : InputEventKind.ofRawValue kindByte with
                | none => rw [kind] at passed; cases passed
                | some kind =>
                    simp only [‹InputEventKind.ofRawValue kindByte = _›] at passed
                    obtain ⟨front, length, unused, payload, seven, bound, sized, fourth⟩ :=
                      readFields_sized passed
                    refine @length_stated data (bigEndian 4 word ++
                      (version :: laneByte :: kindByte :: front)) payload length unused ?_ bound sized ?_
                    · rw [length_append, bigEndian_length]
                      simp only [length_cons, seven]
                    · rw [whole, first, second, third, fourth]
                      simp only [append_assoc, cons_append]

end InputEvent

end ExecutionHandoff.TakeoverCore
