import ExecutionHandoff.Library.BigEndian
import ExecutionHandoff.WebSocket.Channel
import Mathlib.Algebra.Order.Ring.Rat
import Mathlib.Tactic.Linarith

/-!
# Frames on the socket

`NodeWebSocketTakeoverPeer.sendFrame` puts a header of sixteen bytes before the
data of a frame, and `parseFrame` of the page reads it.  The page knows neither
the channel's limit for frames nor its limit for their size.
-/

namespace ExecutionHandoff.WebSocket

open Library Option List
open ExperimentalWebSocketTakeoverChannel (validateFrame)

def frameHeaderBytes : Nat := 16
def frameMagic : Nat := 0x484f4631

/-- `writeUInt16BE` and `writeUInt32BE`: a number out of range makes them throw, and what stands
behind the point is dropped. -/
def writeUInt (width : Nat) (value : ℚ) : Option (List UInt8) :=
  if value < 0 ∨ (256 ^ width - 1 : ℚ) < value then none
  else some (bigEndian width value.floor.toNat)

/-- The message that `sendFrame` sends. -/
def sendFrame (frame : WebSocketTakeoverFrame) : Option (List UInt8) := do
  let width ← writeUInt 2 frame.width
  let height ← writeUInt 2 frame.height
  let length ← writeUInt 4 frame.data.length
  pure (bigEndian 4 frameMagic ++ [if frame.mimeType = "image/jpeg" then 1 else 2, 0] ++ width ++
    height ++ length ++ bigEndian 2 0 ++ frame.data)

/-- `getUint8`, `getUint16` and `getUint32` within the bounds of the view. -/
def getUint (buffer : List UInt8) (offset width : Nat) : Nat :=
  fromBigEndian 0 ((buffer.drop offset).take width)

/-- The frame that `parseFrame` shows. -/
def parseFrame (buffer : List UInt8) : Option WebSocketTakeoverFrame :=
  if buffer.length < frameHeaderBytes then none
  else if getUint buffer 0 4 ≠ frameMagic ∨ getUint buffer 5 1 ≠ 0 ∨ getUint buffer 14 2 ≠ 0 then
    none
  else
    let mimeCode := getUint buffer 4 1
    let width := getUint buffer 6 2
    let height := getUint buffer 8 2
    let length := getUint buffer 10 4
    if width = 0 ∨ height = 0 ∨ length ≠ buffer.length - frameHeaderBytes then none
    else
      let mime := if mimeCode = 1 then "image/jpeg" else if mimeCode = 2 then "image/png" else ""
      if mime = "" then none else some ⟨buffer.drop frameHeaderBytes, width, height, mime⟩

/-! ## The header -/

/-- The message of a frame with these numbers in its header. -/
def frameBytes (mimeCode : UInt8) (width height : Nat) (data : List UInt8) : List UInt8 :=
  bigEndian 4 frameMagic ++ [mimeCode, 0] ++ bigEndian 2 width ++ bigEndian 2 height ++
    bigEndian 4 data.length ++ bigEndian 2 0 ++ data

variable {width value height : Nat} {message : List UInt8}

theorem writeUInt_eq (bound : value < 256 ^ width) :
    writeUInt width (value : ℚ) = some (bigEndian width value) := by
  have within : ¬ ((value : ℚ) < 0 ∨ (256 ^ width - 1 : ℚ) < value) := by
    have most : (value : ℚ) + 1 ≤ 256 ^ width := by exact_mod_cast bound
    have least : (0 : ℚ) ≤ value := Nat.cast_nonneg value
    rintro (no | no) <;> linarith
  have whole : (value : ℚ).floor = value := Rat.floor_intCast value
  unfold writeUInt
  rw [if_neg within, whole, Int.toNat_natCast]

theorem length_sendFrame {frame : WebSocketTakeoverFrame} (sent : sendFrame frame = some message) :
    message.length = frameHeaderBytes + frame.data.length := by
  have written {width : Nat} {value : ℚ} {bytes : List UInt8}
      (write : writeUInt width value = some bytes) : bytes.length = width := by
    unfold writeUInt at write
    split at write
    · cases write
    · cases write
      exact bigEndian_length _ _
  obtain ⟨width, wide, further⟩ := bind_eq_some_iff.mp sent
  obtain ⟨height, high, further⟩ := bind_eq_some_iff.mp further
  obtain ⟨length, short, same⟩ := bind_eq_some_iff.mp further
  cases same
  simp only [length_append, bigEndian_length, length_cons, length_nil,
    written wide, written high, written short]
  rfl

theorem sendFrame_eq {data : List UInt8} {mimeType : String}
    (wide : width < 256 ^ 2) (high : height < 256 ^ 2) (short : data.length < 256 ^ 4) :
    sendFrame ⟨data, width, height, mimeType⟩ =
      some (frameBytes (if mimeType = "image/jpeg" then 1 else 2) width height data) := by
  unfold sendFrame
  simp only [writeUInt_eq wide, writeUInt_eq high, writeUInt_eq short]
  rfl

/-- A number of the header is read back. -/
theorem fromBigEndian_written (bound : value < 256 ^ width) :
    fromBigEndian 0 (bigEndian width value) = value := by
  rw [fromBigEndian_bigEndian, Nat.zero_mul, Nat.zero_add, Nat.mod_eq_of_lt bound]

theorem length_frameBytes (mimeCode : UInt8) (width height : Nat) (data : List UInt8) :
    (frameBytes mimeCode width height data).length = frameHeaderBytes + data.length := by
  simp only [frameBytes, length_append, bigEndian_length, length_cons, length_nil]
  rfl

/-- The frame of a message that is written. -/
theorem parseFrame_frameBytes {mimeCode : UInt8} {data : List UInt8}
    (wide : width < 256 ^ 2) (high : height < 256 ^ 2) (short : data.length < 256 ^ 4) :
    parseFrame (frameBytes mimeCode width height data) =
      if width = 0 ∨ height = 0 then none
      else if mimeCode = 1 then some ⟨data, width, height, "image/jpeg"⟩
      else if mimeCode = 2 then some ⟨data, width, height, "image/png"⟩
      else none := by
  have size := length_frameBytes mimeCode width height data
  have magic : getUint (frameBytes mimeCode width height data) 0 4 = frameMagic := rfl
  have mime : getUint (frameBytes mimeCode width height data) 4 1 = mimeCode.toNat :=
    Nat.zero_add _
  have width' : getUint (frameBytes mimeCode width height data) 6 2 = width :=
    fromBigEndian_written wide
  have height' : getUint (frameBytes mimeCode width height data) 8 2 = height :=
    fromBigEndian_written high
  have length' : getUint (frameBytes mimeCode width height data) 10 4 = data.length :=
    fromBigEndian_written short
  have rest : (frameBytes mimeCode width height data).drop frameHeaderBytes = data := rfl
  have jpeg : mimeCode.toNat = 1 ↔ mimeCode = 1 := @UInt8.toNat_inj mimeCode 1
  have png : mimeCode.toNat = 2 ↔ mimeCode = 2 := @UInt8.toNat_inj mimeCode 2
  unfold parseFrame
  rw [if_neg (by rw [size]; exact Nat.not_lt.mpr (Nat.le_add_right _ _)),
    if_neg (by rw [magic]; rintro (no | no | no) <;> exact no rfl)]
  dsimp only
  rw [mime, width', height', length', size, Nat.add_sub_cancel_left, rest]
  by_cases empty : width = 0 ∨ height = 0
  · rw [if_pos (empty.imp_right .inl), if_pos empty]
  · have kept : ¬(width = 0 ∨ height = 0 ∨ data.length ≠ data.length) := by
      rintro (no | no | no)
      · exact empty (.inl no)
      · exact empty (.inr no)
      · exact no rfl
    rw [if_neg kept, if_neg empty]
    by_cases one : mimeCode = 1
    · rw [if_pos one, if_pos (jpeg.mpr one)]
      rfl
    · rw [if_neg one, if_neg (mt jpeg.mp one)]
      by_cases two : mimeCode = 2
      · rw [if_pos two, if_pos (png.mpr two)]
        rfl
      · rw [if_neg two, if_neg (mt png.mp two)]
        rfl

theorem getUint_lt {buffer : List UInt8} {offset : Nat}
    (enough : offset + width ≤ buffer.length) : getUint buffer offset width < 256 ^ width := by
  have size : ((buffer.drop offset).take width).length = width := by
    rw [length_take, length_drop]
    omega
  have bound := fromBigEndian_lt ((buffer.drop offset).take width)
  rwa [size] at bound

/-- A number that is read stands at its place. -/
theorem drop_eq_getUint {buffer : List UInt8} {offset width : Nat}
    (enough : offset + width ≤ buffer.length) :
    buffer.drop offset =
      bigEndian width (getUint buffer offset width) ++ buffer.drop (offset + width) := by
  have size : ((buffer.drop offset).take width).length = width := by
    rw [length_take, length_drop]
    omega
  have spelled := bigEndian_fromBigEndian ((buffer.drop offset).take width)
  rw [size] at spelled
  unfold getUint
  rw [spelled, ← drop_drop, take_append_drop]

/-- What a page reads a frame from was written with the numbers in its header. -/
theorem exists_frameBytes {buffer : List UInt8} {frame : WebSocketTakeoverFrame}
    (parsed : parseFrame buffer = some frame) :
    ∃ (mimeCode : UInt8) (width height : Nat) (data : List UInt8), width < 256 ^ 2 ∧
      height < 256 ^ 2 ∧ data.length < 256 ^ 4 ∧
      buffer = frameBytes mimeCode width height data := by
  unfold parseFrame at parsed
  split at parsed
  · cases parsed
  rename_i long
  have enough : 16 ≤ buffer.length := Nat.not_lt.mp long
  split at parsed
  · cases parsed
  rename_i inOrder
  rw [not_or, not_or, not_not, not_not, not_not] at inOrder
  obtain ⟨magic, zero, reserved⟩ := inOrder
  dsimp only at parsed
  split at parsed
  · cases parsed
  rename_i sized
  rw [not_or, not_or, not_not] at sized
  have length := sized.2.2
  have short : (buffer.drop 16).length = getUint buffer 10 4 := by
    rw [length, length_drop]
    rfl
  have written : buffer = buffer.drop 0 := rfl
  rw [@drop_eq_getUint buffer 0 4 (by omega), @drop_eq_getUint buffer 4 1 (by omega),
    @drop_eq_getUint buffer 5 1 (by omega), @drop_eq_getUint buffer 6 2 (by omega),
    @drop_eq_getUint buffer 8 2 (by omega), @drop_eq_getUint buffer 10 4 (by omega),
    @drop_eq_getUint buffer 14 2 (by omega), magic, zero, reserved, ← short] at written
  refine ⟨UInt8.ofNat (getUint buffer 4 1), getUint buffer 6 2, getUint buffer 8 2,
    buffer.drop 16, getUint_lt (by omega), getUint_lt (by omega), ?_, written.trans ?_⟩
  · rw [short]
    exact getUint_lt (by omega)
  · have code : bigEndian 1 (getUint buffer 4 1) = [UInt8.ofNat (getUint buffer 4 1)] := by
      simp [bigEndian]
    rw [code]
    simp only [frameBytes, append_assoc]
    rfl

/-! ## Channel and page -/

theorem bind_ok {α β : Type} {first : Except String α} {next : α → Except String β} {last : β}
    (done : (first >>= next) = .ok last) : ∃ value, first = .ok value ∧ next value = .ok last := by
  cases first with
  | error message => cases done
  | ok value => exact ⟨value, rfl, done⟩

theorem boundedLimit_le {value : Option Double} {fallback maximum limit : Nat} {name : String}
    (resolved : boundedLimit value fallback maximum name = .ok limit) : limit ≤ maximum := by
  unfold boundedLimit at resolved
  split at resolved
  · split at resolved
    · rename_i bounded
      cases resolved
      simp only [boundedInteger, Bool.and_eq_true, decide_eq_true_eq] at bounded
      omega
    · cases resolved
  · cases resolved

/-- The limit for frames that a channel is built with is at most eight megabytes. -/
theorem construct_maxFrameBytes {options : ExperimentalWebSocketTakeoverOptions}
    {settings : WebSocketChannelSettings} (made : construct options = .ok settings) :
    settings.maxFrameBytes ≤ absoluteMaxFrameBytes := by
  unfold construct at made
  obtain ⟨_, _, made⟩ := bind_ok made
  obtain ⟨_, _, made⟩ := bind_ok made
  obtain ⟨_, _, made⟩ := bind_ok made
  obtain ⟨_, _, made⟩ := bind_ok made
  obtain ⟨limit, resolved, made⟩ := bind_ok made
  obtain ⟨_, _, made⟩ := bind_ok made
  cases made
  exact boundedLimit_le resolved

theorem exists_size {value : ℚ} (bounded : boundedInteger value 1 16384 = true) :
    ∃ size : Nat, value = size ∧ 0 < size ∧ size < 256 ^ 2 := by
  simp only [boundedInteger, Bool.and_eq_true, decide_eq_true_eq, beq_iff_eq] at bounded
  obtain ⟨⟨whole, least⟩, most⟩ := bounded
  refine ⟨value.num.toNat, ?_, by omega, by omega⟩
  have exact' : ((value.num.toNat : Int) : ℚ) = value := by
    rw [Int.toNat_of_nonneg (by omega)]
    exact Rat.den_eq_one_iff _ |>.mp whole
  exact exact'.symm

/-- A frame as the page shows one: a size of positive numbers, and one of two types. -/
def Shown (frame : WebSocketTakeoverFrame) : Prop :=
  (∃ width : Nat, frame.width = width ∧ 0 < width) ∧
    (∃ height : Nat, frame.height = height ∧ 0 < height) ∧
    (frame.mimeType = "image/jpeg" ∨ frame.mimeType = "image/png")

/-- A number that is written is one of the width. -/
theorem writeUInt_bound {bytes : List UInt8}
    (written : writeUInt width (value : ℚ) = some bytes) : value < 256 ^ width := by
  unfold writeUInt at written
  split at written
  · cases written
  · rename_i within
    rw [not_or, not_lt, not_lt] at within
    have most : (value : ℚ) < 256 ^ width := by linarith [within.2]
    exact_mod_cast most

/-- Where a message is sent, it is the header and the data, and the numbers fit in. -/
theorem sendFrame_ok {data : List UInt8} {mimeType : String}
    (sent : sendFrame ⟨data, width, height, mimeType⟩ = some message) :
    width < 256 ^ 2 ∧ height < 256 ^ 2 ∧ data.length < 256 ^ 4 ∧
      message = frameBytes (if mimeType = "image/jpeg" then 1 else 2) width height data := by
  obtain ⟨_, wide, further⟩ := bind_eq_some_iff.mp sent
  obtain ⟨_, high, further⟩ := bind_eq_some_iff.mp further
  obtain ⟨_, short, _⟩ := bind_eq_some_iff.mp further
  have bounds := And.intro (writeUInt_bound wide) (And.intro (writeUInt_bound high)
    (writeUInt_bound short))
  rw [sendFrame_eq bounds.1 bounds.2.1 bounds.2.2] at sent
  exact ⟨bounds.1, bounds.2.1, bounds.2.2, (Option.some.inj sent).symm⟩

/-- What is sent of a frame that the page can show is shown. -/
theorem parseFrame_sendFrame {frame : WebSocketTakeoverFrame}
    (shown : Shown frame) (sent : sendFrame frame = some message) :
    parseFrame message = some frame := by
  obtain ⟨data, _, _, mimeType⟩ := frame
  obtain ⟨⟨width, rfl, wide⟩, ⟨height, rfl, high⟩, mime⟩ := shown
  obtain ⟨wide', high', short, rfl⟩ := sendFrame_ok sent
  rw [parseFrame_frameBytes wide' high' short,
    if_neg (not_or.mpr ⟨Nat.ne_of_gt wide, Nat.ne_of_gt high⟩)]
  rcases mime with mime | mime
  · change mimeType = _ at mime
    subst mime
    rfl
  · change mimeType = _ at mime
    subst mime
    rfl

/-- What is shown was sent. -/
theorem sendFrame_of_parseFrame {frame : WebSocketTakeoverFrame}
    (parsed : parseFrame message = some frame) : sendFrame frame = some message ∧ Shown frame := by
  obtain ⟨mimeCode, width, height, data, wide, high, short, rfl⟩ := exists_frameBytes parsed
  rw [parseFrame_frameBytes wide high short] at parsed
  split at parsed
  · cases parsed
  rename_i sized
  rw [not_or] at sized
  have sizes := And.intro (Nat.pos_of_ne_zero sized.1) (Nat.pos_of_ne_zero sized.2)
  split at parsed
  · rename_i one
    cases parsed
    rw [sendFrame_eq wide high short, one]
    exact ⟨rfl, ⟨width, rfl, sizes.1⟩, ⟨height, rfl, sizes.2⟩, .inl rfl⟩
  · split at parsed
    · rename_i two
      cases parsed
      rw [sendFrame_eq wide high short, two]
      exact ⟨rfl, ⟨width, rfl, sizes.1⟩, ⟨height, rfl, sizes.2⟩, .inr rfl⟩
    · cases parsed

/-- What the channel lets through is sent, and can be shown. -/
theorem validateFrame_sent {config : WebSocketChannelConfig} {frame : WebSocketTakeoverFrame}
    (small : config.maxFrameBytes ≤ absoluteMaxFrameBytes)
    (valid : validateFrame config frame = true) :
    (∃ message, sendFrame frame = some message) ∧ Shown frame := by
  obtain ⟨data, width, height, mimeType⟩ := frame
  simp only [validateFrame, Bool.and_eq_true, Bool.or_eq_true, decide_eq_true_eq,
    beq_iff_eq] at valid
  obtain ⟨⟨⟨⟨_, within⟩, wide⟩, high⟩, mime⟩ := valid
  obtain ⟨width, rfl, some', wide⟩ := exists_size wide
  obtain ⟨height, rfl, some'', high⟩ := exists_size high
  have short : data.length < 256 ^ 4 :=
    Nat.lt_of_le_of_lt (within.trans small) (by decide)
  exact ⟨⟨_, sendFrame_eq wide high short⟩, ⟨width, rfl, some'⟩, ⟨height, rfl, some''⟩, mime⟩

/-- A frame that the channel lets through is sent and shown unchanged, and the page shows exactly
what is sent of frames with positive sizes of sixteen bits and one of the two types, whatever their
data. -/
theorem frames_round_trip {options : ExperimentalWebSocketTakeoverOptions}
    {config : WebSocketChannelConfig}
    (made : construct options = .ok config.toWebSocketChannelSettings) :
    (∀ frame, validateFrame config frame = true →
      ∃ message, sendFrame frame = some message ∧ parseFrame message = some frame) ∧
    ∀ message frame, parseFrame message = some frame ↔
      sendFrame frame = some message ∧ Shown frame := by
  refine ⟨fun frame valid => ?_, fun message frame => ⟨sendFrame_of_parseFrame, ?_⟩⟩
  · obtain ⟨⟨message, sent⟩, shown⟩ := validateFrame_sent (construct_maxFrameBytes made) valid
    exact ⟨message, sent, parseFrame_sendFrame shown sent⟩
  · rintro ⟨sent, shown⟩
    exact parseFrame_sendFrame shown sent

/-! ## A sample message -/

def sampleOptions : ExperimentalWebSocketTakeoverOptions where
  binding := ExperimentalWebSocketTakeoverChannel.sampleBinding
  inputPolicy := ⟨false, false, true, false⟩
  maxInboundBytes := some (some 1)
  maxQueuedInboundMessages := some (some 2)
  maxQueuedInboundBytes := some (some 2)
  maxFrameBytes := some (some 1)
  maxBufferedBytes := some (some 1)

theorem sampleOptions_made : construct sampleOptions =
    .ok ExperimentalWebSocketTakeoverChannel.sampleConfig.toWebSocketChannelSettings := by
  rfl

theorem sampleFrame_shown :
    ∃ message, sendFrame ExperimentalWebSocketTakeoverChannel.sampleFrame = some message ∧
      parseFrame message = some ExperimentalWebSocketTakeoverChannel.sampleFrame :=
  (frames_round_trip sampleOptions_made).1 ExperimentalWebSocketTakeoverChannel.sampleFrame
    (by decide)

/-- A header without data. -/
def sampleHeader : List UInt8 :=
  [0x48, 0x4f, 0x46, 0x31, 1, 0, 0, 1, 0, 1, 0, 0, 0, 0, 0, 0]

/-- The page shows it, but no channel lets a frame through of which it is sent. -/
theorem sampleHeader_shown :
    (∃ frame, parseFrame sampleHeader = some frame) ∧
      ∀ config frame, validateFrame config frame = true → sendFrame frame ≠ some sampleHeader := by
  have written : sampleHeader = frameBytes 1 1 1 [] := by decide
  have shown : parseFrame sampleHeader = some ⟨[], (1 : Nat), (1 : Nat), "image/jpeg"⟩ := by
    rw [written, parseFrame_frameBytes (by decide) (by decide) (by decide)]
    rfl
  refine ⟨⟨_, shown⟩, fun config frame valid sent => ?_⟩
  have size : 16 = frameHeaderBytes + frame.data.length := length_sendFrame sent
  have header : frameHeaderBytes = 16 := rfl
  simp only [validateFrame, Bool.and_eq_true, decide_eq_true_eq] at valid
  have some' : 1 ≤ frame.data.length := valid.1.1.1.1
  omega

end ExecutionHandoff.WebSocket
