import ExecutionHandoff.TakeoverCore.FrameReassembler
import Mathlib.Data.List.Nodup

/-!
# What is sent is what is put together

The datagrams of frames with increasing identities reach the reassembler in any
order, any number of times or not at all.  The pieces it keeps belong to one
frame, and are all pieces of that frame that came.
-/

namespace ExecutionHandoff.TakeoverCore

open Library List
open FrameReassembler (place admitted belongs current ingest agrees)
open VideoPacketHeader (decode decode_encode encodedSize encode_length packetIndex)

/-! ## Cutting a payload -/

/-- Consecutive slices of one size make up the front of a list. -/
theorem flatten_slices {α : Type*} (list : List α) (size count : Nat) :
    ((range count).map fun index => (list.drop (index * size)).take size).flatten =
      list.take (count * size) := by
  induction count with
  | zero => simp
  | succ count ih =>
      rw [range_succ, map_append, flatten_append, ih, Nat.succ_mul, take_add]
      simp

namespace VideoPacketizer

variable (packetizer : VideoPacketizer) (session : VideoSession) (frame : SealedFrame)

theorem maxPayload_pos : 0 < packetizer.maxPayload := by
  have roomy := packetizer.roomy
  unfold maxPayload
  omega

theorem packetCount_pos : 0 < packetizer.packetCount frame :=
  Nat.lt_of_lt_of_le Nat.zero_lt_one (Nat.le_max_left _ _)

/-- There are enough packets for the payload. -/
theorem le_packetCount :
    frame.payload.length ≤ packetizer.packetCount frame * packetizer.maxPayload := by
  have positive := packetizer.maxPayload_pos
  have enough : (frame.payload.length + packetizer.maxPayload - 1) / packetizer.maxPayload ≤
      packetizer.packetCount frame := Nat.le_max_right _ _
  have covered := Nat.mul_le_mul_right packetizer.maxPayload enough
  have rounded := Nat.div_add_mod (frame.payload.length + packetizer.maxPayload - 1)
    packetizer.maxPayload
  have remainder := Nat.mod_lt (frame.payload.length + packetizer.maxPayload - 1) positive
  rw [Nat.mul_comm] at rounded
  omega

/-- The part of the payload in a packet. -/
def part (index : Nat) : List UInt8 :=
  (packetizer.slice session frame index).part frame.payload

/-- The parts of the payload in the order of their packets. -/
def parts : List (List UInt8) :=
  (List.range (packetizer.packetCount frame)).map (packetizer.part session frame)

theorem part_eq (index : Nat) : packetizer.part session frame index =
    (frame.payload.drop (index * packetizer.maxPayload)).take packetizer.maxPayload := by
  unfold part VideoPacketSlice.part slice
  dsimp only
  rw [take_eq_take_iff, length_drop]
  omega

theorem parts_length : (packetizer.parts session frame).length = packetizer.packetCount frame := by
  unfold parts
  rw [length_map, length_range]

theorem parts_getElem? {index : Nat} (inside : index < packetizer.packetCount frame) :
    (packetizer.parts session frame)[index]? = some (packetizer.part session frame index) := by
  unfold parts
  rw [getElem?_map, getElem?_range inside]
  rfl

theorem parts_flatten : (packetizer.parts session frame).flatten = frame.payload := by
  have same : packetizer.part session frame = fun index =>
      (frame.payload.drop (index * packetizer.maxPayload)).take packetizer.maxPayload :=
    funext (packetizer.part_eq session frame)
  unfold parts
  rw [same, flatten_slices, take_of_length_le (packetizer.le_packetCount frame)]

end VideoPacketizer

/-! ## The datagrams of a frame -/

section Datagrams

variable (mac : List UInt8 → List UInt8) (packetizer : VideoPacketizer) (session : VideoSession)

/-- The header of a packet as it is sent. -/
def sentHeader (frame : SealedFrame) (index : Nat) : VideoPacketHeader :=
  VideoHeaderAuthenticator.authenticate mac (packetizer.header session frame index)

def datagram (frame : SealedFrame) (index : Nat) : List UInt8 :=
  (sentHeader mac packetizer session frame index).encode ++ packetizer.part session frame index

/-- The datagram is one of this frame's. -/
def Of (bytes : List UInt8) (frame : SealedFrame) : Prop :=
  ∃ index < packetizer.packetCount frame, bytes = datagram mac packetizer session frame index

/-- The packets of a frame, if they can be numbered. -/
theorem mem_packetize {frame : SealedFrame} (counted : packetizer.packetCount frame ≤ 65535)
    (bytes : List UInt8) :
    (∃ packets ∈ packetizer.packetize mac session frame, bytes ∈ packets) ↔
      Of mac packetizer session bytes frame := by
  have sent : packetizer.packetize mac session frame =
      some ((range (packetizer.packetCount frame)).map
        (datagram mac packetizer session frame)) := by
    unfold VideoPacketizer.packetize VideoPacketizer.forEachPacket
    rw [if_pos counted, Option.map_some, map_map]
    rfl
  rw [sent]
  constructor
  · rintro ⟨packets, same, mem⟩
    cases same
    obtain ⟨index, inside, rfl⟩ := mem_map.mp mem
    exact ⟨index, mem_range.mp inside, rfl⟩
  · rintro ⟨index, inside, rfl⟩
    exact ⟨_, rfl, mem_map_of_mem (mem_range.mpr inside)⟩

variable {mac packetizer session}

theorem decode_datagram (frame : SealedFrame) (index : Nat) :
    decode (datagram mac packetizer session frame index) =
      .ok (sentHeader mac packetizer session frame index) :=
  decode_encode _ _

theorem drop_datagram (frame : SealedFrame) (index : Nat) :
    (datagram mac packetizer session frame index).drop encodedSize =
      packetizer.part session frame index :=
  drop_left' (encode_length _)

theorem datagram_length (frame : SealedFrame) (index : Nat) :
    encodedSize ≤ (datagram mac packetizer session frame index).length ∧
      (datagram mac packetizer session frame index).length ≤ packetizer.maxDatagramBytes := by
  have roomy := packetizer.roomy
  have short : (packetizer.part session frame index).length ≤ packetizer.maxPayload := by
    rw [VideoPacketizer.part_eq]
    exact length_take_le _ _
  have whole : packetizer.maxPayload = packetizer.maxDatagramBytes -
    encodedSize := rfl
  unfold datagram
  rw [length_append, encode_length]
  omega

theorem toNat_ofNat_count {count : Nat} (counted : count ≤ 65535) :
    (UInt16.ofNat count).toNat = count :=
  UInt16.toNat_ofNat_of_lt' (Nat.lt_succ_of_le counted)

/-- A datagram tells its frame and its place there. -/
theorem datagram_injective {first second : SealedFrame} {index other : Nat}
    (counted : packetizer.packetCount first ≤ 65535)
    (counted' : packetizer.packetCount second ≤ 65535)
    (inside : index < packetizer.packetCount first) (inside' : other < packetizer.packetCount second)
    (same : datagram mac packetizer session first index =
      datagram mac packetizer session second other) :
    first.frameID = second.frameID ∧ index = other := by
  have decoded := @decode_datagram mac packetizer session first index
  rw [same, decode_datagram] at decoded
  have headers := Except.ok.inj decoded
  have ids : second.frameID = first.frameID := congrArg VideoPacketHeader.frameID headers
  have places : UInt16.ofNat other = UInt16.ofNat index :=
    congrArg packetIndex headers
  have numbers := congrArg UInt16.toNat places
  rw [toNat_ofNat_count (by omega), toNat_ofNat_count (by omega)] at numbers
  exact ⟨ids.symm, numbers.symm⟩

end Datagrams

/-! ## One datagram -/

section Receiver

variable {config : FrameReassemblerConfig} {mac : List UInt8 → List UInt8}
  {packetizer : VideoPacketizer} {reassembler : FrameReassembler}

/-- Pieces of one frame. -/
structure Partial (config : FrameReassemblerConfig) (mac : List UInt8 → List UInt8)
    (packetizer : VideoPacketizer) (frame : SealedFrame) (assembly : Assembly) : Prop where
  header : ∃ index < packetizer.packetCount frame,
    assembly.header = sentHeader mac packetizer config.session frame index
  agrees : Agrees assembly.parts (packetizer.parts config.session frame)
  received : assembly.received = present assembly.parts
  totalBytes : assembly.totalBytes = held assembly.parts

/-- What the reassembler takes of a frame. -/
structure Fitting (config : FrameReassemblerConfig) (packetizer : VideoPacketizer)
    (frame : SealedFrame) : Prop where
  bytes : frame.payload.length ≤ config.maxFrameBytes
  packets : packetizer.packetCount frame ≤ config.maxPacketCount

theorem Fitting.counted {frame : SealedFrame} (fitting : Fitting config packetizer frame) :
    packetizer.packetCount frame ≤ 65535 :=
  Nat.le_trans fitting.packets config.countsPackets.2

namespace Partial

variable {frame : SealedFrame} {assembly : Assembly}

theorem frameID (part : Partial config mac packetizer frame assembly) :
    assembly.header.frameID = frame.frameID := by
  obtain ⟨index, _, same⟩ := part.header
  rw [same]
  rfl

theorem length (part : Partial config mac packetizer frame assembly) :
    assembly.parts.length = packetizer.packetCount frame := by
  rw [part.agrees.length_eq, VideoPacketizer.parts_length]

theorem begin {index : Nat} (inside : index < packetizer.packetCount frame)
    (counted : packetizer.packetCount frame ≤ 65535) :
    Partial config mac packetizer frame
      (.begin (sentHeader mac packetizer config.session frame index)) := by
  refine ⟨⟨index, inside, rfl⟩, .replicate ?_, (present_replicate _).symm, (held_replicate _).symm⟩
  rw [VideoPacketizer.parts_length]
  exact (toNat_ofNat_count counted).symm

/-- All its pieces together are no longer than what the reassembler takes. -/
theorem held_le (part : Partial config mac packetizer frame assembly)
    (fitting : Fitting config packetizer frame) : held assembly.parts ≤ config.maxFrameBytes := by
  refine Nat.le_trans part.agrees.held_le ?_
  rw [VideoPacketizer.parts_flatten]
  exact fitting.bytes

theorem set {index : Nat} (part : Partial config mac packetizer frame assembly)
    (inside : index < packetizer.packetCount frame) (vacant : assembly.parts[index]? = some none) :
    Partial config mac packetizer frame
      { assembly with
        parts := assembly.parts.set index (some (packetizer.part config.session frame index))
        totalBytes := assembly.totalBytes + (packetizer.part config.session frame index).length
        received := assembly.received + 1 } where
  header := part.header
  agrees := part.agrees.set (packetizer.parts_getElem? config.session frame inside)
  received := by rw [present_set _ vacant, part.received]
  totalBytes := by rw [held_set _ vacant, part.totalBytes]

theorem finish (part : Partial config mac packetizer frame assembly) :
    (present assembly.parts < assembly.parts.length ∧
      reassembler.finish assembly = (.incomplete, { reassembler with assembly := some assembly })) ∨
    reassembler.finish assembly =
      (.complete ⟨assembly.header, frame.payload⟩, ⟨none, some frame.frameID⟩) := by
  unfold FrameReassembler.finish
  rw [part.received]
  by_cases full : present assembly.parts = assembly.parts.length
  · right
    rw [if_neg (not_not_intro full), joined_eq_some part.agrees full,
      VideoPacketizer.parts_flatten, ← part.frameID]
  · left
    exact ⟨Nat.lt_of_le_of_ne (present_le _) full, if_pos full⟩

end Partial

/-- Pieces are only ever added. -/
def Fills (assembly next : Assembly) : Prop :=
  ∀ index : Nat, assembly.parts[index]? ≠ some none → next.parts[index]? ≠ some none

theorem fills_set (assembly : Assembly) (place : Nat) (part : List UInt8) (bytes received : Nat) :
    Fills assembly ⟨assembly.header, assembly.parts.set place (some part), received, bytes⟩ := by
  intro index filled vacant
  rw [getElem?_set] at vacant
  split at vacant
  · split at vacant
    · cases vacant
    · cases vacant
  · exact filled vacant

/-- A piece is put in its place, and there is room for it. -/
theorem place_spec {frame : SealedFrame} {assembly : Assembly} {index : Nat}
    (part : Partial config mac packetizer frame assembly)
    (fitting : Fitting config packetizer frame) (inside : index < packetizer.packetCount frame) :
    ∃ next, Partial config mac packetizer frame next ∧ Fills assembly next ∧
      next.parts[index]? ≠ some none ∧
      reassembler.place config assembly index (packetizer.part config.session frame index) =
        reassembler.finish next := by
  have within : index < assembly.parts.length := part.length ▸ inside
  unfold place
  cases here : assembly.parts.get ⟨index, within⟩ with
  | some old =>
      have there : assembly.parts[index]? = some (some old) :=
        (getElem?_eq_getElem within).trans (congrArg some here)
      refine ⟨assembly, part, fun _ filled => filled, ?_, ?_⟩
      · rw [there]
        intro no
        cases no
      · rw [there]
        rfl
  | none =>
      have vacant : assembly.parts[index]? = some none :=
        (getElem?_eq_getElem within).trans (congrArg some here)
      have added := part.set inside vacant
      have room := added.held_le fitting
      rw [← added.totalBytes] at room
      refine ⟨_, added, fills_set _ _ _ _ _, ?_, ?_⟩
      · rw [getElem?_set_self within]
        intro no
        cases no
      · rw [vacant]
        exact if_neg (Nat.not_lt.mpr room)

theorem admitted_datagram {frame : SealedFrame} {index : Nat}
    (fitting : Fitting config packetizer frame) (inside : index < packetizer.packetCount frame) :
    admitted config mac (datagram mac packetizer config.session frame index) =
      if config.maxDatagramBytes <
          (datagram mac packetizer config.session frame index).length then none
      else some (sentHeader mac packetizer config.session frame index) := by
  have sizes := @datagram_length mac packetizer config.session frame index
  have counted := fitting.counted
  have count : (sentHeader mac packetizer config.session frame index).packetCount.toNat =
      packetizer.packetCount frame := toNat_ofNat_count counted
  have place : (sentHeader mac packetizer config.session frame index).packetIndex.toNat = index :=
    toNat_ofNat_count (by omega)
  have positive := packetizer.packetCount_pos frame
  have own : belongs config
      (sentHeader mac packetizer config.session frame index) = true := by
    unfold belongs
    simp only [Bool.and_eq_true, beq_iff_eq, decide_eq_true_eq, UInt16.lt_iff_toNat_lt, count, place]
    exact ⟨⟨⟨⟨⟨rfl, rfl⟩, rfl⟩, positive⟩, inside⟩, fitting.packets⟩
  have verified := VideoHeaderAuthenticator.verify_authenticate mac
    (packetizer.header config.session frame index)
  unfold admitted
  by_cases long : config.maxDatagramBytes <
      (datagram mac packetizer config.session frame index).length
  · rw [if_pos (.inr long), if_pos long]
  · rw [if_neg (by omega), if_neg long, decode_datagram]
    dsimp only
    rw [own, show VideoHeaderAuthenticator.verify mac (sentHeader mac packetizer config.session
      frame index) = true from verified]
    rfl

end Receiver

/-! ## What has come so far -/

section Receiver

variable {config : FrameReassemblerConfig} {mac : List UInt8 → List UInt8}
  {packetizer : VideoPacketizer} {frames : List SealedFrame}

/-- The frames that are sent, in the order of their identities; the reassembler takes each. -/
structure Stream (config : FrameReassemblerConfig) (packetizer : VideoPacketizer)
    (frames : List SealedFrame) : Prop where
  increasing : frames.Pairwise fun first second => first.frameID < second.frameID
  fitting : ∀ frame ∈ frames, Fitting config packetizer frame

/-- Frames are told apart by their identities. -/
theorem Stream.unique (stream : Stream config packetizer frames) {first second : SealedFrame}
    (mem : first ∈ frames) (mem' : second ∈ frames) (same : first.frameID = second.frameID) :
    first = second := by
  have distinct : (frames.map SealedFrame.frameID).Nodup := by
    refine pairwise_map.mpr (stream.increasing.imp fun {first second} lower equal => ?_)
    exact UInt64.lt_irrefl _ (equal ▸ lower)
  exact inj_on_of_nodup_map distinct mem mem' same

/-- What is kept, seen against the datagrams that came and what was made of each. -/
structure Progress (config : FrameReassemblerConfig) (mac : List UInt8 → List UInt8)
    (packetizer : VideoPacketizer) (frames : List SealedFrame)
    (past : List (List UInt8 × FrameReassemblyResult)) (reassembler : FrameReassembler) : Prop where
  completed : ∀ call ∈ past, ∀ frame', call.2 = .complete frame' → ∃ frame ∈ frames,
    (∃ index < packetizer.packetCount frame,
      frame'.header = sentHeader mac packetizer config.session frame index) ∧
    frame'.sealedPayload = frame.payload ∧ Of mac packetizer config.session call.1 frame
  highest : ∀ highest, reassembler.highestCompletedFrameID = some highest →
    ∃ call ∈ past, ∃ frame, call.2 = .complete frame ∧ frame.header.frameID = highest
  below : ∀ call ∈ past, ∀ frame, call.2 = .complete frame →
    ∃ highest, reassembler.highestCompletedFrameID = some highest ∧
      frame.header.frameID ≤ highest
  increasing : past.Pairwise fun first second => ∀ frame frame', first.2 = .complete frame →
    second.2 = .complete frame' → frame.header.frameID < frame'.header.frameID
  assembled : ∀ assembly, reassembler.assembly = some assembly → ∃ frame ∈ frames,
    Partial config mac packetizer frame assembly ∧
    present assembly.parts < assembly.parts.length ∧
    (∃ call ∈ past, Of mac packetizer config.session call.1 frame) ∧
    ∀ highest, reassembler.highestCompletedFrameID = some highest → highest < frame.frameID
  collected : packetizer.maxDatagramBytes ≤ config.maxDatagramBytes → ∀ frame ∈ frames,
    (∃ call ∈ past, Of mac packetizer config.session call.1 frame) →
    (∀ call ∈ past, ∀ newer ∈ frames, Of mac packetizer config.session call.1 newer →
      newer.frameID ≤ frame.frameID) →
    (∃ call ∈ past, ∃ frame', call.2 = .complete frame' ∧
      frame'.header.frameID = frame.frameID) ∨
    ∃ assembly, reassembler.assembly = some assembly ∧
      assembly.header.frameID = frame.frameID ∧
      ∀ call ∈ past, ∀ index < packetizer.packetCount frame,
        call.1 = datagram mac packetizer config.session frame index →
        assembly.parts[index]? ≠ some none

theorem initial_progress : Progress config mac packetizer frames [] .initial where
  completed := fun _ no => by cases no
  highest := fun _ no => by cases no
  below := fun _ no => by cases no
  increasing := .nil
  assembled := fun _ no => by cases no
  collected := fun _ _ _ no => by
    obtain ⟨_, no, _⟩ := no
    cases no

variable {past : List (List UInt8 × FrameReassemblyResult)} {reassembler : FrameReassembler}

/-- The pieces that the reassembler goes on with are pieces of the datagram's frame. -/
theorem current_spec (stream : Stream config packetizer frames) {frame : SealedFrame} {index : Nat}
    (mem : frame ∈ frames) (inside : index < packetizer.packetCount frame)
    (assembled : ∀ assembly, reassembler.assembly = some assembly →
      ∃ frame ∈ frames, Partial config mac packetizer frame assembly)
    (fresh : reassembler.stale (sentHeader mac packetizer config.session frame index) = false) :
    Partial config mac packetizer frame
      (reassembler.current (sentHeader mac packetizer config.session frame index)) ∧
    ∀ assembly, reassembler.assembly = some assembly →
      assembly.header.frameID = frame.frameID →
      reassembler.current (sentHeader mac packetizer config.session frame index) = assembly := by
  have begun : Partial config mac packetizer frame
      (.begin (sentHeader mac packetizer config.session frame index)) :=
    .begin inside (stream.fitting frame mem).counted
  unfold current
  cases held : reassembler.assembly with
  | none => exact ⟨begun, fun _ no => by cases no⟩
  | some assembly =>
      obtain ⟨own, mem', part⟩ := assembled assembly held
      have bound : ¬ frame.frameID < assembly.header.frameID := by
        have both := (Bool.or_eq_false_iff.mp fresh).2
        rw [held] at both
        exact of_decide_eq_false both
      dsimp only
      split
      · rename_i newer
        refine ⟨begun, fun assembly' same id => ?_⟩
        cases same
        change assembly.header.frameID < frame.frameID at newer
        exact absurd (id ▸ newer) (UInt64.lt_irrefl _)
      · rename_i older
        have id : own.frameID = frame.frameID := by
          rw [← part.frameID]
          exact UInt64.le_antisymm (UInt64.not_lt.mp bound) (UInt64.not_lt.mp older)
        have same := stream.unique mem' mem id
        subst same
        exact ⟨part, fun assembly' same _ => Option.some.inj same⟩

/-- A datagram is too long for the reassembler, comes too late, or adds to the pieces of its
frame. -/
theorem ingest_spec (stream : Stream config packetizer frames) {frame : SealedFrame} {index : Nat}
    (mem : frame ∈ frames) (inside : index < packetizer.packetCount frame)
    (assembled : ∀ assembly, reassembler.assembly = some assembly →
      ∃ frame ∈ frames, Partial config mac packetizer frame assembly) :
    (config.maxDatagramBytes < packetizer.maxDatagramBytes ∧
      reassembler.ingest config mac (datagram mac packetizer config.session frame index) =
        (.droppedInvalid, reassembler)) ∨
    (reassembler.stale (sentHeader mac packetizer config.session frame index) = true ∧
      reassembler.ingest config mac (datagram mac packetizer config.session frame index) =
        (.droppedStale, reassembler)) ∨
    (reassembler.stale (sentHeader mac packetizer config.session frame index) = false ∧
      ∃ next, Partial config mac packetizer frame next ∧ next.parts[index]? ≠ some none ∧
        (∀ assembly, reassembler.assembly = some assembly →
          assembly.header.frameID = frame.frameID → Fills assembly next) ∧
        reassembler.ingest config mac (datagram mac packetizer config.session frame index) =
          reassembler.finish next) := by
  have fitting := stream.fitting frame mem
  have sizes := @datagram_length mac packetizer config.session frame index
  unfold ingest
  rw [admitted_datagram fitting inside]
  by_cases long : config.maxDatagramBytes <
      (datagram mac packetizer config.session frame index).length
  · left
    rw [if_pos long]
    exact ⟨Nat.lt_of_lt_of_le long sizes.2, rfl⟩
  · right
    rw [if_neg long]
    dsimp only
    cases fresh : reassembler.stale (sentHeader mac packetizer config.session frame index) with
    | true => exact .inl ⟨rfl, rfl⟩
    | false =>
        right
        obtain ⟨part, kept⟩ := current_spec stream mem inside assembled fresh
        obtain ⟨next, grown, fills, filled, placed⟩ :=
          @place_spec _ _ _ reassembler _ _ _ part fitting inside
        have agreed : agrees
            (reassembler.current (sentHeader mac packetizer config.session frame index)).header
            (sentHeader mac packetizer config.session frame index) = true := by
          obtain ⟨first, _, same⟩ := part.header
          rw [same]
          unfold agrees
          simp only [Bool.and_eq_true, beq_iff_eq]
          exact ⟨⟨⟨⟨rfl, rfl⟩, rfl⟩, rfl⟩, rfl⟩
        have place : (sentHeader mac packetizer config.session frame index).packetIndex.toNat =
            index := toNat_ofNat_count (Nat.le_of_lt (Nat.lt_of_lt_of_le inside fitting.counted))
        refine ⟨rfl, next, grown, filled, ?_, ?_⟩
        · intro assembly held id
          rw [kept assembly held id] at fills
          exact fills
        · rw [if_neg (by decide), if_pos agreed, place, drop_datagram]
          exact placed

end Receiver

/-! ## Runs -/

section Receiver

variable {config : FrameReassemblerConfig} {mac : List UInt8 → List UInt8}
  {packetizer : VideoPacketizer} {frames : List SealedFrame}
  {past : List (List UInt8 × FrameReassemblyResult)} {reassembler reassembler' : FrameReassembler}

/-- What is not stale is newer than what was completed, and no older than what is kept. -/
theorem fresh_spec {header : VideoPacketHeader} (fresh : reassembler.stale header = false) :
    (∀ highest, reassembler.highestCompletedFrameID = some highest → highest < header.frameID) ∧
    ∀ assembly, reassembler.assembly = some assembly →
      assembly.header.frameID ≤ header.frameID := by
  obtain ⟨done, kept⟩ := Bool.or_eq_false_iff.mp fresh
  constructor
  · intro highest same
    rw [same] at done
    exact UInt64.not_le.mp (of_decide_eq_false done)
  · intro assembly same
    rw [same] at kept
    exact UInt64.not_lt.mp (of_decide_eq_false kept)

theorem stale_spec {header : VideoPacketHeader} (stale : reassembler.stale header = true) :
    (∃ highest, reassembler.highestCompletedFrameID = some highest ∧ header.frameID ≤ highest) ∨
    ∃ assembly, reassembler.assembly = some assembly ∧
      header.frameID < assembly.header.frameID := by
  rcases Bool.or_eq_true_iff.mp stale with done | kept
  · obtain ⟨highest, same, bound⟩ := (Option.any_eq_true _ _).mp done
    exact .inl ⟨highest, same, of_decide_eq_true bound⟩
  · obtain ⟨assembly, same, bound⟩ := (Option.any_eq_true _ _).mp kept
    exact .inr ⟨assembly, same, of_decide_eq_true bound⟩

/-- A result that hands on no frame adds nothing to what was completed. -/
theorem pairwise_idle {call : List UInt8 × FrameReassemblyResult}
    (progress : Progress config mac packetizer frames past reassembler)
    (idle : ∀ frame, call.2 ≠ .complete frame) :
    (past ++ [call]).Pairwise fun first second => ∀ frame frame', first.2 = .complete frame →
      second.2 = .complete frame' → frame.header.frameID < frame'.header.frameID := by
  refine pairwise_append.mpr ⟨progress.increasing, pairwise_singleton _ _, ?_⟩
  intro first _ second mem frame frame' _ no
  cases mem_singleton.mp mem
  exact absurd no (idle frame')

/-- Which frame a datagram is of. -/
theorem Of.unique (stream : Stream config packetizer frames) {bytes : List UInt8}
    {first second : SealedFrame} (mem : first ∈ frames) (mem' : second ∈ frames)
    (one : Of mac packetizer config.session bytes first)
    (other : Of mac packetizer config.session bytes second) : first = second := by
  obtain ⟨index, inside, rfl⟩ := one
  obtain ⟨index', inside', same⟩ := other
  exact stream.unique mem mem' (datagram_injective (stream.fitting first mem).counted
    (stream.fitting second mem').counted inside inside' same).1

/-- The same state after a datagram that changed nothing. -/
theorem progress_idle {call : List UInt8 × FrameReassemblyResult}
    (progress : Progress config mac packetizer frames past reassembler)
    (idle : ∀ frame, call.2 ≠ .complete frame)
    (collected : packetizer.maxDatagramBytes ≤ config.maxDatagramBytes → ∀ frame ∈ frames,
      (∃ call' ∈ past ++ [call], Of mac packetizer config.session call'.1 frame) →
      (∀ call' ∈ past ++ [call], ∀ newer ∈ frames, Of mac packetizer config.session call'.1 newer →
        newer.frameID ≤ frame.frameID) →
      (∃ call' ∈ past, ∃ frame', call'.2 = .complete frame' ∧
        frame'.header.frameID = frame.frameID) ∨
      (∃ call' ∈ past, Of mac packetizer config.session call'.1 frame) ∧
        ∀ assembly, reassembler.assembly = some assembly →
          assembly.header.frameID = frame.frameID → ∀ index < packetizer.packetCount frame,
          call.1 = datagram mac packetizer config.session frame index →
          assembly.parts[index]? ≠ some none) :
    Progress config mac packetizer frames (past ++ [call]) reassembler where
  completed := fun call' mem frame' done => by
    rcases mem_append.mp mem with old | new
    · exact progress.completed call' old frame' done
    · cases mem_singleton.mp new
      exact absurd done (idle frame')
  highest := fun highest same => by
    obtain ⟨call', mem, rest⟩ := progress.highest highest same
    exact ⟨call', mem_append_left _ mem, rest⟩
  below := fun call' mem frame done => by
    rcases mem_append.mp mem with old | new
    · exact progress.below call' old frame done
    · cases mem_singleton.mp new
      exact absurd done (idle frame)
  increasing := pairwise_idle progress idle
  assembled := fun assembly same => by
    obtain ⟨frame, mem, part, short, ⟨call', mem', own⟩, above⟩ := progress.assembled assembly same
    exact ⟨frame, mem, part, short, ⟨call', mem_append_left _ mem', own⟩, above⟩
  collected := fun fits frame mem came newest => by
    rcases collected fits frame mem came newest with ⟨call', mem', done⟩ | ⟨before, late⟩
    · exact .inl ⟨call', mem_append_left _ mem', done⟩
    · have newest' := fun call' mem' => newest call' (mem_append_left _ mem')
      rcases progress.collected fits frame mem before newest' with
        ⟨call', mem', done⟩ | ⟨assembly, same, id, filled⟩
      · exact .inl ⟨call', mem_append_left _ mem', done⟩
      · refine .inr ⟨assembly, same, id, fun call' mem' index inside own => ?_⟩
        rcases mem_append.mp mem' with old | new
        · exact filled call' old index inside own
        · cases mem_singleton.mp new
          exact late assembly same id index inside own

/-- A datagram that comes too late is of a frame that is older than the one kept, or of one that
was completed. -/
theorem progress_stale (stream : Stream config packetizer frames)
    (progress : Progress config mac packetizer frames past reassembler) {frame : SealedFrame}
    {index : Nat} (mem : frame ∈ frames) (inside : index < packetizer.packetCount frame)
    (stale : reassembler.stale (sentHeader mac packetizer config.session frame index) = true) :
    Progress config mac packetizer frames
      (past ++ [(datagram mac packetizer config.session frame index, .droppedStale)])
      reassembler := by
  refine progress_idle progress (fun _ no => by cases no) fun fits target mem' came newest => ?_
  have own : Of mac packetizer config.session
      (datagram mac packetizer config.session frame index) frame := ⟨index, inside, rfl⟩
  have last := newest _ (mem_append_right _ (.head _)) frame mem own
  have other (apart : frame ≠ target) :
      (∃ call ∈ past, Of mac packetizer config.session call.1 target) ∧
        ∀ assembly, reassembler.assembly = some assembly →
          assembly.header.frameID = target.frameID → ∀ place < packetizer.packetCount target,
          datagram mac packetizer config.session frame index =
            datagram mac packetizer config.session target place →
          assembly.parts[place]? ≠ some none := by
    refine ⟨?_, fun _ _ _ place inside' wrong => ?_⟩
    · obtain ⟨call, mem'', own'⟩ := came
      rcases mem_append.mp mem'' with old | new
      · exact ⟨call, old, own'⟩
      · cases mem_singleton.mp new
        exact absurd (Of.unique stream mem mem' own own') apart
    · exact absurd (Of.unique stream mem mem' own ⟨place, inside', wrong⟩) apart
  rcases stale_spec stale with ⟨highest, same, bound⟩ | ⟨assembly, same, bound⟩
  · -- The frame was completed, or one that is newer than it.
    change frame.frameID ≤ highest at bound
    obtain ⟨call, old, frame', done, id⟩ := progress.highest highest same
    obtain ⟨target', mem'', ⟨place, _, header⟩, _, own'⟩ := progress.completed call old frame' done
    have id' : frame'.header.frameID = target'.frameID := by
      rw [header]
      rfl
    have before := newest call (mem_append_left _ old) target' mem'' own'
    by_cases equal : target.frameID = highest
    · exact .inl ⟨call, old, frame', done, id.trans equal.symm⟩
    · refine .inr (other ?_)
      rintro rfl
      refine equal (UInt64.le_antisymm bound ?_)
      rw [← id, id']
      exact before
  · -- A newer frame is kept, so the datagram is not of the newest.
    change frame.frameID < assembly.header.frameID at bound
    obtain ⟨kept, mem'', part, _, ⟨call, old, own'⟩, _⟩ := progress.assembled assembly same
    have before := newest call (mem_append_left _ old) kept mem'' own'
    refine .inr (other ?_)
    rintro rfl
    rw [part.frameID] at bound
    exact UInt64.lt_irrefl _ (UInt64.lt_of_lt_of_le bound before)

/-- What a datagram adds to is complete, or holds every piece of the newest frame that came. -/
theorem collected_next (stream : Stream config packetizer frames)
    (progress : Progress config mac packetizer frames past reassembler) {frame : SealedFrame}
    {index : Nat} {next : Assembly} {result : FrameReassemblyResult} (mem : frame ∈ frames)
    (inside : index < packetizer.packetCount frame)
    (fresh : reassembler.stale (sentHeader mac packetizer config.session frame index) = false)
    (filled : next.parts[index]? ≠ some none)
    (fills : ∀ assembly, reassembler.assembly = some assembly →
      assembly.header.frameID = frame.frameID → Fills assembly next)
    (fits : packetizer.maxDatagramBytes ≤ config.maxDatagramBytes) {target : SealedFrame}
    (mem' : target ∈ frames)
    (came : ∃ call ∈ past ++ [(datagram mac packetizer config.session frame index, result)],
      Of mac packetizer config.session call.1 target)
    (newest : ∀ call ∈ past ++ [(datagram mac packetizer config.session frame index, result)],
      ∀ newer ∈ frames, Of mac packetizer config.session call.1 newer →
        newer.frameID ≤ target.frameID) :
    (∃ call ∈ past, ∃ frame', call.2 = .complete frame' ∧
      frame'.header.frameID = target.frameID) ∨
    target = frame ∧
      ∀ call ∈ past ++ [(datagram mac packetizer config.session frame index, result)],
        ∀ place < packetizer.packetCount frame,
        call.1 = datagram mac packetizer config.session frame place →
        next.parts[place]? ≠ some none := by
  have own : Of mac packetizer config.session
      (datagram mac packetizer config.session frame index) frame := ⟨index, inside, rfl⟩
  have last := newest _ (mem_append_right _ (.head _)) frame mem own
  have newest' := fun call mem' => newest call (mem_append_left _ mem')
  have counted := (stream.fitting frame mem).counted
  have latest : ∀ place < packetizer.packetCount frame,
      datagram mac packetizer config.session frame index =
        datagram mac packetizer config.session frame place → next.parts[place]? ≠ some none := by
    intro place inside' same
    rw [← (datagram_injective counted counted inside inside' same).2]
    exact filled
  by_cases before : ∃ call ∈ past, Of mac packetizer config.session call.1 target
  · rcases progress.collected fits target mem' before newest' with done | ⟨assembly, held, id, all⟩
    · exact .inl done
    · -- What is kept is of the newest frame, and so is a datagram that is not stale.
      have bound := (fresh_spec fresh).2 assembly held
      change assembly.header.frameID ≤ frame.frameID at bound
      have same : target = frame := stream.unique mem' mem
        (UInt64.le_antisymm (id ▸ bound) last)
      subst same
      refine .inr ⟨rfl, fun call mem'' place inside' own' => ?_⟩
      rcases mem_append.mp mem'' with old | new
      · exact fills assembly held id place (all call old place inside' own')
      · cases mem_singleton.mp new
        exact latest place inside' own'
  · obtain ⟨call, mem'', own'⟩ := came
    rcases mem_append.mp mem'' with old | new
    · exact absurd ⟨call, old, own'⟩ before
    · cases mem_singleton.mp new
      have same := Of.unique stream mem mem' own own'
      subst same
      refine .inr ⟨rfl, fun call mem'' place inside' own'' => ?_⟩
      rcases mem_append.mp mem'' with old | new
      · exact absurd ⟨call, old, place, inside', own''⟩ before
      · cases mem_singleton.mp new
        exact latest place inside' own''

/-- A datagram that is not stale adds to the pieces of its frame, and may complete it. -/
theorem progress_fresh (stream : Stream config packetizer frames)
    (progress : Progress config mac packetizer frames past reassembler) {frame : SealedFrame}
    {index : Nat} {next : Assembly} {result : FrameReassemblyResult} (mem : frame ∈ frames)
    (inside : index < packetizer.packetCount frame)
    (fresh : reassembler.stale (sentHeader mac packetizer config.session frame index) = false)
    (part : Partial config mac packetizer frame next) (filled : next.parts[index]? ≠ some none)
    (fills : ∀ assembly, reassembler.assembly = some assembly →
      assembly.header.frameID = frame.frameID → Fills assembly next)
    (finished : reassembler.finish next = (result, reassembler')) :
    Progress config mac packetizer frames
      (past ++ [(datagram mac packetizer config.session frame index, result)]) reassembler' := by
  have own : Of mac packetizer config.session
      (datagram mac packetizer config.session frame index) frame := ⟨index, inside, rfl⟩
  have above := (fresh_spec fresh).1
  have collected := fun fits target mem' =>
    @collected_next _ _ _ _ _ reassembler stream progress _ _ _ result mem inside fresh filled
      fills fits target mem'
  rcases @Partial.finish _ _ _ reassembler _ _ part with ⟨short, kept⟩ | complete
  · rw [kept] at finished
    cases finished
    have idle : ∀ frame, FrameReassemblyResult.incomplete ≠ .complete frame :=
      fun _ no => by cases no
    refine ⟨fun call mem' frame' done => ?_, fun highest same => ?_, fun call mem' frame' done => ?_,
      pairwise_idle progress idle, fun assembly same => ?_, fun fits target mem' came newest => ?_⟩
    · rcases mem_append.mp mem' with old | new
      · exact progress.completed call old frame' done
      · cases mem_singleton.mp new
        cases done
    · obtain ⟨call, old, rest⟩ := progress.highest highest same
      exact ⟨call, mem_append_left _ old, rest⟩
    · rcases mem_append.mp mem' with old | new
      · exact progress.below call old frame' done
      · cases mem_singleton.mp new
        cases done
    · cases same
      exact ⟨frame, mem, part, short, ⟨_, mem_append_right _ (.head _), own⟩, above⟩
    · rcases collected fits target mem' came newest with ⟨call, old, done⟩ | ⟨rfl, all⟩
      · exact .inl ⟨call, mem_append_left _ old, done⟩
      · exact .inr ⟨next, rfl, part.frameID, all⟩
  · rw [complete] at finished
    cases finished
    refine ⟨fun call mem' frame' done => ?_, fun highest same => ?_, fun call mem' frame' done => ?_,
      pairwise_append.mpr ⟨progress.increasing, pairwise_singleton _ _, ?_⟩,
      (fun assembly no => by cases no), fun fits target mem' came newest => ?_⟩
    · rcases mem_append.mp mem' with old | new
      · exact progress.completed call old frame' done
      · cases mem_singleton.mp new
        cases done
        exact ⟨frame, mem, part.header, rfl, own⟩
    · cases same
      exact ⟨_, mem_append_right _ (.head _), _, rfl, part.frameID⟩
    · refine ⟨frame.frameID, rfl, ?_⟩
      rcases mem_append.mp mem' with old | new
      · obtain ⟨highest, same, bound⟩ := progress.below call old frame' done
        exact UInt64.le_of_lt (UInt64.lt_of_le_of_lt bound (above highest same))
      · cases mem_singleton.mp new
        cases done
        exact UInt64.le_of_eq part.frameID
    · intro first old second new frame' frame'' done done'
      cases mem_singleton.mp new
      cases done'
      obtain ⟨highest, same, bound⟩ := progress.below first old frame' done
      change frame'.header.frameID < next.header.frameID
      rw [part.frameID]
      exact UInt64.lt_of_le_of_lt bound (above highest same)
    · rcases collected fits target mem' came newest with ⟨call, old, done⟩ | ⟨rfl, _⟩
      · exact .inl ⟨call, mem_append_left _ old, done⟩
      · exact .inl ⟨_, mem_append_right _ (.head _), _, rfl, part.frameID⟩

/-- A step on a datagram of one of the frames. -/
abbrev SentStep (config : FrameReassemblerConfig) (mac : List UInt8 → List UInt8)
    (packetizer : VideoPacketizer) (frames : List SealedFrame) :
    FrameReassembler → List UInt8 × FrameReassemblyResult → FrameReassembler → Prop :=
  Guarded (FrameReassembler.Step config mac) fun _ call =>
    ∃ frame ∈ frames, ∃ packets ∈ packetizer.packetize mac config.session frame, call.1 ∈ packets

theorem step_progress (stream : Stream config packetizer frames)
    {call : List UInt8 × FrameReassemblyResult}
    (step : SentStep config mac packetizer frames reassembler call reassembler')
    (progress : Progress config mac packetizer frames past reassembler) :
    Progress config mac packetizer frames (past ++ [call]) reassembler' := by
  obtain ⟨bytes, result⟩ := call
  obtain ⟨ingested, frame, mem, sent⟩ := step
  obtain ⟨index, inside, rfl⟩ := (mem_packetize mac packetizer config.session
    (stream.fitting frame mem).counted bytes).mp sent
  change reassembler.ingest config mac _ = (result, reassembler') at ingested
  have assembled : ∀ assembly, reassembler.assembly = some assembly →
      ∃ frame ∈ frames, Partial config mac packetizer frame assembly := by
    intro assembly held
    obtain ⟨own, mem', part, _⟩ := progress.assembled assembly held
    exact ⟨own, mem', part⟩
  rcases @ingest_spec _ mac _ _ _ stream _ _ mem inside assembled with
    ⟨long, dropped⟩ | ⟨stale, dropped⟩ | ⟨fresh, next, part, filled, fills, finished⟩
  · rw [dropped] at ingested
    cases ingested
    exact progress_idle progress (fun _ no => by cases no)
      (fun fits => absurd long (Nat.not_lt.mpr fits))
  · rw [dropped] at ingested
    cases ingested
    exact progress_stale stream progress mem inside stale
  · rw [finished] at ingested
    exact progress_fresh stream progress mem inside fresh part filled fills ingested

theorem run_progress (stream : Stream config packetizer frames)
    {calls : List (List UInt8 × FrameReassemblyResult)} {last : FrameReassembler}
    (run : Run (SentStep config mac packetizer frames) .initial calls last) :
    Progress config mac packetizer frames calls last :=
  @Run.history _ _ _ (Progress config mac packetizer frames) [] _ _ _ run
    (fun step progress => step_progress stream step progress) initial_progress

/-- A frame is completed once all its datagrams have come and none of a newer frame has. -/
theorem run_completes (stream : Stream config packetizer frames)
    {calls : List (List UInt8 × FrameReassemblyResult)} {last : FrameReassembler}
    (run : Run (SentStep config mac packetizer frames) .initial calls last)
    (fits : packetizer.maxDatagramBytes ≤ config.maxDatagramBytes) {frame : SealedFrame}
    (mem : frame ∈ frames)
    (all : ∀ packets ∈ packetizer.packetize mac config.session frame, ∀ packet ∈ packets,
      ∃ call ∈ calls, call.1 = packet)
    (none : ∀ newer ∈ frames, frame.frameID < newer.frameID →
      ∀ packets ∈ packetizer.packetize mac config.session newer, ∀ call ∈ calls,
        call.1 ∉ packets) :
    ∃ call ∈ calls, ∃ completed, call.2 = .complete completed ∧
      completed.header.frameID = frame.frameID := by
  have progress := run_progress stream run
  have counted := (stream.fitting frame mem).counted
  have each : ∀ index < packetizer.packetCount frame, ∃ call ∈ calls,
      call.1 = datagram mac packetizer config.session frame index := by
    intro index inside
    obtain ⟨packets, sent, mem'⟩ := (mem_packetize mac packetizer config.session counted _).mpr
      ⟨index, inside, rfl⟩
    exact all packets sent _ mem'
  obtain ⟨call, mem', same⟩ := each 0 (packetizer.packetCount_pos frame)
  have newest : ∀ call ∈ calls, ∀ newer ∈ frames,
      Of mac packetizer config.session call.1 newer → newer.frameID ≤ frame.frameID := by
    intro call mem' newer mem'' own
    refine UInt64.not_lt.mp fun later => ?_
    obtain ⟨packets, sent, mem'''⟩ := (mem_packetize mac packetizer config.session
      (stream.fitting newer mem'').counted call.1).mpr own
    exact none newer mem'' later packets sent call mem' mem'''
  rcases progress.collected fits frame mem ⟨call, mem', 0, packetizer.packetCount_pos frame, same⟩
    newest with done | ⟨assembly, held, id, filled⟩
  · exact done
  · -- What is kept lacks a piece, but all pieces came.
    obtain ⟨own, mem'', part, short, _⟩ := progress.assembled assembly held
    have same := stream.unique mem'' mem (part.frameID.symm.trans id)
    subst same
    obtain ⟨index, vacant⟩ := exists_vacant short
    have inside : index < packetizer.packetCount own := by
      rw [← part.length]
      exact (List.getElem?_eq_some_iff.mp vacant).1
    obtain ⟨call, mem''', same⟩ := each index inside
    exact absurd vacant (filled call mem''' index inside same)

end Receiver

/-! ## Sample frames -/

def sampleSession : VideoSession := ⟨10, 20, 3⟩

def samplePacketizer : VideoPacketizer := ⟨74, by decide⟩

def sampleConfig : FrameReassemblerConfig where
  session := sampleSession
  maxFrameBytes := 8
  maxPacketCount := 4
  maxDatagramBytes := 80
  holdsBytes := by decide
  countsPackets := by decide
  holdsHeader := by decide

def sampleMac (bytes : List UInt8) : List UInt8 := bytes.drop 16

/-- A frame of two packets and an empty one. -/
def sampleFrames : List SealedFrame := [⟨5, 1, 100, 200, [1, 2, 3]⟩, ⟨4, 2, 300, 400, []⟩]

def sampleDatagram (frame index : Nat) : List UInt8 :=
  ((sampleFrames[frame]?.bind (samplePacketizer.packetize sampleMac sampleSession)).bind
    fun packets => packets[index]?).getD []

/-- The packets of the first frame come in the wrong order, one of them twice. -/
def sampleArrivals : List (List UInt8) :=
  [sampleDatagram 0 1, sampleDatagram 0 1, sampleDatagram 0 0, sampleDatagram 1 0,
    sampleDatagram 0 0]

def sampleCalls : List (List UInt8 × FrameReassemblyResult) × FrameReassembler :=
  replayCalls (fun datagram reassembler => reassembler.ingest sampleConfig sampleMac datagram)
    .initial sampleArrivals

theorem sampleStream : Stream sampleConfig samplePacketizer sampleFrames where
  increasing := by decide
  fitting := fun frame mem => by
    rcases mem_cons.mp mem with rfl | mem
    · exact ⟨by decide, by decide⟩
    · cases mem_singleton.mp mem
      exact ⟨by decide, by decide⟩

def sampleSends (bytes : List UInt8) : Bool :=
  sampleFrames.any fun frame =>
    (samplePacketizer.packetize sampleMac sampleSession frame).any fun packets =>
      packets.contains bytes

theorem sampleCalls_run : Run (SentStep sampleConfig sampleMac samplePacketizer sampleFrames)
    .initial sampleCalls.1 sampleCalls.2 := by
  have met : meetCalls
      (fun datagram reassembler => ingest sampleConfig sampleMac reassembler datagram)
      (fun _ bytes => sampleSends bytes) .initial sampleArrivals = true := by decide +kernel
  refine (replayCalls_guarded _ met).mono fun {_ call _} step => ⟨step.1, ?_⟩
  obtain ⟨frame, mem, sent⟩ := any_eq_true.mp step.2
  obtain ⟨packets, same, mem'⟩ := (Option.any_eq_true _ _).mp sent
  exact ⟨frame, mem, packets, same, contains_iff_mem.mp mem'⟩

end ExecutionHandoff.TakeoverCore
