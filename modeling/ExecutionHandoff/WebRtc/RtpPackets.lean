import ExecutionHandoff.Library.BigEndian

/-!
# The RTP packets of a frame

`splitAvcc` and `sendFrame` of the WebRTC runtime, and the receiver of H.264
packets that they are meant for.  A runtime sends one frame at a time to a
sender; a send ends early when the peer is gone or the sender throws.
-/

namespace ExecutionHandoff.WebRtc

open Library List

/-! ## Units of a sample -/

/-- The units of a sample, unless `splitAvcc` returns early. -/
def avccUnits (sample : List UInt8) : Option (List (List UInt8)) :=
  match sample with
  | l₀ :: l₁ :: l₂ :: l₃ :: rest =>
      if fromBigEndian 0 [l₀, l₁, l₂, l₃] < 1 ∨
          rest.length < fromBigEndian 0 [l₀, l₁, l₂, l₃] then none
      else (avccUnits (rest.drop (fromBigEndian 0 [l₀, l₁, l₂, l₃]))).map
        (rest.take (fromBigEndian 0 [l₀, l₁, l₂, l₃]) :: ·)
  | [] => some []
  | _ => none
  termination_by sample.length
  decreasing_by
    simp only [List.length_drop, List.length_cons]
    omega

def splitAvcc (sample : List UInt8) : List (List UInt8) := (avccUnits sample).getD []

/-- A unit behind its length. -/
def prefixed (unit : List UInt8) : List UInt8 := bigEndian 4 unit.length ++ unit

theorem avccUnits_cons (l₀ l₁ l₂ l₃ : UInt8) (rest : List UInt8) :
    avccUnits (l₀ :: l₁ :: l₂ :: l₃ :: rest) =
      if fromBigEndian 0 [l₀, l₁, l₂, l₃] < 1 ∨
          rest.length < fromBigEndian 0 [l₀, l₁, l₂, l₃] then none
      else (avccUnits (rest.drop (fromBigEndian 0 [l₀, l₁, l₂, l₃]))).map
        (rest.take (fromBigEndian 0 [l₀, l₁, l₂, l₃]) :: ·) := by
  rw [avccUnits]

/-- A unit in front of a sample is its first unit. -/
theorem avccUnits_prefixed {unit : List UInt8} (content : unit ≠ [])
    (bound : unit.length < 256 ^ 4) (rest : List UInt8) :
    avccUnits (prefixed unit ++ rest) = (avccUnits rest).map (unit :: ·) := by
  have spelled := fromBigEndian_bigEndian 4 unit.length 0
  rw [Nat.zero_mul, Nat.zero_add, Nat.mod_eq_of_lt bound] at spelled
  obtain ⟨l₀, l₁, l₂, l₃, four⟩ : ∃ l₀ l₁ l₂ l₃, bigEndian 4 unit.length = [l₀, l₁, l₂, l₃] :=
    ⟨_, _, _, _, rfl⟩
  rw [four] at spelled
  have some := length_pos_iff.mpr content
  rw [prefixed, four]
  change avccUnits (l₀ :: l₁ :: l₂ :: l₃ :: (unit ++ rest)) = _
  rw [avccUnits_cons, spelled, if_neg, take_left, drop_left]
  rw [length_append]
  omega

/-- The units of a sample are all there is in it. -/
theorem avccUnits_eq_some {sample : List UInt8} {units : List (List UInt8)}
    (split : avccUnits sample = some units) :
    sample = units.flatMap prefixed ∧ ∀ unit ∈ units, unit ≠ [] := by
  induction size : sample.length using Nat.strongRecOn generalizing sample units with
  | ind size ih =>
      subst size
      match sample with
      | l₀ :: l₁ :: l₂ :: l₃ :: rest =>
          rw [avccUnits_cons] at split
          split at split
          · cases split
          · rename_i fits
            rw [not_or, Nat.not_lt, Nat.not_lt] at fits
            obtain ⟨others, later, rfl⟩ := Option.map_eq_some_iff.mp split
            obtain ⟨same, content⟩ := ih _ (by simp only [length_drop, length_cons]; omega)
              later rfl
            have whole := length_take_of_le fits.2
            have spelled := bigEndian_fromBigEndian [l₀, l₁, l₂, l₃]
            change bigEndian 4 _ = _ at spelled
            refine ⟨?_, forall_mem_cons.mpr ⟨?_, content⟩⟩
            · rw [flatMap_cons, ← same, prefixed, whole, spelled]
              simp
            · refine ne_nil_of_length_pos ?_
              rw [whole]
              exact fits.1
      | [] =>
          rw [avccUnits] at split
          cases split
          exact ⟨rfl, fun _ no => by cases no⟩
      | [_] | [_, _] | [_, _, _] =>
          simp [avccUnits] at split

/-- `splitAvcc` takes concatenations of units behind their lengths apart, and nothing else. -/
theorem splitAvcc_spec :
    (∀ units : List (List UInt8), (∀ unit ∈ units, unit ≠ [] ∧ unit.length < 256 ^ 4) →
      splitAvcc (units.flatMap prefixed) = units) ∧
    ∀ sample, splitAvcc sample ≠ [] → sample = (splitAvcc sample).flatMap prefixed ∧
      ∀ unit ∈ splitAvcc sample, unit ≠ [] := by
  constructor
  · intro units fits
    have taken : avccUnits (units.flatMap prefixed) = some units := by
      induction units with
      | nil => rw [flatMap_nil, avccUnits]
      | cons unit units ih =>
          obtain ⟨content, bound⟩ := fits unit mem_cons_self
          rw [flatMap_cons, avccUnits_prefixed content bound,
            ih fun other mem => fits other (mem_cons_of_mem _ mem)]
          rfl
    rw [splitAvcc, taken]
    rfl
  · intro sample some
    unfold splitAvcc at some ⊢
    cases split : avccUnits sample with
    | none =>
        rw [split] at some
        exact absurd rfl some
    | some units => exact avccUnits_eq_some split

/-! ## Sending a frame -/

def rtpPayloadBytes : Nat := 1200

structure RtpPacket where
  sequenceNumber : UInt16
  timestamp : UInt32
  marker : Bool
  payload : List UInt8
  deriving DecidableEq

/-- What the environment answers when so many packets have been handed to the sender: whether the
runtime is open and connected, before a unit and before a fragment, and whether the last `sendRtp`
is through. -/
structure RtpSender where
  beforeUnit : List RtpPacket → Bool
  beforeFragment : List RtpPacket → Bool
  sendRtp : List RtpPacket → Bool

/-- The packets handed over, and the next sequence number if the send has completed. -/
abbrev Sent := List RtpPacket × Option UInt16

def fuIndicator (nalHeader : UInt8) : UInt8 := (nalHeader &&& 0xe0) ||| 28

def fuHeader (nalHeader : UInt8) (first last : Bool) : UInt8 :=
  ((if first then 0x80 else 0) ||| (if last then 0x40 else 0)) ||| (nalHeader &&& 0x1f)

/-- The loop through the fragments of a unit; `fragment` is what is left of it. -/
def sendFragments (sender : RtpSender) (timestamp : UInt32) (nalHeader : UInt8) (isLastNal : Bool)
    (fragment : List UInt8) (first : Bool) (sequence : UInt16) (sent : List RtpPacket) : Sent :=
  if fragment = [] then (sent, some sequence)
  else if !sender.beforeFragment sent then (sent, none)
  else
    let chunk := fragment.take (rtpPayloadBytes - 2)
    let last := (fragment.drop (rtpPayloadBytes - 2)).isEmpty
    let packet : RtpPacket :=
      { sequenceNumber := sequence
        timestamp := timestamp
        marker := isLastNal && last
        payload := fuIndicator nalHeader :: fuHeader nalHeader first last :: chunk }
    if !sender.sendRtp (sent ++ [packet]) then (sent ++ [packet], none)
    else sendFragments sender timestamp nalHeader isLastNal
      (fragment.drop (rtpPayloadBytes - 2)) false (sequence + 1) (sent ++ [packet])
  termination_by fragment.length
  decreasing_by
    rename_i some _ _
    have content := List.length_pos_iff.mpr some
    simp only [List.length_drop, rtpPayloadBytes]
    omega

/-- The loop through the units of a frame. -/
def sendUnits (sender : RtpSender) (timestamp : UInt32) :
    List (List UInt8) → UInt16 → List RtpPacket → Sent
  | [], sequence, sent => (sent, some sequence)
  | nal :: nals, sequence, sent =>
      if !sender.beforeUnit sent then (sent, none)
      else if nal.length ≤ rtpPayloadBytes then
        let packet : RtpPacket :=
          { sequenceNumber := sequence
            timestamp := timestamp
            marker := nals.isEmpty
            payload := nal }
        if !sender.sendRtp (sent ++ [packet]) then (sent ++ [packet], none)
        else sendUnits sender timestamp nals (sequence + 1) (sent ++ [packet])
      else
        match sendFragments sender timestamp (nal.headD 0) nals.isEmpty nal.tail true sequence
            sent with
        | (sent, none) => (sent, none)
        | (sent, some sequence) => sendUnits sender timestamp nals sequence sent

/-- `sendFrame`; the sequence number goes to `nextSequence` of the runtime. -/
def sendFrame (sender : RtpSender) (nextSequence : UInt16) (rtpTimestamp : UInt32)
    (avcc : List UInt8) : Sent :=
  sendUnits sender rtpTimestamp (splitAvcc avcc) nextSequence []

/-! ## The receiver -/

def nalUnitType (byte : UInt8) : UInt8 := byte &&& 0x1f

/-- What a fragment makes of the unit that is pending, and whether that is through with it. -/
def defragment (pending : Option (List UInt8)) : List UInt8 → Option (List UInt8 × Bool)
  | indicator :: header :: data =>
      if nalUnitType indicator ≠ 28 ∨ (header &&& 0x80 != 0) = pending.isSome then none
      else some (pending.getD [(indicator &&& 0xe0) ||| (header &&& 0x1f)] ++ data,
        header &&& 0x40 != 0)
  | _ => none

/-- The units in a sequence of payloads: single units and fragmentation units of type A. -/
def depacketize (pending : Option (List UInt8)) : List (List UInt8) → Option (List (List UInt8))
  | [] => if pending.isNone then some [] else none
  | payload :: payloads =>
      if 1 ≤ nalUnitType (payload.headD 0) ∧ nalUnitType (payload.headD 0) ≤ 23 then
        if pending.isNone then (depacketize none payloads).map (payload :: ·) else none
      else match defragment pending payload with
        | none => none
        | some (unit, true) => (depacketize none payloads).map (unit :: ·)
        | some (unit, false) => depacketize (some unit) payloads

/-- The bits of the two bytes in front of a fragment. -/
theorem fragment_bits (nalHeader : UInt8) (first last : Bool) :
    nalUnitType (fuIndicator nalHeader) = 28 ∧
      (fuHeader nalHeader first last &&& 0x80 != 0) = first ∧
      (fuHeader nalHeader first last &&& 0x40 != 0) = last ∧
      (fuIndicator nalHeader &&& 0xe0) ||| (fuHeader nalHeader first last &&& 0x1f) =
        nalHeader := by
  have all : ∀ byte : Fin 256, ∀ first last : Bool,
      nalUnitType (fuIndicator (UInt8.ofNat byte)) = 28 ∧
        (fuHeader (UInt8.ofNat byte) first last &&& 0x80 != 0) = first ∧
        (fuHeader (UInt8.ofNat byte) first last &&& 0x40 != 0) = last ∧
        (fuIndicator (UInt8.ofNat byte) &&& 0xe0) |||
          (fuHeader (UInt8.ofNat byte) first last &&& 0x1f) = UInt8.ofNat byte := by
    decide +kernel
  have here := all ⟨nalHeader.toNat, nalHeader.toNat_lt⟩ first last
  rwa [UInt8.ofNat_toNat] at here

/-- A fragment goes on with the unit that is pending, or begins one. -/
theorem depacketize_fragment (nalHeader : UInt8) (pending : Option (List UInt8)) (last : Bool)
    (chunk : List UInt8) (payloads : List (List UInt8)) :
    depacketize pending
        ((fuIndicator nalHeader :: fuHeader nalHeader pending.isNone last :: chunk) :: payloads) =
      if last then (depacketize none payloads).map ((pending.getD [nalHeader] ++ chunk) :: ·)
      else depacketize (some (pending.getD [nalHeader] ++ chunk)) payloads := by
  obtain ⟨type, start, stop, header⟩ := fragment_bits nalHeader pending.isNone last
  have fragment : ¬(1 ≤ nalUnitType (fuIndicator nalHeader) ∧
      nalUnitType (fuIndicator nalHeader) ≤ 23) := by
    rw [type]
    decide
  have goes : ¬(nalUnitType (fuIndicator nalHeader) ≠ 28 ∨
      (fuHeader nalHeader pending.isNone last &&& 0x80 != 0) = pending.isSome) := by
    rw [type, start]
    cases pending <;> simp
  have piece : defragment pending
      (fuIndicator nalHeader :: fuHeader nalHeader pending.isNone last :: chunk) =
      some (pending.getD [nalHeader] ++ chunk, last) := by
    rw [defragment, if_neg goes, header, stop]
  rw [depacketize, headD_cons, if_neg fragment, piece]
  cases last <;> rfl

theorem depacketize_single {nal : List UInt8} (low : 1 ≤ nalUnitType (nal.headD 0))
    (high : nalUnitType (nal.headD 0) ≤ 23) (payloads : List (List UInt8)) :
    depacketize none (nal :: payloads) = (depacketize none payloads).map (nal :: ·) := by
  rw [depacketize, if_pos ⟨low, high⟩]
  rfl

/-! ## What a send carries -/

/-- Packets of one frame in a row: one time stamp, payloads within the limit, consecutive numbers,
and a marker on the last one if it is asked for. -/
structure Carries (timestamp : UInt32) (sequence : UInt16) (marked : Bool)
    (packets : List RtpPacket) : Prop where
  timestamps : ∀ packet ∈ packets, packet.timestamp = timestamp
  sizes : ∀ packet ∈ packets, packet.payload.length ≤ rtpPayloadBytes
  numbers : ∀ (index : Nat) packet, packets[index]? = some packet →
    packet.sequenceNumber = sequence + UInt16.ofNat index
  marks : ∀ (index : Nat) packet, packets[index]? = some packet →
    (packet.marker = true ↔ marked = true ∧ index + 1 = packets.length)

namespace Carries

variable {timestamp : UInt32} {sequence : UInt16} {marked : Bool} {packet : RtpPacket}
  {packets others : List RtpPacket}

theorem nil : Carries timestamp sequence marked [] where
  timestamps := fun _ no => by cases no
  sizes := fun _ no => by cases no
  numbers := fun _ _ no => by cases no
  marks := fun _ _ no => by cases no

theorem sequence_add (sequence : UInt16) (front index : Nat) :
    sequence + UInt16.ofNat (front + index) =
      sequence + UInt16.ofNat front + UInt16.ofNat index := by
  rw [UInt16.ofNat_add, UInt16.add_assoc]

theorem append (left : Carries timestamp sequence false packets)
    (right : Carries timestamp (sequence + UInt16.ofNat packets.length) marked others)
    (some : marked = true → others ≠ []) : Carries timestamp sequence marked (packets ++ others) where
  timestamps := fun packet mem =>
    (mem_append.mp mem).elim (left.timestamps packet) (right.timestamps packet)
  sizes := fun packet mem => (mem_append.mp mem).elim (left.sizes packet) (right.sizes packet)
  numbers := fun index packet found => by
    rw [getElem?_append] at found
    split at found
    · exact left.numbers index packet found
    · rename_i beyond
      rw [right.numbers _ packet found, ← sequence_add, Nat.add_sub_cancel' (Nat.not_lt.mp beyond)]
  marks := fun index packet found => by
    rw [getElem?_append] at found
    rw [length_append]
    split at found
    · rename_i inside
      rw [left.marks index packet found]
      refine ⟨fun ⟨no, _⟩ => absurd no Bool.false_ne_true, fun ⟨marked, last⟩ => ?_⟩
      have content := length_pos_iff.mpr (some marked)
      omega
    · rename_i beyond
      rw [right.marks _ packet found]
      refine and_congr_right fun _ => ?_
      omega

/-- One packet. -/
theorem single (stamp : packet.timestamp = timestamp) (number : packet.sequenceNumber = sequence)
    (size : packet.payload.length ≤ rtpPayloadBytes) (mark : packet.marker = marked) :
    Carries timestamp sequence marked [packet] where
  timestamps := fun other mem => by rw [mem_singleton.mp mem, stamp]
  sizes := fun other mem => by rwa [mem_singleton.mp mem]
  numbers := fun index other found => by
    cases index with
    | zero =>
        cases found
        simpa using number
    | succ index => simp at found
  marks := fun index other found => by
    cases index with
    | zero =>
        cases found
        simp [mark]
    | succ index => simp at found

end Carries

variable {sender : RtpSender} {timestamp : UInt32} {sequence next : UInt16}
  {sent sent' : List RtpPacket}

/-- A send of fragments that is through has sent the rest of the unit. -/
theorem sendFragments_spec {nalHeader : UInt8} {isLastNal : Bool} {fragment : List UInt8}
    {pending : Option (List UInt8)} (content : fragment ≠ [])
    (sends : sendFragments sender timestamp nalHeader isLastNal fragment pending.isNone sequence
      sent = (sent', some next)) :
    ∃ packets, sent' = sent ++ packets ∧ packets ≠ [] ∧
      next = sequence + UInt16.ofNat packets.length ∧
      Carries timestamp sequence isLastNal packets ∧
      ∀ more, depacketize pending (packets.map RtpPacket.payload ++ more) =
        (depacketize none more).map ((pending.getD [nalHeader] ++ fragment) :: ·) := by
  induction size : fragment.length using Nat.strongRecOn
    generalizing fragment pending sequence sent with
  | ind size ih =>
      subst size
      rw [sendFragments, if_neg content] at sends
      split at sends
      · cases sends
      · dsimp only at sends
        split at sends
        · cases sends
        · have part : (fragment.take (rtpPayloadBytes - 2)).length + 2 ≤ rtpPayloadBytes := by
            rw [length_take]
            exact Nat.add_le_of_le_sub (by decide) (Nat.min_le_left _ _)
          by_cases through : fragment.drop (rtpPayloadBytes - 2) = []
          · rw [through, sendFragments, if_pos rfl] at sends
            obtain ⟨same, last⟩ := Prod.mk.inj sends
            cases last
            refine ⟨_, same.symm, cons_ne_nil _ _, rfl, ?_, fun more => ?_⟩
            · exact .single rfl rfl part (Bool.and_true _)
            · have whole : fragment.take (rtpPayloadBytes - 2) = fragment := by
                refine take_of_length_le (drop_eq_nil_iff.mp through)
              rw [whole]
              exact depacketize_fragment nalHeader pending true fragment more
          · have rest : (fragment.drop (rtpPayloadBytes - 2)).isEmpty = false :=
              isEmpty_eq_false_iff.mpr through
            rw [rest] at sends
            have shorter : (fragment.drop (rtpPayloadBytes - 2)).length < fragment.length := by
              have some := length_pos_iff.mpr content
              rw [length_drop]
              exact Nat.sub_lt some (by decide)
            obtain ⟨packets, same, some, last, carries, receive⟩ :=
              @ih _ shorter _ _ (fragment.drop (rtpPayloadBytes - 2))
                (some (pending.getD [nalHeader] ++ fragment.take (rtpPayloadBytes - 2)))
                through sends rfl
            rw [append_assoc] at same
            refine ⟨_, same, cons_ne_nil _ _, ?_, ?_, fun more => ?_⟩
            · rw [last, singleton_append, length_cons, Nat.add_comm packets.length,
                Carries.sequence_add]
              rfl
            · exact Carries.append (Carries.single rfl rfl part (Bool.and_false _)) carries
                fun _ => some
            · have step := depacketize_fragment nalHeader pending false
                (fragment.take (rtpPayloadBytes - 2)) (packets.map RtpPacket.payload ++ more)
              refine step.trans ((receive more).trans ?_)
              rw [Option.getD_some, append_assoc, take_append_drop]

/-- The units of a frame that can be told from packets. -/
def Packetisable (nals : List (List UInt8)) : Prop :=
  ∀ nal ∈ nals, 1 ≤ nalUnitType (nal.headD 0) ∧ nalUnitType (nal.headD 0) ≤ 23

instance (nals : List (List UInt8)) : Decidable (Packetisable nals) :=
  inferInstanceAs (Decidable (∀ nal ∈ nals, _))

/-- A send of units that is through has sent them all. -/
theorem sendUnits_spec {nals : List (List UInt8)} (types : Packetisable nals)
    (sends : sendUnits sender timestamp nals sequence sent = (sent', some next)) :
    ∃ packets, sent' = sent ++ packets ∧ (nals ≠ [] → packets ≠ []) ∧
      next = sequence + UInt16.ofNat packets.length ∧ Carries timestamp sequence true packets ∧
      depacketize none (packets.map RtpPacket.payload) = some nals := by
  induction nals generalizing sequence sent with
  | nil =>
      cases sends
      refine ⟨[], (append_nil _).symm, fun no => absurd rfl no, ?_, Carries.nil, rfl⟩
      exact (UInt16.add_zero _).symm
  | cons nal nals ih =>
      obtain ⟨low, high⟩ := types nal mem_cons_self
      have rest : Packetisable nals := fun other mem => types other (mem_cons_of_mem _ mem)
      -- What the unit's own packets are put together with: the packets of the units behind it.
      have together {own : List RtpPacket} {middle : UInt16}
          (some : own ≠ []) (step : middle = sequence + UInt16.ofNat own.length)
          (carries : Carries timestamp sequence nals.isEmpty own)
          (receive : ∀ more, depacketize none (own.map RtpPacket.payload ++ more) =
            (depacketize none more).map (nal :: ·))
          (sends : sendUnits sender timestamp nals middle (sent ++ own) = (sent', Option.some next)) :
          ∃ packets, sent' = sent ++ packets ∧ (nal :: nals ≠ [] → packets ≠ []) ∧
            next = sequence + UInt16.ofNat packets.length ∧
            Carries timestamp sequence true packets ∧
            depacketize none (packets.map RtpPacket.payload) = Option.some (nal :: nals) := by
        obtain ⟨packets, same, others, last, carries', receive'⟩ := ih rest sends
        rw [append_assoc] at same
        refine ⟨own ++ packets, same, fun _ no => some (append_eq_nil_iff.mp no).1, ?_, ?_, ?_⟩
        · rw [last, step, length_append, Carries.sequence_add]
        · cases nals with
          | nil =>
              cases sends
              have none : packets = [] := by simpa using same
              rw [none, append_nil]
              exact carries
          | cons other nals =>
              rw [step] at carries'
              exact carries.append carries' fun _ => others (cons_ne_nil _ _)
        · rw [map_append, receive, receive']
          rfl
      rw [sendUnits] at sends
      split at sends
      · cases sends
      · split at sends
        · rename_i small
          dsimp only at sends
          split at sends
          · cases sends
          · exact @together [⟨sequence, timestamp, nals.isEmpty, nal⟩] _
              (cons_ne_nil _ _) rfl (.single rfl rfl small rfl)
              (fun more => depacketize_single low high more) sends
        · rename_i large
          split at sends
          · cases sends
          · rename_i middle sequence' fragments
            have content : nal.tail ≠ [] := by
              intro none
              have short := congrArg List.length none
              rw [length_tail, length_nil] at short
              simp only [rtpPayloadBytes] at large
              omega
            obtain ⟨own, rfl, some, step, carries, receive⟩ :=
              @sendFragments_spec _ _ _ _ _ _ _ _ _ none content fragments
            refine together some step carries (fun more => ?_) sends
            have whole : [nal.headD 0] ++ nal.tail = nal := by
              cases nal with
              | nil => exact absurd rfl content
              | cons byte nal => rfl
            rw [receive more, Option.getD_none, whole]

/-- The packets of the frames that a runtime sends to the end, one frame after another. -/
def completedPackets : UInt16 → List (RtpSender × UInt32 × List UInt8) → List RtpPacket
  | _, [] => []
  | nextSequence, (sender, rtpTimestamp, avcc) :: frames =>
      match sendFrame sender nextSequence rtpTimestamp avcc with
      | (sent, some next) => sent ++ completedPackets next frames
      | (_, none) => completedPackets nextSequence frames

/-- A frame whose send completes is received as it was. -/
theorem sendFrame_spec {nextSequence : UInt16} {rtpTimestamp : UInt32} {avcc : List UInt8}
    (types : Packetisable (splitAvcc avcc))
    (sends : sendFrame sender nextSequence rtpTimestamp avcc = (sent, some next)) :
    next = nextSequence + UInt16.ofNat sent.length ∧ Carries rtpTimestamp nextSequence true sent ∧
      depacketize none (sent.map RtpPacket.payload) = some (splitAvcc avcc) := by
  obtain ⟨packets, rfl, _, last, carries, receive⟩ := sendUnits_spec types sends
  exact ⟨last, carries, receive⟩

/-- The numbers go on from one completed frame to the next. -/
theorem completedPackets_numbers (nextSequence : UInt16)
    (frames : List (RtpSender × UInt32 × List UInt8))
    (types : ∀ frame ∈ frames, Packetisable (splitAvcc frame.2.2)) (index : Nat)
    (packet : RtpPacket) (found : (completedPackets nextSequence frames)[index]? = some packet) :
    packet.sequenceNumber = nextSequence + UInt16.ofNat index := by
  induction frames generalizing nextSequence index with
  | nil => cases found
  | cons frame frames ih =>
      have rest := fun frame mem => types frame (mem_cons_of_mem _ mem)
      rw [completedPackets] at found
      split at found
      · rename_i sent next sends
        obtain ⟨last, carries, _⟩ := sendFrame_spec (types _ mem_cons_self) sends
        rw [getElem?_append] at found
        split at found
        · exact carries.numbers index packet found
        · rename_i beyond
          rw [ih next rest _ found, last, ← Carries.sequence_add,
            Nat.add_sub_cancel' (Nat.not_lt.mp beyond)]
      · exact ih nextSequence rest index found

/-- RTP packets: `splitAvcc` takes exactly the concatenations of units behind their lengths apart; a
frame whose send completes is received as it was, in payloads within the limit, with one time
stamp, consecutive numbers and the marker on its last packet only; and the numbers go on from one
completed frame to the next. -/
theorem rtp_round_trip :
    (∀ units : List (List UInt8), (∀ unit ∈ units, unit ≠ [] ∧ unit.length < 256 ^ 4) →
      splitAvcc (units.flatMap prefixed) = units) ∧
    (∀ sample, splitAvcc sample ≠ [] → sample = (splitAvcc sample).flatMap prefixed ∧
      ∀ unit ∈ splitAvcc sample, unit ≠ []) ∧
    (∀ (sender : RtpSender) (nextSequence next : UInt16) (rtpTimestamp : UInt32)
        (avcc : List UInt8) (sent : List RtpPacket),
      Packetisable (splitAvcc avcc) →
      sendFrame sender nextSequence rtpTimestamp avcc = (sent, some next) →
      depacketize none (sent.map RtpPacket.payload) = some (splitAvcc avcc) ∧
        Carries rtpTimestamp nextSequence true sent) ∧
    ∀ (nextSequence : UInt16) (frames : List (RtpSender × UInt32 × List UInt8)),
      (∀ frame ∈ frames, Packetisable (splitAvcc frame.2.2)) →
      ∀ (index : Nat) packet, (completedPackets nextSequence frames)[index]? = some packet →
        packet.sequenceNumber = nextSequence + UInt16.ofNat index := by
  refine ⟨splitAvcc_spec.1, splitAvcc_spec.2, ?_, completedPackets_numbers⟩
  intro sender nextSequence next rtpTimestamp avcc sent types sends
  obtain ⟨_, carries, receive⟩ := sendFrame_spec types sends
  exact ⟨receive, carries⟩

/-- A sender that takes everything. -/
def sampleSender : RtpSender := ⟨fun _ => true, fun _ => true, fun _ => true⟩

/-- Two units go in a packet each and are received as they were. -/
theorem sampleUnits_received :
    depacketize none ((sendFrame sampleSender 65535 90000
      ([[0x65, 1], [0x41]].flatMap prefixed)).1.map RtpPacket.payload) =
        some [[0x65, 1], [0x41]] := by
  have units : splitAvcc ([[0x65, 1], [0x41]].flatMap prefixed) = [[0x65, 1], [0x41]] :=
    rtp_round_trip.1 [[0x65, 1], [0x41]] (by simp)
  have sends : sendFrame sampleSender 65535 90000 ([[0x65, 1], [0x41]].flatMap prefixed) =
      ([⟨65535, 90000, false, [0x65, 1]⟩, ⟨0, 90000, true, [0x41]⟩], some 1) := by
    rw [sendFrame, units]
    rfl
  have received := (rtp_round_trip.2.2.1 sampleSender 65535 1 90000 _ _
    (by rw [units]; decide) sends).1
  rw [sends, received, units]

end ExecutionHandoff.WebRtc
