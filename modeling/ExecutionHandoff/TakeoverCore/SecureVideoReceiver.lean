import Mathlib
import ExecutionHandoff.TakeoverCore.Reassembly
import ExecutionHandoff.TakeoverCore.TransportCrypto

/-!
# The secure video receiver

`SecureVideoReceiver`: datagrams with authentic headers are put together to
frames, and a frame is exposed once its payload is opened.  The headers of a
frame may be authentic while its payload is not.
-/

namespace ExecutionHandoff.TakeoverCore

open Library List

namespace VideoPacketFlags

def keyframe : UInt8 := 0x01

def codecConfig : UInt8 := 0x02

def avccSample : UInt8 := 0x04

end VideoPacketFlags

structure NativeVideoFrameMetadata where
  frameID : UInt64
  captureNanos : UInt64
  encodeDoneNanos : UInt64
  receiveDoneNanos : UInt64
  keyframe : Bool
  deriving DecidableEq

inductive SecureVideoReceiverEvent where
  | incomplete
  | codecConfiguration (data : List UInt8) (metadata : NativeVideoFrameMetadata)
  | avccSample (data : List UInt8) (metadata : NativeVideoFrameMetadata)
  | droppedStale
  | droppedInvalid
  | droppedOversize
  | droppedAuthentication
  deriving DecidableEq

/-- The frame that an event exposes. -/
def SecureVideoReceiverEvent.exposedID : SecureVideoReceiverEvent → Option UInt64
  | .codecConfiguration _ metadata | .avccSample _ metadata => some metadata.frameID
  | _ => none

/-- The context that video is sealed in. -/
def videoContext (session : VideoSession) : TransportCryptoContext :=
  ⟨session.sessionHash, session.epoch, session.generation, .hostToClient, .video⟩

namespace SecureVideoReceiver

/-- The event of an opened frame, by its flags. -/
def classify (flags : UInt8) (plaintext : List UInt8) (metadata : NativeVideoFrameMetadata) :
    SecureVideoReceiverEvent :=
  if flags &&& VideoPacketFlags.codecConfig ≠ 0 then
    if flags &&& VideoPacketFlags.avccSample = 0 then .codecConfiguration plaintext metadata
    else .droppedInvalid
  else if flags &&& VideoPacketFlags.avccSample ≠ 0 then .avccSample plaintext metadata
  else .droppedInvalid

def metadata (header : VideoPacketHeader) (nowNanos : UInt64) : NativeVideoFrameMetadata where
  frameID := header.frameID
  captureNanos := header.captureNanos
  encodeDoneNanos := header.encodeDoneNanos
  receiveDoneNanos := nowNanos
  keyframe := decide (header.flags &&& VideoPacketFlags.keyframe ≠ 0)

variable (crypto : CryptoKit) (config : FrameReassemblerConfig) (mac : List UInt8 → List UInt8)
  (cipher : TransportCipher)

/-- `ingest` of a datagram at a time; the state is that of the reassembler. -/
def ingest (input : List UInt8 × UInt64) (reassembler : FrameReassembler) :
    SecureVideoReceiverEvent × FrameReassembler :=
  match reassembler.ingest config mac input.1 with
  | (.incomplete, after) => (.incomplete, after)
  | (.droppedStale, after) => (.droppedStale, after)
  | (.droppedInvalid, after) => (.droppedInvalid, after)
  | (.droppedOversize, after) => (.droppedOversize, after)
  | (.complete frame, after) =>
      match cipher.openPayload crypto frame.sealedPayload frame.header.frameID
          (videoContext config.session) [frame.header.flags] with
      | .error _ => (.droppedAuthentication, after)
      | .ok plaintext =>
          (classify frame.header.flags plaintext (metadata frame.header input.2), after)

abbrev Step : FrameReassembler → (List UInt8 × UInt64) × SecureVideoReceiverEvent →
    FrameReassembler → Prop :=
  CallStep (ingest crypto config mac cipher)

end SecureVideoReceiver

/-! ## The host -/

/-- A frame as the host seals it. -/
structure HostFrame where
  flags : UInt8
  frameID : UInt64
  captureNanos : UInt64
  encodeDoneNanos : UInt64
  plaintext : List UInt8
  nonce : List UInt8
  deriving DecidableEq

namespace HostFrame

variable (frame : HostFrame)

/-- The call of the cipher in `sendPayload`. -/
def call (cipher : TransportCipher) (session : VideoSession) : SealCall :=
  ⟨cipher, frame.nonce, frame.plaintext, frame.frameID, videoContext session, [frame.flags]⟩

/-- What is handed to the packetizer. -/
def sealedFrame (crypto : CryptoKit) (cipher : TransportCipher) (session : VideoSession) :
    SealedFrame :=
  ⟨frame.flags, frame.frameID, frame.captureNanos, frame.encodeDoneNanos,
    (frame.call cipher session).payload crypto⟩

/-- What the frame is exposed as at a time. -/
def exposed (nowNanos : UInt64) : SecureVideoReceiverEvent :=
  SecureVideoReceiver.classify frame.flags frame.plaintext
    ⟨frame.frameID, frame.captureNanos, frame.encodeDoneNanos, nowNanos,
      decide (frame.flags &&& VideoPacketFlags.keyframe ≠ 0)⟩

/-- The header has what it says of its frame from this one. -/
structure Heads (frame : HostFrame) (header : VideoPacketHeader) : Prop where
  flags : header.flags = frame.flags
  frameID : header.frameID = frame.frameID
  captureNanos : header.captureNanos = frame.captureNanos
  encodeDoneNanos : header.encodeDoneNanos = frame.encodeDoneNanos

end HostFrame

/-- The frames are all that was sealed with the cipher for the session, each under an identity of
its own. -/
structure HostSeals (cipher : TransportCipher) (session : VideoSession) (calls : Set SealCall)
    (frames : Set HostFrame) : Prop where
  sealed : ∀ call ∈ calls, call.cipher = cipher → call.context = videoContext session →
    ∃ frame ∈ frames, call = frame.call cipher session
  once : ∀ frame ∈ frames, ∀ other ∈ frames, frame.frameID = other.frameID → frame = other

/-- A datagram that an attacker without the key of the headers can deliver: a header with a proper
tag is one that the host has sent. -/
def Deliverable (crypto : CryptoKit) (mac : List UInt8 → List UInt8) (packetizer : VideoPacketizer)
    (cipher : TransportCipher) (session : VideoSession) (frames : Set HostFrame)
    (datagram : List UInt8) : Prop :=
  ∀ header, VideoPacketHeader.decode datagram = .ok header →
    VideoHeaderAuthenticator.verify mac header = true →
    ∃ frame ∈ frames, ∃ index,
      index < packetizer.packetCount (frame.sealedFrame crypto cipher session) ∧
      header = sentHeader mac packetizer session (frame.sealedFrame crypto cipher session) index

/-! ## One datagram -/

namespace FrameReassembler

variable {config : FrameReassemblerConfig} {mac : List UInt8 → List UInt8}
  {reassembler : FrameReassembler} {header : VideoPacketHeader}

/-- What becomes of the pieces under a header. -/
inductive Placed (reassembler : FrameReassembler) (header : VideoPacketHeader) :
    FrameReassemblyResult × FrameReassembler → Prop
  | kept (assembly : Assembly) (same : assembly.header = header) {result : FrameReassemblyResult}
      (more : ∀ frame, result ≠ .complete frame) :
      Placed reassembler header (result, { reassembler with assembly := some assembly })
  | dropped :
      Placed reassembler header (.droppedOversize, { reassembler with assembly := none })
  | completed (payload : List UInt8) :
      Placed reassembler header (.complete ⟨header, payload⟩, ⟨none, some header.frameID⟩)

theorem finish_placed {current : Assembly} (same : current.header = header) :
    Placed reassembler header (reassembler.finish current) := by
  subst same
  unfold finish
  dsimp only
  split
  · exact .kept current rfl fun _ no => by cases no
  · split
    · exact .kept current rfl fun _ no => by cases no
    · exact .completed _

theorem place_placed (current : Assembly) (index : Nat) (payload : List UInt8) :
    Placed reassembler current.header (reassembler.place config current index payload) := by
  unfold place
  split
  · exact finish_placed rfl
  · split
    · exact .dropped
    · exact finish_placed rfl

/-- The pieces to go on with are those that are kept, or those of the datagram. -/
theorem current_header (reassembler : FrameReassembler) (header : VideoPacketHeader) :
    (reassembler.current header).header = header ∨
      reassembler.assembly = some (reassembler.current header) := by
  unfold current
  split
  · exact .inl rfl
  · rename_i assembly kept
    split
    · exact .inl rfl
    · exact .inr kept

/-- A datagram leaves everything, or comes to the pieces under a header that is its own or that of
the pieces, and of a frame that was not completed. -/
theorem ingest_cases (config : FrameReassemblerConfig) (mac : List UInt8 → List UInt8)
    (reassembler : FrameReassembler) (datagram : List UInt8) :
    (∃ result, (∀ frame, result ≠ .complete frame) ∧
      reassembler.ingest config mac datagram = (result, reassembler)) ∨
    ∃ own used, admitted config mac datagram = some own ∧
      (used = own ∨ ∃ assembly, reassembler.assembly = some assembly ∧ assembly.header = used) ∧
      (∀ highest, reassembler.highestCompletedFrameID = some highest → highest < own.frameID) ∧
      ((used.frameID = own.frameID ∧
        Placed reassembler used (reassembler.ingest config mac datagram)) ∨
      ∃ assembly, assembly.header = used ∧ reassembler.ingest config mac datagram =
        (.droppedInvalid, { reassembler with assembly := some assembly })) := by
  unfold ingest
  split
  · exact .inl ⟨_, (fun _ no => by cases no), rfl⟩
  · rename_i own found
    split
    · exact .inl ⟨_, (fun _ no => by cases no), rfl⟩
    · rename_i fresh
      have newer := (fresh_spec (Bool.eq_false_iff.mpr fresh)).1
      refine .inr ⟨own, (reassembler.current own).header, found, ?_, newer, ?_⟩
      · rcases current_header reassembler own with same | kept
        · exact .inl same
        · exact .inr ⟨_, kept, rfl⟩
      · dsimp only
        split
        · rename_i agrees
          refine .inl ⟨?_, place_placed _ _ _⟩
          unfold FrameReassembler.agrees at agrees
          simp only [Bool.and_eq_true, beq_iff_eq] at agrees
          exact agrees.1.1.1.1
        · exact .inr ⟨_, rfl, rfl⟩

end FrameReassembler

/-! ## Runs -/

section Attacked

variable {crypto : CryptoKit} {config : FrameReassemblerConfig} {mac : List UInt8 → List UInt8}
  {packetizer : VideoPacketizer} {cipher : TransportCipher} {ciphers : Set TransportCipher}
  {calls : Set SealCall} {frames : Set HostFrame}
  {past : List ((List UInt8 × UInt64) × SecureVideoReceiverEvent)}
  {reassembler reassembler' : FrameReassembler}

/-- The identities of the frames that a history exposes, in order. -/
def exposedIDs (history : List ((List UInt8 × UInt64) × SecureVideoReceiverEvent)) : List UInt64 :=
  history.filterMap fun call => call.2.exposedID

/-- What is kept is headed by a frame of the host, and what was exposed are frames of the host with
increasing identities, all completed. -/
structure Exposes (frames : Set HostFrame)
    (past : List ((List UInt8 × UInt64) × SecureVideoReceiverEvent))
    (reassembler : FrameReassembler) : Prop where
  headed : ∀ assembly, reassembler.assembly = some assembly →
    ∃ frame ∈ frames, frame.Heads assembly.header
  increasing : (exposedIDs past).Pairwise (· < ·)
  completed : ∀ id ∈ exposedIDs past, ∃ highest,
    reassembler.highestCompletedFrameID = some highest ∧ id ≤ highest
  genuine : ∀ call ∈ past, ∀ id, call.2.exposedID = some id →
    ∃ frame ∈ frames, frame.frameID = id ∧ call.2 = frame.exposed call.1.2

theorem initial_exposes : Exposes frames [] FrameReassembler.initial where
  headed := fun _ no => by cases no
  increasing := List.Pairwise.nil
  completed := fun _ no => by cases no
  genuine := fun _ no => by cases no

/-- The header of a datagram that is looked at is headed by a frame of the host. -/
theorem admitted_headed {datagram : List UInt8} {header : VideoPacketHeader}
    (deliverable : Deliverable crypto mac packetizer cipher config.session frames datagram)
    (found : FrameReassembler.admitted config mac datagram = some header) :
    ∃ frame ∈ frames, frame.Heads header := by
  unfold FrameReassembler.admitted at found
  split at found
  · cases found
  · split at found
    · cases found
    · rename_i decoded
      split at found
      · rename_i passed
        cases found
        obtain ⟨frame, mem, index, _, rfl⟩ :=
          deliverable header decoded (Bool.and_eq_true_iff.mp passed).1
        exact ⟨frame, mem, rfl, rfl, rfl, rfl⟩
      · cases found

theorem classify_exposedID {flags : UInt8} {plaintext : List UInt8}
    {metadata : NativeVideoFrameMetadata} {id : UInt64}
    (exposed : (SecureVideoReceiver.classify flags plaintext metadata).exposedID = some id) :
    metadata.frameID = id := by
  unfold SecureVideoReceiver.classify at exposed
  split at exposed
  · split at exposed
    · exact Option.some.inj exposed
    · cases exposed
  · split at exposed
    · exact Option.some.inj exposed
    · cases exposed

/-- A payload that is opened under the header of a frame is the payload of that frame. -/
theorem opened_exposed (ideal : Ideal crypto ciphers calls) (used : cipher ∈ ciphers)
    (host : HostSeals cipher config.session calls frames) {frame : HostFrame} (mem : frame ∈ frames)
    {header : VideoPacketHeader} (heads : frame.Heads header) {payload plaintext : List UInt8}
    (opened : cipher.openPayload crypto payload header.frameID (videoContext config.session)
      [header.flags] = .ok plaintext) (nowNanos : UInt64) :
    SecureVideoReceiver.classify header.flags plaintext
      (SecureVideoReceiver.metadata header nowNanos) = frame.exposed nowNanos := by
  obtain ⟨nonce, made, _⟩ := ideal.of_openPayload used opened
  obtain ⟨other, mem', same⟩ := host.sealed _ made rfl rfl
  unfold HostFrame.call at same
  obtain ⟨-, -, text, sequence, -, -⟩ := SealCall.mk.injEq .. ▸ same
  cases host.once frame mem other mem' (heads.frameID.symm.trans sequence)
  unfold SecureVideoReceiver.metadata HostFrame.exposed
  rw [heads.flags, heads.frameID, heads.captureNanos, heads.encodeDoneNanos, text]

theorem exposedIDs_append (call : (List UInt8 × UInt64) × SecureVideoReceiverEvent) :
    exposedIDs (past ++ [call]) = exposedIDs past ++ call.2.exposedID.toList := by
  unfold exposedIDs
  rw [filterMap_append]
  cases exposed : call.2.exposedID <;> simp [exposed]

/-- A datagram that exposes nothing may change the pieces. -/
theorem exposes_idle (exposes : Exposes frames past reassembler)
    {call : (List UInt8 × UInt64) × SecureVideoReceiverEvent} (idle : call.2.exposedID = none)
    (highest : ∀ highest, reassembler.highestCompletedFrameID = some highest →
      ∃ later, reassembler'.highestCompletedFrameID = some later ∧ highest ≤ later)
    (headed : ∀ assembly, reassembler'.assembly = some assembly →
      ∃ frame ∈ frames, frame.Heads assembly.header) :
    Exposes frames (past ++ [call]) reassembler' := by
  have same : exposedIDs (past ++ [call]) = exposedIDs past := by
    rw [exposedIDs_append, idle, Option.toList_none, append_nil]
  refine ⟨headed, same ▸ exposes.increasing, ?_, fun other mem id exposed => ?_⟩
  · rw [same]
    intro id mem
    obtain ⟨before, completed, bound⟩ := exposes.completed id mem
    obtain ⟨later, completed', bound'⟩ := highest before completed
    exact ⟨later, completed', UInt64.le_trans bound bound'⟩
  · rcases mem_append.mp mem with mem | mem
    · exact exposes.genuine other mem id exposed
    · cases mem_singleton.mp mem
      rw [idle] at exposed
      cases exposed

/-- A newer frame of the host may be exposed. -/
theorem exposes_next (exposes : Exposes frames past reassembler) {frame : HostFrame}
    (mem : frame ∈ frames) {call : (List UInt8 × UInt64) × SecureVideoReceiverEvent}
    (exposed : call.2.exposedID = some frame.frameID) (genuine : call.2 = frame.exposed call.1.2)
    (newer : ∀ highest, reassembler.highestCompletedFrameID = some highest →
      highest < frame.frameID) :
    Exposes frames (past ++ [call]) ⟨none, some frame.frameID⟩ := by
  have more : exposedIDs (past ++ [call]) = exposedIDs past ++ [frame.frameID] := by
    rw [exposedIDs_append, exposed]
    rfl
  have below : ∀ id ∈ exposedIDs past, id < frame.frameID := by
    intro id mem
    obtain ⟨highest, completed, bound⟩ := exposes.completed id mem
    exact UInt64.lt_of_le_of_lt bound (newer highest completed)
  refine ⟨(fun _ no => by cases no), ?_, ?_, fun other inside id shown => ?_⟩
  · rw [more]
    refine pairwise_append.mpr ⟨exposes.increasing, pairwise_singleton _ _, ?_⟩
    intro id inside last same
    cases mem_singleton.mp same
    exact below id inside
  · rw [more]
    intro id inside
    refine ⟨frame.frameID, rfl, ?_⟩
    rcases mem_append.mp inside with inside | last
    · exact UInt64.le_of_lt (below id inside)
    · cases mem_singleton.mp last
      exact UInt64.le_refl _
  · rcases mem_append.mp inside with inside | last
    · exact exposes.genuine other inside id shown
    · cases mem_singleton.mp last
      exact ⟨frame, mem, Option.some.inj (exposed.symm.trans shown), genuine⟩

/-- What a datagram exposes when no frame is complete. -/
theorem ingest_incomplete (crypto : CryptoKit) (cipher : TransportCipher) {input : List UInt8 × UInt64} {result : FrameReassemblyResult}
    (ingested : reassembler.ingest config mac input.1 = (result, reassembler'))
    (more : ∀ frame, result ≠ .complete frame) :
    ∃ event, SecureVideoReceiver.ingest crypto config mac cipher input reassembler =
      (event, reassembler') ∧ event.exposedID = none := by
  unfold SecureVideoReceiver.ingest
  rw [ingested]
  cases result with
  | complete frame => exact absurd rfl (more frame)
  | incomplete | droppedStale | droppedInvalid | droppedOversize => exact ⟨_, rfl, rfl⟩

theorem step_exposes (ideal : Ideal crypto ciphers calls) (used : cipher ∈ ciphers)
    (host : HostSeals cipher config.session calls frames)
    {call : (List UInt8 × UInt64) × SecureVideoReceiverEvent}
    (step : SecureVideoReceiver.Step crypto config mac cipher reassembler call reassembler')
    (deliverable : Deliverable crypto mac packetizer cipher config.session frames call.1.1)
    (exposes : Exposes frames past reassembler) :
    Exposes frames (past ++ [call]) reassembler' := by
  obtain ⟨input, event⟩ := call
  change SecureVideoReceiver.ingest crypto config mac cipher input reassembler =
    (event, reassembler') at step
  have keeps (highest : UInt64) (completed : reassembler.highestCompletedFrameID = some highest) :
      ∃ later, reassembler.highestCompletedFrameID = some later ∧ highest ≤ later :=
    ⟨highest, completed, UInt64.le_refl _⟩
  rcases FrameReassembler.ingest_cases config mac reassembler input.1 with ⟨result, more, ingested⟩ | ⟨own, header, found, origin, newer, outcome⟩
  · obtain ⟨_, same, idle⟩ := ingest_incomplete crypto cipher ingested more
    cases same.symm.trans step
    exact exposes_idle exposes idle keeps exposes.headed
  · have heads : ∃ frame ∈ frames, frame.Heads header := by
      rcases origin with rfl | ⟨assembly, kept, rfl⟩
      · exact admitted_headed deliverable found
      · exact exposes.headed assembly kept
    rcases outcome with ⟨same, placed⟩ | ⟨assembly, same, ingested⟩
    · generalize ingested : reassembler.ingest config mac input.1 = answer at placed
      cases placed with
      | kept assembly same more =>
          obtain ⟨_, same', idle⟩ :=
            ingest_incomplete crypto cipher ingested more
          cases same'.symm.trans step
          refine exposes_idle exposes idle keeps fun _ kept => ?_
          cases kept
          rw [same]
          exact heads
      | dropped =>
          obtain ⟨_, same', idle⟩ := ingest_incomplete crypto cipher
            ingested fun _ no => by cases no
          cases same'.symm.trans step
          exact exposes_idle exposes idle keeps fun _ no => by cases no
      | completed payload =>
          obtain ⟨frame, mem, heads⟩ := heads
          unfold SecureVideoReceiver.ingest at step
          rw [ingested] at step
          dsimp only at step
          have raised (highest : UInt64)
              (completed : reassembler.highestCompletedFrameID = some highest) :
              ∃ later, (some header.frameID = some later) ∧ highest ≤ later :=
            ⟨_, rfl, UInt64.le_of_lt (same ▸ newer highest completed)⟩
          split at step
          · cases step
            exact exposes_idle exposes rfl raised fun _ no => by cases no
          · rename_i plaintext opened
            have genuine := opened_exposed ideal used host mem heads opened input.2
            cases step
            cases shown : (SecureVideoReceiver.classify header.flags plaintext
                (SecureVideoReceiver.metadata header input.2)).exposedID with
            | none => exact exposes_idle exposes shown raised fun _ no => by cases no
            | some id =>
                have identity : header.frameID = id := classify_exposedID shown
                rw [← identity, heads.frameID] at shown
                rw [heads.frameID] at same ⊢
                exact exposes_next exposes mem shown genuine fun highest completed =>
                  same ▸ newer highest completed
    · obtain ⟨_, same', idle⟩ := ingest_incomplete crypto cipher ingested
        fun _ no => by cases no
      cases same'.symm.trans step
      refine exposes_idle exposes idle keeps fun _ kept => ?_
      cases kept
      rw [same]
      exact heads

/-- Whatever an attacker delivers who forges no tag: what is exposed are frames of the host, as they
were sealed, with increasing identities, and each of them at most once. -/
theorem run_exposes (ideal : Ideal crypto ciphers calls) (used : cipher ∈ ciphers)
    (host : HostSeals cipher config.session calls frames)
    {history : List ((List UInt8 × UInt64) × SecureVideoReceiverEvent)} {last : FrameReassembler}
    (run : Run (Guarded (SecureVideoReceiver.Step crypto config mac cipher) fun _ call =>
      Deliverable crypto mac packetizer cipher config.session frames call.1.1)
      FrameReassembler.initial history last) :
    (∀ call ∈ history, ∀ id, call.2.exposedID = some id →
      ∃ frame ∈ frames, frame.frameID = id ∧ call.2 = frame.exposed call.1.2) ∧
    (exposedIDs history).Pairwise (· < ·) ∧
    ∀ frame ∈ frames, (exposedIDs history).count frame.frameID ≤ 1 := by
  have exposes : Exposes frames history last := by
    have reached := @Run.history _ _ _ (Exposes frames) [] _ _ _ run
      (fun step exposes => step_exposes ideal used host step.1 step.2 exposes) initial_exposes
    rwa [List.nil_append] at reached
  refine ⟨exposes.genuine, exposes.increasing, fun frame _ => ?_⟩
  have distinct : (exposedIDs history).Nodup :=
    exposes.increasing.imp fun less same => UInt64.ne_of_lt less same
  exact List.nodup_iff_count_le_one.mp distinct frame.frameID

end Attacked

/-! ## Sample frames -/

namespace SecureVideoReceiver

def sampleKey : TransportCipher := ⟨List.replicate 32 9, rfl⟩

def sampleHostFrames : List HostFrame :=
  [⟨5, 1, 100, 200, [1, 2], List.replicate 12 1⟩, ⟨4, 2, 300, 400, [3, 4], List.replicate 12 2⟩]

def sampleVideoCalls : List SealCall :=
  sampleHostFrames.map fun frame => frame.call sampleKey sampleSession

def sampleKit : CryptoKit := recordedKit sampleVideoCalls

/-- Two packets are enough for a frame. -/
def samplePackets : VideoPacketizer := ⟨88, by decide⟩

def sampleReceiver : FrameReassemblerConfig where
  session := sampleSession
  maxFrameBytes := 99
  maxPacketCount := 5
  maxDatagramBytes := 101
  holdsBytes := by decide
  countsPackets := by decide
  holdsHeader := by decide

def samplePacket (frame index : Nat) : List UInt8 :=
  ((sampleHostFrames[frame]?.map fun frame => frame.sealedFrame sampleKit sampleKey sampleSession).map
    fun frame => datagram sampleMac samplePackets sampleSession frame index).getD []

/-- The payload of a packet is put behind the header of another, and a whole frame is replayed. -/
def sampleDelivered : List (List UInt8 × UInt64) :=
  [(samplePacket 0 1, 500),
    ((samplePacket 0 0).take VideoPacketHeader.encodedSize ++
      (samplePacket 1 0).drop VideoPacketHeader.encodedSize, 501),
    (samplePacket 1 1, 502), (samplePacket 1 0, 503), (samplePacket 1 1, 504)]

def sampleHistory : List ((List UInt8 × UInt64) × SecureVideoReceiverEvent) × FrameReassembler :=
  replayCalls (ingest sampleKit sampleReceiver sampleMac sampleKey) .initial sampleDelivered

def sampleHeaded (bytes : List UInt8) : Bool :=
  match VideoPacketHeader.decode bytes with
  | .error _ => true
  | .ok header =>
      !VideoHeaderAuthenticator.verify sampleMac header ||
        sampleHostFrames.any fun frame =>
          (List.range (samplePackets.packetCount
            (frame.sealedFrame sampleKit sampleKey sampleSession))).any fun index =>
            decide (header = sentHeader sampleMac samplePackets sampleSession
              (frame.sealedFrame sampleKit sampleKey sampleSession) index)

theorem deliverable_of_sampleHeaded {bytes : List UInt8} (headed : sampleHeaded bytes = true) :
    Deliverable sampleKit sampleMac samplePackets sampleKey sampleSession
      {frame | frame ∈ sampleHostFrames} bytes := by
  intro header decoded verified
  unfold sampleHeaded at headed
  rw [decoded] at headed
  simp only [verified, Bool.not_true, Bool.false_or, any_eq_true, mem_range,
    decide_eq_true_eq] at headed
  obtain ⟨frame, mem, index, inside, same⟩ := headed
  exact ⟨frame, mem, index, inside, same⟩

theorem sampleHistory_exposes :
    exposedIDs sampleHistory.1 = [2] ∧
    (∀ call ∈ sampleHistory.1, ∀ id, call.2.exposedID = some id →
      ∃ frame ∈ {frame | frame ∈ sampleHostFrames}, frame.frameID = id ∧
        call.2 = frame.exposed call.1.2) ∧
    (exposedIDs sampleHistory.1).Pairwise (· < ·) ∧
    ∀ frame ∈ {frame | frame ∈ sampleHostFrames},
      (exposedIDs sampleHistory.1).count frame.frameID ≤ 1 := by
  have ideal : Ideal sampleKit Set.univ {call | call ∈ sampleVideoCalls} :=
    recordedKit_ideal (by decide) (by decide)
  have host : HostSeals sampleKey sampleReceiver.session {call | call ∈ sampleVideoCalls}
      {frame | frame ∈ sampleHostFrames} := by
    have once : ∀ frame ∈ sampleHostFrames, ∀ other ∈ sampleHostFrames,
        frame.frameID = other.frameID → frame = other := by decide
    refine ⟨fun call made _ _ => ?_, once⟩
    obtain ⟨frame, mem, same⟩ := List.mem_map.mp made
    exact ⟨frame, mem, same.symm⟩
  have met : meetCalls (ingest sampleKit sampleReceiver sampleMac sampleKey)
      (fun _ input => sampleHeaded input.1) .initial sampleDelivered = true := by decide +kernel
  have run : Run (Guarded (Step sampleKit sampleReceiver sampleMac sampleKey) fun _ call =>
      Deliverable sampleKit sampleMac samplePackets sampleKey sampleReceiver.session
        {frame | frame ∈ sampleHostFrames} call.1.1) .initial sampleHistory.1 sampleHistory.2 :=
    (replayCalls_guarded _ met).mono fun step => ⟨step.1, deliverable_of_sampleHeaded step.2⟩
  exact ⟨by decide +kernel, run_exposes ideal trivial host run⟩

end SecureVideoReceiver

end ExecutionHandoff.TakeoverCore
