import ExecutionHandoff.Host.FrameRecords
import ExecutionHandoff.WebRtc.HostRecords
import ExecutionHandoff.WebRtc.RtpPackets

/-!
# Access units from the encoder to the RTP sender

What an encoder writes goes through `AnnexBAccessUnitParser`, `frameRecord`, the
host record parser of the runtime and `splitAvcc`.  No unit is lost or changed
on the way, however the pipes cut it into chunks.
-/

namespace ExecutionHandoff.Host

open Library List
open WebRtc (HostRecordParser splitAvcc splitAvcc_spec prefixed)

/-- An access unit behind its delimiter, as an encoder emits it. -/
structure EncodedAccessUnit where
  delimiter : StartedUnit
  units : List StartedUnit
  plainDelimiter : delimiter.Plain
  delimits : delimiter.bytes ≠ [] ∧ nalType delimiter.bytes = 9
  plainUnits : ∀ unit ∈ units, unit.Plain ∧ unit.bytes ≠ [] ∧ nalType unit.bytes ≠ 9
  some' : units ≠ []

namespace EncodedAccessUnit

def accessUnit (unit : EncodedAccessUnit) : AccessUnit where
  delimiter := unit.delimiter
  units := unit.units
  cleanDelimiter := unit.plainDelimiter.clean
  delimits := unit.delimits
  cleanUnits := fun nal mem => ⟨(unit.plainUnits nal mem).1.clean, (unit.plainUnits nal mem).2⟩
  some' := unit.some'

/-- The units without their start codes. -/
def content (unit : EncodedAccessUnit) : Units := unit.accessUnit.content

def encode (units : List EncodedAccessUnit) : List UInt8 :=
  writeAccessUnits (units.map accessUnit)

end EncodedAccessUnit

/-- The units make a frame within the limit of the host. -/
def Units.Fits (units : Units) : Prop :=
  (units.map fun unit => unit.length + 4).sum ≤ maxHostFrameBytes - 9

theorem Units.Fits.left {front back : Units} (fits : Units.Fits (front ++ back)) :
    Units.Fits front := by
  unfold Units.Fits at fits ⊢
  rw [map_append, sum_append] at fits
  exact Nat.le_of_add_right_le fits

namespace AnnexBAccessUnitParser

/-- The parser gets the chunks of an encoder. -/
def feed (parser : AnnexBAccessUnitParser) :
    List (List UInt8) → Option (AnnexBAccessUnitParser × List Units)
  | [] => some (parser, [])
  | chunk :: chunks =>
      (parser.push chunk).bind fun pushed =>
        (pushed.1.feed chunks).map fun fed => (fed.1, pushed.2 ++ fed.2)

/-- What is emitted for the chunks and the end. -/
def emissions (chunks : List (List UInt8)) : Option (List Units) :=
  (initial.feed chunks).bind fun fed => fed.1.finish.map fun finished => fed.2 ++ finished.2

/-! ## Nothing throws -/

theorem acceptNals_fits {current : Units} {nals : List (List UInt8)}
    (plain : ∀ nal ∈ nals, nal ≠ [] ∧ nalType nal ≠ 9) (fits : Units.Fits (current ++ nals)) :
    acceptNals current nals = some (current ++ nals, []) := by
  induction nals generalizing current with
  | nil => rw [append_nil]; rfl
  | cons nal nals ih =>
      obtain ⟨whole, undelimited⟩ := plain nal mem_cons_self
      have split : current ++ nal :: nals = (current ++ [nal]) ++ nals := by simp
      rw [split] at fits
      have first : acceptNal current nal = some (current ++ [nal], []) := by
        unfold acceptNal
        rw [if_neg whole, if_neg undelimited, if_neg (Nat.not_lt.mpr fits.left)]
      have rest := ih (fun other mem => plain other (mem_cons_of_mem _ mem)) fits
      rw [acceptNals, first, Option.bind_some, rest, split]
      rfl

/-- The units of access units within the limit are accepted. -/
theorem acceptNals_total {units : List AccessUnit} {nals : List (List UInt8)} {current : Units}
    (fits : ∀ unit ∈ units, Units.Fits unit.content) (part : nals <+: flatNals units) :
    ∃ outcome, acceptNals current nals = some outcome := by
  induction units generalizing nals current with
  | nil =>
      cases prefix_nil.mp part
      exact ⟨_, rfl⟩
  | cons unit units ih =>
      cases nals with
      | nil => exact ⟨_, rfl⟩
      | cons nal nals =>
          rw [flatNals_cons] at part
          obtain ⟨rfl, within⟩ := cons_prefix_cons.mp part
          have small : Units.Fits unit.content := fits unit mem_cons_self
          have begun : acceptNals current [unit.delimiter.bytes] = some ([], emission current) := by
            rw [acceptNals, acceptNal_delimiter]
            exact congrArg (fun emitted => some ([], emitted)) (append_nil _)
          rcases prefix_append_cases within with inside | ⟨nals, rfl, beyond⟩
          · have plain := fun nal mem => unit.content_units nal (inside.subset mem)
            obtain ⟨more, same⟩ := inside
            have collected : acceptNals [] nals = some (nals, []) :=
              acceptNals_fits plain (Units.Fits.left (same ▸ small))
            exact ⟨_, acceptNals_append begun collected⟩
          · obtain ⟨outcome, further⟩ := @ih nals unit.content
              (fun other mem => fits other (mem_cons_of_mem _ mem)) beyond
            have collected : acceptNals [] unit.content = some (unit.content, []) :=
              acceptNals_fits unit.content_units small
            exact ⟨_, acceptNals_append begun (acceptNals_append collected further)⟩

section Feeding

variable {parser : AnnexBAccessUnitParser} {fed chunk more : List UInt8} {emitted : List Units}
  {units : List AccessUnit}

/-- Too little for a start code is within any bound. -/
theorem length_unstarted {front more : List UInt8} (starts : startsUnit (front ++ more) = true)
    (none' : cutAtStart front = none) : front.length ≤ 3 := by
  by_contra long
  cases front with
  | nil => exact long (Nat.zero_le _)
  | cons byte front =>
      rw [length_cons] at long
      have here := @startsUnit_of_long byte front (by omega) more
      rw [cons_append] at starts
      cases (cutAtStart_of_starts (here.symm.trans starts)).symm.trans none'

theorem push_total (inv : Fed parser fed emitted) (fits : ∀ unit ∈ units, Units.Fits unit.content)
    (whole : fed ++ chunk ++ more = writeAccessUnits units) :
    ∃ pushed, parser.push chunk = some pushed := by
  unfold push
  split
  · exact ⟨_, rfl⟩
  rename_i some'
  have more' : units ≠ [] := by
    rintro rfl
    exact some' (append_eq_nil_iff.mp (append_eq_nil_iff.mp whole).1).2
  have starts : startsUnit (fed ++ chunk ++ more) = true :=
    whole ▸ startsUnit_writeAccessUnits more'
  -- From a start code on, the complete units are among those written.
  have reads (pending : List UInt8) (current : Units) (nals : List (List UInt8))
      (split : Splits (fed ++ chunk) (nals ++ (takeUnits pending.length pending).1)
        (takeUnits pending.length pending).2)
      (started : startsUnit pending = true)
      (accepted : ∃ emitted, acceptNals [] nals = some (current, emitted)) :
      ∃ pushed, drain ⟨pending, current⟩ false = some pushed := by
    obtain ⟨emitted, accepted⟩ := accepted
    obtain ⟨⟨current', emitted'⟩, all⟩ := @acceptNals_total units _ [] fits
      (splits_front split whole)
    obtain ⟨between, first, rest, before, after, _⟩ := acceptNals_split all
    cases accepted.symm.trans before
    refine ⟨⟨⟨(takeUnits pending.length pending).2, current'⟩, rest⟩, ?_⟩
    unfold drain
    rw [cutAtStart_of_starts started]
    dsimp only
    rw [if_neg Bool.false_ne_true, after]
    rfl
  cases inv with
  | waiting none' kept fresh nothing =>
      rw [kept, fresh]
      rcases starts_or_none starts with started | unstarted
      · exact reads _ [] [] (takeUnits_splits started (Nat.le_refl _)) started ⟨[], rfl⟩
      · have short := length_unstarted starts unstarted
        refine ⟨⟨⟨fed ++ chunk, []⟩, []⟩, ?_⟩
        unfold drain
        rw [unstarted]
        exact if_neg (Nat.not_lt.mpr (short.trans (by decide)))
  | reading splits accepted =>
      have started := startsUnit_append splits.starts.2 chunk
      exact reads _ _ _ (splits.append (takeUnits_splits started (Nat.le_refl _))) started
        ⟨_, accepted⟩

/-- The parser gets all chunks, and has made of them what it makes of their bytes. -/
theorem feed_total {chunks : List (List UInt8)} (inv : Fed parser fed emitted)
    (fits : ∀ unit ∈ units, Units.Fits unit.content)
    (whole : fed ++ chunks.flatten = writeAccessUnits units) :
    ∃ parser' new, parser.feed chunks = some (parser', new) ∧
      Fed parser' (writeAccessUnits units) (emitted ++ new) := by
  induction chunks generalizing parser fed emitted with
  | nil =>
      rw [flatten_nil, append_nil] at whole
      refine ⟨parser, [], rfl, ?_⟩
      rw [← whole, append_nil]
      exact inv
  | cons chunk chunks ih =>
      rw [flatten_cons, ← append_assoc] at whole
      obtain ⟨⟨parser', new⟩, pushed⟩ := push_total inv fits whole
      have inv' : Fed parser' (fed ++ chunk) (emitted ++ new) := by
        by_cases some' : units = []
        · subst some'
          have empty : chunk = [] :=
            (append_eq_nil_iff.mp (append_eq_nil_iff.mp whole).1).2
          subst empty
          cases pushed
          rw [append_nil, append_nil]
          exact inv
        · exact push_fed inv (whole ▸ startsUnit_writeAccessUnits some') pushed
      obtain ⟨last, rest, fed', inv''⟩ := ih inv' whole
      refine ⟨last, new ++ rest, ?_, append_assoc emitted new rest ▸ inv''⟩
      rw [feed, pushed, Option.bind_some, fed']
      rfl

theorem finish_total (inv : Fed parser (writeAccessUnits units) emitted)
    (fits : ∀ unit ∈ units, Units.Fits unit.content) : ∃ finished, parser.finish = some finished := by
  suffices flushes : ∃ drained, parser.drain true = some drained by
    obtain ⟨drained, same⟩ := flushes
    exact ⟨_, by rw [finish, same]; rfl⟩
  by_cases some' : units = []
  · subst some'
    cases inv with
    | waiting none' kept _ _ =>
        refine ⟨⟨parser, []⟩, ?_⟩
        unfold drain
        rw [kept]
        rfl
    | reading splits _ => exact absurd splits.starts.1 (by decide)
  · cases inv with
    | waiting none' =>
        cases (cutAtStart_of_starts (startsUnit_writeAccessUnits some')).symm.trans none'
    | reading splits accepted =>
        obtain ⟨last, flat, flushes⟩ := drain_flush some' splits
        obtain ⟨⟨current', emitted'⟩, all⟩ := @acceptNals_total units _ [] fits prefix_rfl
        rw [← flat] at all
        obtain ⟨between, first, rest, before, after, _⟩ := acceptNals_split all
        cases accepted.symm.trans before
        exact ⟨_, by rw [flushes, after]; rfl⟩

/-- Access units within the limit are emitted as they were written. -/
theorem emissions_eq {chunks : List (List UInt8)} (fits : ∀ unit ∈ units, Units.Fits unit.content)
    (whole : chunks.flatten = writeAccessUnits units) :
    emissions chunks = some (units.map AccessUnit.content) := by
  obtain ⟨parser, emitted, fed, inv⟩ := @feed_total initial [] [] units chunks initial_fed fits whole
  rw [nil_append] at inv
  obtain ⟨⟨parser', new⟩, finished⟩ := finish_total inv fits
  have emits := finish_fed inv finished
  rw [emissions, fed, Option.bind_some, finished]
  exact congrArg some emits

end Feeding

end AnnexBAccessUnitParser

/-! ## Records -/

theorem uint32BE_eq (value : Nat) : uint32BE value = bigEndian 4 value := by
  simp only [uint32BE, bigEndian, Nat.toUInt8, Nat.reducePow, Nat.pow_zero, Nat.div_one]

theorem avccFromNalUnits_eq (units : Units) : avccFromNalUnits units = units.flatMap prefixed := by
  unfold avccFromNalUnits prefixed
  rw [flatMap_def]
  simp only [uint32BE_eq]

theorem length_avccFromNalUnits (units : Units) :
    (avccFromNalUnits units).length = (units.map fun unit => unit.length + 4).sum := by
  rw [avccFromNalUnits_eq, length_flatMap]
  refine congrArg sum (map_congr_left fun unit _ => ?_)
  unfold prefixed
  rw [length_append, bigEndian_length, Nat.add_comm]

theorem splitAvcc_avccFromNalUnits {units : Units} (fits : units.Fits)
    (some' : ∀ unit ∈ units, unit ≠ []) : splitAvcc (avccFromNalUnits units) = units := by
  rw [avccFromNalUnits_eq]
  refine splitAvcc_spec.1 units fun unit mem => ⟨some' unit mem, ?_⟩
  obtain ⟨front, back, rfl⟩ := append_of_mem mem
  unfold Units.Fits at fits
  rw [map_append, sum_append, map_cons, sum_cons] at fits
  have small : maxHostFrameBytes - 9 < 256 ^ 4 := by decide
  omega

/-- The record of a frame is made, and is read as that frame in any chunks. -/
theorem frameRecord_delivered {avcc : List UInt8} {timestamp width height : Nat} (keyframe : Bool)
    (content : avcc ≠ []) (fits : avcc.length ≤ maxHostFrameBytes - 9) (ticks : timestamp < 2 ^ 32)
    (sized : HostWire.sizeInBounds width height = true) :
    ∃ record, HostWire.frameRecord avcc timestamp keyframe width height = .ok record ∧
      ∀ chunks : List (List UInt8), chunks.flatten = record →
        HostRecordParser.deliver .initial chunks =
          [.frame timestamp keyframe width height avcc] := by
  have wellFormed : (WebRtc.HostRecord.frame timestamp (if keyframe then 1 else 0) width height
      avcc).WellFormed := by
    obtain ⟨⟨wide, width', -⟩, high, height', -⟩ := HostWire.sizeInBounds_iff.mp sized
    refine ⟨ticks, wide, width', high, height', content, ?_⟩
    have bound : maxHostFrameBytes = HostRecordParser.maxHostFrameBytes := rfl
    have room : 9 ≤ maxHostFrameBytes := by decide
    omega
  have safe : isSafeInteger timestamp = true := by
    simp only [isSafeInteger, Bool.and_eq_true, decide_eq_true_eq]
    omega
  have low : ((timestamp : Int) % 2 ^ 32).toNat = timestamp := by omega
  have most : ¬ (avcc.length < 1 ∨ maxHostFrameBytes - 9 < avcc.length) := by
    have some' := length_pos_iff.mpr content
    omega
  refine ⟨(WebRtc.HostRecord.frame timestamp (if keyframe then 1 else 0) width height avcc).bytes,
    ?_, fun chunks same => ?_⟩
  · unfold HostWire.frameRecord
    rw [if_neg most, if_neg (by simp [safe, sized]), low, Int.toNat_natCast, Int.toNat_natCast]
    rfl
  · have drained := HostRecordParser.format_codes.drain_whole
      (forall_mem_singleton.mpr wellFormed)
    rw [flatMap_cons, flatMap_nil, append_nil] at drained
    have waits : HostRecordParser.format.framing.front [] = .wait := rfl
    have outcome := HostRecordParser.deliver_eq_outcome waits chunks
    rw [nil_append, same, HostRecordParser.outcome, drained] at outcome
    refine outcome.trans ?_
    cases keyframe <;> rfl

/-! ## The whole way -/

/-- Access units within the limit, in any encoding and any chunks, are emitted as they were written,
with the key frames told by their units; and each of them comes through a record and `splitAvcc` as
it was emitted. -/
theorem accessUnits_round_trip (units : List EncodedAccessUnit)
    (fits : ∀ unit ∈ units, unit.content.Fits) (chunks : List (List UInt8))
    (whole : chunks.flatten = EncodedAccessUnit.encode units) :
    AnnexBAccessUnitParser.emissions chunks = some (units.map EncodedAccessUnit.content) ∧
    ∀ unit ∈ units,
      (unit.content.keyframe = true ↔ ∃ nal ∈ unit.content, nalType nal = 5) ∧
      ∀ timestamp width height : Nat, timestamp < 2 ^ 32 →
        HostWire.sizeInBounds width height = true →
        ∃ record, HostWire.frameRecord (avccFromNalUnits unit.content) timestamp
            unit.content.keyframe width height = .ok record ∧
          ∀ chunks' : List (List UInt8), chunks'.flatten = record →
            ∃ avcc, HostRecordParser.deliver .initial chunks' =
                [.frame timestamp unit.content.keyframe width height avcc] ∧
              splitAvcc avcc = unit.content := by
  have contents : (units.map EncodedAccessUnit.accessUnit).map AccessUnit.content =
      units.map EncodedAccessUnit.content := List.map_map
  have fits' : ∀ unit ∈ units.map EncodedAccessUnit.accessUnit, Units.Fits unit.content := by
    intro unit mem
    obtain ⟨encoded, among, rfl⟩ := List.mem_map.mp mem
    exact fits encoded among
  refine ⟨contents ▸ AnnexBAccessUnitParser.emissions_eq fits' whole, fun unit mem => ⟨?_, ?_⟩⟩
  · simp [Units.keyframe]
  · intro timestamp width height ticks sized
    have small := fits unit mem
    have nonempty : ∀ nal ∈ unit.content, nal ≠ [] :=
      fun nal among => (unit.accessUnit.content_units nal among).1
    have length := length_avccFromNalUnits unit.content
    have some' : avccFromNalUnits unit.content ≠ [] := by
      refine List.ne_nil_of_length_pos ?_
      obtain ⟨first, rest, same⟩ := List.exists_cons_of_ne_nil unit.accessUnit.content_ne_nil
      have content : unit.content = first :: rest := same
      rw [length, content, List.map_cons, List.sum_cons]
      omega
    obtain ⟨record, made, delivers⟩ := frameRecord_delivered unit.content.keyframe some'
      (length ▸ small) ticks sized
    exact ⟨record, made, fun chunks' same => ⟨_, delivers chunks' same,
      splitAvcc_avccFromNalUnits small nonempty⟩⟩

/-! ## A sample encoder -/

/-- Parameter sets and an IDR slice with start codes of both lengths. -/
def sampleKeyUnit : EncodedAccessUnit where
  delimiter := ⟨true, [0x09, 0xf0]⟩
  units := [⟨true, [0x67, 1]⟩, ⟨false, [0x68, 2]⟩, ⟨false, [0x65, 0, 0, 3]⟩]
  plainDelimiter := by decide
  delimits := by decide
  plainUnits := by decide
  some' := by decide

def sampleDeltaUnit : EncodedAccessUnit where
  delimiter := ⟨false, [0x09, 0xf0]⟩
  units := [⟨true, [0x41, 4]⟩]
  plainDelimiter := by decide
  delimits := by decide
  plainUnits := by decide
  some' := by decide

/-- The chunks cut start codes apart. -/
def sampleEncoded : List (List UInt8) :=
  [[0, 0], [0, 1, 0x09, 0xf0, 0, 0, 0], [1, 0x67, 1, 0, 0, 1, 0x68, 2, 0], [0], [1, 0x65, 0, 0, 3, 0, 0, 1],
    [0x09, 0xf0, 0, 0, 0, 1, 0x41, 4]]

theorem sampleEncoded_emitted :
    AnnexBAccessUnitParser.emissions sampleEncoded =
      some [[[0x67, 1], [0x68, 2], [0x65, 0, 0, 3]], [[0x41, 4]]] :=
  (accessUnits_round_trip [sampleKeyUnit, sampleDeltaUnit]
    (by simp only [Units.Fits]; decide) sampleEncoded (by decide)).1

end ExecutionHandoff.Host
