import ExecutionHandoff.Host.AccessUnitWire
import ExecutionHandoff.Host.JpegFrames

/-!
# What the media parsers retain

Each of the four parsers keeps the bytes of what is not complete yet.  Three of
them fail before that is more than a frame with its header.  The Annex B parser
bounds the bytes before a first start code and the units it has collected, but
not the unit that the last start code has begun.
-/

namespace ExecutionHandoff.Host

open Library List

namespace AnnexBAccessUnitParser

/-! ## Collected units -/

theorem acceptNal_fits {current current' : Units} {nal : List UInt8} {emitted : List Units}
    (fits : current.Fits) (accepted : acceptNal current nal = some (current', emitted)) :
    current'.Fits := by
  unfold acceptNal at accepted
  split at accepted
  · cases accepted
    exact fits
  · split at accepted
    · cases accepted
      exact Nat.zero_le _
    · split at accepted
      · cases accepted
      · rename_i small
        cases accepted
        exact Nat.not_lt.mp small

theorem acceptNals_keep {current current' : Units} {nals : List (List UInt8)} {emitted : List Units}
    (fits : current.Fits) (accepted : acceptNals current nals = some (current', emitted)) :
    current'.Fits := by
  induction nals generalizing current emitted with
  | nil =>
      cases accepted
      exact fits
  | cons nal nals ih =>
      obtain ⟨between, first, rest, head, tail, _⟩ := acceptNals_cons accepted
      exact ih (acceptNal_fits fits head) tail

/-! ## Pending bytes -/

/-- What a parser keeps of a stream: all of it before a first start code, and then the stream from
its last start code on, with units that fit. -/
inductive Keeps (parser : AnnexBAccessUnitParser) (stream : List UInt8) : Prop where
  | waiting (none' : cutAtStart stream = none) (kept : parser.pending = stream)
      (small : stream.length ≤ maxHostFrameBytes) (fits : parser.current.Fits)
  | reading {front started : List UInt8} {nals : List (List UInt8)}
      (cut : cutAtStart stream = some (front, started))
      (splits : Splits started nals parser.pending) (fits : parser.current.Fits)

theorem initial_keeps : Keeps initial [] := .waiting rfl rfl (Nat.zero_le _) (Nat.zero_le _)

variable {parser parser' : AnnexBAccessUnitParser} {stream chunk : List UInt8}
  {emitted new : List Units}

/-- The first start code: what stands before it is dropped. -/
theorem drain_first {front started : List UInt8} (fits : parser.current.Fits)
    (cut : cutAtStart parser.pending = some (front, started))
    (drained : parser.drain false = some (parser', new)) :
    (∃ nals, Splits started nals parser'.pending) ∧ parser'.current.Fits := by
  unfold drain at drained
  rw [cut] at drained
  dsimp only at drained
  rw [if_neg Bool.false_ne_true] at drained
  obtain ⟨⟨current, emitted⟩, accepted, same⟩ := Option.map_eq_some_iff.mp drained
  cases same
  exact ⟨⟨_, takeUnits_splits (cutAtStart_spec cut).2 (Nat.le_refl _)⟩,
    acceptNals_keep fits accepted⟩

theorem push_keeps (inv : Keeps parser stream) (pushed : parser.push chunk = some (parser', new)) :
    Keeps parser' (stream ++ chunk) := by
  unfold push at pushed
  split at pushed
  · rename_i nothing
    cases pushed
    rw [nothing, append_nil]
    exact inv
  · cases inv with
    | waiting none' kept small fits =>
        rw [kept] at pushed
        cases cut : cutAtStart (stream ++ chunk) with
        | none =>
            unfold drain at pushed
            rw [cut] at pushed
            dsimp only at pushed
            split at pushed
            · cases pushed
            · rename_i within
              cases pushed
              exact .waiting cut rfl (Nat.not_lt.mp within) fits
        | some found =>
            obtain ⟨⟨nals, splits⟩, fits'⟩ :=
              @drain_first ⟨stream ++ chunk, parser.current⟩ _ _ _ _ fits cut pushed
            exact .reading cut splits fits'
    | reading cut splits fits =>
        have begun := cutAtStart_of_starts (startsUnit_append splits.starts.2 chunk)
        obtain ⟨⟨nals, further⟩, fits'⟩ :=
          @drain_first ⟨parser.pending ++ chunk, parser.current⟩ _ _ _ _ fits begun pushed
        exact .reading (cutAtStart_append cut chunk) (splits.append further) fits'

theorem feed_keeps {chunks : List (List UInt8)} (inv : Keeps parser stream)
    (fed : parser.feed chunks = some (parser', emitted)) :
    Keeps parser' (stream ++ chunks.flatten) := by
  induction chunks generalizing parser stream emitted with
  | nil =>
      cases fed
      rw [flatten_nil, append_nil]
      exact inv
  | cons chunk chunks ih =>
      obtain ⟨⟨between, new⟩, pushed, further⟩ := Option.bind_eq_some_iff.mp fed
      obtain ⟨⟨last, rest⟩, fed', same⟩ := Option.map_eq_some_iff.mp further
      cases same
      rw [flatten_cons, ← append_assoc]
      exact ih (push_keeps inv pushed) fed'

theorem Keeps.fits (inv : Keeps parser stream) : parser.current.Fits := by
  cases inv with
  | waiting _ _ _ fits => exact fits
  | reading _ _ fits => exact fits

/-- The pending bytes are bounded exactly as the unit under way is. -/
theorem Keeps.pending_le_iff (inv : Keeps parser stream) {most : Nat}
    (enough : maxHostFrameBytes ≤ most) :
    parser.pending.length ≤ most ↔ UnitsWithin most stream := by
  cases inv with
  | waiting none' kept small _ =>
      rw [kept]
      refine ⟨fun _ back within starts => ?_, fun _ => small.trans enough⟩
      cases starts.symm.trans (not_startsUnit_of_none none' within)
  | reading cut splits _ =>
      obtain ⟨whole, _⟩ := cutAtStart_spec cut
      have suffix : _ <:+ stream := ⟨_, whole.symm⟩
      obtain ⟨within, unended⟩ := splits.left_spec
      constructor
      · intro small back within' starts none'
        have started := suffix_of_suffix_length_le within' suffix
          (length_le_of_cutAtStart cut within' starts)
        exact (splits.length_le_left started starts none').trans small
      · intro all
        exact all _ (within.trans suffix) splits.starts.2 unended

end AnnexBAccessUnitParser

/-! ## The four parsers -/

/-- The bytes that a parser of access units retains are bounded. -/
def AnnexBAccessUnitParser.Bounded (parser : AnnexBAccessUnitParser) : Prop :=
  parser.pending.length ≤ maxHostFrameBytes + 4 ∧ parser.current.Fits

/-- Whatever the bytes and the chunks, three of the parsers retain no more than a frame with its
header, and the Annex B parser does exactly if its stream has no start code that more bytes than
that follow without another one. -/
theorem retained_bounded (chunks : List (List UInt8)) :
    (∀ pending, JpegFrameParser.feed [] chunks = some pending →
      pending.length ≤ maxHostFrameBytes) ∧
    (WebRtc.HostRecordParser.initial.feed chunks).buffer.length ≤
      WebRtc.HostRecordParser.maxHostFrameBytes + 4 ∧
    (∀ pending, WebSocket.WebSocketWindowHostRecordParser.feed [] chunks = some pending →
      pending.length ≤ WebSocket.WebSocketWindowHostRecordParser.maxHostRecordBytes + 4) ∧
    ∀ parser emitted, AnnexBAccessUnitParser.initial.feed chunks = some (parser, emitted) →
      (parser.Bounded ↔ UnitsWithin (maxHostFrameBytes + 4) chunks.flatten) := by
  refine ⟨fun _ fed => JpegFrameParser.feed_bound (Nat.zero_le _) fed,
    WebRtc.HostRecordParser.feed_bound (Nat.zero_le _) chunks,
    fun _ fed => WebSocket.WebSocketWindowHostRecordParser.feed_bound (Nat.zero_le _) fed,
    fun parser emitted fed => ?_⟩
  have inv := AnnexBAccessUnitParser.feed_keeps AnnexBAccessUnitParser.initial_keeps fed
  rw [List.nil_append] at inv
  rw [← inv.pending_le_iff (Nat.le_add_right _ 4)]
  exact ⟨And.left, fun small => ⟨small, inv.fits⟩⟩

/-! ## An endless unit -/

/-- A start code, and ones without end. -/
def endlessUnit (ones : Nat) : List UInt8 := [0, 0, 1] ++ List.replicate ones 1

theorem cutAtStart_ones (ones : Nat) : cutAtStart (List.replicate ones 1) = none := by
  induction ones with
  | zero => rfl
  | succ ones ih =>
      rw [replicate_succ, cutAtStart, ih, if_neg (by simp [startsUnit])]
      rfl

theorem endlessUnit_pending (ones : Nat) :
    AnnexBAccessUnitParser.initial.feed [endlessUnit ones] = some (⟨endlessUnit ones, []⟩, []) := by
  have begun : cutAtStart (endlessUnit ones) = some ([], endlessUnit ones) :=
    AnnexBAccessUnitParser.cutAtStart_of_starts rfl
  have unended : takeUnits (endlessUnit ones).length (endlessUnit ones) = ([], endlessUnit ones) := by
    have alone : Splits (endlessUnit ones) [] (endlessUnit ones) := .last rfl (cutAtStart_ones ones)
    obtain ⟨units, rest⟩ := (takeUnits_splits rfl (Nat.le_refl _)).unique alone
    exact Prod.ext units rest
  have drained : (⟨endlessUnit ones, []⟩ : AnnexBAccessUnitParser).drain false =
      some (⟨endlessUnit ones, []⟩, []) := by
    unfold AnnexBAccessUnitParser.drain
    dsimp only
    rw [begun]
    dsimp only
    rw [unended]
    rfl
  have pushed : AnnexBAccessUnitParser.initial.push (endlessUnit ones) =
      some (⟨endlessUnit ones, []⟩, []) := drained
  rw [AnnexBAccessUnitParser.feed, pushed]
  rfl

/-- No bound holds for what the parser retains after pushes that have not failed. -/
theorem retained_unbounded :
    ¬ ∃ bound, ∀ chunks parser emitted,
      AnnexBAccessUnitParser.initial.feed chunks = some (parser, emitted) →
        parser.pending.length ≤ bound := by
  rintro ⟨bound, all⟩
  have within := all _ _ _ (endlessUnit_pending bound)
  rw [endlessUnit, List.length_append, List.length_replicate] at within
  exact absurd within (by simp)

end ExecutionHandoff.Host
