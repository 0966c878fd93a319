import ExecutionHandoff.Library.AgeWindow
import ExecutionHandoff.Library.Runs
import ExecutionHandoff.TakeoverCore.InputProtocol

/-!
# The input sequence gate

The receiver's gate against replayed input.  Realtime events are latest-wins;
critical events are let through once, and retransmissions are told apart in a
window of 64 sequences.
-/

namespace ExecutionHandoff.TakeoverCore

open Library List

inductive InputAcceptance where
  | accepted
  | duplicateOrStale
  | laneKindMismatch
  deriving DecidableEq

structure ReplayWindow where
  highest : Option UInt64
  bitmap : UInt64
  deriving DecidableEq

namespace ReplayWindow

def initial : ReplayWindow := ⟨none, 0⟩

def accept (window : ReplayWindow) (sequence : UInt64) : Bool × ReplayWindow :=
  match window.highest with
  | none => (true, ⟨some sequence, 1⟩)
  | some highest =>
      if sequence > highest then
        let delta := sequence - highest
        (true, ⟨some sequence, if delta ≥ 64 then 1 else window.bitmap <<< delta ||| 1⟩)
      else
        let age := highest - sequence
        if age < 64 then
          let mask := 1 <<< age
          if window.bitmap &&& mask = 0 then (true, { window with bitmap := window.bitmap ||| mask })
          else (false, window)
        else (false, window)

/-- The window with its sequences as numbers. -/
def toAges (window : ReplayWindow) : AgeWindow 64 :=
  ⟨window.highest.map UInt64.toNat, window.bitmap.toBitVec⟩

/-- A bit that is masked out is not set. -/
theorem and_mask_eq_zero_iff (bitmap age : UInt64) (short : age < 64) :
    bitmap &&& 1 <<< age = 0 ↔ bitmap.toBitVec.getLsbD age.toNat = false := by
  have bound : age.toNat < 64 := UInt64.lt_iff_toNat_lt.mp short
  have shift : (1 <<< age : UInt64).toBitVec = BitVec.twoPow 64 age.toNat := by
    rw [UInt64.toBitVec_shiftLeft]
    change (1#64) <<< (age.toBitVec % 64#64) = _
    rw [BitVec.shiftLeft_eq', BitVec.toNat_umod]
    change (1#64) <<< (age.toNat % 64) = _
    rw [Nat.mod_eq_of_lt bound, BitVec.twoPow]
  rw [← UInt64.toBitVec_inj, UInt64.toBitVec_and, shift]
  change _ = 0#64 ↔ _
  rw [BitVec.and_twoPow]
  cases bitmap.toBitVec.getLsbD age.toNat with
  | false => simp
  | true =>
      simp only [if_true, Bool.true_eq_false, iff_false]
      intro zero
      have bit := congrArg (fun bits => bits.getLsbD age.toNat) zero
      simp [bound] at bit

theorem toBitVec_shift (bitmap delta : UInt64) (short : delta < 64) :
    (bitmap <<< delta).toBitVec = bitmap.toBitVec <<< delta.toNat := by
  have bound : delta.toNat < 64 := UInt64.lt_iff_toNat_lt.mp short
  rw [UInt64.toBitVec_shiftLeft]
  change bitmap.toBitVec <<< (delta.toBitVec % 64#64) = _
  rw [BitVec.shiftLeft_eq', BitVec.toNat_umod]
  change bitmap.toBitVec <<< (delta.toNat % 64) = _
  rw [Nat.mod_eq_of_lt bound]

/-- The window of 64-bit words does what the window of ages does. -/
theorem accept_toAges (window : ReplayWindow) (sequence : UInt64) :
    (window.accept sequence).1 = (window.toAges.accept sequence.toNat).1 ∧
      (window.accept sequence).2.toAges = (window.toAges.accept sequence.toNat).2 := by
  unfold accept
  cases some_highest : window.highest with
  | none =>
      have first : window.toAges.highest = none := congrArg (Option.map _) some_highest
      rw [AgeWindow.accept_first first]
      exact ⟨rfl, rfl⟩
  | some highest =>
      have top : window.toAges.highest = some highest.toNat :=
        congrArg (Option.map _) some_highest
      dsimp only
      by_cases above : sequence > highest
      · have over_top : highest.toNat < sequence.toNat := UInt64.lt_iff_toNat_lt.mp above
        have delta : (sequence - highest).toNat = sequence.toNat - highest.toNat :=
          UInt64.toNat_sub_of_le _ _ (UInt64.le_of_lt above)
        rw [if_pos above, AgeWindow.accept_above top over_top]
        refine ⟨rfl, ?_⟩
        unfold toAges
        congr 1
        by_cases far : sequence - highest ≥ 64
        · have long : 64 ≤ sequence.toNat - highest.toNat := delta ▸ UInt64.le_iff_toNat_le.mp far
          rw [if_pos far, BitVec.shiftLeft_eq_zero long]
          rfl
        · rw [if_neg far, UInt64.toBitVec_or, toBitVec_shift _ _ (UInt64.not_le.mp far), delta]
          rfl
      · have below : ¬ highest.toNat < sequence.toNat :=
          fun less => above (UInt64.lt_iff_toNat_lt.mpr less)
        have aged : (highest - sequence).toNat = highest.toNat - sequence.toNat :=
          UInt64.toNat_sub_of_le _ _ (UInt64.not_lt.mp above)
        rw [if_neg above]
        by_cases near : highest - sequence < 64
        · have close : highest.toNat - sequence.toNat < 64 := aged ▸ UInt64.lt_iff_toNat_lt.mp near
          have masked := and_mask_eq_zero_iff window.bitmap (highest - sequence) near
          rw [aged] at masked
          rw [if_pos near]
          by_cases unset : window.bitmap &&& 1 <<< (highest - sequence) = 0
          · rw [if_pos unset, AgeWindow.accept_inside top below ⟨close, masked.mp unset⟩]
            refine ⟨rfl, ?_⟩
            unfold toAges
            rw [some_highest]
            congr 1
            rw [UInt64.toBitVec_or, toBitVec_shift _ _ near, aged]
            rfl
          · rw [if_neg unset, AgeWindow.accept_refused top below
              (fun inside => unset (masked.mpr inside.2))]
            exact ⟨rfl, rfl⟩
        · have far : ¬ highest.toNat - sequence.toNat < 64 :=
            fun less => near (UInt64.lt_iff_toNat_lt.mpr (aged ▸ less))
          rw [if_neg near, AgeWindow.accept_refused top below (fun inside => far inside.1)]
          exact ⟨rfl, rfl⟩

end ReplayWindow

structure InputSequenceGate where
  latestRealtime : Option UInt64
  criticalWindow : ReplayWindow
  deriving DecidableEq

namespace InputSequenceGate

def initial : InputSequenceGate := ⟨none, .initial⟩

def laneIsValid (event : InputEvent) : Bool :=
  match event.kind with
  | .pointerMove => event.lane = .realtime
  | .pointerButton | .key | .textCommit => event.lane = .critical
  | .scroll => true

def accept (event : InputEvent) (gate : InputSequenceGate) : InputAcceptance × InputSequenceGate :=
  if laneIsValid event then
    match event.lane with
    | .realtime =>
        match gate.latestRealtime with
        | some latestRealtime =>
            if event.sequence ≤ latestRealtime then (.duplicateOrStale, gate)
            else (.accepted, { gate with latestRealtime := some event.sequence })
        | none => (.accepted, { gate with latestRealtime := some event.sequence })
    | .critical =>
        let (taken, criticalWindow) := gate.criticalWindow.accept event.sequence
        (if taken then .accepted else .duplicateOrStale, { gate with criticalWindow })
  else (.laneKindMismatch, gate)

/-! ### What the gate is for -/

/-- The sequences accepted on a lane, oldest first. -/
def acceptedSequences (lane : InputLane) (calls : List (InputEvent × InputAcceptance)) :
    List UInt64 :=
  (calls.filter fun call => call.1.lane = lane ∧ call.2 = .accepted).map (·.1.sequence)

/-- The first sequence of a lane, a higher one than before, or one of the last 64 that has not
been accepted yet. -/
def Fresh (taken : List UInt64) (sequence : UInt64) : Prop :=
  sequence ∉ taken ∧
    (taken = [] ∨ ∃ highest ∈ taken, (∀ earlier ∈ taken, earlier ≤ highest) ∧
      (highest < sequence ∨ sequence ≤ highest ∧ highest.toNat - sequence.toNat < 64))

/-- The sequences as numbers. -/
def numbers (taken : List UInt64) : Set Nat := {number | ∃ one ∈ taken, one.toNat = number}

theorem numbers_nil : numbers [] = ∅ :=
  Set.eq_empty_of_forall_notMem fun _ ⟨_, no, _⟩ => by cases no

theorem numbers_append (taken : List UInt64) (sequence : UInt64) :
    numbers (taken ++ [sequence]) = insert sequence.toNat (numbers taken) := by
  ext number
  unfold numbers
  constructor
  · rintro ⟨one, mem, rfl⟩
    rcases mem_append.mp mem with before | last
    · exact .inr ⟨one, before, rfl⟩
    · exact .inl (congrArg UInt64.toNat (mem_singleton.mp last))
  · rintro (rfl | ⟨one, before, rfl⟩)
    · exact ⟨sequence, mem_append_right _ (mem_singleton_self sequence), rfl⟩
    · exact ⟨one, mem_append_left _ before, rfl⟩

/-- What the gate has to accept after these calls. -/
def Acceptable (calls : List (InputEvent × InputAcceptance)) (event : InputEvent) : Prop :=
  laneIsValid event = true ∧
    match event.lane with
    | .realtime => ∀ earlier ∈ acceptedSequences .realtime calls, earlier < event.sequence
    | .critical => Fresh (acceptedSequences .critical calls) event.sequence

/-- The gate remembers what it needs of the calls before. -/
structure Remembers (calls : List (InputEvent × InputAcceptance)) (gate : InputSequenceGate) :
    Prop where
  first : gate.latestRealtime = none → acceptedSequences .realtime calls = []
  latest : ∀ latest, gate.latestRealtime = some latest →
    latest ∈ acceptedSequences .realtime calls ∧
      ∀ earlier ∈ acceptedSequences .realtime calls, earlier ≤ latest
  window : gate.criticalWindow.toAges.Represents (numbers (acceptedSequences .critical calls))

theorem remembers_initial : Remembers [] initial where
  first := fun _ => rfl
  latest := fun _ no => by cases no
  window := by
    rw [show acceptedSequences .critical [] = [] from rfl, numbers_nil]
    exact AgeWindow.represents_empty

/-- A call adds its sequence to its lane when it is accepted. -/
theorem acceptedSequences_append (lane : InputLane)
    (calls : List (InputEvent × InputAcceptance)) (event : InputEvent)
    (acceptance : InputAcceptance) :
    acceptedSequences lane (calls ++ [(event, acceptance)]) =
      acceptedSequences lane calls ++
        if event.lane = lane ∧ acceptance = .accepted then [event.sequence] else [] := by
  unfold acceptedSequences
  rw [filter_append, map_append]
  congr 1
  by_cases counted : event.lane = lane ∧ acceptance = .accepted
  · rw [if_pos counted, filter_cons_of_pos (by simpa using counted)]
    rfl
  · rw [if_neg counted, filter_cons_of_neg (by simpa using counted)]
    rfl

/-- What is fresh among sequences is what is admissible among their numbers. -/
theorem fresh_iff (taken : List UInt64) (sequence : UInt64) :
    Fresh taken sequence ↔
      AgeWindow.Admissible 64 (numbers taken) sequence.toNat := by
  unfold Fresh AgeWindow.Admissible
  refine and_congr (not_congr ?_) (or_congr ?_ ?_)
  · constructor
    · exact fun mem => ⟨sequence, mem, rfl⟩
    · rintro ⟨other, mem, same⟩
      exact UInt64.toNat_inj.mp same ▸ mem
  · constructor
    · rintro rfl
      exact numbers_nil
    · intro none_taken
      refine eq_nil_iff_forall_not_mem.mpr fun other mem => ?_
      exact Set.notMem_empty other.toNat (none_taken ▸ ⟨other, mem, rfl⟩)
  · constructor
    · rintro ⟨highest, mem, top, close⟩
      refine ⟨highest.toNat, ⟨⟨highest, mem, rfl⟩, ?_⟩, ?_⟩
      · rintro _ ⟨other, taken_one, rfl⟩
        exact UInt64.le_iff_toNat_le.mp (top other taken_one)
      · exact close.imp UInt64.lt_iff_toNat_lt.mp (And.imp_left UInt64.le_iff_toNat_le.mp)
    · rintro ⟨_, ⟨⟨highest, mem, rfl⟩, top⟩, close⟩
      refine ⟨highest, mem, fun other taken_one => ?_, ?_⟩
      · exact UInt64.le_iff_toNat_le.mpr (top ⟨other, taken_one, rfl⟩)
      · exact close.imp UInt64.lt_iff_toNat_lt.mpr (And.imp_left UInt64.le_iff_toNat_le.mpr)

theorem accept_mismatch {event : InputEvent} (mismatch : laneIsValid event = false)
    (gate : InputSequenceGate) : accept event gate = (.laneKindMismatch, gate) := by
  unfold accept
  rw [if_neg (Bool.not_eq_true _ ▸ mismatch)]

theorem accept_critical {event : InputEvent} (valid : laneIsValid event = true)
    (critical : event.lane = .critical) (gate : InputSequenceGate) :
    accept event gate =
      (if (gate.criticalWindow.accept event.sequence).1 then .accepted else .duplicateOrStale,
        { gate with criticalWindow := (gate.criticalWindow.accept event.sequence).2 }) := by
  unfold accept
  rw [if_pos valid, critical]

theorem accept_realtime {event : InputEvent} (valid : laneIsValid event = true)
    (realtime : event.lane = .realtime) (gate : InputSequenceGate) :
    accept event gate =
      if gate.latestRealtime.all fun latest => decide (latest < event.sequence) then
        (.accepted, { gate with latestRealtime := some event.sequence })
      else (.duplicateOrStale, gate) := by
  unfold accept
  rw [if_pos valid, realtime]
  cases some_latest : gate.latestRealtime with
  | none => rfl
  | some latest =>
      rw [Option.all_some]
      dsimp only
      by_cases stale : event.sequence ≤ latest
      · rw [if_pos stale, if_neg]
        exact fun newer => UInt64.not_lt.mpr stale (of_decide_eq_true newer)
      · rw [if_neg stale, if_pos]
        exact decide_eq_true (UInt64.not_le.mp stale)

section Remembering

variable {calls : List (InputEvent × InputAcceptance)} {gate : InputSequenceGate}
  (remembers : Remembers calls gate)
include remembers

/-- The latest sequence stands for all the earlier ones. -/
theorem Remembers.latest_lt_iff (sequence : UInt64) :
    (gate.latestRealtime.all fun latest => decide (latest < sequence)) = true ↔
      ∀ earlier ∈ acceptedSequences .realtime calls, earlier < sequence := by
  cases some_latest : gate.latestRealtime with
  | none =>
      rw [remembers.first some_latest]
      exact ⟨fun _ _ no => (not_mem_nil no).elim, fun _ => rfl⟩
  | some latest =>
      obtain ⟨mem, top⟩ := remembers.latest latest some_latest
      constructor
      · intro newer earlier found
        exact UInt64.lt_of_le_of_lt (top earlier found) (of_decide_eq_true newer)
      · intro newer
        exact decide_eq_true (newer latest mem)

/-- The gate accepts what it has to. -/
theorem Remembers.accept_iff (event : InputEvent) :
    (accept event gate).1 = .accepted ↔ Acceptable calls event := by
  unfold Acceptable
  cases valid : laneIsValid event with
  | false =>
      rw [accept_mismatch valid]
      exact iff_of_false (by simp) (by simp)
  | true =>
      cases lane : event.lane with
      | realtime =>
          rw [accept_realtime valid lane, ← remembers.latest_lt_iff event.sequence]
          split
          · rename_i newer
            exact iff_of_true rfl ⟨rfl, newer⟩
          · rename_i stale
            exact iff_of_false (by simp) fun acceptable => stale acceptable.2
      | critical =>
          obtain ⟨same, _⟩ := gate.criticalWindow.accept_toAges event.sequence
          rw [accept_critical valid lane, fresh_iff, ← remembers.window.accept_iff, ← same]
          cases (gate.criticalWindow.accept event.sequence).1 <;> simp

theorem Remembers.accept_critical {event : InputEvent} (valid : laneIsValid event = true)
    (critical : event.lane = .critical) :
    Remembers (calls ++ [(event, (accept event gate).1)]) (accept event gate).2 := by
  obtain ⟨taken, moved⟩ := gate.criticalWindow.accept_toAges event.sequence
  have apart : acceptedSequences .realtime (calls ++ [(event, (accept event gate).1)]) =
      acceptedSequences .realtime calls := by
    rw [acceptedSequences_append, critical, if_neg (fun no => nomatch no.1), append_nil]
  have window := remembers.window.accept event.sequence.toNat
  rw [← moved, ← taken] at window
  rw [InputSequenceGate.accept_critical valid critical] at apart ⊢
  refine ⟨fun none => apart ▸ remembers.first none,
    fun latest same => apart ▸ remembers.latest latest same, ?_⟩
  rw [acceptedSequences_append, critical]
  cases outcome : (gate.criticalWindow.accept event.sequence).1 with
  | true =>
      rw [outcome, if_pos rfl] at window
      simp only [if_true, and_self, numbers_append]
      exact window
  | false =>
      rw [outcome, if_neg Bool.false_ne_true] at window
      simp only [Bool.false_eq_true, if_false, reduceCtorEq, and_false, append_nil]
      exact window

theorem Remembers.accept_realtime {event : InputEvent} (valid : laneIsValid event = true)
    (realtime : event.lane = .realtime) :
    Remembers (calls ++ [(event, (accept event gate).1)]) (accept event gate).2 := by
  have apart : acceptedSequences .critical (calls ++ [(event, (accept event gate).1)]) =
      acceptedSequences .critical calls := by
    rw [acceptedSequences_append, realtime, if_neg (fun no => nomatch no.1), append_nil]
  rw [InputSequenceGate.accept_realtime valid realtime] at apart ⊢
  by_cases newer : (gate.latestRealtime.all fun latest => decide (latest < event.sequence)) = true
  · have above := (remembers.latest_lt_iff event.sequence).mp newer
    have grown : acceptedSequences .realtime (calls ++ [(event, .accepted)]) =
        acceptedSequences .realtime calls ++ [event.sequence] := by
      rw [acceptedSequences_append, if_pos ⟨realtime, rfl⟩]
    rw [if_pos newer] at apart ⊢
    refine ⟨fun no => (nomatch no), fun latest found => ?_, apart ▸ remembers.window⟩
    rw [← Option.some.inj found, grown]
    refine ⟨mem_append_right _ (mem_singleton_self _), fun earlier mem => ?_⟩
    rcases mem_append.mp mem with before | last
    · exact UInt64.le_of_lt (above earlier before)
    · exact UInt64.le_of_eq (mem_singleton.mp last)
  · have same : acceptedSequences .realtime (calls ++ [(event, .duplicateOrStale)]) =
        acceptedSequences .realtime calls := by
      rw [acceptedSequences_append, if_neg (fun no => nomatch no.2), append_nil]
    rw [if_neg newer] at apart ⊢
    exact ⟨fun none => same ▸ remembers.first none,
      fun latest found => same ▸ remembers.latest latest found, apart ▸ remembers.window⟩

/-- The gate goes on remembering. -/
theorem Remembers.accept (event : InputEvent) :
    Remembers (calls ++ [(event, (accept event gate).1)]) (accept event gate).2 := by
  cases valid : laneIsValid event with
  | false =>
      have same (lane : InputLane) :
          acceptedSequences lane (calls ++ [(event, .laneKindMismatch)]) =
            acceptedSequences lane calls := by
        rw [acceptedSequences_append, if_neg (fun no => nomatch no.2), append_nil]
      rw [accept_mismatch valid]
      exact ⟨fun none => same .realtime ▸ remembers.first none,
        fun latest found => same .realtime ▸ remembers.latest latest found,
        same .critical ▸ remembers.window⟩
  | true =>
      cases lane : event.lane with
      | realtime => exact remembers.accept_realtime valid lane
      | critical => exact remembers.accept_critical valid lane

end Remembering

/-- After any events, the gate remembers what it made of them. -/
theorem run_remembers {calls : List (InputEvent × InputAcceptance)} {gate : InputSequenceGate}
    (run : Run (CallStep accept) initial calls gate) : Remembers calls gate := by
  refine @Run.history _ _ _ Remembers [] _ _ _ run ?_ remembers_initial
  intro past first call last step remembers
  have kept := remembers.accept call.1
  rw [step] at kept
  exact kept

/-- Whatever events came before, the gate accepts exactly what it has to, tells a lane that does
not fit apart, and makes the same of all later events as if such an event had not come. -/
theorem accept_specified (events : List InputEvent) (event : InputEvent) :
    ((accept event (replayCalls accept initial events).2).1 = .accepted ↔
        Acceptable (replayCalls accept initial events).1 event) ∧
      ((accept event (replayCalls accept initial events).2).1 = .laneKindMismatch ↔
        laneIsValid event = false) ∧
      (laneIsValid event = false → ∀ later,
        replayCalls accept (accept event (replayCalls accept initial events).2).2 later =
          replayCalls accept (replayCalls accept initial events).2 later) := by
  have remembers := run_remembers (replayCalls_run accept initial events)
  refine ⟨remembers.accept_iff event, ?_, ?_⟩
  · constructor
    · intro mismatch
      cases valid : laneIsValid event with
      | false => rfl
      | true =>
          cases lane : event.lane with
          | realtime =>
              rw [accept_realtime valid lane] at mismatch
              split at mismatch <;> cases mismatch
          | critical =>
              rw [accept_critical valid lane] at mismatch
              dsimp only at mismatch
              split at mismatch <;> cases mismatch
    · intro mismatch
      rw [accept_mismatch mismatch]
  · intro mismatch later
    rw [accept_mismatch mismatch]

end InputSequenceGate

end ExecutionHandoff.TakeoverCore
