import Mathlib.Algebra.GroupWithZero.Nat
import ExecutionHandoff.Library.StartCodes

/-!
# Access units of an encoder

`AnnexBAccessUnitParser` collects the units of an encoder's output between the
delimiters that the encoder is told to emit.  Whatever throws in it ends the
host, so such a call has no outcome here.
-/

namespace ExecutionHandoff.Host

open Library List Option

def maxHostFrameBytes : Nat := 8 * 1024 * 1024

def nalType (nal : List UInt8) : UInt8 := nal.headD 0 &&& 0x1f

/-- The units of an access unit, and whether it is a key frame. -/
abbrev Units := List (List UInt8)

def Units.keyframe (units : Units) : Bool := units.any fun unit => nalType unit == 5

structure AnnexBAccessUnitParser where
  pending : List UInt8
  current : Units
  deriving DecidableEq

namespace AnnexBAccessUnitParser

def initial : AnnexBAccessUnitParser := ⟨[], []⟩

/-- What `emitCurrent` emits. -/
def emission (current : Units) : List Units := if current = [] then [] else [current]

def acceptNal (current : Units) (nal : List UInt8) : Option (Units × List Units) :=
  if nal = [] then
    some (current, [])
  else if nalType nal = 9 then
    some ([], emission current)
  else if maxHostFrameBytes - 9 < ((current ++ [nal]).map fun unit => unit.length + 4).sum then
    none
  else
    some (current ++ [nal], [])

def acceptNals : Units → List (List UInt8) → Option (Units × List Units)
  | current, [] => some (current, [])
  | current, nal :: nals =>
      (acceptNal current nal).bind fun first =>
        (acceptNals first.1 nals).map fun rest => (rest.1, first.2 ++ rest.2)

variable (parser : AnnexBAccessUnitParser)

def drain (flush : Bool) : Option (AnnexBAccessUnitParser × List Units) :=
  match cutAtStart parser.pending with
  | none => if maxHostFrameBytes < parser.pending.length then none else some (parser, [])
  | some (_, bytes) =>
      let taken := takeUnits bytes.length bytes
      if flush then
        (acceptNals parser.current (taken.1 ++ [afterStart taken.2])).map fun accepted =>
          (⟨[], accepted.1⟩, accepted.2)
      else
        (acceptNals parser.current taken.1).map fun accepted =>
          (⟨taken.2, accepted.1⟩, accepted.2)

def push (chunk : List UInt8) : Option (AnnexBAccessUnitParser × List Units) :=
  if chunk = [] then some (parser, [])
  else { parser with pending := parser.pending ++ chunk }.drain false

/-- `end`, with what it emits. -/
def finish : Option (AnnexBAccessUnitParser × List Units) :=
  (parser.drain true).map fun drained =>
    (⟨[], []⟩, drained.2 ++ emission drained.1.current)

end AnnexBAccessUnitParser

/-! ## What an encoder writes -/

/-- An access unit with its delimiter. -/
structure AccessUnit where
  delimiter : StartedUnit
  units : List StartedUnit
  cleanDelimiter : delimiter.Clean
  delimits : delimiter.bytes ≠ [] ∧ nalType delimiter.bytes = 9
  cleanUnits : ∀ unit ∈ units, unit.Clean ∧ unit.bytes ≠ [] ∧ nalType unit.bytes ≠ 9
  some' : units ≠ []
  deriving DecidableEq

namespace AccessUnit

def nals (unit : AccessUnit) : List StartedUnit := unit.delimiter :: unit.units

/-- What the parser is to emit for it. -/
def content (unit : AccessUnit) : Units := unit.units.map StartedUnit.bytes

def write (unit : AccessUnit) : List UInt8 := writeUnits unit.nals

theorem content_ne_nil (unit : AccessUnit) : unit.content ≠ [] := by
  intro none'
  exact unit.some' (map_eq_nil_iff.mp none')

theorem content_units (unit : AccessUnit) :
    ∀ nal ∈ unit.content, nal ≠ [] ∧ nalType nal ≠ 9 := by
  intro nal mem
  obtain ⟨started, among, rfl⟩ := mem_map.mp mem
  exact (unit.cleanUnits started among).2

theorem clean {unit : AccessUnit} {nal : StartedUnit} (mem : nal ∈ unit.nals) : nal.Clean := by
  rcases mem_cons.mp mem with rfl | mem
  · exact unit.cleanDelimiter
  · exact (unit.cleanUnits nal mem).1

end AccessUnit

/-- The units of a list of access units, without their start codes. -/
def flatNals (units : List AccessUnit) : List (List UInt8) :=
  (units.flatMap AccessUnit.nals).map StartedUnit.bytes

def writeAccessUnits (units : List AccessUnit) : List UInt8 :=
  (units.map AccessUnit.write).flatten

theorem writeAccessUnits_eq (units : List AccessUnit) :
    writeAccessUnits units = writeUnits (units.flatMap AccessUnit.nals) := by
  induction units with
  | nil => rfl
  | cons unit units ih =>
      change unit.write ++ writeAccessUnits units = _
      rw [ih]
      unfold writeUnits
      rw [flatMap_cons, map_append, flatten_append]
      rfl

theorem flatNals_cons (unit : AccessUnit) (units : List AccessUnit) :
    flatNals (unit :: units) = unit.delimiter.bytes :: (unit.content ++ flatNals units) := by
  unfold flatNals
  rw [flatMap_cons, map_append]
  rfl

namespace AnnexBAccessUnitParser

/-! ## Accepting units -/

theorem acceptNals_cons {current current' : Units} {nal : List UInt8} {nals : List (List UInt8)}
    {emitted : List Units} (accepted : acceptNals current (nal :: nals) = some (current', emitted)) :
    ∃ between first rest, acceptNal current nal = some (between, first) ∧
      acceptNals between nals = some (current', rest) ∧ emitted = first ++ rest := by
  obtain ⟨⟨between, first⟩, head, further⟩ := bind_eq_some_iff.mp accepted
  obtain ⟨⟨last, rest⟩, tail, same⟩ := map_eq_some_iff.mp further
  cases same
  exact ⟨between, first, rest, head, tail, rfl⟩

theorem acceptNals_append {current between current' : Units} {nals nals' : List (List UInt8)}
    {first rest : List Units} (accepted : acceptNals current nals = some (between, first))
    (further : acceptNals between nals' = some (current', rest)) :
    acceptNals current (nals ++ nals') = some (current', first ++ rest) := by
  induction nals generalizing current first with
  | nil =>
      cases accepted
      exact further
  | cons nal nals ih =>
      obtain ⟨middle, head, tail, start, following, rfl⟩ := acceptNals_cons accepted
      change ((acceptNal current nal).bind fun first =>
        (acceptNals first.1 (nals ++ nals')).map fun rest => (rest.1, first.2 ++ rest.2)) = _
      rw [start, bind_some, ih following, append_assoc]
      rfl

theorem acceptNals_split {current current' : Units} {nals nals' : List (List UInt8)}
    {emitted : List Units} (accepted : acceptNals current (nals ++ nals') = some (current', emitted)) :
    ∃ between first rest, acceptNals current nals = some (between, first) ∧
      acceptNals between nals' = some (current', rest) ∧ emitted = first ++ rest := by
  induction nals generalizing current emitted with
  | nil => exact ⟨current, [], emitted, rfl, accepted, rfl⟩
  | cons nal nals ih =>
      obtain ⟨middle, head, tail, start, following, rfl⟩ := acceptNals_cons accepted
      obtain ⟨between, first, rest, before, after, rfl⟩ := ih following
      refine ⟨between, head ++ first, rest, ?_, after, (append_assoc _ _ _).symm⟩
      change (acceptNal current nal).bind _ = _
      rw [start, bind_some, before]
      rfl

/-- The units of an access unit are collected, and nothing is emitted. -/
theorem acceptNals_units {current current' : Units} {nals : List (List UInt8)}
    {emitted : List Units} (units : ∀ nal ∈ nals, nal ≠ [] ∧ nalType nal ≠ 9)
    (accepted : acceptNals current nals = some (current', emitted)) :
    current' = current ++ nals ∧ emitted = [] := by
  induction nals generalizing current emitted with
  | nil =>
      cases accepted
      exact ⟨(append_nil _).symm, rfl⟩
  | cons nal nals ih =>
      obtain ⟨between, first, rest, head, tail, rfl⟩ := acceptNals_cons accepted
      obtain ⟨whole, plain⟩ := units nal mem_cons_self
      unfold acceptNal at head
      rw [if_neg whole, if_neg plain] at head
      split at head
      · cases head
      · cases head
        obtain ⟨rfl, rfl⟩ := ih (fun other mem => units other (mem_cons_of_mem _ mem)) tail
        exact ⟨append_assoc current [nal] nals, rfl⟩

theorem acceptNal_delimiter (current : Units) (unit : AccessUnit) :
    acceptNal current unit.delimiter.bytes = some ([], emission current) := by
  unfold acceptNal
  rw [if_neg unit.delimits.1, if_pos unit.delimits.2]

theorem emission_content (unit : AccessUnit) : emission unit.content = [unit.content] :=
  if_neg unit.content_ne_nil

/-- A part of two lists that follow each other ends in the first, or goes on into the second. -/
theorem prefix_append_cases {α : Type*} {part front back : List α} (within : part <+: front ++ back) :
    part <+: front ∨ ∃ part', part = front ++ part' ∧ part' <+: back := by
  obtain ⟨more, same⟩ := within
  rcases append_eq_append_iff.mp same with ⟨left, rfl, _⟩ | ⟨part', rfl, rest⟩
  · exact .inl (prefix_append _ _)
  · exact .inr ⟨part', rfl, more, rest.symm⟩

/-- An access unit is taken in: what was collected before is emitted. -/
theorem acceptNals_accessUnit {unit : AccessUnit} {nals : List (List UInt8)}
    {current current' : Units} {emitted : List Units}
    (accepted : acceptNals current (unit.delimiter.bytes :: (unit.content ++ nals)) =
      some (current', emitted)) :
    ∃ rest, acceptNals unit.content nals = some (current', rest) ∧
      emitted = emission current ++ rest := by
  obtain ⟨between, first, rest, head, tail, rfl⟩ := acceptNals_cons accepted
  cases (acceptNal_delimiter current unit).symm.trans head
  obtain ⟨collected, nothing, rest, before, after, rfl⟩ := acceptNals_split tail
  obtain ⟨rfl, rfl⟩ := acceptNals_units unit.content_units before
  exact ⟨rest, after, rfl⟩

/-- Of the units of some access units, the parser emits the access units but the last, in order. -/
theorem acceptNals_prefix {units : List AccessUnit} {nals : List (List UInt8)}
    {current current' : Units} {emitted : List Units} (part : nals <+: flatNals units)
    (accepted : acceptNals current nals = some (current', emitted)) :
    emitted <+: emission current ++ (units.map AccessUnit.content).dropLast := by
  induction units generalizing nals current emitted with
  | nil =>
      cases prefix_nil.mp part
      cases accepted
      exact nil_prefix
  | cons unit units ih =>
      cases nals with
      | nil =>
          cases accepted
          exact nil_prefix
      | cons nal nals =>
          rw [flatNals_cons] at part
          obtain ⟨rfl, within⟩ := cons_prefix_cons.mp part
          rcases prefix_append_cases within with inside | ⟨nals, rfl, beyond⟩
          · obtain ⟨between, first, rest, head, tail, rfl⟩ := acceptNals_cons accepted
            cases (acceptNal_delimiter current unit).symm.trans head
            have plain := fun nal mem => unit.content_units nal (inside.subset mem)
            obtain ⟨_, rfl⟩ := acceptNals_units plain tail
            rw [append_nil]
            exact prefix_append _ _
          · obtain ⟨rest, further, rfl⟩ := acceptNals_accessUnit accepted
            refine (prefix_append_right_inj _).mpr ?_
            cases units with
            | nil =>
                cases prefix_nil.mp beyond
                cases further
                exact nil_prefix
            | cons next units =>
                have emits := ih beyond further
                rw [emission_content] at emits
                exact emits

/-- Of whole access units the last one is left, collected. -/
theorem acceptNals_whole {units : List AccessUnit} {current current' : Units}
    {emitted : List Units} (some' : units ≠ [])
    (accepted : acceptNals current (flatNals units) = some (current', emitted)) :
    emitted ++ emission current' = emission current ++ units.map AccessUnit.content := by
  induction units generalizing current emitted with
  | nil => exact absurd rfl some'
  | cons unit units ih =>
      rw [flatNals_cons] at accepted
      obtain ⟨rest, further, rfl⟩ := acceptNals_accessUnit accepted
      rw [append_assoc]
      refine congrArg (emission current ++ ·) ?_
      cases units with
      | nil =>
          cases further
          rw [emission_content]
          rfl
      | cons next units =>
          rw [ih (cons_ne_nil _ _) further, emission_content]
          rfl

/-! ## Chunks -/

/-- What a parser has made of the bytes it was fed: it waits for a first start code, or it keeps the
rest from the last start code on and has accepted the units before. -/
inductive Fed (parser : AnnexBAccessUnitParser) (fed : List UInt8) (emitted : List Units) : Prop where
  | waiting (none' : cutAtStart fed = none) (kept : parser.pending = fed)
      (fresh : parser.current = []) (nothing : emitted = [])
  | reading {nals : List (List UInt8)} (splits : Splits fed nals parser.pending)
      (accepted : acceptNals [] nals = some (parser.current, emitted))

theorem initial_fed : Fed initial [] [] := .waiting rfl rfl rfl rfl

theorem cutAtStart_of_starts {bytes : List UInt8} (starts : startsUnit bytes = true) :
    cutAtStart bytes = some ([], bytes) := by
  cases bytes with
  | nil => cases starts
  | cons byte bytes => exact if_pos starts

/-- The front of a stream holds its first start code, or none. -/
theorem starts_or_none {front more : List UInt8} (starts : startsUnit (front ++ more) = true) :
    startsUnit front = true ∨ cutAtStart front = none := by
  cases cut : cutAtStart front with
  | none => exact .inr rfl
  | some found =>
      refine .inl ?_
      obtain ⟨whole, within⟩ := cutAtStart_spec cut
      have long := startsUnit_length within
      cases before : found.1 with
      | nil =>
          rw [before] at whole
          rw [whole]
          exact within
      | cons byte bytes =>
          rw [before] at whole
          rw [whole] at starts ⊢
          have enough : 3 ≤ (bytes ++ found.2).length := by
            rw [length_append]
            omega
          change startsUnit (byte :: (bytes ++ found.2)) = true
          rw [← startsUnit_of_long enough more]
          exact starts

section Draining

variable {parser parser' : AnnexBAccessUnitParser} {fed chunk : List UInt8}
  {emitted new : List Units}

/-- From a start code on, `drain` accepts the complete units and keeps the rest. -/
theorem drain_started (starts : startsUnit parser.pending = true)
    (drained : parser.drain false = some (parser', new)) :
    ∃ nals, Splits parser.pending nals parser'.pending ∧
      acceptNals parser.current nals = some (parser'.current, new) := by
  unfold drain at drained
  rw [cutAtStart_of_starts starts] at drained
  dsimp only at drained
  rw [if_neg Bool.false_ne_true] at drained
  obtain ⟨⟨current, emitted⟩, accepted, same⟩ := map_eq_some_iff.mp drained
  cases same
  exact ⟨_, takeUnits_splits starts (Nat.le_refl _), accepted⟩

theorem drain_unstarted (none' : cutAtStart parser.pending = none) {flush : Bool}
    (drained : parser.drain flush = some (parser', new)) : parser' = parser ∧ new = [] := by
  unfold drain at drained
  rw [none'] at drained
  dsimp only at drained
  split at drained
  · cases drained
  · cases drained
    exact ⟨rfl, rfl⟩

theorem push_fed {more : List UInt8} (inv : Fed parser fed emitted)
    (starts : startsUnit (fed ++ chunk ++ more) = true)
    (pushed : parser.push chunk = some (parser', new)) :
    Fed parser' (fed ++ chunk) (emitted ++ new) := by
  unfold push at pushed
  split at pushed
  · rename_i empty
    cases pushed
    rw [empty, append_nil, append_nil]
    exact inv
  · cases inv with
    | waiting none' kept fresh nothing =>
        rw [kept, fresh] at pushed
        rw [nothing]
        rcases starts_or_none starts with started | unstarted
        · obtain ⟨nals, splits, accepted⟩ :=
            @drain_started ⟨fed ++ chunk, []⟩ _ _ started pushed
          exact .reading splits accepted
        · obtain ⟨rfl, rfl⟩ := @drain_unstarted ⟨fed ++ chunk, []⟩ _ _ unstarted _ pushed
          exact .waiting unstarted rfl rfl rfl
    | reading splits accepted =>
        have started := startsUnit_append splits.starts.2 chunk
        obtain ⟨nals, splits', accepted'⟩ :=
          @drain_started ⟨parser.pending ++ chunk, parser.current⟩ _ _ started pushed
        exact .reading (splits.append splits') (acceptNals_append accepted accepted')

theorem writeAccessUnits_last {units : List AccessUnit} (some' : units ≠ []) :
    ∃ front last, units.flatMap AccessUnit.nals = front ++ [last] ∧
      (∀ nal ∈ front, nal.Clean) ∧ last.Clean := by
  have clean {nal : StartedUnit} (mem : nal ∈ units.flatMap AccessUnit.nals) : nal.Clean := by
    obtain ⟨unit, _, within⟩ := mem_flatMap.mp mem
    exact unit.clean within
  have more : units.flatMap AccessUnit.nals ≠ [] := by
    obtain ⟨unit, rest, rfl⟩ := exists_cons_of_ne_nil some'
    exact cons_ne_nil _ _
  have cut := dropLast_append_getLast more
  refine ⟨_, _, cut.symm, fun nal mem => clean (dropLast_subset _ mem), ?_⟩
  exact clean (getLast_mem more)

theorem startsUnit_writeAccessUnits {units : List AccessUnit} (some' : units ≠ []) :
    startsUnit (writeAccessUnits units) = true := by
  obtain ⟨unit, rest, rfl⟩ := exists_cons_of_ne_nil some'
  rw [writeAccessUnits_eq]
  change startsUnit (startCode unit.delimiter.long ++ unit.delimiter.bytes ++ _) = true
  rw [append_assoc]
  exact startsUnit_startCode _ _

/-- The complete units in the front of some access units are the first of theirs. -/
theorem splits_front {units : List AccessUnit} {fed more left : List UInt8}
    {nals : List (List UInt8)} (splits : Splits fed nals left)
    (whole : fed ++ more = writeAccessUnits units) : nals <+: flatNals units := by
  have started := startsUnit_append splits.starts.2 more
  have all := splits.append (takeUnits_splits started (Nat.le_refl _))
  rw [whole, writeAccessUnits_eq] at all
  have some' : units ≠ [] := by
    rintro rfl
    exact absurd all.starts.1 (by decide)
  obtain ⟨front, last, cut, clean, clean'⟩ := writeAccessUnits_last some'
  rw [cut] at all
  obtain ⟨same, _⟩ := all.unique (splits_writeUnits clean clean')
  unfold flatNals
  rw [cut, map_append, ← same, append_assoc]
  exact prefix_append _ _

/-- Fed the front of some access units, a parser has emitted some of them, and not the last. -/
theorem Fed.emitted_prefix {units : List AccessUnit} {more : List UInt8}
    (inv : Fed parser fed emitted) (whole : fed ++ more = writeAccessUnits units) :
    emitted <+: (units.map AccessUnit.content).dropLast := by
  cases inv with
  | waiting _ _ _ nothing =>
      rw [nothing]
      exact nil_prefix
  | reading splits accepted => exact acceptNals_prefix (splits_front splits whole) accepted

/-- Of whole access units the last unit is left, and the end flushes it. -/
theorem drain_flush {units : List AccessUnit} {nals : List (List UInt8)} (some' : units ≠ [])
    (splits : Splits (writeAccessUnits units) nals parser.pending) :
    ∃ last, nals ++ [last] = flatNals units ∧
      parser.drain true = (acceptNals parser.current [last]).map fun accepted =>
        (⟨[], accepted.1⟩, accepted.2) := by
  obtain ⟨front, last, cut, clean, clean'⟩ := writeAccessUnits_last some'
  rw [writeAccessUnits_eq, cut] at splits
  obtain ⟨rfl, left⟩ := splits.unique (splits_writeUnits clean clean')
  have begins : startsUnit last.write = true := startsUnit_startCode _ _
  have alone : Splits last.write [] last.write := by
    refine .last begins ?_
    unfold StartedUnit.write
    rw [afterStart_startCode]
    exact cutAtStart_clean clean'
  obtain ⟨nothing, rest⟩ := (takeUnits_splits begins (Nat.le_refl _)).unique alone
  have final : afterStart last.write = last.bytes := afterStart_startCode _ _
  refine ⟨last.bytes, ?_, ?_⟩
  · unfold flatNals
    rw [cut, map_append]
    rfl
  · unfold drain
    rw [left, cutAtStart_of_starts begins]
    dsimp only
    rw [if_pos rfl, nothing, rest, final]
    rfl

/-- Fed all of some access units, the parser emits the rest of them at the end. -/
theorem finish_fed {units : List AccessUnit} (inv : Fed parser (writeAccessUnits units) emitted)
    (finished : parser.finish = some (parser', new)) :
    emitted ++ new = units.map AccessUnit.content := by
  obtain ⟨⟨drained, flushed⟩, drains, same⟩ := map_eq_some_iff.mp finished
  cases same
  dsimp only
  by_cases some' : units = []
  · subst some'
    cases inv with
    | waiting none' kept fresh nothing =>
        have none'' : cutAtStart parser.pending = none := by
          rw [kept]
          exact none'
        obtain ⟨rfl, rfl⟩ := drain_unstarted none'' drains
        rw [nothing, fresh]
        rfl
    | reading splits _ => exact absurd splits.starts.1 (by decide)
  · have starts := startsUnit_writeAccessUnits some'
    cases inv with
    | waiting none' => cases (cutAtStart_of_starts starts).symm.trans none'
    | reading splits accepted =>
        obtain ⟨last, flat, flushes⟩ := drain_flush some' splits
        rw [flushes] at drains
        obtain ⟨⟨current, flushed'⟩, accepted', same⟩ := map_eq_some_iff.mp drains
        cases same
        have all := acceptNals_append accepted accepted'
        rw [flat] at all
        have emits := acceptNals_whole some' all
        rw [append_assoc] at emits
        exact emits

end Draining

end AnnexBAccessUnitParser

end ExecutionHandoff.Host
