import Mathlib.Data.List.Basic

/-!
# Units between start codes

A byte stream in which every unit stands behind a start code, `00 00 01` or
`00 00 00 01`.  A reader of a prefix of the stream has the units that are
followed by another start code, and keeps the rest from its last start code on;
how the stream is cut into chunks makes no difference.
-/

namespace ExecutionHandoff.Library

open List Option

def startsUnit (bytes : List UInt8) : Bool :=
  bytes.take 3 == [0, 0, 1] || bytes.take 4 == [0, 0, 0, 1]

/-- What stands before the first start code, and the rest from it on. -/
def cutAtStart : List UInt8 → Option (List UInt8 × List UInt8)
  | [] => none
  | byte :: bytes =>
      if startsUnit (byte :: bytes) then some ([], byte :: bytes)
      else (cutAtStart bytes).map fun cut => (byte :: cut.1, cut.2)

/-- The length of the start code at the front. -/
def startLength (bytes : List UInt8) : Nat := if bytes[2]? = some 1 then 3 else 4

theorem startsUnit_iff {bytes : List UInt8} :
    startsUnit bytes = true ↔ bytes.take 3 = [0, 0, 1] ∨ bytes.take 4 = [0, 0, 0, 1] := by
  simp only [startsUnit, Bool.or_eq_true, beq_iff_eq]

theorem length_of_take {α : Type*} {bytes front : List α} {count : Nat}
    (taken : bytes.take count = front) (whole : front.length = count) : count ≤ bytes.length := by
  have lengths := congrArg length taken
  rw [length_take, whole] at lengths
  omega

theorem startsUnit_length {bytes : List UInt8} (starts : startsUnit bytes = true) :
    3 ≤ bytes.length := by
  rcases startsUnit_iff.mp starts with short | long
  · exact length_of_take short rfl
  · exact Nat.le_of_succ_le (length_of_take long rfl)

theorem startsUnit_append {bytes : List UInt8} (starts : startsUnit bytes = true)
    (more : List UInt8) : startsUnit (bytes ++ more) = true := by
  rcases startsUnit_iff.mp starts with short | long
  · refine startsUnit_iff.mpr (.inl ?_)
    rw [take_append_of_le_length (length_of_take short rfl)]
    exact short
  · refine startsUnit_iff.mpr (.inr ?_)
    rw [take_append_of_le_length (length_of_take long rfl)]
    exact long

/-- Four bytes tell whether a start code is at the front. -/
theorem startsUnit_of_long {byte : UInt8} {bytes : List UInt8} (long : 3 ≤ bytes.length)
    (more : List UInt8) : startsUnit (byte :: (bytes ++ more)) = startsUnit (byte :: bytes) := by
  unfold startsUnit
  rw [← cons_append, take_append_of_le_length (Nat.le_succ_of_le long),
    take_append_of_le_length (Nat.succ_le_succ long)]

theorem cutAtStart_spec {bytes front rest : List UInt8}
    (cut : cutAtStart bytes = some (front, rest)) :
    bytes = front ++ rest ∧ startsUnit rest = true := by
  induction bytes generalizing front with
  | nil => cases cut
  | cons byte bytes ih =>
      unfold cutAtStart at cut
      split at cut
      · rename_i starts
        cases cut
        exact ⟨rfl, starts⟩
      · obtain ⟨⟨front', rest'⟩, cut', same⟩ := map_eq_some_iff.mp cut
        cases same
        obtain ⟨rfl, starts⟩ := ih cut'
        exact ⟨rfl, starts⟩

/-- A start code once found stays the first one. -/
theorem cutAtStart_append {bytes front rest : List UInt8}
    (cut : cutAtStart bytes = some (front, rest)) (more : List UInt8) :
    cutAtStart (bytes ++ more) = some (front, rest ++ more) := by
  induction bytes generalizing front with
  | nil => cases cut
  | cons byte bytes ih =>
      unfold cutAtStart at cut
      split at cut
      · rename_i starts
        cases cut
        exact if_pos (startsUnit_append starts more)
      · rename_i other
        obtain ⟨⟨front', rest'⟩, cut', same⟩ := map_eq_some_iff.mp cut
        cases same
        obtain ⟨whole, starts⟩ := cutAtStart_spec cut'
        have long : 3 ≤ bytes.length := by
          rw [whole, length_append]
          exact Nat.le_add_left_of_le (startsUnit_length starts)
        change (if startsUnit (byte :: (bytes ++ more)) then some ([], byte :: (bytes ++ more))
          else (cutAtStart (bytes ++ more)).map fun cut => (byte :: cut.1, cut.2)) = _
        rw [startsUnit_of_long long, if_neg other, ih cut']
        rfl

theorem startLength_append {bytes : List UInt8} (starts : startsUnit bytes = true)
    (more : List UInt8) : startLength (bytes ++ more) = startLength bytes := by
  unfold startLength
  rw [getElem?_append_left (startsUnit_length starts)]

theorem startLength_le {bytes : List UInt8} (starts : startsUnit bytes = true) :
    startLength bytes ≤ bytes.length := by
  unfold startLength
  split
  · exact startsUnit_length starts
  · rename_i other
    rcases startsUnit_iff.mp starts with short | long
    · refine absurd ?_ other
      have third := congrArg (fun front => front[2]?) short
      rwa [getElem?_take_of_lt (by decide)] at third
    · exact length_of_take long rfl

/-- What stands behind the start code at the front. -/
def afterStart (bytes : List UInt8) : List UInt8 := bytes.drop (startLength bytes)

theorem afterStart_append {bytes : List UInt8} (starts : startsUnit bytes = true)
    (more : List UInt8) : afterStart (bytes ++ more) = afterStart bytes ++ more := by
  unfold afterStart
  rw [startLength_append starts, drop_append_of_le_length (startLength_le starts)]

theorem startsUnit_cases {bytes : List UInt8} (starts : startsUnit bytes = true) :
    ∃ more, bytes = 0 :: 0 :: 1 :: more ∨ bytes = 0 :: 0 :: 0 :: 1 :: more := by
  rcases startsUnit_iff.mp starts with short | long
  · exact ⟨bytes.drop 3, .inl ((take_append_drop 3 bytes).symm.trans (short ▸ rfl))⟩
  · exact ⟨bytes.drop 4, .inr ((take_append_drop 4 bytes).symm.trans (long ▸ rfl))⟩

/-- A start code within a start code ends with it. -/
theorem afterStart_suffix {bytes back : List UInt8} (starts : startsUnit bytes = true)
    (within : back <:+ bytes) (starts' : startsUnit back = true)
    (before : (afterStart bytes).length < back.length) : afterStart back = afterStart bytes := by
  obtain ⟨more, rfl | rfl⟩ := startsUnit_cases starts
  · change more.length < back.length at before
    rcases suffix_cons_iff.mp within with rfl | within
    · rfl
    rcases suffix_cons_iff.mp within with rfl | within
    · cases starts'
    rcases suffix_cons_iff.mp within with rfl | within
    · cases starts'
    exact absurd within.length_le (Nat.not_le.mpr before)
  · change more.length < back.length at before
    rcases suffix_cons_iff.mp within with rfl | within
    · rfl
    rcases suffix_cons_iff.mp within with rfl | within
    · rfl
    rcases suffix_cons_iff.mp within with rfl | within
    · cases starts'
    rcases suffix_cons_iff.mp within with rfl | within
    · cases starts'
    exact absurd within.length_le (Nat.not_le.mpr before)

/-- No start code stands before the first one. -/
theorem length_le_of_cutAtStart {bytes front rest back : List UInt8}
    (cut : cutAtStart bytes = some (front, rest)) (within : back <:+ bytes)
    (starts : startsUnit back = true) : back.length ≤ rest.length := by
  induction bytes generalizing front with
  | nil => cases cut
  | cons byte bytes ih =>
      unfold cutAtStart at cut
      split at cut
      · cases cut
        exact within.length_le
      · rename_i other
        obtain ⟨⟨front', rest'⟩, cut', same⟩ := map_eq_some_iff.mp cut
        cases same
        rcases suffix_cons_iff.mp within with rfl | within
        · exact absurd starts other
        · exact ih cut' within

/-- Without a start code in a stream none stands anywhere in it. -/
theorem not_startsUnit_of_none {bytes back : List UInt8} (none' : cutAtStart bytes = none)
    (within : back <:+ bytes) : startsUnit back = false := by
  induction bytes with
  | nil =>
      rw [suffix_nil.mp within]
      rfl
  | cons byte bytes ih =>
      unfold cutAtStart at none'
      split at none'
      · cases none'
      · rename_i other
        rcases suffix_cons_iff.mp within with rfl | within
        · exact Bool.eq_false_iff.mpr other
        · exact ih (map_eq_none_iff.mp none') within

/-- No start code is followed by so many bytes, itself included, without another one. -/
def UnitsWithin (most : Nat) (stream : List UInt8) : Prop :=
  ∀ back, back <:+ stream → startsUnit back = true → cutAtStart (afterStart back) = none →
    back.length ≤ most

/-! ## Reading -/

/-- From a start code on, these units are complete, and this is left. -/
inductive Splits : List UInt8 → List (List UInt8) → List UInt8 → Prop where
  | last {bytes : List UInt8} (starts : startsUnit bytes = true)
      (none' : cutAtStart (afterStart bytes) = none) : Splits bytes [] bytes
  | unit {bytes unit rest left : List UInt8} {units : List (List UInt8)}
      (starts : startsUnit bytes = true) (cut : cutAtStart (afterStart bytes) = some (unit, rest))
      (further : Splits rest units left) : Splits bytes (unit :: units) left

namespace Splits

variable {bytes left : List UInt8} {units : List (List UInt8)}

theorem starts (splits : Splits bytes units left) :
    startsUnit bytes = true ∧ startsUnit left = true := by
  induction splits with
  | last starts _ => exact ⟨starts, starts⟩
  | unit starts _ _ ih => exact ⟨starts, ih.2⟩

/-- More of the stream adds units and keeps those there are. -/
theorem append {more left' : List UInt8} {units' : List (List UInt8)}
    (splits : Splits bytes units left) (further : Splits (left ++ more) units' left') :
    Splits (bytes ++ more) (units ++ units') left' := by
  induction splits with
  | last => exact further
  | unit starts cut _ ih =>
      refine .unit (startsUnit_append starts more) ?_ (ih further)
      rw [afterStart_append starts]
      exact cutAtStart_append cut more

theorem unique {left' : List UInt8} {units' : List (List UInt8)} (splits : Splits bytes units left)
    (splits' : Splits bytes units' left') : units = units' ∧ left = left' := by
  induction splits generalizing units' with
  | last starts none' =>
      cases splits' with
      | last => exact ⟨rfl, rfl⟩
      | unit _ cut => cases none'.symm.trans cut
  | unit starts cut _ ih =>
      cases splits' with
      | last _ none' => cases none'.symm.trans cut
      | unit _ cut' further =>
          cases cut.symm.trans cut'
          obtain ⟨rfl, rfl⟩ := ih further
          exact ⟨rfl, rfl⟩

/-- What is left stands at the end of the stream, and no further start code is in it. -/
theorem left_spec (splits : Splits bytes units left) :
    left <:+ bytes ∧ cutAtStart (afterStart left) = none := by
  induction splits with
  | last _ none' => exact ⟨suffix_refl _, none'⟩
  | unit _ cut _ ih =>
      obtain ⟨whole, _⟩ := cutAtStart_spec cut
      have behind : _ <:+ afterStart _ := whole ▸ suffix_append _ _
      exact ⟨ih.1.trans (behind.trans (drop_suffix _ _)), ih.2⟩

/-- No start code before it is the last one. -/
theorem length_le_left (splits : Splits bytes units left) {back : List UInt8}
    (within : back <:+ bytes) (starts : startsUnit back = true)
    (none' : cutAtStart (afterStart back) = none) : back.length ≤ left.length := by
  induction splits with
  | last => exact within.length_le
  | @unit bytes unit rest left units starts' cut further ih =>
      obtain ⟨whole, _⟩ := cutAtStart_spec cut
      have behind : rest <:+ bytes :=
        (whole ▸ suffix_append unit rest : rest <:+ afterStart bytes).trans
          (drop_suffix _ _)
      rcases Nat.lt_or_ge (afterStart bytes).length back.length with before | inside
      · rw [afterStart_suffix starts' within starts before] at none'
        cases none'.symm.trans cut
      · -- Here the first start code is that of the rest.
        have later := suffix_of_suffix_length_le within (drop_suffix _ _) inside
        exact ih (suffix_of_suffix_length_le within behind
          (length_le_of_cutAtStart cut later starts))

end Splits

/-- Take the complete units off, one after another. -/
def takeUnits : Nat → List UInt8 → List (List UInt8) × List UInt8
  | 0, bytes => ([], bytes)
  | fuel + 1, bytes =>
      match cutAtStart (afterStart bytes) with
      | none => ([], bytes)
      | some (unit, rest) => (unit :: (takeUnits fuel rest).1, (takeUnits fuel rest).2)

/-- As many rounds as there are bytes are enough. -/
theorem takeUnits_splits {fuel : Nat} {bytes : List UInt8} (starts : startsUnit bytes = true)
    (enough : bytes.length ≤ fuel) :
    Splits bytes (takeUnits fuel bytes).1 (takeUnits fuel bytes).2 := by
  induction fuel generalizing bytes with
  | zero =>
      have long := startsUnit_length starts
      omega
  | succ fuel ih =>
      unfold takeUnits
      split
      · rename_i none'
        exact .last starts none'
      · rename_i unit rest cut
        obtain ⟨whole, starts'⟩ := cutAtStart_spec cut
        have shorter : rest.length < bytes.length := by
          have same := congrArg length whole
          have long := startsUnit_length starts
          unfold afterStart at same
          rw [length_drop, length_append] at same
          have positive : 0 < startLength bytes := by
            unfold startLength
            split <;> omega
          omega
        exact .unit starts cut (ih starts' (by omega))

/-! ## Writing -/

/-- A unit with the start code that stands before it. -/
structure StartedUnit where
  long : Bool
  bytes : List UInt8
  deriving DecidableEq

def startCode (long : Bool) : List UInt8 := if long then [0, 0, 0, 1] else [0, 0, 1]

namespace StartedUnit

/-- A start code put behind the unit is the first one in it. -/
def Clean (unit : StartedUnit) : Prop :=
  ∀ long, cutAtStart (unit.bytes ++ startCode long) = some (unit.bytes, startCode long)

/-- The unit holds no start code and does not end in a zero byte. -/
def Plain (unit : StartedUnit) : Prop :=
  cutAtStart unit.bytes = none ∧ unit.bytes.getLast? ≠ some 0

instance (unit : StartedUnit) : Decidable unit.Plain := inferInstanceAs (Decidable (_ ∧ _))

instance (unit : StartedUnit) : Decidable unit.Clean :=
  inferInstanceAs (Decidable (∀ _, _))

def write (unit : StartedUnit) : List UInt8 := startCode unit.long ++ unit.bytes

end StartedUnit

def writeUnits (units : List StartedUnit) : List UInt8 := (units.map StartedUnit.write).flatten

theorem startsUnit_startCode (long : Bool) (more : List UInt8) :
    startsUnit (startCode long ++ more) = true := by
  cases long
  · rfl
  · rfl

theorem afterStart_startCode (long : Bool) (more : List UInt8) :
    afterStart (startCode long ++ more) = more := by
  cases long
  · rfl
  · rfl

/-- Behind bytes that hold no start code and do not end in a zero byte, the next start code is not
brought forward. -/
theorem startsUnit_plain {byte : UInt8} {bytes : List UInt8}
    (other : startsUnit (byte :: bytes) = false) (last : (byte :: bytes).getLast? ≠ some 0)
    (long : Bool) : startsUnit (byte :: (bytes ++ startCode long)) = false := by
  rcases Nat.lt_or_ge bytes.length 3 with short | enough
  · -- The start code would begin with the last byte, or stand whole within the bytes.
    rw [Bool.eq_false_iff] at other ⊢
    rintro starts
    match bytes with
    | [] =>
        have first : byte = 0 := by
          rcases startsUnit_iff.mp starts with same | same <;>
            cases long <;> simp_all [startCode]
        exact last (congrArg some first)
    | [next] =>
        have second : next = 0 := by
          rcases startsUnit_iff.mp starts with same | same <;>
            cases long <;> simp_all [startCode]
        exact last (congrArg some second)
    | [next, third] =>
        rcases startsUnit_iff.mp starts with same | same
        · exact other (startsUnit_iff.mpr (.inl same))
        · have zero : third = 0 := by
            cases long <;> simp_all [startCode]
          exact last (congrArg some zero)
    | _ :: _ :: _ :: _ =>
        simp only [length_cons] at short
        omega
  · rw [startsUnit_of_long enough]
    exact other

/-- Such bytes are a unit that is read back. -/
theorem cutAtStart_plain {bytes : List UInt8} (none' : cutAtStart bytes = none)
    (last : bytes.getLast? ≠ some 0) (long : Bool) :
    cutAtStart (bytes ++ startCode long) = some (bytes, startCode long) := by
  induction bytes with
  | nil => cases long <;> rfl
  | cons byte bytes ih =>
      unfold cutAtStart at none'
      split at none'
      · cases none'
      · rename_i other
        have rest : cutAtStart bytes = none := map_eq_none_iff.mp none'
        have last' : bytes.getLast? ≠ some 0 := by
          cases bytes with
          | nil => exact fun no => by cases no
          | cons next bytes => exact last
        have unstarted := startsUnit_plain (Bool.eq_false_iff.mpr other) last long
        rw [cons_append, cutAtStart, unstarted, if_neg Bool.false_ne_true, ih rest last']
        rfl

theorem StartedUnit.Plain.clean {unit : StartedUnit} (plain : unit.Plain) : unit.Clean :=
  fun long => cutAtStart_plain plain.1 plain.2 long

theorem cutAtStart_clean {unit : StartedUnit} (clean : unit.Clean) :
    cutAtStart unit.bytes = none := by
  cases cut : cutAtStart unit.bytes with
  | none => rfl
  | some found =>
      obtain ⟨whole, starts⟩ := cutAtStart_spec cut
      have more := (cutAtStart_append cut (startCode false)).symm.trans (clean false)
      have front : found.1 = unit.bytes := congrArg Prod.fst (Option.some.inj more)
      have lengths := congrArg length whole
      rw [length_append, front] at lengths
      have long := startsUnit_length starts
      omega

/-- Written units are read back, but for the last one, which no start code follows yet. -/
theorem splits_writeUnits {units : List StartedUnit} {last : StartedUnit}
    (clean : ∀ unit ∈ units, unit.Clean) (clean' : last.Clean) :
    Splits (writeUnits (units ++ [last])) (units.map StartedUnit.bytes) last.write := by
  induction units with
  | nil =>
      have whole : writeUnits ([] ++ [last]) = last.write := append_nil _
      rw [whole]
      refine .last (startsUnit_startCode _ _) ?_
      unfold StartedUnit.write
      rw [afterStart_startCode]
      exact cutAtStart_clean clean'
  | cons unit units ih =>
      have rest := ih fun other mem => clean other (mem_cons_of_mem _ mem)
      have whole : writeUnits (unit :: units ++ [last]) =
          startCode unit.long ++ (unit.bytes ++ writeUnits (units ++ [last])) :=
        append_assoc _ _ _
      rw [whole]
      refine .unit (startsUnit_startCode _ _) ?_ rest
      rw [afterStart_startCode]
      obtain ⟨long, more, next⟩ :
          ∃ long more, writeUnits (units ++ [last]) = startCode long ++ more := by
        cases units with
        | nil => exact ⟨last.long, _, append_assoc _ _ _⟩
        | cons unit units => exact ⟨unit.long, _, append_assoc _ _ _⟩
      rw [next, ← append_assoc]
      exact cutAtStart_append (clean unit mem_cons_self long) more

end ExecutionHandoff.Library
