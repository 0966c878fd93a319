import ExecutionHandoff.Library.CodeUnits
import Mathlib.Data.List.DropRight

/-!
# The text of a number

A finite number is given by the digits and the exponent that its conversion to a
string chooses: the fewest digits that tell it from every other number, and the
place of the decimal point before them.  The text is laid out from these and
determines them.
-/

namespace ExecutionHandoff.Library

open List

/-- `0.d₁d₂… × 10 ^ exponent`, where neither the first nor the last digit is zero. -/
structure Decimal where
  digits : List (Fin 10)
  exponent : Int
  nonempty : digits ≠ []
  leads : digits.head? ≠ some 0
  ends : digits.getLast? ≠ some 0
  deriving DecidableEq

inductive JsonNumber where
  | zero
  | nonzero (negative : Bool) (magnitude : Decimal)
  deriving DecidableEq

def digitUnit (digit : Fin 10) : UInt16 := .ofNat (48 + digit)

def isDigit (unit : UInt16) : Bool := decide (48 ≤ unit.toNat) && decide (unit.toNat ≤ 57)

/-- The units that occur in numerals. -/
def isNumeric (unit : UInt16) : Bool :=
  isDigit unit || unit == 43 || unit == 45 || unit == 46 || unit == 69 || unit == 101

/-- A natural number in decimal. -/
def natUnits (value : Nat) : JsString := (Nat.toDigits 10 value).map fun c => .ofNat c.toNat

/-- The text before and behind the decimal point, and the exponent behind an `e`. -/
structure NumberLayout where
  whole : List (Fin 10)
  fraction : List (Fin 10)
  exponent : Option Int

namespace NumberLayout

variable (layout : NumberLayout)

def exponentText : JsString :=
  match layout.exponent with
  | none => []
  | some exponent => 101 :: (if exponent < 0 then 45 else 43) :: natUnits exponent.natAbs

def fractionText : JsString :=
  if layout.fraction = [] then [] else 46 :: layout.fraction.map digitUnit

def text : JsString :=
  layout.whole.map digitUnit ++ (layout.fractionText ++ layout.exponentText)

/-- The digits that are laid out, without the zeros at their ends. -/
def digits : List (Fin 10) :=
  ((layout.whole ++ layout.fraction).dropWhile (· == 0)).rdropWhile (· == 0)

/-- The exponent of the number that is laid out. -/
def place : Int :=
  layout.whole.length + layout.exponent.getD 0 -
    ((layout.whole ++ layout.fraction).takeWhile (· == 0)).length

end NumberLayout

namespace Decimal

variable (decimal : Decimal)

/-- `Number::toString` for a positive number. -/
def layout : NumberLayout :=
  if decimal.digits.length ≤ decimal.exponent ∧ decimal.exponent ≤ 21 then
    ⟨decimal.digits ++ List.replicate (decimal.exponent - decimal.digits.length).toNat 0, [], none⟩
  else if 0 < decimal.exponent ∧ decimal.exponent ≤ 21 then
    ⟨decimal.digits.take decimal.exponent.toNat, decimal.digits.drop decimal.exponent.toNat, none⟩
  else if -6 < decimal.exponent ∧ decimal.exponent ≤ 0 then
    ⟨[0], List.replicate (-decimal.exponent).toNat 0 ++ decimal.digits, none⟩
  else
    ⟨decimal.digits.take 1, decimal.digits.drop 1, some (decimal.exponent - 1)⟩

end Decimal

/-- `Number::toString`. -/
def JsonNumber.text : JsonNumber → JsString
  | .zero => [48]
  | .nonzero false magnitude => magnitude.layout.text
  | .nonzero true magnitude => 45 :: magnitude.layout.text

/-! ## Digits -/

theorem digitUnit_toNat (digit : Fin 10) : (digitUnit digit).toNat = 48 + digit :=
  JsString.toNat_ofNat (by omega)

theorem digitUnit_injective : Function.Injective digitUnit := by
  intro left right same
  have numbers := congrArg UInt16.toNat same
  rw [digitUnit_toNat, digitUnit_toNat] at numbers
  omega

theorem isDigit_iff {unit : UInt16} : isDigit unit = true ↔ 48 ≤ unit.toNat ∧ unit.toNat ≤ 57 := by
  unfold isDigit
  rw [Bool.and_eq_true, decide_eq_true_eq, decide_eq_true_eq]

theorem isDigit_digitUnit (digit : Fin 10) : isDigit (digitUnit digit) = true := by
  rw [isDigit_iff, digitUnit_toNat]
  omega

theorem isDigit_map {digits : List (Fin 10)} :
    ∀ unit ∈ digits.map digitUnit, isDigit unit = true := by
  intro unit mem
  obtain ⟨digit, _, rfl⟩ := mem_map.mp mem
  exact isDigit_digitUnit digit

theorem natUnits_digit {value : Nat} {c : Char} (mem : c ∈ Nat.toDigits 10 value) :
    (UInt16.ofNat c.toNat).toNat = c.toNat ∧ isDigit (.ofNat c.toNat) = true := by
  have bounds := Char.isDigit_iff_toNat.mp (Nat.isDigit_of_mem_toDigits (by decide) (by decide) mem)
  have low : '0'.toNat = 48 := rfl
  have high : '9'.toNat = 57 := rfl
  have same := @JsString.toNat_ofNat c.toNat (by omega)
  exact ⟨same, isDigit_iff.mpr (by omega)⟩

/-- The natural number of some digits. -/
def natOfUnits (text : JsString) : Nat :=
  text.foldl (fun value unit => 10 * value + (unit.toNat - 48)) 0

theorem natOfUnits_natUnits (value : Nat) : natOfUnits (natUnits value) = value := by
  have same : natOfUnits (natUnits value) = Nat.ofDigitChars 10 (Nat.toDigits 10 value) 0 := by
    unfold natOfUnits natUnits
    rw [foldl_map, Nat.ofDigitChars_eq_foldl]
    exact foldl_ext _ _ _ fun total c mem => by rw [(natUnits_digit mem).1]; rfl
  rw [same, Nat.ofDigitChars_ten_toDigits]

theorem natUnits_injective : Function.Injective natUnits :=
  Function.LeftInverse.injective natOfUnits_natUnits

theorem natUnits_ne_nil (value : Nat) : natUnits value ≠ [] := by
  unfold natUnits
  rw [Ne, map_eq_nil_iff]
  exact Nat.toDigits_ne_nil

theorem isDigit_natUnits (value : Nat) : ∀ unit ∈ natUnits value, isDigit unit = true := by
  intro unit mem
  obtain ⟨c, digit, rfl⟩ := mem_map.mp mem
  exact (natUnits_digit digit).2

theorem isNumeric_of_isDigit {unit : UInt16} (digit : isDigit unit = true) :
    isNumeric unit = true := by
  unfold isNumeric
  rw [digit]
  rfl

/-- Digits in front of something else are told from it. -/
theorem digits_prefix {left right rest rest' : JsString}
    (digits : ∀ unit ∈ left, isDigit unit = true) (digits' : ∀ unit ∈ right, isDigit unit = true)
    (stops : ∀ unit ∈ rest.head?, isDigit unit = false)
    (stops' : ∀ unit ∈ rest'.head?, isDigit unit = false)
    (same : left ++ rest = right ++ rest') : left = right ∧ rest = rest' := by
  have front (text tail : JsString) (all : ∀ unit ∈ text, isDigit unit = true)
      (stop : ∀ unit ∈ tail.head?, isDigit unit = false) :
      (text ++ tail).takeWhile isDigit = text := by
    rw [takeWhile_append_of_pos all]
    cases tail with
    | nil => exact append_nil _
    | cons unit tail =>
        rw [takeWhile_cons, stop unit rfl]
        exact append_nil _
  have heads := congrArg (takeWhile isDigit) same
  rw [front left rest digits stops, front right rest' digits' stops'] at heads
  subst heads
  exact ⟨rfl, append_cancel_left same⟩

/-! ## Layouts -/

namespace NumberLayout

theorem exponentText_head (layout : NumberLayout) :
    ∀ unit ∈ layout.exponentText.head?, unit = 101 := by
  unfold exponentText
  intro unit mem
  split at mem
  · cases mem
  · cases mem
    rfl

theorem rest_head (layout : NumberLayout) :
    ∀ unit ∈ (layout.fractionText ++ layout.exponentText).head?, unit = 46 ∨ unit = 101 := by
  unfold fractionText
  intro unit mem
  split at mem
  · exact .inr (layout.exponentText_head unit mem)
  · cases mem
    exact .inl rfl

theorem exponentText_injective {left right : NumberLayout}
    (same : left.exponentText = right.exponentText) : left.exponent = right.exponent := by
  unfold exponentText at same
  cases one : left.exponent with
  | none =>
      cases other : right.exponent with
      | none => rfl
      | some exponent' =>
          rw [one, other] at same
          cases same
  | some exponent =>
      cases other : right.exponent with
      | none =>
          rw [one, other] at same
          cases same
      | some exponent' =>
          rw [one, other] at same
          dsimp only at same
          injection same with _ rest
          injection rest with signs numerals
          have sizes := natUnits_injective numerals
          congr 1
          split at signs
          · split at signs
            · omega
            · cases signs
          · split at signs
            · cases signs
            · omega

/-- The text of a layout determines it. -/
theorem text_injective {left right : NumberLayout} (same : left.text = right.text) :
    left = right := by
  have stops (layout : NumberLayout) :
      ∀ unit ∈ (layout.fractionText ++ layout.exponentText).head?, isDigit unit = false := by
    intro unit mem
    rcases layout.rest_head unit mem with rfl | rfl
    · rfl
    · rfl
  obtain ⟨wholes, rests⟩ := digits_prefix isDigit_map isDigit_map (stops left) (stops right) same
  have whole : left.whole = right.whole := map_injective_iff.mpr digitUnit_injective wholes
  have unpointed (layout other : NumberLayout) (tail : JsString)
      (no : layout.exponentText = 46 :: tail) : False := by
    have head := layout.exponentText_head 46 (by rw [no]; rfl)
    cases head
  have both : left.fraction = right.fraction ∧ left.exponentText = right.exponentText := by
    unfold fractionText at rests
    split at rests
    · rename_i none
      split at rests
      · rename_i none'
        exact ⟨none.trans none'.symm, rests⟩
      · exact (unpointed left right _ rests).elim
    · split at rests
      · exact (unpointed right left _ rests.symm).elim
      · injection rests with _ tails
        have stop (layout : NumberLayout) :
            ∀ unit ∈ layout.exponentText.head?, isDigit unit = false := by
          intro unit mem
          rw [layout.exponentText_head unit mem]
          rfl
        obtain ⟨fractions, exponents⟩ :=
          digits_prefix isDigit_map isDigit_map (stop left) (stop right) tails
        exact ⟨map_injective_iff.mpr digitUnit_injective fractions, exponents⟩
  cases left
  cases right
  dsimp only at whole
  obtain ⟨fraction, exponents⟩ := both
  have exponent := exponentText_injective exponents
  dsimp only at fraction exponent
  rw [whole, fraction, exponent]

end NumberLayout

/-! ## Numbers -/

namespace Decimal

variable (decimal : Decimal)

theorem dropWhile_digits (rest : List (Fin 10)) :
    (decimal.digits ++ rest).dropWhile (· == 0) = decimal.digits ++ rest := by
  have leads := decimal.leads
  obtain ⟨first, others, digits⟩ := exists_cons_of_ne_nil decimal.nonempty
  rw [digits] at leads ⊢
  refine dropWhile_cons_of_neg fun zero => leads ?_
  rw [eq_of_beq zero]
  rfl

theorem takeWhile_digits (rest : List (Fin 10)) :
    (decimal.digits ++ rest).takeWhile (· == 0) = [] := by
  have leads := decimal.leads
  obtain ⟨first, others, digits⟩ := exists_cons_of_ne_nil decimal.nonempty
  rw [digits] at leads ⊢
  refine takeWhile_cons_of_neg fun zero => leads ?_
  rw [eq_of_beq zero]
  rfl

theorem rdropWhile_digits : decimal.digits.rdropWhile (· == 0) = decimal.digits := by
  refine rdropWhile_eq_self_iff.mpr fun nonempty zero => decimal.ends ?_
  rw [getLast?_eq_some_getLast nonempty, eq_of_beq zero]

theorem rdropWhile_zeros (count : Nat) :
    (decimal.digits ++ replicate count 0).rdropWhile (· == 0) = decimal.digits := by
  induction count with
  | zero => rw [replicate_zero, append_nil, decimal.rdropWhile_digits]
  | succ count ih =>
      rw [replicate_succ', ← append_assoc, rdropWhile_concat,
        if_pos (beq_self_eq_true _), ih]

/-- Zeros in front of the digits are counted and dropped. -/
theorem zeros_digits (count : Nat) :
    (replicate count 0 ++ decimal.digits).dropWhile (· == 0) = decimal.digits ∧
      ((replicate count 0 ++ decimal.digits).takeWhile (· == 0)).length = count := by
  have zeros : ∀ digit ∈ replicate count (0 : Fin 10), (digit == 0) = true :=
    fun digit mem => beq_iff_eq.mpr (eq_of_mem_replicate mem)
  have drop := decimal.dropWhile_digits []
  have take := decimal.takeWhile_digits []
  rw [append_nil] at drop take
  rw [dropWhile_append_of_pos zeros, takeWhile_append_of_pos zeros, drop, take,
    append_nil, length_replicate]
  exact ⟨rfl, rfl⟩

/-- Digits that are cut in two are laid out without any zeros. -/
theorem cut_spec (count : Nat) (exponent : Option Int) :
    (NumberLayout.mk (decimal.digits.take count) (decimal.digits.drop count) exponent).digits =
        decimal.digits ∧
      (NumberLayout.mk (decimal.digits.take count) (decimal.digits.drop count) exponent).place =
        (decimal.digits.take count).length + exponent.getD 0 := by
  have drop := decimal.dropWhile_digits []
  have take := decimal.takeWhile_digits []
  rw [append_nil] at drop take
  unfold NumberLayout.digits NumberLayout.place
  dsimp only
  rw [take_append_drop, drop, decimal.rdropWhile_digits, take]
  exact ⟨rfl, Int.sub_zero _⟩

/-- The layout has the digits and the exponent of the number. -/
theorem layout_spec : decimal.layout.digits = decimal.digits ∧
    decimal.layout.place = decimal.exponent := by
  have positive : 0 < decimal.digits.length := length_pos_iff.mpr decimal.nonempty
  unfold layout
  split
  · rename_i bounds
    unfold NumberLayout.digits NumberLayout.place
    dsimp only
    rw [append_nil, decimal.dropWhile_digits, decimal.rdropWhile_zeros,
      decimal.takeWhile_digits, length_append, length_replicate, length_nil,
      Option.getD_none]
    exact ⟨rfl, by omega⟩
  · split
    · rename_i bounds
      obtain ⟨digits, place⟩ := decimal.cut_spec decimal.exponent.toNat none
      refine ⟨digits, place.trans ?_⟩
      rw [length_take, Option.getD_none]
      omega
    · split
      · rename_i bounds
        have zeros : [0] ++ (replicate (-decimal.exponent).toNat 0 ++ decimal.digits) =
            replicate ((-decimal.exponent).toNat + 1) 0 ++ decimal.digits := rfl
        obtain ⟨drop, take⟩ := decimal.zeros_digits ((-decimal.exponent).toNat + 1)
        unfold NumberLayout.digits NumberLayout.place
        dsimp only
        rw [zeros, drop, take, decimal.rdropWhile_digits, length_singleton, Option.getD_none]
        exact ⟨rfl, by omega⟩
      · obtain ⟨digits, place⟩ := decimal.cut_spec 1 (some (decimal.exponent - 1))
        refine ⟨digits, place.trans ?_⟩
        rw [length_take, Option.getD_some]
        omega

theorem layout_injective {left right : Decimal} (same : left.layout = right.layout) :
    left = right := by
  obtain ⟨digits, place⟩ := left.layout_spec
  obtain ⟨digits', place'⟩ := right.layout_spec
  rw [same] at digits place
  have one := digits.symm.trans digits'
  have other := place.symm.trans place'
  cases left
  cases right
  dsimp only at one other
  subst one
  subst other
  rfl

/-- The text of a positive number begins with a digit. -/
theorem text_head : ∃ digit rest, decimal.layout.text = digitUnit digit :: rest := by
  obtain ⟨first, others, digits⟩ := exists_cons_of_ne_nil decimal.nonempty
  have begins (layout : NumberLayout) (more : layout.whole ≠ []) :
      ∃ digit rest, layout.text = digitUnit digit :: rest := by
    obtain ⟨digit, rest, whole⟩ := exists_cons_of_ne_nil more
    unfold NumberLayout.text
    rw [whole]
    exact ⟨digit, _, rfl⟩
  refine begins _ ?_
  unfold layout
  rw [digits]
  split
  · exact cons_ne_nil _ _
  · split
    · rename_i bounds
      obtain ⟨exponent, same⟩ := Int.eq_ofNat_of_zero_le (Int.le_of_lt bounds.1)
      rw [same]
      cases exponent with
      | zero =>
          rw [same] at bounds
          exact absurd bounds.1 (by decide)
      | succ exponent => exact cons_ne_nil _ _
    · split
      · exact cons_ne_nil _ _
      · exact cons_ne_nil _ _

end Decimal

namespace NumberLayout

theorem numeric_digits {digits : List (Fin 10)} :
    ∀ unit ∈ digits.map digitUnit, isNumeric unit = true := by
  exact fun unit mem => isNumeric_of_isDigit (isDigit_map unit mem)

theorem text_numeric (layout : NumberLayout) : ∀ unit ∈ layout.text, isNumeric unit = true := by
  intro unit mem
  unfold text at mem
  rcases mem_append.mp mem with whole | rest
  · exact numeric_digits unit whole
  · rcases mem_append.mp rest with fraction | exponent
    · unfold fractionText at fraction
      split at fraction
      · cases fraction
      · rcases mem_cons.mp fraction with rfl | fraction
        · rfl
        · exact numeric_digits unit fraction
    · unfold exponentText at exponent
      split at exponent
      · cases exponent
      · rcases mem_cons.mp exponent with rfl | exponent
        · rfl
        · rcases mem_cons.mp exponent with sign | numeral
          · rw [sign]
            split
            · rfl
            · rfl
          · exact isNumeric_of_isDigit (isDigit_natUnits _ unit numeral)

end NumberLayout

namespace JsonNumber

/-- The text of a number is told from that of every other number. -/
theorem text_injective : Function.Injective JsonNumber.text := by
  have signless (decimal : Decimal) (rest : JsString) : decimal.layout.text ≠ 45 :: rest := by
    intro no
    obtain ⟨digit, others, text⟩ := decimal.text_head
    rw [text] at no
    have unit : digitUnit digit = 45 := (List.cons.inj no).1
    have isDigit := isDigit_digitUnit digit
    rw [unit] at isDigit
    cases isDigit
  have nonzero (decimal : Decimal) : decimal.layout.text ≠ [48] := by
    intro no
    have layout : decimal.layout = ⟨[0], [], none⟩ := NumberLayout.text_injective no
    obtain ⟨digits, _⟩ := decimal.layout_spec
    rw [layout] at digits
    exact decimal.nonempty (digits.symm.trans rfl)
  intro left right same
  cases left with
  | zero =>
      cases right with
      | zero => rfl
      | nonzero negative decimal =>
          cases negative with
          | false => exact absurd same.symm (nonzero decimal)
          | true => cases same
  | nonzero negative decimal =>
      cases right with
      | zero =>
          cases negative with
          | false => exact absurd same (nonzero decimal)
          | true => cases same
      | nonzero negative' decimal' =>
          cases negative with
          | false =>
              cases negative' with
              | false =>
                  rw [Decimal.layout_injective (NumberLayout.text_injective same)]
              | true => exact absurd same (signless decimal _)
          | true =>
              cases negative' with
              | false => exact absurd same.symm (signless decimal' _)
              | true =>
                  have texts := tail_eq_of_cons_eq same
                  rw [Decimal.layout_injective (NumberLayout.text_injective texts)]

theorem text_numeric (number : JsonNumber) : ∀ unit ∈ number.text, isNumeric unit = true := by
  cases number with
  | zero =>
      intro unit mem
      cases mem_singleton.mp mem
      rfl
  | nonzero negative decimal =>
      cases negative with
      | false => exact decimal.layout.text_numeric
      | true =>
          intro unit mem
          rcases mem_cons.mp mem with rfl | mem
          · rfl
          · exact decimal.layout.text_numeric unit mem

theorem text_ne_nil (number : JsonNumber) : number.text ≠ [] := by
  cases number with
  | zero => exact cons_ne_nil _ _
  | nonzero negative decimal =>
      cases negative with
      | false =>
          obtain ⟨digit, rest, text⟩ := decimal.text_head
          intro no
          exact cons_ne_nil _ _ (text.symm.trans no)
      | true => exact cons_ne_nil _ _

end JsonNumber

/-! ## Integers -/

/-- The text of an integer in decimal. -/
def intUnits (value : Int) : JsString :=
  if value < 0 then 45 :: natUnits value.natAbs else natUnits value.natAbs

/-- The integer of a text in decimal. -/
def intOfUnits : JsString → Int
  | 45 :: digits => -natOfUnits digits
  | digits => natOfUnits digits

theorem intOfUnits_intUnits (value : Int) : intOfUnits (intUnits value) = value := by
  unfold intUnits
  split
  · change -(natOfUnits (natUnits value.natAbs) : Int) = value
    rw [natOfUnits_natUnits]
    omega
  · have unsigned (text : JsString) (digits : ∀ unit ∈ text, isDigit unit = true) :
        intOfUnits text = natOfUnits text := by
      unfold intOfUnits
      split
      · exact absurd (digits 45 (.head _)) (by decide)
      · rfl
    rw [unsigned _ (isDigit_natUnits value.natAbs), natOfUnits_natUnits]
    omega

theorem intUnits_ne_nil (value : Int) : intUnits value ≠ [] := by
  unfold intUnits
  split
  · exact cons_ne_nil _ _
  · exact natUnits_ne_nil _

theorem isNumeric_intUnits (value : Int) : ∀ unit ∈ intUnits value, isNumeric unit = true := by
  intro unit mem
  unfold intUnits at mem
  split at mem
  · rcases mem_cons.mp mem with rfl | mem
    · rfl
    · exact isNumeric_of_isDigit (isDigit_natUnits _ unit mem)
  · exact isNumeric_of_isDigit (isDigit_natUnits _ unit mem)

end ExecutionHandoff.Library
