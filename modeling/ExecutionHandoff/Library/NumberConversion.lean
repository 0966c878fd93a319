import ExecutionHandoff.Library.NumberText
import ExecutionHandoff.Library.Text
import Mathlib.Data.Int.Log
import Mathlib.Data.Rat.Floor

/-!
# Numbers converted from strings

`Number(text)` reads a whole string as a numeric literal, with white space
allowed around it and the empty string as zero, and rounds its value to the
closest double.
-/

namespace ExecutionHandoff.Library

open List

/-- White space and line terminators, among the code units. -/
def whiteUnit (unit : UInt16) : Bool := whiteSpace (Char.ofNat unit.toNat)

/-- `String.prototype.trimEnd`. -/
def trimEndUnits (text : JsString) : JsString := text.rdropWhile whiteUnit

/-- `String.prototype.trim`. -/
def trimUnits (text : JsString) : JsString := trimEndUnits (text.dropWhile whiteUnit)

/-! ## Rounding -/

/-- The closest integer, and of two the even one. -/
def roundHalfEven (value : ℚ) : ℤ :=
  let low := ⌊value⌋
  if value - low < 1 / 2 then low
  else if 1 / 2 < value - low then low + 1
  else if low % 2 = 0 then low
  else low + 1

/-- The double closest to a value that is not negative, unless that is infinite. -/
def toDouble (value : ℚ) : Option ℚ :=
  let exponent := max (Int.log 2 value - 52) (-1074)
  let rounded := (roundHalfEven (value / 2 ^ exponent) : ℚ) * 2 ^ exponent
  if rounded < 2 ^ (1024 : ℤ) then some rounded else none

/-! ## Literals -/

/-- The value of a digit, of a letter as the digits of larger radices have it. -/
def digitValue (unit : UInt16) : Option Nat :=
  if isDigit unit then some (unit.toNat - 48)
  else if 97 ≤ unit.toNat ∧ unit.toNat ≤ 102 then some (unit.toNat - 87)
  else if 65 ≤ unit.toNat ∧ unit.toNat ≤ 70 then some (unit.toNat - 55)
  else none

/-- The digits of a radix, all of the text. -/
def digitsIn (radix : Nat) (text : JsString) : Option Nat :=
  if text = [] then none
  else
    text.foldlM (fun value unit =>
      (digitValue unit).bind fun digit =>
        if digit < radix then some (radix * value + digit) else none) 0

/-- The radix that a literal announces, `0x`, `0o` or `0b`. -/
def announcedRadix (text : JsString) : Option Nat :=
  if text.take 2 = JsString.ascii "0x" ∨ text.take 2 = JsString.ascii "0X" then some 16
  else if text.take 2 = JsString.ascii "0o" ∨ text.take 2 = JsString.ascii "0O" then some 8
  else if text.take 2 = JsString.ascii "0b" ∨ text.take 2 = JsString.ascii "0B" then some 2
  else none

/-- The sign before a number, and the rest. -/
def signed (text : JsString) : Bool × JsString :=
  if text.head? = some 45 then (true, text.tail)
  else if text.head? = some 43 then (false, text.tail)
  else (false, text)

/-- `ExponentPart`, or nothing. -/
def exponentPart (text : JsString) : Option ℤ :=
  if text = [] then some 0
  else if text.head? = some 101 ∨ text.head? = some 69 then
    let (negative, digits) := signed text.tail
    (digitsIn 10 digits).map fun value => if negative then -(value : ℤ) else value
  else none

/-- `StrUnsignedDecimalLiteral`, where `Infinity` is not finite. -/
def unsignedDecimal (text : JsString) : Option ℚ :=
  let whole := text.takeWhile isDigit
  let rest := text.dropWhile isDigit
  let point := decide (rest.head? = some 46)
  let fraction := if point then rest.tail.takeWhile isDigit else []
  let rest := if point then rest.tail.dropWhile isDigit else rest
  if whole ++ fraction = [] then none
  else
    (exponentPart rest).bind fun exponent =>
      toDouble (natOfUnits (whole ++ fraction) * 10 ^ (exponent - fraction.length))

/-- `Number(text)`, unless that is `NaN` or infinite; the zeros are not told apart. -/
def stringToNumber (text : JsString) : Option ℚ :=
  let literal := trimUnits text
  if literal = [] then some 0
  else
    match announcedRadix literal with
    | some radix => (digitsIn radix (literal.drop 2)).bind fun value => toDouble value
    | none =>
        let (negative, magnitude) := signed literal
        (unsignedDecimal magnitude).map fun value => if negative then -value else value

/-- `Number(text)` where `Number.isSafeInteger` holds of it. -/
def safeNumber (text : JsString) : Option ℤ :=
  (stringToNumber text).bind fun value =>
    if value.den = 1 ∧ isSafeInteger value.num then some value.num else none

/-! ## Decimal numerals -/

theorem roundHalfEven_intCast (value : ℤ) : roundHalfEven value = value := by
  simp [roundHalfEven]

/-- A natural number of at most 53 binary digits is a double. -/
theorem toDouble_natCast {value : ℕ} (small : value < 2 ^ 53) : toDouble value = some (value : ℚ) := by
  have digits : Nat.log 2 value ≤ 52 := Nat.lt_succ_iff.mp (Nat.log_lt_of_lt_pow' (by decide) small)
  have low : max (Int.log 2 (value : ℚ) - 52) (-1074) ≤ 0 := by
    rw [Int.log_natCast]
    omega
  obtain ⟨shift, same⟩ := Int.exists_eq_neg_ofNat low
  have grid : (value : ℚ) / 2 ^ (-(shift : ℤ)) = ((value * 2 ^ shift : ℕ) : ℤ) := by
    rw [zpow_neg, zpow_natCast, div_inv_eq_mul]
    push_cast
    rfl
  have back : (((value * 2 ^ shift : ℕ) : ℤ) : ℚ) * 2 ^ (-(shift : ℤ)) = value := by
    rw [zpow_neg, zpow_natCast]
    push_cast
    rw [mul_assoc, mul_inv_cancel₀ (pow_ne_zero _ (by norm_num)), mul_one]
  have bounded : (value : ℚ) < 2 ^ (1024 : ℤ) := by
    calc (value : ℚ) < 2 ^ (53 : ℤ) := by exact_mod_cast small
      _ < 2 ^ (1024 : ℤ) := zpow_lt_zpow_right₀ (by norm_num) (by norm_num)
  simp only [toDouble]
  rw [same, grid, roundHalfEven_intCast, back, if_pos bounded]

theorem takeWhile_whole {text : JsString} {p : UInt16 → Bool} (all : ∀ unit ∈ text, p unit = true) :
    text.takeWhile p = text ∧ text.dropWhile p = [] :=
  ⟨takeWhile_eq_self_iff.mpr all, dropWhile_eq_nil_iff.mpr all⟩

theorem unsignedDecimal_digits {text : JsString} (some_digit : text ≠ [])
    (digits : ∀ unit ∈ text, isDigit unit = true) (small : natOfUnits text < 2 ^ 53) :
    unsignedDecimal text = some (natOfUnits text : ℚ) := by
  obtain ⟨whole, nothing⟩ := takeWhile_whole digits
  have value := toDouble_natCast small
  simp [unsignedDecimal, whole, nothing, some_digit, exponentPart, value]

theorem not_white_of_digit {unit : UInt16} (digit : isDigit unit = true) : whiteUnit unit = false := by
  obtain ⟨low, high⟩ := isDigit_iff.mp digit
  have value : (Char.ofNat unit.toNat).toNat = unit.toNat := by
    rw [Char.ofNat, dif_pos (Or.inl (by omega))]
    rfl
  simp only [whiteUnit, whiteSpace, value]
  simp
  omega

/-- Only what stands behind the last solid unit is trimmed from the end. -/
theorem trimEndUnits_append {front : JsString} (solid : trimEndUnits front = front)
    (some_unit : front ≠ []) (text : JsString) :
    trimEndUnits (front ++ text) = front ++ trimEndUnits text := by
  have last := rdropWhile_eq_self_iff.mp solid some_unit
  induction text using reverseRecOn with
  | nil => rw [append_nil, solid, trimEndUnits, rdropWhile_nil, append_nil]
  | append_singleton text unit ih =>
      unfold trimEndUnits at ih ⊢
      rw [← append_assoc, rdropWhile_concat, rdropWhile_concat, ih]
      split
      · rfl
      · rw [append_assoc]

theorem trimEndUnits_white {text : JsString} :
    trimEndUnits text = [] ↔ ∀ unit ∈ text, whiteUnit unit = true :=
  rdropWhile_eq_nil_iff

/-- What is trimmed from the end is white space. -/
theorem trimEndUnits_tail (text : JsString) :
    ∃ white, (∀ unit ∈ white, whiteUnit unit = true) ∧ text = trimEndUnits text ++ white :=
  ⟨text.rtakeWhile whiteUnit, fun _ mem => mem_rtakeWhile_imp mem,
    rdropWhile_append_rtakeWhile.symm⟩

/-- White space behind a numeral is trimmed. -/
theorem trimUnits_numeral {text white : JsString} (some_digit : text ≠ [])
    (digits : ∀ unit ∈ text, isDigit unit = true) (blank : ∀ unit ∈ white, whiteUnit unit = true) :
    trimUnits (text ++ white) = text := by
  obtain ⟨first, rest, rfl⟩ := exists_cons_of_ne_nil some_digit
  have kept : (first :: rest ++ white).dropWhile whiteUnit = first :: rest ++ white :=
    dropWhile_cons_of_neg (by rw [not_white_of_digit (digits first mem_cons_self)]; decide)
  have solid : trimEndUnits (first :: rest) = first :: rest := by
    refine rdropWhile_eq_self_iff.mpr fun nonempty => ?_
    rw [not_white_of_digit (digits _ (getLast_mem nonempty))]
    decide
  rw [trimUnits, kept, trimEndUnits_append solid some_digit, trimEndUnits_white.mpr blank,
    append_nil]

theorem announcedRadix_digits {text : JsString} (digits : ∀ unit ∈ text, isDigit unit = true) :
    announcedRadix text = none := by
  have none_of : ∀ letter : UInt16, isDigit letter = false → text.take 2 ≠ [48, letter] := by
    intro letter other same
    have mem : letter ∈ text.take 2 := by simp [same]
    rw [digits letter (mem_of_mem_take mem)] at other
    cases other
  unfold announcedRadix
  rw [if_neg, if_neg, if_neg]
  all_goals exact not_or.mpr ⟨none_of _ rfl, none_of _ rfl⟩

theorem signed_digits {text : JsString} (digits : ∀ unit ∈ text, isDigit unit = true) :
    signed text = (false, text) := by
  have none_of : ∀ unit : UInt16, isDigit unit = false → text.head? ≠ some unit := by
    intro unit other same
    rw [digits unit (mem_of_head? same)] at other
    cases other
  unfold signed
  rw [if_neg (none_of 45 rfl), if_neg (none_of 43 rfl)]

/-- A decimal numeral is read as its number. -/
theorem stringToNumber_numeral {text white : JsString} (some_digit : text ≠ [])
    (digits : ∀ unit ∈ text, isDigit unit = true) (blank : ∀ unit ∈ white, whiteUnit unit = true)
    (small : natOfUnits text < 2 ^ 53) :
    stringToNumber (text ++ white) = some (natOfUnits text : ℚ) := by
  have value := unsignedDecimal_digits some_digit digits small
  simp [stringToNumber, trimUnits_numeral some_digit digits blank, some_digit,
    announcedRadix_digits digits, signed_digits digits, value]

theorem safeNumber_numeral {text white : JsString} (some_digit : text ≠ [])
    (digits : ∀ unit ∈ text, isDigit unit = true) (blank : ∀ unit ∈ white, whiteUnit unit = true)
    (small : natOfUnits text < 2 ^ 53) : safeNumber (text ++ white) = some (natOfUnits text : ℤ) := by
  have safe : isSafeInteger (natOfUnits text : ℤ) = true := by
    simp only [isSafeInteger, Bool.and_eq_true, decide_eq_true_eq]
    omega
  simp [safeNumber, stringToNumber_numeral some_digit digits blank small, safe]

end ExecutionHandoff.Library
