import ExecutionHandoff.Library.CodeUnits
import Mathlib.Algebra.GroupWithZero.Nat
import Mathlib.Data.List.TakeWhile

/-!
# Base64

Three bytes are written as four sextets, a shorter rest with padding behind it.
A reader takes the sextets four at a time and ignores the bits that are left.
-/

namespace ExecutionHandoff.Library

open List

/-- The unit of a sextet. -/
def sextetUnit (sextet : Nat) : UInt16 :=
  if sextet < 26 then .ofNat (65 + sextet)
  else if sextet < 52 then .ofNat (71 + sextet)
  else if sextet < 62 then .ofNat (sextet - 4)
  else if sextet = 62 then 43
  else 47

/-- The sextet of a unit of the alphabet. -/
def unitSextet (unit : UInt16) : Option Nat :=
  let code := unit.toNat
  if 65 ≤ code ∧ code ≤ 90 then some (code - 65)
  else if 97 ≤ code ∧ code ≤ 122 then some (code - 71)
  else if 48 ≤ code ∧ code ≤ 57 then some (code + 4)
  else if code = 43 then some 62
  else if code = 47 then some 63
  else none

/-- The sextets of some bytes, and how much padding stands behind them. -/
def sextets : List UInt8 → List Nat × Nat
  | [] => ([], 0)
  | [a] => ([a.toNat / 4, a.toNat % 4 * 16], 2)
  | [a, b] => ([a.toNat / 4, a.toNat % 4 * 16 + b.toNat / 16, b.toNat % 16 * 4], 1)
  | a :: b :: c :: rest =>
      (a.toNat / 4 :: (a.toNat % 4 * 16 + b.toNat / 16) :: (b.toNat % 16 * 4 + c.toNat / 64) ::
        c.toNat % 64 :: (sextets rest).1, (sextets rest).2)

/-- The bytes of some sextets. -/
def sextetBytes : List Nat → List UInt8
  | a :: b :: c :: d :: rest =>
      .ofNat (a * 4 + b / 16) :: .ofNat (b % 16 * 16 + c / 4) :: .ofNat (c % 4 * 64 + d) ::
        sextetBytes rest
  | [a, b, c] => [.ofNat (a * 4 + b / 16), .ofNat (b % 16 * 16 + c / 4)]
  | [a, b] => [.ofNat (a * 4 + b / 16)]
  | _ => []

/-- `buffer.toString("base64")`. -/
def toBase64 (bytes : List UInt8) : JsString :=
  (sextets bytes).1.map sextetUnit ++ List.replicate (sextets bytes).2 61

/-- A unit of the alphabet, without the padding. -/
def isSextet (unit : UInt16) : Bool := (unitSextet unit).isSome

/-- `/^[A-Za-z0-9+/]*={0,2}$/`. -/
def base64Shaped (text : JsString) : Bool :=
  let padding := text.dropWhile isSextet
  padding.all (· == 61) && decide (padding.length ≤ 2)

/-- `Buffer.from(text, "base64")`, for a text of that shape. -/
def fromBase64 (text : JsString) : List UInt8 :=
  sextetBytes ((text.takeWhile isSextet).filterMap unitSextet)

/-- White space as `atob` removes it. -/
def asciiSpace (unit : UInt16) : Bool :=
  unit == 9 || unit == 10 || unit == 12 || unit == 13 || unit == 32

/-- A text of a multiple of four units without the padding at its end, at most two units. -/
def withoutPadding (text : JsString) : JsString :=
  let padding := (text.reverse.takeWhile (· == 61)).length
  if text.length % 4 = 0 then text.take (text.length - if padding ≤ 2 then padding else 2)
  else text

/-- `atob`, the units of its result as bytes. -/
def atob (text : JsString) : Option (List UInt8) :=
  let digits := withoutPadding (text.filter fun unit => !asciiSpace unit)
  if digits.length % 4 = 1 ∨ digits.all isSextet = false then none
  else some (sextetBytes (digits.filterMap unitSextet))

/-! ## What is written is read back -/

theorem unitSextet_sextetUnit {sextet : Nat} (small : sextet < 64) :
    unitSextet (sextetUnit sextet) = some sextet := by
  have each : ∀ sextet : Fin 64, unitSextet (sextetUnit sextet) = some sextet.val := by decide
  exact each ⟨sextet, small⟩

/-- The bytes, three at a time. -/
theorem bytes_induct {motive : List UInt8 → Prop} (none : motive []) (one : ∀ a, motive [a])
    (two : ∀ a b, motive [a, b]) (more : ∀ a b c rest, motive rest → motive (a :: b :: c :: rest)) :
    ∀ bytes, motive bytes
  | [] => none
  | [a] => one a
  | [a, b] => two a b
  | a :: b :: c :: rest => more a b c rest (bytes_induct none one two more rest)

theorem sextets_lt (bytes : List UInt8) : ∀ sextet ∈ (sextets bytes).1, sextet < 64 := by
  induction bytes using bytes_induct with
  | none => exact fun _ no => by cases no
  | one a =>
      have := a.toNat_lt
      simp [sextets]
      omega
  | two a b =>
      have := a.toNat_lt
      have := b.toNat_lt
      simp [sextets]
      omega
  | more a b c rest ih =>
      have := a.toNat_lt
      have := b.toNat_lt
      have := c.toNat_lt
      simp only [sextets, forall_mem_cons]
      exact ⟨by omega, by omega, by omega, by omega, ih⟩

/-- Four units for each three bytes, also for those that the rest lacks. -/
theorem length_sextets (bytes : List UInt8) :
    (sextets bytes).1.length + (sextets bytes).2 = 4 * ((bytes.length + 2) / 3) := by
  induction bytes using bytes_induct with
  | none => rfl
  | one a => simp [sextets]
  | two a b => simp [sextets]
  | more a b c rest ih =>
      simp only [sextets, length_cons]
      omega

theorem sextetBytes_sextets (bytes : List UInt8) : sextetBytes (sextets bytes).1 = bytes := by
  induction bytes using bytes_induct with
  | none => rfl
  | one a =>
      have := a.toNat_lt
      have first : a.toNat / 4 * 4 + a.toNat % 4 * 16 / 16 = a.toNat := by omega
      simp only [sextets, sextetBytes, first, UInt8.ofNat_toNat]
  | two a b =>
      have := a.toNat_lt
      have := b.toNat_lt
      have first : a.toNat / 4 * 4 + (a.toNat % 4 * 16 + b.toNat / 16) / 16 = a.toNat := by omega
      have second : (a.toNat % 4 * 16 + b.toNat / 16) % 16 * 16 + b.toNat % 16 * 4 / 4 = b.toNat := by
        omega
      simp only [sextets, sextetBytes, first, second, UInt8.ofNat_toNat]
  | more a b c rest ih =>
      have := a.toNat_lt
      have := b.toNat_lt
      have := c.toNat_lt
      have first : a.toNat / 4 * 4 + (a.toNat % 4 * 16 + b.toNat / 16) / 16 = a.toNat := by omega
      have second : (a.toNat % 4 * 16 + b.toNat / 16) % 16 * 16 +
          (b.toNat % 16 * 4 + c.toNat / 64) / 4 = b.toNat := by omega
      have third : (b.toNat % 16 * 4 + c.toNat / 64) % 4 * 64 + c.toNat % 64 = c.toNat := by omega
      simp only [sextets, sextetBytes, first, second, third, UInt8.ofNat_toNat, ih]

theorem padding_le (bytes : List UInt8) : (sextets bytes).2 ≤ 2 := by
  induction bytes using bytes_induct with
  | none => decide
  | one a => exact Nat.le_refl 2
  | two a b => exact Nat.le_succ 1
  | more a b c rest ih => exact ih

section

variable (bytes : List UInt8)

theorem isSextet_sextets : ∀ unit ∈ (sextets bytes).1.map sextetUnit, isSextet unit = true := by
  intro unit mem
  obtain ⟨sextet, inside, rfl⟩ := mem_map.mp mem
  rw [isSextet, unitSextet_sextetUnit (sextets_lt bytes sextet inside)]
  rfl

/-- The text divides into its digits and its padding. -/
theorem split_toBase64 :
    (toBase64 bytes).takeWhile isSextet = (sextets bytes).1.map sextetUnit ∧
      (toBase64 bytes).dropWhile isSextet = List.replicate (sextets bytes).2 61 := by
  have digits := isSextet_sextets bytes
  have padding : ∀ count, (List.replicate count (61 : UInt16)).takeWhile isSextet = [] ∧
      (List.replicate count (61 : UInt16)).dropWhile isSextet = List.replicate count 61 := by
    intro count
    cases count <;> exact ⟨rfl, rfl⟩
  rw [toBase64, takeWhile_append_of_pos digits, dropWhile_append_of_pos digits,
    (padding _).1, (padding _).2, append_nil]
  exact ⟨rfl, rfl⟩

theorem filterMap_sextets : ((sextets bytes).1.map sextetUnit).filterMap unitSextet =
    (sextets bytes).1 := by
  rw [filterMap_map]
  refine (filterMap_congr fun sextet mem => ?_).trans filterMap_some
  exact unitSextet_sextetUnit (sextets_lt bytes sextet mem)

theorem base64Shaped_toBase64 : base64Shaped (toBase64 bytes) = true := by
  have few := padding_le bytes
  simp [base64Shaped, (split_toBase64 bytes).2, few]

theorem fromBase64_toBase64 : fromBase64 (toBase64 bytes) = bytes := by
  rw [fromBase64, (split_toBase64 bytes).1, filterMap_sextets, sextetBytes_sextets]

theorem length_toBase64 : (toBase64 bytes).length = 4 * ((bytes.length + 2) / 3) := by
  rw [toBase64, length_append, length_map, length_replicate, length_sextets]

/-- The units of the text are printing characters, none of which is escaped. -/
theorem mem_toBase64 : ∀ unit ∈ toBase64 bytes, 43 ≤ unit.toNat ∧ unit.toNat ≤ 122 ∧
    unit.toNat ≠ 92 := by
  intro unit mem
  rcases mem_append.mp mem with mem | mem
  · obtain ⟨sextet, inside, rfl⟩ := mem_map.mp mem
    have each : ∀ sextet : Fin 64, 43 ≤ (sextetUnit sextet).toNat ∧ (sextetUnit sextet).toNat ≤ 122 ∧
        (sextetUnit sextet).toNat ≠ 92 := by decide
    exact each ⟨sextet, sextets_lt bytes sextet inside⟩
  · rw [eq_of_mem_replicate mem]
    decide

theorem not_mem_sextets : 61 ∉ (sextets bytes).1.map sextetUnit := by
  intro mem
  have digit := isSextet_sextets bytes 61 mem
  cases digit

theorem withoutPadding_toBase64 :
    withoutPadding (toBase64 bytes) = (sextets bytes).1.map sextetUnit := by
  have whole : (toBase64 bytes).length % 4 = 0 := by
    rw [length_toBase64]
    omega
  have few := padding_le bytes
  have ends : ((toBase64 bytes).reverse.takeWhile (· == 61)).length = (sextets bytes).2 := by
    have plain : ((sextets bytes).1.map sextetUnit).reverse.takeWhile (· == 61) = [] := by
      refine takeWhile_eq_nil_iff.mpr fun nonempty last => ?_
      have mem := get_mem ((sextets bytes).1.map sextetUnit).reverse ⟨0, nonempty⟩
      rw [beq_iff_eq.mp last] at mem
      exact not_mem_sextets bytes (mem_reverse.mp mem)
    rw [toBase64, reverse_append, reverse_replicate,
      takeWhile_append_of_pos (by simp), plain, append_nil, length_replicate]
  simp only [withoutPadding, ends]
  rw [if_pos whole, if_pos few, toBase64, length_append, length_replicate,
    Nat.add_sub_cancel, take_left]

theorem atob_toBase64 : atob (toBase64 bytes) = some bytes := by
  have solid : (toBase64 bytes).filter (fun unit => !asciiSpace unit) = toBase64 bytes := by
    refine filter_eq_self.mpr fun unit mem => ?_
    have low := (mem_toBase64 bytes unit mem).1
    unfold asciiSpace
    simp only [Bool.not_eq_true', Bool.or_eq_false_iff, beq_eq_false_iff_ne]
    refine ⟨⟨⟨⟨?_, ?_⟩, ?_⟩, ?_⟩, ?_⟩ <;> rintro rfl <;> simp at low
  have length := length_sextets bytes
  have few := padding_le bytes
  have all : ((sextets bytes).1.map sextetUnit).all isSextet = true :=
    all_eq_true.mpr (isSextet_sextets bytes)
  simp only [atob]
  rw [solid, withoutPadding_toBase64, if_neg, filterMap_sextets, sextetBytes_sextets]
  rw [all, length_map]
  rintro (one | no)
  · omega
  · cases no

end

end ExecutionHandoff.Library
