import Mathlib.Data.List.Basic

/-!
# Strings of UTF-16 code units

Strings as ECMAScript has them, where a surrogate need not be one of a pair.
Their code points, with an unpaired surrogate as its own code point, their
characters, with the replacement character for it, and their UTF-8 form.
-/

namespace ExecutionHandoff.Library

open List Bool

abbrev JsString := List UInt16

namespace JsString

/-- The code units of a text in which no character needs two. -/
def ascii (text : String) : JsString := text.toList.map fun c => UInt16.ofNat c.toNat

def highSurrogate (unit : UInt16) : Bool :=
  decide (0xD800 ≤ unit.toNat) && decide (unit.toNat < 0xDC00)

def lowSurrogate (unit : UInt16) : Bool :=
  decide (0xDC00 ≤ unit.toNat) && decide (unit.toNat < 0xE000)

/-- The code point of a pair of surrogates. -/
def pairPoint (high low : UInt16) : Nat :=
  0x10000 + (high.toNat - 0xD800) * 0x400 + (low.toNat - 0xDC00)

/-- `StringToCodePoints`. -/
def codePoints : JsString → List Nat
  | [] => []
  | [unit] => [unit.toNat]
  | first :: second :: rest =>
      if highSurrogate first && lowSurrogate second then
        pairPoint first second :: codePoints rest
      else
        first.toNat :: codePoints (second :: rest)

/-- `UTF16EncodeCodePoint`. -/
def encodePoint (point : Nat) : JsString :=
  if point < 0x10000 then
    [.ofNat point]
  else
    [.ofNat ((point - 0x10000) / 0x400 + 0xD800), .ofNat ((point - 0x10000) % 0x400 + 0xDC00)]

/-- A code point that is not a surrogate. -/
def Scalar (point : Nat) : Prop := point < 0xD800 ∨ (0xE000 ≤ point ∧ point < 0x110000)

instance (point : Nat) : Decidable (Scalar point) := inferInstanceAs (Decidable (_ ∨ _))

theorem toNat_ofNat {value : Nat} (small : value < 0x10000) : (UInt16.ofNat value).toNat = value :=
  UInt16.toNat_ofNat_of_lt' small

theorem highSurrogate_iff {unit : UInt16} :
    highSurrogate unit = true ↔ 0xD800 ≤ unit.toNat ∧ unit.toNat < 0xDC00 := by
  unfold highSurrogate
  rw [and_eq_true, decide_eq_true_eq, decide_eq_true_eq]

theorem lowSurrogate_iff {unit : UInt16} :
    lowSurrogate unit = true ↔ 0xDC00 ≤ unit.toNat ∧ unit.toNat < 0xE000 := by
  unfold lowSurrogate
  rw [and_eq_true, decide_eq_true_eq, decide_eq_true_eq]

theorem encodePoint_unit (unit : UInt16) : encodePoint unit.toNat = [unit] := by
  unfold encodePoint
  rw [if_pos unit.toNat_lt, UInt16.ofNat_toNat]

theorem encodePoint_pair {high low : UInt16} (isHigh : highSurrogate high = true)
    (isLow : lowSurrogate low = true) : encodePoint (pairPoint high low) = [high, low] := by
  obtain ⟨above, below⟩ := highSurrogate_iff.mp isHigh
  obtain ⟨above', below'⟩ := lowSurrogate_iff.mp isLow
  have first : (pairPoint high low - 0x10000) / 0x400 + 0xD800 = high.toNat := by
    unfold pairPoint
    omega
  have second : (pairPoint high low - 0x10000) % 0x400 + 0xDC00 = low.toNat := by
    unfold pairPoint
    omega
  unfold encodePoint
  rw [first, second, if_neg (by unfold pairPoint; omega), UInt16.ofNat_toNat, UInt16.ofNat_toNat]

/-- A string is made of its code points. -/
theorem flatMap_codePoints (text : JsString) : (codePoints text).flatMap encodePoint = text := by
  induction text using codePoints.induct with
  | case1 => rfl
  | case2 unit =>
      rw [codePoints, flatMap_singleton, encodePoint_unit]
  | case3 first second rest pair ih =>
      obtain ⟨isHigh, isLow⟩ := and_eq_true_iff.mp pair
      rw [codePoints, if_pos pair, flatMap_cons, encodePoint_pair isHigh isLow, ih]
      rfl
  | case4 first second rest single ih =>
      rw [codePoints, if_neg single, flatMap_cons, encodePoint_unit, ih]
      rfl

theorem codePoints_lt (text : JsString) : ∀ point ∈ codePoints text, point < 0x110000 := by
  induction text using codePoints.induct with
  | case1 => exact fun _ no => by cases no
  | case2 unit =>
      intro point mem
      cases mem_singleton.mp mem
      have small : unit.toNat < 0x10000 := unit.toNat_lt
      omega
  | case3 first second rest pair ih =>
      intro point mem
      obtain ⟨isHigh, isLow⟩ := and_eq_true_iff.mp pair
      obtain ⟨_, below⟩ := highSurrogate_iff.mp isHigh
      obtain ⟨_, below'⟩ := lowSurrogate_iff.mp isLow
      rw [codePoints, if_pos pair] at mem
      rcases mem_cons.mp mem with same | mem
      · rw [same]
        unfold pairPoint
        omega
      · exact ih point mem
  | case4 first second rest single ih =>
      intro point mem
      rw [codePoints, if_neg single] at mem
      rcases mem_cons.mp mem with rfl | mem
      · have small : first.toNat < 0x10000 := first.toNat_lt
        omega
      · exact ih point mem

theorem codePoints_cons_unit {unit : UInt16} (plain : highSurrogate unit = false)
    (rest : JsString) : codePoints (unit :: rest) = unit.toNat :: codePoints rest := by
  cases rest with
  | nil => rfl
  | cons second rest => rw [codePoints, if_neg (by rw [plain, Bool.false_and]; decide)]

/-- What a code point that is no surrogate is encoded as is read back as that code point. -/
theorem codePoints_encodePoint {point : Nat} (scalar : Scalar point) (rest : JsString) :
    codePoints (encodePoint point ++ rest) = point :: codePoints rest := by
  unfold Scalar at scalar
  unfold encodePoint
  split
  · rename_i small
    have same := toNat_ofNat small
    have plain : highSurrogate (.ofNat point) = false := by
      refine eq_false_iff.mpr fun high => ?_
      have bounds := highSurrogate_iff.mp high
      omega
    rw [singleton_append, codePoints_cons_unit plain, same]
  · have high := @toNat_ofNat ((point - 0x10000) / 0x400 + 0xD800) (by omega)
    have low := @toNat_ofNat ((point - 0x10000) % 0x400 + 0xDC00) (by omega)
    have isHigh : highSurrogate (.ofNat ((point - 0x10000) / 0x400 + 0xD800)) = true :=
      highSurrogate_iff.mpr (by omega)
    have isLow : lowSurrogate (.ofNat ((point - 0x10000) % 0x400 + 0xDC00)) = true :=
      lowSurrogate_iff.mpr (by omega)
    change codePoints (_ :: _ :: rest) = _
    rw [codePoints, if_pos (and_eq_true_iff.mpr ⟨isHigh, isLow⟩)]
    have whole : pairPoint (.ofNat ((point - 0x10000) / 0x400 + 0xD800))
        (.ofNat ((point - 0x10000) % 0x400 + 0xDC00)) = point := by
      unfold pairPoint
      rw [high, low]
      omega
    rw [whole]

/-! ## Characters -/

/-- The character of a code point; an unpaired surrogate is replaced. -/
def pointChar (point : Nat) : Char :=
  if Scalar point then Char.ofNat point else Char.ofNat 0xFFFD

/-- The characters that are written when a string is encoded. -/
def characters (text : JsString) : List Char := (codePoints text).map pointChar

/-- The bytes of some characters. -/
def bytes (text : List Char) : List UInt8 := (String.ofList text).toByteArray.data.toList

/-- The UTF-8 form of a string. -/
def utf8 (text : JsString) : List UInt8 := bytes (characters text)

/-- Every surrogate of the string is one of a pair. -/
def Paired (text : JsString) : Prop := ∀ point ∈ codePoints text, Scalar point

theorem Paired.nil : Paired [] := fun _ no => by cases no

theorem Paired.encodePoint_append {point : Nat} {rest : JsString} (scalar : Scalar point)
    (paired : Paired rest) : Paired (encodePoint point ++ rest) := by
  intro other mem
  rw [codePoints_encodePoint scalar] at mem
  rcases mem_cons.mp mem with rfl | mem
  · exact scalar
  · exact paired other mem

/-- Code points that are no surrogates make up a string of pairs. -/
theorem codePoints_flatMap {points : List Nat} (scalars : ∀ point ∈ points, Scalar point)
    (rest : JsString) : codePoints (points.flatMap encodePoint ++ rest) =
      points ++ codePoints rest := by
  induction points with
  | nil => rfl
  | cons point points ih =>
      rw [flatMap_cons, append_assoc, codePoints_encodePoint (scalars point (.head _)),
        ih (fun other mem => scalars other (.tail _ mem))]
      rfl

theorem codePoints_append {text : JsString} (paired : Paired text) (rest : JsString) :
    codePoints (text ++ rest) = codePoints text ++ codePoints rest := by
  have same := codePoints_flatMap paired rest
  rwa [flatMap_codePoints] at same

theorem Paired.append {left right : JsString} (paired : Paired left) (paired' : Paired right) :
    Paired (left ++ right) := by
  intro point mem
  rw [codePoints_append paired] at mem
  rcases mem_append.mp mem with mem | mem
  · exact paired point mem
  · exact paired' point mem

theorem Paired.of_units {text : JsString} (plain : ∀ unit ∈ text, unit.toNat < 0xD800) :
    Paired text := by
  induction text with
  | nil => exact .nil
  | cons unit rest ih =>
      have small := plain unit (.head _)
      have scalar : Scalar unit.toNat := .inl small
      have paired := Paired.encodePoint_append scalar (ih fun other mem => plain other (.tail _ mem))
      rwa [encodePoint_unit] at paired

theorem pointChar_toNat {point : Nat} (scalar : Scalar point) : (pointChar point).toNat = point := by
  have valid : point.isValidChar := by
    rcases scalar with low | ⟨high, bound⟩
    · exact .inl low
    · exact .inr ⟨Nat.lt_of_lt_of_le (by decide) high, bound⟩
  unfold pointChar
  rw [if_pos scalar, Char.ofNat, dif_pos valid]
  rfl

/-- The string of some characters. -/
def units (text : List Char) : JsString := text.flatMap fun c => encodePoint c.toNat

/-- A string of pairs is decoded from its characters. -/
theorem units_characters {text : JsString} (paired : Paired text) : units (characters text) = text := by
  unfold units characters
  rw [flatMap_map]
  have each : (codePoints text).flatMap (fun point => encodePoint (pointChar point).toNat) =
      (codePoints text).flatMap encodePoint :=
    flatMap_congr fun point mem => congrArg encodePoint (pointChar_toNat (paired point mem))
  rw [each, flatMap_codePoints]

/-- Strings of pairs are told apart by their characters. -/
theorem characters_injective {left right : JsString} (paired : Paired left) (paired' : Paired right)
    (same : characters left = characters right) : left = right := by
  rw [← units_characters paired, ← units_characters paired', same]

theorem bytes_injective {left right : List Char} (same : bytes left = bytes right) :
    left = right := by
  have arrays : (String.ofList left).toByteArray = (String.ofList right).toByteArray :=
    ByteArray.ext (Array.toList_inj.mp same)
  have lists := congrArg String.toList (String.toByteArray_inj.mp arrays)
  rwa [String.toList_ofList, String.toList_ofList] at lists

theorem bytes_append (left right : List Char) : bytes left ++ bytes right = bytes (left ++ right) := by
  unfold bytes
  rw [String.ofList_append, String.toByteArray_append, ByteArray.data_append, Array.toList_append]

/-- Strings of pairs are told apart by their UTF-8 form. -/
theorem utf8_injective {left right : JsString} (paired : Paired left) (paired' : Paired right)
    (same : utf8 left = utf8 right) : left = right :=
  characters_injective paired paired' (bytes_injective same)

/-- A character that stands for itself is only among the characters where its unit is. -/
theorem mem_characters {text : JsString} (paired : Paired text) {unit : UInt16}
    (small : unit.toNat < 0xD800) (mem : pointChar unit.toNat ∈ characters text) : unit ∈ text := by
  obtain ⟨point, inside, same⟩ := mem_map.mp mem
  have number := congrArg Char.toNat same
  rw [pointChar_toNat (paired point inside), pointChar_toNat (.inl small)] at number
  rw [← flatMap_codePoints text]
  refine mem_flatMap.mpr ⟨point, inside, ?_⟩
  rw [number, encodePoint_unit]
  exact .head _

end JsString

end ExecutionHandoff.Library
