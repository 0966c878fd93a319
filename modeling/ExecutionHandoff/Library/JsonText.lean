import ExecutionHandoff.Library.Json

/-!
# What JSON texts are made of

The text of a value is put together from printing units of ASCII and from the
code points of its strings.  So nothing in it is a control character, and every
surrogate in it is one of a pair.
-/

namespace ExecutionHandoff.Library

open JsString List

def Printing (unit : UInt16) : Prop := 32 ≤ unit.toNat ∧ unit.toNat < 128

instance : DecidablePred Printing := fun _ => inferInstanceAs (Decidable (_ ∧ _))

/-- A property of texts that holds of whatever a value is written with. -/
structure OfTexts (P : JsString → Prop) : Prop where
  nil : P []
  append : ∀ {left right : JsString}, P left → P right → P (left ++ right)
  unit : ∀ {unit : UInt16}, Printing unit → P [unit]
  point : ∀ {point : Nat}, 32 ≤ point → Scalar point → P (encodePoint point)

namespace OfTexts

variable {P : JsString → Prop} (texts : OfTexts P)

include texts

theorem cons {unit : UInt16} {rest : JsString} (printing : Printing unit) (holds : P rest) :
    P (unit :: rest) :=
  texts.append (texts.unit printing) holds

theorem units {text : JsString} (printing : ∀ unit ∈ text, Printing unit) : P text := by
  induction text with
  | nil => exact texts.nil
  | cons unit text ih =>
      exact texts.cons (printing unit (.head _)) (ih fun other mem => printing other (.tail _ mem))

theorem unicodeEscape (point : Nat) : P (unicodeEscape point) := by
  have digit {value : Nat} (small : value < 16) : Printing (hexUnit value) := by
    unfold Printing
    rw [hexUnit_toNat small]
    split
    · omega
    · omega
  refine texts.cons ⟨by decide, by decide⟩ (texts.cons ⟨by decide, by decide⟩ ?_)
  refine texts.cons (digit (Nat.mod_lt _ (by decide))) (texts.cons (digit (Nat.mod_lt _ (by decide))) ?_)
  exact texts.cons (digit (Nat.mod_lt _ (by decide))) (texts.unit (digit (Nat.mod_lt _ (by decide))))

theorem escape {unit : UInt16} (printing : Printing unit) : P [92, unit] :=
  texts.cons ⟨by decide, by decide⟩ (texts.unit printing)

theorem quotePoint (point : Nat) : P (quotePoint point) := by
  unfold Library.quotePoint
  split
  · exact texts.escape ⟨by decide, by decide⟩
  · split
    · exact texts.escape ⟨by decide, by decide⟩
    · split
      · exact texts.escape ⟨by decide, by decide⟩
      · split
        · exact texts.escape ⟨by decide, by decide⟩
        · split
          · exact texts.escape ⟨by decide, by decide⟩
          · split
            · exact texts.escape ⟨by decide, by decide⟩
            · split
              · exact texts.escape ⟨by decide, by decide⟩
              · split
                · exact texts.unicodeEscape point
                · rename_i plain
                  rw [not_or, not_not] at plain
                  exact texts.point (Nat.le_of_not_lt plain.1) plain.2

theorem quote (text : JsString) : P (quote text) := by
  have mark : Printing 34 := ⟨by decide, by decide⟩
  refine texts.cons mark (texts.append ?_ (texts.unit mark))
  induction codePoints text with
  | nil => exact texts.nil
  | cons point points ih =>
      rw [flatMap_cons]
      exact texts.append (texts.quotePoint point) ih

theorem commaSeparated {parts : List JsString} (each : ∀ part ∈ parts, P part) :
    P (commaSeparated parts) := by
  induction parts with
  | nil => exact texts.nil
  | cons part parts ih =>
      have others := ih fun other mem => each other (.tail _ mem)
      cases parts with
      | nil => exact each part (.head _)
      | cons next parts =>
          exact texts.append (each part (.head _)) (texts.cons ⟨by decide, by decide⟩ others)

theorem number {text : JsString} (numeric : ∀ unit ∈ text, isNumeric unit = true) : P text := by
  refine texts.units fun unit mem => ?_
  rcases isNumeric_cases (numeric unit mem) with ⟨low, high⟩ | rfl | rfl | rfl | rfl | rfl
  · exact ⟨by omega, by omega⟩
  all_goals exact ⟨by decide, by decide⟩

/-- It holds of the texts of all values. -/
theorem stringify {ν : Type*} {numberText : ν → JsString}
    (numeric : ∀ number, ∀ unit ∈ numberText number, isNumeric unit = true) (value : JsonValue ν) :
    P (stringify numberText value) := by
  have word (letters : String) (printing : (ascii letters).all (fun unit => Printing unit) = true) :
      P (ascii letters) :=
    texts.units fun unit mem => of_decide_eq_true (all_eq_true.mp printing unit mem)
  induction value using JsonValue.induct with
  | null => exact word "null" (by decide)
  | boolean value =>
      cases value with
      | true => exact word "true" (by decide)
      | false => exact word "false" (by decide)
  | number value => exact texts.number (numeric value)
  | string text => exact texts.quote text
  | array items ih =>
      rw [Library.stringify, stringifyItems_eq]
      refine texts.cons ⟨by decide, by decide⟩
        (texts.append (texts.commaSeparated fun part mem => ?_) (texts.unit ⟨by decide, by decide⟩))
      obtain ⟨item, inside, rfl⟩ := mem_map.mp mem
      exact ih item inside
  | object fields ih =>
      rw [Library.stringify, stringifyFields_eq]
      refine texts.cons ⟨by decide, by decide⟩
        (texts.append (texts.commaSeparated fun part mem => ?_) (texts.unit ⟨by decide, by decide⟩))
      obtain ⟨field, inside, rfl⟩ := mem_map.mp mem
      exact texts.append (texts.quote field.1) (texts.cons ⟨by decide, by decide⟩ (ih field inside))

end OfTexts

/-- No unit of a text is a control character. -/
theorem ofTexts_uncontrolled : OfTexts fun text => ∀ unit ∈ text, 32 ≤ unit.toNat where
  nil := fun _ no => by cases no
  append := fun left right unit mem => (mem_append.mp mem).elim (left unit) (right unit)
  unit := fun printing unit mem => by
    rw [mem_singleton.mp mem]
    exact printing.1
  point := fun {point} low scalar unit mem => by
    unfold Scalar at scalar
    unfold encodePoint at mem
    split at mem
    · rename_i small
      rw [mem_singleton.mp mem, toNat_ofNat small]
      exact low
    · rcases mem_cons.mp mem with rfl | mem
      · rw [toNat_ofNat (by omega)]
        omega
      · rw [mem_singleton.mp mem, toNat_ofNat (by omega)]
        omega

/-- Every surrogate of a text is one of a pair. -/
theorem ofTexts_paired : OfTexts Paired where
  nil := .nil
  append := .append
  unit := fun printing => .of_units fun unit mem => by
    rw [mem_singleton.mp mem]
    exact Nat.lt_trans printing.2 (by decide)
  point := fun _ scalar => by
    have paired := Paired.encodePoint_append scalar .nil
    rwa [append_nil] at paired

end ExecutionHandoff.Library
