import ExecutionHandoff.Library.NumberText
import ExecutionHandoff.Library.OrderedMap

/-!
# JSON texts

Values as they come out of a JSON text, over any type of numbers whose texts are
made of numeric units; their texts without white space, and the reader of
texts.  A value is read back from its text whatever follows it, as long as that
does not go on with a number.
-/

namespace ExecutionHandoff.Library

open JsString List

/-! ## Strings -/

/-- A digit of a hexadecimal numeral. -/
def hexUnit (digit : Nat) : UInt16 := if digit < 10 then .ofNat (48 + digit) else .ofNat (87 + digit)

def hexValue (unit : UInt16) : Option Nat :=
  let code := unit.toNat
  if 48 ≤ code ∧ code ≤ 57 then some (code - 48)
  else if 97 ≤ code ∧ code ≤ 102 then some (code - 87)
  else if 65 ≤ code ∧ code ≤ 70 then some (code - 55)
  else none

/-- `UnicodeEscape`. -/
def unicodeEscape (point : Nat) : JsString :=
  [92, 117, hexUnit (point / 4096 % 16), hexUnit (point / 256 % 16), hexUnit (point / 16 % 16),
    hexUnit (point % 16)]

/-- A code point between quotation marks. -/
def quotePoint (point : Nat) : JsString :=
  if point = 8 then [92, 98]
  else if point = 9 then [92, 116]
  else if point = 10 then [92, 110]
  else if point = 12 then [92, 102]
  else if point = 13 then [92, 114]
  else if point = 34 then [92, 34]
  else if point = 92 then [92, 92]
  else if point < 32 ∨ ¬ Scalar point then unicodeEscape point
  else encodePoint point

/-- `QuoteJSONString`. -/
def quote (text : JsString) : JsString := 34 :: ((codePoints text).flatMap quotePoint ++ [34])

/-- What an escape of two units stands for. -/
def escaped (unit : UInt16) : Option UInt16 :=
  if unit = 98 then some 8
  else if unit = 116 then some 9
  else if unit = 110 then some 10
  else if unit = 102 then some 12
  else if unit = 114 then some 13
  else if unit = 34 ∨ unit = 92 ∨ unit = 47 then some unit
  else none

/-- What four hexadecimal digits stand for. -/
def hexQuad (a b c d : UInt16) : Option UInt16 :=
  (hexValue a).bind fun first => (hexValue b).bind fun second => (hexValue c).bind fun third =>
    (hexValue d).map fun fourth => .ofNat (first * 4096 + second * 256 + third * 16 + fourth)

/-- The units of a string up to its closing quotation mark, and what follows it. -/
def unquote : JsString → Option (JsString × JsString)
  | [] => none
  | 34 :: rest => some ([], rest)
  | 92 :: 117 :: a :: b :: c :: d :: rest =>
      (hexQuad a b c d).bind fun unit => (unquote rest).map fun read => (unit :: read.1, read.2)
  | 92 :: unit :: rest =>
      (escaped unit).bind fun unit => (unquote rest).map fun read => (unit :: read.1, read.2)
  | unit :: rest =>
      if unit.toNat < 32 ∨ unit = 92 then none
      else (unquote rest).map fun read => (unit :: read.1, read.2)

theorem hexUnit_toNat {digit : Nat} (small : digit < 16) :
    (hexUnit digit).toNat = if digit < 10 then 48 + digit else 87 + digit := by
  unfold hexUnit
  split
  · exact toNat_ofNat (by omega)
  · exact toNat_ofNat (by omega)

theorem hexValue_hexUnit {digit : Nat} (small : digit < 16) : hexValue (hexUnit digit) = some digit := by
  unfold hexValue
  rw [hexUnit_toNat small]
  split
  · rw [if_pos (by omega)]
    exact congrArg some (by omega)
  · rw [if_neg (by omega), if_pos (by omega)]
    exact congrArg some (by omega)

/-- A unit that is neither a mark nor an escape stands for itself. -/
theorem unquote_unit {unit : UInt16} (printing : 32 ≤ unit.toNat) (unmarked : unit ≠ 34)
    (unescaped : unit ≠ 92) (rest : JsString) :
    unquote (unit :: rest) = (unquote rest).map fun read => (unit :: read.1, read.2) := by
  rw [unquote.eq_5 unit rest unmarked (fun _ _ _ _ _ no => absurd no unescaped)
    (fun _ _ no => absurd no unescaped)]
  rw [if_neg]
  rintro (low | slash)
  · omega
  · exact unescaped slash

theorem unquote_unicodeEscape {point : Nat} (small : point < 0x10000) (rest : JsString) :
    unquote (unicodeEscape point ++ rest) =
      (unquote rest).map fun read => (.ofNat point :: read.1, read.2) := by
  have quad : hexQuad (hexUnit (point / 4096 % 16)) (hexUnit (point / 256 % 16))
      (hexUnit (point / 16 % 16)) (hexUnit (point % 16)) = some (.ofNat point) := by
    unfold hexQuad
    rw [hexValue_hexUnit (by omega), hexValue_hexUnit (by omega), hexValue_hexUnit (by omega),
      hexValue_hexUnit (by omega)]
    refine congrArg some (congrArg UInt16.ofNat ?_)
    omega
  change unquote (92 :: 117 :: _ :: _ :: _ :: _ :: rest) = _
  rw [unquote, quad]
  rfl

/-- A code point that needs no escape stands for itself. -/
theorem unquote_encodePoint {point : Nat} (printing : 32 ≤ point) (unmarked : point ≠ 34)
    (unescaped : point ≠ 92) (bound : point < 0x110000) (rest : JsString) :
    unquote (encodePoint point ++ rest) =
      (unquote rest).map fun read => (encodePoint point ++ read.1, read.2) := by
  have differs {value : Nat} (other : Nat) (small : value < 0x10000) (small' : other < 0x10000)
      (apart : value ≠ other) : UInt16.ofNat value ≠ .ofNat other := by
    intro same
    have numbers := congrArg UInt16.toNat same
    rw [toNat_ofNat small, toNat_ofNat small'] at numbers
    exact apart numbers
  unfold encodePoint
  split
  · rename_i small
    exact unquote_unit (by rw [toNat_ofNat small]; exact printing)
      (differs 34 small (by decide) unmarked) (differs 92 small (by decide) unescaped) rest
  · have first : (point - 0x10000) / 0x400 + 0xD800 < 0x10000 := by omega
    have second : (point - 0x10000) % 0x400 + 0xDC00 < 0x10000 := by omega
    change unquote (_ :: _ :: rest) = _
    rw [unquote_unit (by rw [toNat_ofNat first]; omega) (differs 34 first (by decide) (by omega))
        (differs 92 first (by decide) (by omega)),
      unquote_unit (by rw [toNat_ofNat second]; omega) (differs 34 second (by decide) (by omega))
        (differs 92 second (by decide) (by omega)), Option.map_map]
    rfl

theorem unquote_quotePoint {point : Nat} (bound : point < 0x110000) (rest : JsString) :
    unquote (quotePoint point ++ rest) =
      (unquote rest).map fun read => (encodePoint point ++ read.1, read.2) := by
  unfold quotePoint
  split
  · subst point
    rfl
  · split
    · subst point
      rfl
    · split
      · subst point
        rfl
      · split
        · subst point
          rfl
        · split
          · subst point
            rfl
          · split
            · subst point
              rfl
            · split
              · subst point
                rfl
              · rename_i unmarked unescaped
                split
                · rename_i special
                  have small : point < 0x10000 := by
                    unfold Scalar at special
                    omega
                  have one : encodePoint point = [.ofNat point] := if_pos small
                  rw [unquote_unicodeEscape small, one]
                  rfl
                · rename_i plain
                  exact unquote_encodePoint (by omega) unmarked unescaped bound rest

/-- A string is read back from between its quotation marks. -/
theorem unquote_quote (text rest : JsString) :
    unquote ((codePoints text).flatMap quotePoint ++ 34 :: rest) = some (text, rest) := by
  have each (points : List Nat) (bounds : ∀ point ∈ points, point < 0x110000) :
      unquote (points.flatMap quotePoint ++ 34 :: rest) =
        some (points.flatMap encodePoint, rest) := by
    induction points with
    | nil => rfl
    | cons point points ih =>
        rw [flatMap_cons, append_assoc, unquote_quotePoint (bounds point (.head _)),
          ih (fun other mem => bounds other (.tail _ mem))]
        rfl
  rw [each _ (codePoints_lt text), flatMap_codePoints]

/-! ## Values -/

inductive JsonValue (ν : Type*) where
  | null
  | boolean (value : Bool)
  | number (value : ν)
  | string (text : JsString)
  | array (items : List (JsonValue ν))
  | object (fields : List (JsString × JsonValue ν))

/-- How numbers are written and read. -/
structure NumberFormat (ν : Type*) where
  text : ν → JsString
  read : JsString → Option ν
  nonempty : ∀ number, text number ≠ []
  numeric : ∀ number, ∀ unit ∈ text number, isNumeric unit = true
  reads : ∀ number, read (text number) = some number

/-- The numbers of JSON with the text that each of them has; a text is read as its number. -/
noncomputable def JsonNumber.format : NumberFormat JsonNumber where
  text := JsonNumber.text
  read := Function.partialInv JsonNumber.text
  nonempty := JsonNumber.text_ne_nil
  numeric := JsonNumber.text_numeric
  reads := Function.partialInv_left JsonNumber.text_injective

/-- The integers in decimal. -/
def integerFormat : NumberFormat Int where
  text := intUnits
  read := fun text => if intUnits (intOfUnits text) = text then some (intOfUnits text) else none
  nonempty := intUnits_ne_nil
  numeric := isNumeric_intUnits
  reads := fun number => by rw [intOfUnits_intUnits, if_pos rfl]

def commaSeparated : List JsString → JsString
  | [] => []
  | [text] => text
  | text :: rest => text ++ 44 :: commaSeparated rest

section Values

variable {ν : Type*} (numberText : ν → JsString)

mutual

/-- `JSON.stringify`, for values that come out of a JSON text. -/
def stringify : JsonValue ν → JsString
  | .null => ascii "null"
  | .boolean true => ascii "true"
  | .boolean false => ascii "false"
  | .number value => numberText value
  | .string text => quote text
  | .array items => 91 :: (commaSeparated (stringifyItems items) ++ [93])
  | .object fields => 123 :: (commaSeparated (stringifyFields fields) ++ [125])

def stringifyItems : List (JsonValue ν) → List JsString
  | [] => []
  | item :: rest => stringify item :: stringifyItems rest

def stringifyFields : List (JsString × JsonValue ν) → List JsString
  | [] => []
  | (key, value) :: rest => (quote key ++ 58 :: stringify value) :: stringifyFields rest

end

/-- The text of a field. -/
def memberText (field : JsString × JsonValue ν) : JsString :=
  quote field.1 ++ 58 :: stringify numberText field.2

theorem stringifyItems_eq (items : List (JsonValue ν)) :
    stringifyItems numberText items = items.map (stringify numberText) := by
  induction items with
  | nil => rfl
  | cons item items ih => exact congrArg (_ :: ·) ih

theorem stringifyFields_eq (fields : List (JsString × JsonValue ν)) :
    stringifyFields numberText fields = fields.map (memberText numberText) := by
  induction fields with
  | nil => rfl
  | cons field fields ih => exact congrArg (_ :: ·) ih

end Values

section Reading

variable {ν : Type*} (format : NumberFormat ν)

/-! ## Reading -/

def isSpace (unit : UInt16) : Bool := unit == 32 || unit == 9 || unit == 10 || unit == 13

def skip (text : JsString) : JsString := text.dropWhile isSpace

/-- A literal or a number. -/
def readWord (text : JsString) : Option (JsonValue ν × JsString) :=
  if (ascii "null").isPrefixOf text then some (.null, text.drop 4)
  else if (ascii "true").isPrefixOf text then some (.boolean true, text.drop 4)
  else if (ascii "false").isPrefixOf text then some (.boolean false, text.drop 5)
  else (format.read (text.takeWhile isNumeric)).map fun number =>
    (.number number, text.dropWhile isNumeric)

/-- The fields of an object as they are defined one after another. The value that a key is given last
stands where the key came first; keys that are array indices have no place of their own here. -/
def collectFields (members : List (JsString × JsonValue ν)) : List (JsString × JsonValue ν) :=
  (OrderedMap.ofEntries members).entries

mutual

/-- A value at the front of a text, and what follows it. -/
def readValue : Nat → JsString → Option (JsonValue ν × JsString)
  | 0, _ => none
  | fuel + 1, text =>
      match skip text with
      | 34 :: rest => (unquote rest).map fun read => (.string read.1, read.2)
      | 91 :: rest =>
          match skip rest with
          | 93 :: rest => some (.array [], rest)
          | rest => (readItems fuel rest).map fun read => (.array read.1, read.2)
      | 123 :: rest =>
          match skip rest with
          | 125 :: rest => some (.object [], rest)
          | rest => (readMembers fuel rest).map fun read => (.object (collectFields read.1), read.2)
      | rest => readWord format rest

def readItems : Nat → JsString → Option (List (JsonValue ν) × JsString)
  | 0, _ => none
  | fuel + 1, text =>
      (readValue fuel text).bind fun item =>
        match skip item.2 with
        | 44 :: rest => (readItems fuel rest).map fun read => (item.1 :: read.1, read.2)
        | 93 :: rest => some ([item.1], rest)
        | _ => none

def readMembers : Nat → JsString → Option (List (JsString × JsonValue ν) × JsString)
  | 0, _ => none
  | fuel + 1, text =>
      match skip text with
      | 34 :: rest =>
          (unquote rest).bind fun key =>
            match skip key.2 with
            | 58 :: rest =>
                (readValue fuel rest).bind fun value =>
                  match skip value.2 with
                  | 44 :: rest => (readMembers fuel rest).map fun read =>
                      ((key.1, value.1) :: read.1, read.2)
                  | 125 :: rest => some ([(key.1, value.1)], rest)
                  | _ => none
            | _ => none
      | _ => none

end

/-- `JSON.parse`. -/
def parseJson (text : JsString) : Option (JsonValue ν) :=
  (readValue format (text.length + 1) text).bind fun read =>
    if skip read.2 = [] then some read.1 else none

/-! ## Texts that are read back -/

/-- No object has a key twice. -/
inductive DistinctKeys : JsonValue ν → Prop where
  | null : DistinctKeys .null
  | boolean (value : Bool) : DistinctKeys (.boolean value)
  | number (value : ν) : DistinctKeys (.number value)
  | string (text : JsString) : DistinctKeys (.string text)
  | array (items : List (JsonValue ν)) (each : ∀ item ∈ items, DistinctKeys item) :
      DistinctKeys (.array items)
  | object (fields : List (JsString × JsonValue ν)) (keys : (fields.map Prod.fst).Nodup)
      (each : ∀ field ∈ fields, DistinctKeys field.2) : DistinctKeys (.object fields)

/-- A value is built from the values in it. -/
theorem JsonValue.induct {P : JsonValue ν → Prop} (null : P .null)
    (boolean : ∀ value, P (.boolean value)) (number : ∀ value, P (.number value))
    (string : ∀ text, P (.string text))
    (array : ∀ items, (∀ item ∈ items, P item) → P (.array items))
    (object : ∀ fields, (∀ field ∈ fields, P field.2) → P (.object fields)) : ∀ value, P value
  | .null => null
  | .boolean value => boolean value
  | .number value => number value
  | .string text => string text
  | .array items => array items fun item _ =>
      JsonValue.induct null boolean number string array object item
  | .object fields => object fields fun field _ =>
      JsonValue.induct null boolean number string array object field.2
termination_by value => sizeOf value
decreasing_by
  · rename_i mem
    have smaller := sizeOf_lt_of_mem mem
    simp only [JsonValue.array.sizeOf_spec]
    omega
  · rename_i mem
    have smaller := sizeOf_lt_of_mem mem
    cases field
    simp only [JsonValue.object.sizeOf_spec, Prod.mk.sizeOf_spec] at smaller ⊢
    omega

/-- What follows does not go on with a number. -/
def Stops (rest : JsString) : Prop := ∀ unit ∈ rest.head?, isNumeric unit = false

/-- Units that no value begins with. -/
def isBreak (unit : UInt16) : Bool := isSpace unit || unit == 93 || unit == 125

variable {unit : UInt16} {rest : JsString} {value : JsonValue ν}

theorem isNumeric_cases (numeric : isNumeric unit = true) :
    (48 ≤ unit.toNat ∧ unit.toNat ≤ 57) ∨ unit = 43 ∨ unit = 45 ∨ unit = 46 ∨ unit = 69 ∨
      unit = 101 := by
  unfold isNumeric at numeric
  simp only [Bool.or_eq_true, beq_iff_eq, isDigit_iff, or_assoc] at numeric
  exact numeric

/-- A unit of a numeral is none of the others that the reader looks for. -/
theorem ne_of_isNumeric {other : UInt16} (numeric : isNumeric unit = true)
    (not : isNumeric other = false) : unit ≠ other := by
  rintro rfl
  rw [numeric] at not
  cases not

theorem isBreak_of_isNumeric (numeric : isNumeric unit = true) : isBreak unit = false := by
  have apart (other : UInt16) (not : isNumeric other = false) : (unit == other) = false :=
    beq_eq_false_iff_ne.mpr (ne_of_isNumeric numeric not)
  unfold isBreak isSpace
  rw [apart 32 rfl, apart 9 rfl, apart 10 rfl, apart 13 rfl, apart 93 rfl, apart 125 rfl]
  rfl

theorem stringify_head (value : JsonValue ν) :
    ∃ unit rest, stringify format.text value = unit :: rest ∧ isBreak unit = false := by
  cases value with
  | null | string _ | array _ | object _ => exact ⟨_, _, rfl, rfl⟩
  | boolean value =>
      cases value with
      | true => exact ⟨_, _, rfl, rfl⟩
      | false => exact ⟨_, _, rfl, rfl⟩
  | number value =>
      obtain ⟨unit, rest, text⟩ := exists_cons_of_ne_nil (format.nonempty value)
      refine ⟨unit, rest, text, isBreak_of_isNumeric ?_⟩
      exact format.numeric value unit (by rw [text]; exact .head _)

theorem skip_cons (plain : isBreak unit = false) (rest : JsString) :
    skip (unit :: rest) = unit :: rest := by
  refine dropWhile_cons_of_neg fun space => ?_
  unfold isBreak at plain
  rw [space] at plain
  cases plain

/-- No white space comes before a value. -/
theorem skip_stringify (value : JsonValue ν) (rest : JsString) :
    skip (stringify format.text value ++ rest) = stringify format.text value ++ rest := by
  obtain ⟨unit, others, text, plain⟩ := stringify_head format value
  rw [text]
  exact skip_cons plain _

theorem takeWhile_number (number : ν) (stops : Stops rest) :
    (format.text number ++ rest).takeWhile isNumeric = format.text number ∧
      (format.text number ++ rest).dropWhile isNumeric = rest := by
  rw [takeWhile_append_of_pos (format.numeric number),
    dropWhile_append_of_pos (format.numeric number)]
  cases rest with
  | nil => exact ⟨append_nil _, rfl⟩
  | cons unit rest =>
      have not := stops unit rfl
      rw [takeWhile_cons, dropWhile_cons, not]
      exact ⟨append_nil _, rfl⟩

/-- Numbers are read as such. -/
theorem readValue_number (number : ν) (stops : Stops rest) (fuel : Nat) :
    readValue format (fuel + 1) (format.text number ++ rest) = some (.number number, rest) := by
  obtain ⟨takes, drops⟩ := takeWhile_number format number stops
  have skips : skip (format.text number ++ rest) = format.text number ++ rest :=
    skip_stringify format (.number number) rest
  obtain ⟨unit, others, text⟩ := exists_cons_of_ne_nil (format.nonempty number)
  have numeric := format.numeric number unit (by rw [text]; exact .head _)
  have word : readWord format (format.text number ++ rest) = some (.number number, rest) := by
    have unlike (word : String) (first : UInt16) (letters : JsString)
        (ascii' : ascii word = first :: letters) (not : isNumeric first = false) :
        ¬ (ascii word).isPrefixOf (format.text number ++ rest) = true := by
      rw [text, ascii']
      intro starts
      exact ne_of_isNumeric numeric not (eq_of_beq (Bool.and_eq_true_iff.mp starts).1).symm
    unfold readWord
    rw [if_neg (unlike _ _ _ rfl rfl), if_neg (unlike _ _ _ rfl rfl),
      if_neg (unlike _ _ _ rfl rfl), takes, drops, format.reads]
    rfl
  rw [readValue, skips]
  rw [text] at word ⊢
  split
  · rename_i same
    exact absurd (cons.inj same).1 (ne_of_isNumeric numeric rfl)
  · rename_i same
    exact absurd (cons.inj same).1 (ne_of_isNumeric numeric rfl)
  · rename_i same
    exact absurd (cons.inj same).1 (ne_of_isNumeric numeric rfl)
  · exact word

/-- A value is read back from the front of a text. -/
def ReadsBack (value : JsonValue ν) : Prop :=
  ∀ fuel rest, (stringify format.text value).length < fuel → Stops rest →
    readValue format fuel (stringify format.text value ++ rest) = some (value, rest)

theorem commaSeparated_cons (text : JsString) (texts : List JsString) (close : UInt16)
    (rest : JsString) : commaSeparated (text :: texts) ++ close :: rest =
      text ++ (if texts = [] then close :: rest
        else 44 :: (commaSeparated texts ++ close :: rest)) := by
  cases texts with
  | nil => rfl
  | cons other texts =>
      rw [if_neg (cons_ne_nil _ _)]
      exact append_assoc _ _ _

theorem length_commaSeparated (text : JsString) (texts : List JsString) :
    text.length ≤ (commaSeparated (text :: texts)).length ∧
      (texts ≠ [] → text.length + 1 + (commaSeparated texts).length =
        (commaSeparated (text :: texts)).length) := by
  cases texts with
  | nil => exact ⟨Nat.le_refl _, fun no => absurd rfl no⟩
  | cons other texts =>
      have whole : (commaSeparated (text :: other :: texts)).length =
          text.length + ((commaSeparated (other :: texts)).length + 1) := length_append
      exact ⟨by omega, fun _ => by omega⟩

theorem stops_cons (not : isNumeric unit = false) (rest : JsString) : Stops (unit :: rest) := by
  intro other mem
  cases mem
  exact not

theorem commaSeparated_head {text others : JsString} (head : text = unit :: others)
    (texts : List JsString) : ∃ others', commaSeparated (text :: texts) = unit :: others' := by
  cases texts with
  | nil => exact ⟨others, head⟩
  | cons other texts =>
      rw [head]
      exact ⟨_, rfl⟩

/-- The items of an array are read back one after another. -/
theorem readItems_stringify {item : JsonValue ν} {items : List (JsonValue ν)}
    (each : ∀ item' ∈ item :: items, ReadsBack format item') {fuel : Nat}
    (enough : (commaSeparated ((item :: items).map (stringify format.text))).length + 1 < fuel)
    (rest : JsString) :
    readItems format fuel (commaSeparated ((item :: items).map (stringify format.text)) ++ 93 :: rest) =
      some (item :: items, rest) := by
  induction items generalizing item fuel with
  | nil =>
      obtain ⟨fuel, rfl⟩ := Nat.exists_eq_succ_of_ne_zero (show fuel ≠ 0 by omega)
      change (stringify format.text item).length + 1 < _ at enough
      have read := each item (.head _) fuel (93 :: rest) (by omega) (stops_cons rfl _)
      change readItems format (fuel + 1) (stringify format.text item ++ 93 :: rest) = _
      rw [readItems, read]
      rfl
  | cons next items ih =>
      obtain ⟨fuel, rfl⟩ := Nat.exists_eq_succ_of_ne_zero (show fuel ≠ 0 by omega)
      obtain ⟨_, longer⟩ := length_commaSeparated (stringify format.text item)
        ((next :: items).map (stringify format.text))
      have more : (next :: items).map (stringify format.text) ≠ [] := cons_ne_nil _ _
      have sizes := longer more
      rw [map_cons] at enough
      have read := each item (.head _) fuel
        (44 :: (commaSeparated ((next :: items).map (stringify format.text)) ++ 93 :: rest)) (by omega)
        (stops_cons rfl _)
      obtain ⟨unit, others, text, _⟩ := stringify_head format item
      have positive : 0 < (stringify format.text item).length := by rw [text]; exact Nat.succ_pos _
      have others := @ih next fun item' mem => each item' (.tail _ mem)
      rw [map_cons, commaSeparated_cons, if_neg more, readItems, read]
      dsimp only [Option.bind_some]
      rw [skip_cons rfl]
      change (readItems format fuel _).map _ = _
      rw [others (by omega)]
      rfl

/-- A field is read back from the front of a text. -/
theorem readMembers_member {field : JsString × JsonValue ν} (reads : ReadsBack format field.2)
    {fuel : Nat} (enough : (memberText format.text field).length < fuel)
    (stops : Stops rest) :
    readMembers format (fuel + 1) (memberText format.text field ++ rest) =
      match skip rest with
      | 44 :: rest => (readMembers format fuel rest).map fun read => (field :: read.1, read.2)
      | 125 :: rest => some ([field], rest)
      | _ => none := by
  have text : memberText format.text field ++ rest =
      34 :: ((codePoints field.1).flatMap quotePoint ++
        34 :: 58 :: (stringify format.text field.2 ++ rest)) := by
    unfold memberText quote
    simp only [cons_append, append_assoc, nil_append]
  have size : (memberText format.text field).length =
      (quote field.1).length + ((stringify format.text field.2).length + 1) := length_append
  rw [text, readMembers, skip_cons rfl]
  change (unquote _).bind _ = _
  rw [unquote_quote, Option.bind_some, skip_cons rfl]
  change (readValue format fuel _).bind _ = _
  rw [reads fuel rest (by omega) stops]
  rfl

/-- The fields of an object are read back one after another. -/
theorem readMembers_stringify {field : JsString × JsonValue ν}
    {fields : List (JsString × JsonValue ν)}
    (each : ∀ field' ∈ field :: fields, ReadsBack format field'.2) {fuel : Nat}
    (enough : (commaSeparated ((field :: fields).map (memberText format.text))).length + 1 < fuel)
    (rest : JsString) :
    readMembers format fuel
        (commaSeparated ((field :: fields).map (memberText format.text)) ++ 125 :: rest) =
      some (field :: fields, rest) := by
  induction fields generalizing field fuel with
  | nil =>
      obtain ⟨fuel, rfl⟩ := Nat.exists_eq_succ_of_ne_zero (show fuel ≠ 0 by omega)
      change (memberText format.text field).length + 1 < _ at enough
      exact readMembers_member format (each field (.head _)) (by omega) (stops_cons rfl rest)
  | cons next fields ih =>
      obtain ⟨fuel, rfl⟩ := Nat.exists_eq_succ_of_ne_zero (show fuel ≠ 0 by omega)
      obtain ⟨_, longer⟩ := length_commaSeparated (memberText format.text field)
        ((next :: fields).map (memberText format.text))
      have more : (next :: fields).map (memberText format.text) ≠ [] := cons_ne_nil _ _
      have sizes := longer more
      rw [map_cons] at enough
      have others := @ih next (fun field' mem => each field' (.tail _ mem)) fuel (by omega)
      rw [map_cons, commaSeparated_cons, if_neg more,
        readMembers_member format (each field (.head _)) (by omega) (stops_cons rfl _),
        skip_cons rfl]
      change (readMembers format fuel _).map _ = _
      rw [others]
      rfl

/-- An array that does not end at once. -/
theorem readValue_items (fuel : Nat) (plain : isBreak unit = false)
    (rest : JsString) : readValue format (fuel + 1) (91 :: unit :: rest) =
      (readItems format fuel (unit :: rest)).map fun read => (.array read.1, read.2) := by
  rw [readValue, skip_cons rfl]
  split
  · rename_i same
    cases same
  · rename_i same
    cases same
    rw [skip_cons plain]
    split
    · rename_i same
      cases same
      cases plain
    · rfl
  · rename_i same
    cases same
  · rename_i other _
    exact absurd rfl (other _)

/-- An object that does not end at once. -/
theorem readValue_members (fuel : Nat) (plain : isBreak unit = false)
    (rest : JsString) : readValue format (fuel + 1) (123 :: unit :: rest) =
      (readMembers format fuel (unit :: rest)).map fun read =>
        (.object (collectFields read.1), read.2) := by
  rw [readValue, skip_cons rfl]
  split
  · rename_i same
    cases same
  · rename_i same
    cases same
  · rename_i same
    cases same
    rw [skip_cons plain]
    split
    · rename_i same
      cases same
      cases plain
    · rfl
  · rename_i other
    exact absurd rfl (other _)

/-- Every value without double keys is read back from its text. -/
theorem readValue_stringify (distinct : DistinctKeys value) : ReadsBack format value := by
  induction distinct with
  | null =>
      intro fuel rest enough _
      obtain ⟨fuel, rfl⟩ := Nat.exists_eq_succ_of_ne_zero (show fuel ≠ 0 by omega)
      rfl
  | boolean value =>
      intro fuel rest enough _
      obtain ⟨fuel, rfl⟩ := Nat.exists_eq_succ_of_ne_zero (show fuel ≠ 0 by omega)
      cases value with
      | true => rfl
      | false => rfl
  | number value =>
      intro fuel rest enough stops
      obtain ⟨fuel, rfl⟩ := Nat.exists_eq_succ_of_ne_zero (show fuel ≠ 0 by omega)
      exact readValue_number format value stops fuel
  | string text =>
      intro fuel rest enough _
      obtain ⟨fuel, rfl⟩ := Nat.exists_eq_succ_of_ne_zero (show fuel ≠ 0 by omega)
      change readValue format (fuel + 1)
        (34 :: ((codePoints text).flatMap quotePoint ++ [34] ++ rest)) = _
      rw [readValue, skip_cons rfl, append_assoc, singleton_append]
      change (unquote _).map _ = _
      rw [unquote_quote]
      rfl
  | array items each ih =>
      intro fuel rest enough _
      obtain ⟨fuel, rfl⟩ := Nat.exists_eq_succ_of_ne_zero (show fuel ≠ 0 by omega)
      cases items with
      | nil => rfl
      | cons item items =>
          have body : stringify format.text (.array (item :: items)) =
              91 :: (commaSeparated ((item :: items).map (stringify format.text)) ++ [93]) := by
            rw [stringify, stringifyItems_eq]
          rw [body, length_cons, length_append, length_singleton] at enough
          have read := readItems_stringify format ih (show _ < fuel by omega) rest
          obtain ⟨unit, others, text, plain⟩ := stringify_head format item
          obtain ⟨others', head⟩ := commaSeparated_head text (items.map (stringify format.text))
          rw [map_cons, head, cons_append] at read
          rw [body, map_cons, head, cons_append, append_assoc,
            singleton_append, cons_append, readValue_items format fuel plain, read]
          rfl
  | object fields keys each ih =>
      intro fuel rest enough _
      obtain ⟨fuel, rfl⟩ := Nat.exists_eq_succ_of_ne_zero (show fuel ≠ 0 by omega)
      cases fields with
      | nil => rfl
      | cons field fields =>
          have body : stringify format.text (.object (field :: fields)) =
              123 :: (commaSeparated ((field :: fields).map (memberText format.text)) ++ [125]) := by
            rw [stringify, stringifyFields_eq]
          rw [body, length_cons, length_append, length_singleton] at enough
          have read := readMembers_stringify format ih (show _ < fuel by omega) rest
          have text : memberText format.text field = 34 :: ((codePoints field.1).flatMap quotePoint ++
              [34] ++ 58 :: stringify format.text field.2) := rfl
          obtain ⟨others', head⟩ := commaSeparated_head text (fields.map (memberText format.text))
          rw [map_cons, head, cons_append] at read
          rw [body, map_cons, head, cons_append, append_assoc,
            singleton_append, cons_append, readValue_members format fuel rfl, read]
          dsimp only [Option.map_some]
          rw [collectFields, OrderedMap.entries_ofEntries keys]

/-- A value is parsed back from its text, with white space behind it. -/
theorem parseJson_append (distinct : DistinctKeys value)
    (stops : Stops rest) (blank : skip rest = []) :
    parseJson format (stringify format.text value ++ rest) = some value := by
  have read := readValue_stringify format distinct
    ((stringify format.text value ++ rest).length + 1) rest
    (by rw [length_append]; omega) stops
  unfold parseJson
  rw [read]
  exact if_pos blank

theorem parseJson_stringify (distinct : DistinctKeys value) :
    parseJson format (stringify format.text value) = some value := by
  have ends : Stops [] := fun _ no => by cases no
  have parsed := parseJson_append format distinct ends rfl
  rwa [append_nil] at parsed

theorem stringify_injective {value' : JsonValue ν} (distinct : DistinctKeys value)
    (distinct' : DistinctKeys value') (same : stringify format.text value = stringify format.text value') :
    value = value' := by
  have parsed := parseJson_stringify format distinct
  rw [same, parseJson_stringify format distinct'] at parsed
  exact (Option.some.inj parsed).symm

end Reading

end ExecutionHandoff.Library
