import ExecutionHandoff.Library.CodeUnits

/-!
# UTF-8 in chunks

A decoder takes the bytes of a chunk one after another and puts a replacement
character for whatever is not the encoding of one, also for what is cut off at
the end.  A text that arrives in chunks, each decoded by itself, is read as it
was written exactly if no character was cut.
-/

namespace ExecutionHandoff.Library

open JsString (bytes utf8 Scalar pointChar)
open List

def replacementChar : Char := Char.ofNat 0xFFFD

/-- How many bytes of a character are still to come, between which bounds the next one is, and the
bits so far. -/
structure Utf8Decoder where
  needed : Nat
  lower : Nat
  upper : Nat
  point : Nat

namespace Utf8Decoder

def initial : Utf8Decoder := ⟨0, 0x80, 0xBF, 0⟩

/-- The first byte of a character. -/
def lead (byte : Nat) : List Char × Utf8Decoder :=
  if byte < 0x80 then ([Char.ofNat byte], initial)
  else if 0xC2 ≤ byte ∧ byte ≤ 0xDF then ([], ⟨1, 0x80, 0xBF, byte - 0xC0⟩)
  else if 0xE0 ≤ byte ∧ byte ≤ 0xEF then
    ([], ⟨2, if byte = 0xE0 then 0xA0 else 0x80, if byte = 0xED then 0x9F else 0xBF, byte - 0xE0⟩)
  else if 0xF0 ≤ byte ∧ byte ≤ 0xF4 then
    ([], ⟨3, if byte = 0xF0 then 0x90 else 0x80, if byte = 0xF4 then 0x8F else 0xBF, byte - 0xF0⟩)
  else ([replacementChar], initial)

def step (decoder : Utf8Decoder) (byte : UInt8) : List Char × Utf8Decoder :=
  if decoder.needed = 0 then lead byte.toNat
  else if decoder.lower ≤ byte.toNat ∧ byte.toNat ≤ decoder.upper then
    let point := decoder.point * 64 + (byte.toNat - 0x80)
    if decoder.needed = 1 then ([Char.ofNat point], initial)
    else ([], ⟨decoder.needed - 1, 0x80, 0xBF, point⟩)
  else (replacementChar :: (lead byte.toNat).1, (lead byte.toNat).2)

def decode (decoder : Utf8Decoder) : List UInt8 → List Char
  | [] => if decoder.needed = 0 then [] else [replacementChar]
  | byte :: rest => (decoder.step byte).1 ++ decode (decoder.step byte).2 rest

end Utf8Decoder

/-- `chunk.toString("utf8")`. -/
def decodeUtf8 (chunk : List UInt8) : List Char := Utf8Decoder.initial.decode chunk

/-- The UTF-8 form of a text. -/
def encodeUtf8 (text : List Char) : List UInt8 := text.flatMap String.utf8EncodeChar

/-- A byte that is not the first of a character. -/
def Continuation (byte : UInt8) : Prop := 0x80 ≤ byte.toNat ∧ byte.toNat ≤ 0xBF

/-! ## One character -/

namespace Utf8Decoder

/-- The bytes take the decoder to the character, one after another. -/
inductive Spells (c : Char) : Utf8Decoder → List UInt8 → Prop
  | last {decoder byte} (done : decoder.step byte = ([c], initial)) : Spells c decoder [byte]
  | more {decoder byte next rest} (went : decoder.step byte = ([], next)) (open_ : next.needed ≠ 0)
      (others : ∀ other ∈ rest, Continuation other) (spells : Spells c next rest) :
      Spells c decoder (byte :: rest)

variable {c : Char} {decoder : Utf8Decoder} {bytes : List UInt8}

theorem Spells.decode_append (spells : Spells c decoder bytes) (rest : List UInt8) :
    decoder.decode (bytes ++ rest) = c :: initial.decode rest := by
  induction spells with
  | last done =>
      rw [singleton_append, decode, done]
      rfl
  | more went _ _ _ ih =>
      rw [cons_append, decode, went]
      exact ih

/-- The bytes before the cut of a character are replaced, and those after it are no first bytes. -/
theorem Spells.cut {front back : List UInt8} (spells : Spells c decoder (front ++ back))
    (some_front : front ≠ []) (some_back : back ≠ []) :
    decoder.decode front = [replacementChar] ∧ ∀ byte ∈ back, Continuation byte := by
  generalize whole : front ++ back = bytes at spells
  induction spells generalizing front with
  | last done =>
      rcases append_eq_singleton_iff.mp whole with ⟨none, _⟩ | ⟨_, none⟩
      · exact absurd none some_front
      · exact absurd none some_back
  | @more decoder byte next rest went open_ others spells ih =>
      obtain ⟨first, front, rfl⟩ := exists_cons_of_ne_nil some_front
      obtain ⟨rfl, tails⟩ := List.cons.inj whole
      rw [decode, went]
      refine ⟨?_, fun other mem => others other (tails ▸ mem_append_right _ mem)⟩
      by_cases none : front = []
      · subst none
        rw [decode, if_neg open_]
        rfl
      · exact (ih none tails).1

theorem byte_toNat {value : Nat} (small : value < 256) : (UInt8.ofNat value).toNat = value :=
  UInt8.toNat_ofNat_of_lt' small

theorem step_initial (byte : UInt8) : initial.step byte = lead byte.toNat := if_pos rfl

theorem step_first {value : Nat} (small : value < 256) : initial.step (.ofNat value) = lead value := by
  rw [step_initial, byte_toNat small]

theorem step_next {needed lower upper point bits : Nat} (few : bits < 64)
    (low : lower ≤ bits + 0x80) (high : bits + 0x80 ≤ upper) :
    (Utf8Decoder.mk (needed + 2) lower upper point).step (.ofNat (bits + 0x80)) =
      ([], ⟨needed + 1, 0x80, 0xBF, point * 64 + bits⟩) := by
  simp only [step]
  rw [byte_toNat (by omega), if_neg (by omega), if_pos ⟨low, high⟩, if_neg (by omega)]
  simp

theorem step_last {lower upper point bits : Nat} (few : bits < 64)
    (low : lower ≤ bits + 0x80) (high : bits + 0x80 ≤ upper) :
    (Utf8Decoder.mk 1 lower upper point).step (.ofNat (bits + 0x80)) =
      ([Char.ofNat (point * 64 + bits)], initial) := by
  simp only [step]
  rw [byte_toNat (by omega), if_neg (by decide), if_pos ⟨low, high⟩, Nat.add_sub_cancel]
  simp

theorem continuation_ofNat {bits : Nat} (few : bits < 64) : Continuation (.ofNat (bits + 0x80)) := by
  unfold Continuation
  rw [byte_toNat (by omega)]
  omega

theorem lead_two {bits : Nat} (low : 2 ≤ bits) (high : bits < 32) :
    initial.step (.ofNat (bits + 0xC0)) = ([], ⟨1, 0x80, 0xBF, bits⟩) := by
  rw [step_first (by omega), lead, if_neg (by omega), if_pos (by omega), Nat.add_sub_cancel]

theorem lead_three {bits : Nat} (high : bits < 16) :
    initial.step (.ofNat (bits + 0xE0)) =
      ([], ⟨2, if bits = 0 then 0xA0 else 0x80, if bits = 13 then 0x9F else 0xBF, bits⟩) := by
  rw [step_first (by omega), lead, if_neg (by omega), if_neg (by omega), if_pos (by omega),
    Nat.add_sub_cancel]
  simp

theorem lead_four {bits : Nat} (high : bits ≤ 4) :
    initial.step (.ofNat (bits + 0xF0)) =
      ([], ⟨3, if bits = 0 then 0x90 else 0x80, if bits = 4 then 0x8F else 0xBF, bits⟩) := by
  rw [step_first (by omega), lead, if_neg (by omega), if_neg (by omega), if_neg (by omega),
    if_pos (by omega), Nat.add_sub_cancel]
  simp

/-- The encoding of a character spells it. -/
theorem spells_encode (c : Char) : Spells c initial (String.utf8EncodeChar c) := by
  have valid : c.val.toNat < 0xD800 ∨ 0xDFFF < c.val.toNat ∧ c.val.toNat < 0x110000 := c.valid
  unfold String.utf8EncodeChar
  generalize value : c.val.toNat = v at valid
  have char : ∀ {point : Nat}, point = v → Char.ofNat point = c := by
    rintro _ rfl
    rw [← value]
    exact Char.ofNat_toNat c
  have last : Continuation (.ofNat (v % 64 + 0x80)) := continuation_ofNat (Nat.mod_lt v (by decide))
  have second : Continuation (.ofNat (v / 64 % 64 + 0x80)) :=
    continuation_ofNat (Nat.mod_lt _ (by decide))
  have third : Continuation (.ofNat (v / 4096 % 64 + 0x80)) :=
    continuation_ofNat (Nat.mod_lt _ (by decide))
  have lastly := forall_mem_singleton.mpr last
  have seconds := forall_mem_cons.mpr ⟨second, lastly⟩
  dsimp only
  split
  · refine .last ?_
    rw [step_first (by omega), lead, if_pos (by omega), char rfl]
  split
  · refine .more (lead_two (by omega) (by omega)) Nat.one_ne_zero lastly (.last ?_)
    rw [step_last (Nat.mod_lt v (by decide)) (by omega) (by omega), char (by omega)]
  split
  · refine .more (lead_three (by omega)) (Nat.succ_ne_zero 1) seconds
      (.more (step_next (Nat.mod_lt _ (by decide)) ?_ ?_) Nat.one_ne_zero lastly
        (.last ?_))
    · split <;> omega
    · split <;> omega
    · rw [step_last (Nat.mod_lt v (by decide)) (by omega) (by omega), char (by omega)]
  · refine .more (lead_four (by omega)) (Nat.succ_ne_zero 2) (forall_mem_cons.mpr ⟨third, seconds⟩)
      (.more (step_next (Nat.mod_lt _ (by decide)) ?_ ?_) (Nat.succ_ne_zero 1)
        seconds
        (.more (step_next (Nat.mod_lt _ (by decide)) (by omega) (by omega)) Nat.one_ne_zero
          lastly (.last ?_)))
    · split <;> omega
    · split <;> omega
    · rw [step_last (Nat.mod_lt v (by decide)) (by omega) (by omega), char (by omega)]

/-- A line break is read as itself, whatever is cut off before it. -/
theorem decode_lineBreak {decoder : Utf8Decoder} (low : 0x80 ≤ decoder.lower) (front : List UInt8) :
    ∃ before, decoder.decode (front ++ [10]) = before ++ ['\n'] := by
  induction front generalizing decoder with
  | nil =>
      by_cases idle : decoder.needed = 0
      · exact ⟨[], by simp [decode, step, idle, lead, initial]⟩
      · have out : ¬ decoder.lower ≤ 10 := by omega
        exact ⟨[replacementChar], by simp [decode, step, idle, out, lead, initial]⟩
  | cons byte front ih =>
      have low' : 0x80 ≤ (decoder.step byte).2.lower := by
        unfold step lead initial
        split_ifs <;> simp
      obtain ⟨before, same⟩ := ih low'
      exact ⟨(decoder.step byte).1 ++ before, by rw [cons_append, decode, same, append_assoc]⟩

theorem ofNat_eq_lineBreak {point : Nat} : Char.ofNat point = '\n' ↔ point = 10 := by
  constructor
  · intro same
    have value := congrArg Char.toNat same
    by_cases valid : point.isValidChar
    · rwa [Char.ofNat, dif_pos valid] at value
    · rw [Char.ofNat, dif_neg valid] at value
      exact absurd value (by decide)
  · rintro rfl
    rfl

/-- What is under way cannot end as a line break. -/
def Above (decoder : Utf8Decoder) : Prop :=
  decoder.needed = 0 ∨
    0x80 ≤ decoder.lower ∧ (1 ≤ decoder.point ∨ decoder.needed ≠ 1 ∧ 0x81 ≤ decoder.lower)

theorem lead_lineBreaks (byte : Nat) :
    (lead byte).1.count '\n' = (if byte = 10 then 1 else 0) ∧ (lead byte).2.Above := by
  unfold lead
  split
  · refine ⟨?_, .inl rfl⟩
    rw [count_singleton]
    simp only [beq_iff_eq, ofNat_eq_lineBreak]
  rename_i high
  have other : byte ≠ 10 := by omega
  rw [if_neg other]
  unfold Above
  split
  · dsimp only
    exact ⟨rfl, by omega⟩
  split
  · dsimp only
    refine ⟨rfl, ?_⟩
    split <;> omega
  split
  · dsimp only
    refine ⟨rfl, ?_⟩
    split <;> omega
  · exact ⟨by decide, .inl rfl⟩

theorem step_lineBreaks {decoder : Utf8Decoder} (above : decoder.Above) (byte : UInt8) :
    (decoder.step byte).1.count '\n' = (if byte.toNat = 10 then 1 else 0) ∧
      (decoder.step byte).2.Above := by
  obtain ⟨same, next⟩ := lead_lineBreaks byte.toNat
  unfold step
  split
  · exact ⟨same, next⟩
  rename_i open_
  obtain ⟨low, most⟩ := above.resolve_left open_
  split
  · rename_i inside
    have other : byte.toNat ≠ 10 := by omega
    rw [if_neg other]
    dsimp only
    split
    · refine ⟨?_, .inl rfl⟩
      have apart : Char.ofNat (decoder.point * 64 + (byte.toNat - 0x80)) ≠ '\n' :=
        fun no => absurd (ofNat_eq_lineBreak.mp no) (by omega)
      exact count_eq_zero.mpr fun no => apart (mem_singleton.mp no).symm
    · refine ⟨rfl, .inr ⟨Nat.le_refl _, .inl ?_⟩⟩
      dsimp only
      omega
  · exact ⟨by rw [count_cons_of_ne (by decide)]; exact same, next⟩

/-- As many line breaks are read as were written. -/
theorem decode_lineBreaks {decoder : Utf8Decoder} (above : decoder.Above) (bytes : List UInt8) :
    (decoder.decode bytes).count '\n' = bytes.count 10 := by
  induction bytes generalizing decoder with
  | nil =>
      unfold decode
      split <;> rfl
  | cons byte bytes ih =>
      obtain ⟨same, next⟩ := step_lineBreaks above byte
      rw [decode, count_append, same, ih next, count_cons, Nat.add_comm]
      simp only [beq_iff_eq, ← UInt8.toNat_inj]
      rfl

end Utf8Decoder

/-! ## Texts -/

theorem bytes_eq (text : List Char) : bytes text = encodeUtf8 text := by
  unfold bytes encodeUtf8
  rw [String.toByteArray_ofList]
  simp [utf8Encode]

theorem encodeUtf8_cons (c : Char) (text : List Char) :
    encodeUtf8 (c :: text) = String.utf8EncodeChar c ++ encodeUtf8 text := flatMap_cons

theorem encodeUtf8_append (before after : List Char) :
    encodeUtf8 (before ++ after) = encodeUtf8 before ++ encodeUtf8 after := flatMap_append

theorem decodeUtf8_nil : decodeUtf8 [] = [] := rfl

/-- Whole characters are read as they are, and then what stands behind them. -/
theorem decodeUtf8_append (text : List Char) (rest : List UInt8) :
    decodeUtf8 (encodeUtf8 text ++ rest) = text ++ decodeUtf8 rest := by
  induction text with
  | nil => rfl
  | cons c text ih =>
      rw [encodeUtf8_cons, append_assoc, decodeUtf8,
        (Utf8Decoder.spells_encode c).decode_append]
      exact congrArg (List.cons c) ih

theorem decodeUtf8_encode (text : List Char) : decodeUtf8 (encodeUtf8 text) = text := by
  have read := decodeUtf8_append text []
  rwa [append_nil, decodeUtf8_nil, append_nil] at read

theorem encodeUtf8_injective {left right : List Char} (same : encodeUtf8 left = encodeUtf8 right) :
    left = right := by
  rw [← decodeUtf8_encode left, same, decodeUtf8_encode]

/-- Each byte that is not the first of a character is replaced. -/
theorem decodeUtf8_continuation {bytes : List UInt8} (all : ∀ byte ∈ bytes, Continuation byte)
    (rest : List UInt8) :
    decodeUtf8 (bytes ++ rest) = List.replicate bytes.length replacementChar ++ decodeUtf8 rest := by
  induction bytes with
  | nil => rfl
  | cons byte bytes ih =>
      obtain ⟨low, high⟩ := all byte mem_cons_self
      have replaced : Utf8Decoder.initial.step byte = ([replacementChar], .initial) := by
        rw [Utf8Decoder.step_initial, Utf8Decoder.lead, if_neg (by omega), if_neg (by omega),
          if_neg (by omega), if_neg (by omega)]
      rw [cons_append, decodeUtf8, Utf8Decoder.decode, replaced]
      exact congrArg (List.cons replacementChar) (ih fun other mem => all other (.tail _ mem))

/-- A text of units below 128 has as many bytes. -/
theorem length_utf8 {text : JsString} (small : ∀ unit ∈ text, unit.toNat < 128) :
    (utf8 text).length = text.length := by
  rw [utf8, bytes_eq]
  induction text with
  | nil => rfl
  | cons unit text ih =>
      have low := small unit mem_cons_self
      have single : JsString.highSurrogate unit = false := by
        refine Bool.eq_false_iff.mpr fun surrogate => ?_
        have bounds := JsString.highSurrogate_iff.mp surrogate
        omega
      have scalar : Scalar unit.toNat := .inl (by omega)
      have one : (String.utf8EncodeChar (pointChar unit.toNat)).length = 1 := by
        have value : (pointChar unit.toNat).val.toNat = unit.toNat :=
          JsString.pointChar_toNat scalar
        rw [String.utf8EncodeChar]
        simp only [value]
        rw [if_pos (by omega)]
        rfl
      rw [JsString.characters, JsString.codePoints_cons_unit single, map_cons, encodeUtf8_cons,
        length_append, one, length_cons, Nat.add_comm]
      exact congrArg Nat.succ (ih fun other mem => small other (mem_cons_of_mem _ mem))

/-- A text is cut between two characters or within one. -/
theorem cut_encodeUtf8 {text : List Char} {front back : List UInt8}
    (same : encodeUtf8 text = front ++ back) :
    (∃ before after, text = before ++ after ∧ front = encodeUtf8 before ∧
      back = encodeUtf8 after) ∨
    ∃ before c after first rest, text = before ++ c :: after ∧
      String.utf8EncodeChar c = first ++ rest ∧ first ≠ [] ∧ rest ≠ [] ∧
      front = encodeUtf8 before ++ first ∧ back = rest ++ encodeUtf8 after := by
  induction text generalizing front with
  | nil =>
      obtain ⟨rfl, rfl⟩ := append_eq_nil_iff.mp same.symm
      exact .inl ⟨[], [], rfl, rfl, rfl⟩
  | cons c text ih =>
      rw [encodeUtf8_cons] at same
      rcases append_eq_append_iff.mp same with ⟨rest, rfl, tails⟩ | ⟨rest, whole, rfl⟩
      · rcases ih tails with ⟨before, after, rfl, rfl, rfl⟩ |
          ⟨before, d, after, first, last, rfl, spelled, nonempty, nonempty', rfl, rfl⟩
        · exact .inl ⟨c :: before, after, rfl, rfl, rfl⟩
        · exact .inr ⟨c :: before, d, after, first, last, rfl, spelled, nonempty, nonempty',
            by rw [encodeUtf8_cons, append_assoc], rfl⟩
      · by_cases none : front = []
        · subst none
          exact .inl ⟨[], c :: text, rfl, rfl, by rw [encodeUtf8_cons, whole]; rfl⟩
        by_cases none' : rest = []
        · subst none'
          refine .inl ⟨[c], text, rfl, ?_, rfl⟩
          rw [append_nil] at whole
          rw [← whole, encodeUtf8, flatMap_singleton]
        · exact .inr ⟨[], c, text, front, rest, rfl, whole, none, none', rfl, rfl⟩

/-! ## Chunks -/

theorem flatMap_decodeUtf8 (texts : List (List Char)) :
    (texts.map encodeUtf8).flatMap decodeUtf8 = texts.flatten := by
  induction texts with
  | nil => rfl
  | cons text texts ih =>
      rw [map_cons, flatMap_cons, decodeUtf8_encode, ih, flatten_cons]

theorem flatten_encodeUtf8 (texts : List (List Char)) :
    (texts.map encodeUtf8).flatten = encodeUtf8 texts.flatten := by
  induction texts with
  | nil => rfl
  | cons text texts ih =>
      rw [map_cons, flatten_cons, ih, flatten_cons, encodeUtf8_append]

/-- The replacement characters that the rest of a cut character and a text are read as at least. -/
def replaced (tail : List UInt8) (text : List Char) : Nat :=
  text.count replacementChar + if tail = [] then 0 else 1

/-- What a chunk is read as, with the rest of a character before it. -/
theorem chunk_decoded {chunk rest tail : List UInt8} {text : List Char}
    (cut : ∀ byte ∈ tail, Continuation byte) (same : chunk ++ rest = tail ++ encodeUtf8 text) :
    ∃ tail' text', (∀ byte ∈ tail', Continuation byte) ∧ rest = tail' ++ encodeUtf8 text' ∧
      (decodeUtf8 chunk).count '\n' + text'.count '\n' = text.count '\n' ∧
      ((tail = [] ∧ tail' = [] ∧ ∃ before, text = before ++ text' ∧ chunk = encodeUtf8 before) ∨
        replaced tail text + (if tail = [] then 1 else 0) ≤
          (decodeUtf8 chunk).count replacementChar + replaced tail' text') := by
  rcases append_eq_append_iff.mp same with ⟨left, rfl, others⟩ | ⟨chunk, rfl, others⟩
  · -- the chunk ends before the character that is cut does
    have read := decodeUtf8_continuation (fun byte mem => cut byte (mem_append_left left mem)) []
    rw [append_nil, decodeUtf8_nil, append_nil] at read
    refine ⟨left, text, fun byte mem => cut byte (mem_append_right chunk mem), others, ?_, ?_⟩
    · rw [read, count_replicate, if_neg (by decide), Nat.zero_add]
    · rw [read, count_replicate_self]
      unfold replaced
      by_cases none : chunk = []
      · subst none
        by_cases none : left = []
        · subst none
          exact .inl ⟨rfl, rfl, [], rfl, rfl⟩
        · exact .inr (by simp [none])
      · have some := length_pos_of_ne_nil none
        rw [if_neg (by simp [none]), if_neg (by simp [none])]
        omega
  · have read := decodeUtf8_continuation cut chunk
    rcases cut_encodeUtf8 others with ⟨before, after, rfl, rfl, later⟩ |
      ⟨before, c, after, first, last, rfl, spelled, nonempty, nonempty', rfl, later⟩
    · rw [decodeUtf8_encode] at read
      refine ⟨[], after, fun _ no => (by cases no), later, ?_, ?_⟩
      · rw [read, count_append, count_append, count_replicate, if_neg (by decide),
          Nat.zero_add]
      · by_cases none : tail = []
        · exact .inl ⟨none, rfl, before, rfl, by rw [none]; rfl⟩
        · have some := length_pos_of_ne_nil none
          rw [read, count_append, count_replicate_self, replaced, replaced,
            count_append, if_neg none, if_neg none]
          omega
    · -- both parts of the character that is cut are replaced
      have spells := Utf8Decoder.spells_encode c
      rw [spelled] at spells
      obtain ⟨first_read, cut'⟩ := spells.cut nonempty nonempty'
      have first_read : decodeUtf8 first = [replacementChar] := first_read
      rw [decodeUtf8_append, first_read] at read
      have plain : c ≠ '\n' := by
        rintro rfl
        rcases append_eq_singleton_iff.mp spelled.symm with ⟨none, _⟩ | ⟨_, none⟩
        · exact nonempty none
        · exact nonempty' none
      refine ⟨last, after, cut', later, ?_, .inr ?_⟩
      · rw [read]
        have other : replacementChar ≠ '\n' := by decide
        simp [count_append, count_replicate, plain, other]
      · have one := @List.count_le_length _ _ replacementChar [c]
        rw [length_singleton] at one
        rw [read, replaced, replaced, if_neg nonempty', count_append, count_append,
          count_append, ← singleton_append, count_append, count_replicate_self,
          count_singleton_self]
        by_cases none : tail = []
        · rw [if_pos none, if_pos none]
          omega
        · have some := length_pos_of_ne_nil none
          rw [if_neg none, if_neg none]
          omega

/-- Chunks of a text are texts themselves, or more characters are replaced than were written. -/
theorem chunks_decoded {chunks : List (List UInt8)} {tail : List UInt8} {text : List Char}
    (cut : ∀ byte ∈ tail, Continuation byte) (same : chunks.flatten = tail ++ encodeUtf8 text) :
    (tail = [] ∧ ∃ texts : List (List Char), texts.flatten = text ∧ chunks = texts.map encodeUtf8) ∨
      replaced tail text + (if tail = [] then 1 else 0) ≤
        (chunks.flatMap decodeUtf8).count replacementChar := by
  induction chunks generalizing tail text with
  | nil =>
      obtain ⟨none, none'⟩ := append_eq_nil_iff.mp same.symm
      have empty : text = [] := encodeUtf8_injective none'
      exact .inl ⟨none, [], empty.symm, rfl⟩
  | cons chunk chunks ih =>
      obtain ⟨tail', text', cut', later, _, whole | more⟩ := chunk_decoded cut same
      · obtain ⟨rfl, rfl, before, rfl, rfl⟩ := whole
        rw [flatMap_cons, count_append, decodeUtf8_encode]
        rcases ih cut' later with ⟨_, texts, rfl, rfl⟩ | more
        · exact .inl ⟨rfl, before :: texts, rfl, rfl⟩
        · refine .inr ?_
          simp only [replaced, if_true, count_append] at more ⊢
          omega
      · rw [flatMap_cons, count_append]
        rcases ih cut' later with ⟨rfl, texts, rfl, rfl⟩ | more'
        · rw [flatMap_decodeUtf8]
          rw [replaced, replaced, if_pos rfl] at more
          exact .inr more
        · refine .inr ?_
          omega

/-- Line breaks are neither lost nor made up. -/
theorem count_decoded {chunks : List (List UInt8)} {tail : List UInt8} {text : List Char}
    (cut : ∀ byte ∈ tail, Continuation byte) (same : chunks.flatten = tail ++ encodeUtf8 text) :
    (chunks.flatMap decodeUtf8).count '\n' = text.count '\n' := by
  induction chunks generalizing tail text with
  | nil =>
      obtain ⟨_, none⟩ := append_eq_nil_iff.mp same.symm
      have empty : text = [] := encodeUtf8_injective none
      rw [empty]
      rfl
  | cons chunk chunks ih =>
      obtain ⟨tail', text', cut', later, count, _⟩ := chunk_decoded cut same
      rw [flatMap_cons, count_append, ih cut' later, count]

/-- Chunks of a text are read as the text exactly if they are texts themselves. -/
theorem decodeUtf8_chunks {chunks : List (List UInt8)} {text : List Char}
    (same : chunks.flatten = encodeUtf8 text) :
    chunks.flatMap decodeUtf8 = text ↔ ∃ texts : List (List Char), chunks = texts.map encodeUtf8 := by
  constructor
  · intro read
    rcases @chunks_decoded chunks [] text (fun _ no => by cases no) same with ⟨_, texts, _, rfl⟩ | more
    · exact ⟨texts, rfl⟩
    · rw [read] at more
      exact absurd more (Nat.not_succ_le_self _)
  · rintro ⟨texts, rfl⟩
    rw [flatten_encodeUtf8] at same
    rw [flatMap_decodeUtf8, encodeUtf8_injective same]

/-- Chunks of a text that ends with a line break are read as one that does. -/
theorem decodeUtf8_lineBreak {chunks : List (List UInt8)} {front : List UInt8}
    (same : chunks.flatten = front ++ [10]) :
    ∃ before, chunks.flatMap decodeUtf8 = before ++ ['\n'] := by
  induction chunks generalizing front with
  | nil => cases front <;> cases same
  | cons chunk chunks ih =>
      rw [flatten_cons] at same
      rw [flatMap_cons]
      rcases append_eq_append_iff.mp same with ⟨rest, rfl, others⟩ | ⟨rest, rfl, others⟩
      · obtain ⟨before, read⟩ := ih others
        exact ⟨decodeUtf8 chunk ++ before, by rw [read, append_assoc]⟩
      · rcases append_eq_singleton_iff.mp others.symm with ⟨rfl, later⟩ | ⟨rfl, none⟩
        · obtain ⟨before, read⟩ := @ih [] later
          exact ⟨decodeUtf8 (front ++ []) ++ before, by rw [read, append_assoc]⟩
        · have nothing : chunks.flatMap decodeUtf8 = [] := by
            refine flatMap_eq_nil_iff.mpr fun chunk mem => ?_
            rw [flatten_eq_nil_iff.mp none chunk mem]
            rfl
          rw [nothing, append_nil]
          exact Utf8Decoder.decode_lineBreak (Nat.le_refl _) front

end ExecutionHandoff.Library
