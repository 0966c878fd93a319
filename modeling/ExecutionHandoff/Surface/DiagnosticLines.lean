import ExecutionHandoff.Library.LineStream
import ExecutionHandoff.Library.Utf8
import ExecutionHandoff.Surface.EditableRegions

/-!
# Diagnostic lines

What a host writes to its standard error arrives in chunks.  Each of three
consumers decodes a chunk by itself, appends it to what is left of the chunks
before, compares the length of that with a bound and then takes the complete
lines off it.  What is done with a line is left out, except for what it means
for the lines behind it.
-/

namespace ExecutionHandoff.Surface

open Library List
open JsString (units Scalar encodePoint toNat_ofNat characters pointChar utf8)

def maxDiagnosticBuffer : Nat := 8192

/-- `indexOf("\n")` and `slice` for as long as there is a line: the lines, and what is left. -/
def takeLines : JsString → List JsString × JsString
  | [] => ([], [])
  | unit :: text =>
      if unit = 10 then
        ([] :: (takeLines text).1, (takeLines text).2)
      else
        match takeLines text with
        | ([], rest) => ([], unit :: rest)
        | (line :: lines, rest) => ((unit :: line) :: lines, rest)

/-- What one chunk does: the lines that are processed, and whether the bound is exceeded. -/
structure Pushed (σ : Type) where
  lines : List JsString
  bounds : Bool
  next : σ

structure Consumed where
  lines : List JsString
  bounds : Bool
  deriving DecidableEq

/-- The chunks one after another. -/
def consume {σ : Type} (push : σ → List UInt8 → Pushed σ) : σ → List (List UInt8) → Consumed
  | _, [] => ⟨[], false⟩
  | state, chunk :: chunks =>
      let pushed := push state chunk
      let consumed := consume push pushed.next chunks
      ⟨pushed.lines ++ consumed.lines, pushed.bounds || consumed.bounds⟩

/-! ## The consumers -/

/-- `HostMetricParser.push`; a text beyond the bound is cut to its end. -/
def HostMetricParser.push (text : JsString) (chunk : List UInt8) : Pushed JsString :=
  if chunk = [] then ⟨[], false, text⟩
  else
    let received := text ++ JsString.units (decodeUtf8 chunk)
    let large := decide (received.length > maxDiagnosticBuffer)
    let kept := if large then received.drop (received.length - 2048) else received
    ⟨(takeLines kept).1, large, (takeLines kept).2⟩

structure DiagnosticsState where
  failed : Bool
  stderrBuffer : JsString

/-- What a line means for the lines behind it. -/
inductive LineEnd where
  | goesOn
  /-- The surface fails; the lines that have arrived are still processed. -/
  | fails
  /-- The surface fails, and nothing more is processed. -/
  | returns
  deriving DecidableEq

namespace LinuxWebSocketWindowSurface

def lineEnd (line : JsString) : LineEnd :=
  match editableRegions line with
  | .failed _ => .returns
  | .delivered _ => .goesOn
  | .ignored =>
      if trimUnits line = JsString.ascii "MCP_HANDOFF_DIAGNOSTIC linux_stage=input_failure" then .fails
      else .goesOn

/-- The loop over the lines that have arrived. -/
def processLines (rest : JsString) : List JsString → Bool → List JsString × DiagnosticsState
  | [], failed => ([], ⟨failed, rest⟩)
  | line :: lines, failed =>
      match lineEnd line with
      | .returns => ([line], ⟨true, lines.foldr (fun line text => line ++ 10 :: text) rest⟩)
      | .fails => (line :: (processLines rest lines true).1, (processLines rest lines true).2)
      | .goesOn => (line :: (processLines rest lines failed).1, (processLines rest lines failed).2)

def consumeDiagnostics (active : DiagnosticsState) (chunk : List UInt8) : Pushed DiagnosticsState :=
  if active.failed then ⟨[], false, active⟩
  else
    let received := active.stderrBuffer ++ JsString.units (decodeUtf8 chunk)
    if received.length > maxDiagnosticBuffer then ⟨[], true, ⟨true, received⟩⟩
    else
      let processed := processLines (takeLines received).2 (takeLines received).1 false
      ⟨processed.1, false, processed.2⟩

end LinuxWebSocketWindowSurface

def MacOSWebSocketWindowSurface.consumeDiagnostics (state : DiagnosticsState) (chunk : List UInt8) :
    Pushed DiagnosticsState :=
  if state.failed then ⟨[], false, state⟩
  else
    let received := state.stderrBuffer ++ JsString.units (decodeUtf8 chunk)
    if (JsString.utf8 received).length > maxDiagnosticBuffer then ⟨[], true, ⟨true, received⟩⟩
    else ⟨(takeLines received).1, false, ⟨false, (takeLines received).2⟩⟩

/-! ## Lines of a text -/

theorem takeLines_rest {rest : JsString} (clean : 10 ∉ rest) : takeLines rest = ([], rest) := by
  induction rest with
  | nil => rfl
  | cons unit rest ih =>
      have other : unit ≠ 10 := fun same => clean (same ▸ mem_cons_self)
      rw [takeLines, if_neg other, ih (not_mem_of_not_mem_cons clean)]

theorem takeLines_line {line : JsString} (clean : 10 ∉ line) (text : JsString) :
    takeLines (line ++ 10 :: text) = (line :: (takeLines text).1, (takeLines text).2) := by
  induction line with
  | nil => rfl
  | cons unit line ih =>
      have other : unit ≠ 10 := fun same => clean (same ▸ mem_cons_self)
      rw [cons_append, takeLines, if_neg other, ih (not_mem_of_not_mem_cons clean)]

theorem units_append (text more : List Char) :
    units (text ++ more) = units text ++ units more := flatMap_append

theorem scalar_toNat (c : Char) : Scalar c.toNat := by
  have valid : c.val.toNat < 0xD800 ∨ 0xDFFF < c.val.toNat ∧ c.val.toNat < 0x110000 := c.valid
  exact valid

theorem not_mem_encodePoint {point : Nat} (small : point < 0x110000) (other : point ≠ 10) :
    10 ∉ encodePoint point := by
  intro mem
  unfold encodePoint at mem
  split at mem
  · have same := congrArg UInt16.toNat (mem_singleton.mp mem)
    rw [toNat_ofNat (by omega)] at same
    exact other same.symm
  · rcases mem_cons.mp mem with same | mem
    · have same := congrArg UInt16.toNat same
      rw [toNat_ofNat (by omega)] at same
      simp at same
    · have same := congrArg UInt16.toNat (mem_singleton.mp mem)
      rw [toNat_ofNat (by omega)] at same
      simp at same

theorem count_units (text : List Char) : (units text).count 10 = text.count '\n' := by
  induction text with
  | nil => rfl
  | cons c text ih =>
      have whole : units (c :: text) = encodePoint c.toNat ++ units text := rfl
      rw [whole, count_append, ih]
      by_cases same : c = '\n'
      · subst same
        rw [count_cons_self, Nat.add_comm]
        rfl
      · have other : c.toNat ≠ 10 := fun no => same (Char.toNat_inj.mp no)
        have small : c.toNat < 0x110000 := (scalar_toNat c).elim (fun low => by omega) And.right
        rw [count_eq_zero.mpr (not_mem_encodePoint small other), Nat.zero_add,
          count_cons_of_ne same]

/-- A text without a line break is one without its unit. -/
theorem not_mem_units {text : List Char} (clean : '\n' ∉ text) : 10 ∉ units text := by
  rw [← count_eq_zero, count_units]
  exact count_eq_zero.mpr clean

/-- Each line break is read where it was written, however a chunk is cut. -/
theorem count_units_decodeUtf8 (chunk : List UInt8) :
    (units (decodeUtf8 chunk)).count 10 = chunk.count 10 := by
  rw [count_units, decodeUtf8, Utf8Decoder.decode_lineBreaks (.inl rfl)]

theorem characters_units (text : List Char) : characters (units text) = text := by
  have scalars : ∀ point ∈ text.map Char.toNat, Scalar point := by
    intro point mem
    obtain ⟨c, _, rfl⟩ := mem_map.mp mem
    exact (scalar_toNat c)
  have points := JsString.codePoints_flatMap scalars []
  rw [flatMap_map, append_nil] at points
  have read : JsString.codePoints (units text) = text.map Char.toNat :=
    points.trans (append_nil _)
  rw [characters, read, map_map]
  refine (map_congr_left fun c _ => ?_).trans (map_id text)
  change pointChar c.toNat = c
  rw [pointChar, if_pos (scalar_toNat c), Char.ofNat_toNat]

theorem units_injective : Function.Injective units :=
  Function.LeftInverse.injective characters_units

/-- The lines are taken off the units of a text as they are read off the text. -/
theorem takeLines_units (text : List Char) :
    takeLines (units text) =
      ((readLines text).1.map units, units (readLines text).2) := by
  obtain ⟨unbroken, clean⟩ := readLines_unbroken text
  have whole := writeLines_readLines text
  generalize (readLines text).1 = lines at *
  generalize (readLines text).2 = rest at *
  subst whole
  induction lines with
  | nil => exact takeLines_rest (not_mem_units clean)
  | cons line lines ih =>
      have cut : units (writeLines (line :: lines) ++ rest) =
          units line ++ 10 :: units (writeLines lines ++ rest) := by
        change units ((line ++ '\n' :: writeLines lines) ++ rest) = _
        rw [append_assoc, units_append]
        rfl
      rw [cut, takeLines_line (not_mem_units (unbroken line mem_cons_self)),
        ih fun other mem => unbroken other (mem_cons_of_mem _ mem)]
      rfl

/-! ## Consumers of lines -/

/-- The lines up to the first that ends the processing. -/
def upToReturn (lineEnd : JsString → LineEnd) : List JsString → List JsString
  | [] => []
  | line :: lines =>
      if lineEnd line = .returns then [line] else line :: upToReturn lineEnd lines

section

variable {σ : Type} (push : σ → List UInt8 → Pushed σ) (size : List Char → Nat)
  (lineEnd : JsString → LineEnd)

/-- Where `held left` is the state with that much of a line, a chunk gives the lines that it
completes, as long as the bound on the size is kept and no line fails the consumer. -/
structure Consumes (held : List Char → σ) : Prop where
  empty : size [] = 0
  small : ∀ text, size (readLines text).2 ≤ size text
  cut : ∀ {left chunk}, '\n' ∉ left → size left ≤ maxDiagnosticBuffer →
    maxDiagnosticBuffer < size (left ++ decodeUtf8 chunk) → (push (held left) chunk).bounds = true
  taken : ∀ {left chunk}, '\n' ∉ left → size left ≤ maxDiagnosticBuffer →
    size (left ++ decodeUtf8 chunk) ≤ maxDiagnosticBuffer →
    (∀ line ∈ (readLines (left ++ decodeUtf8 chunk)).1, lineEnd (JsString.units line) = .goesOn) →
    push (held left) chunk =
      ⟨(readLines (left ++ decodeUtf8 chunk)).1.map JsString.units, false,
        held (readLines (left ++ decodeUtf8 chunk)).2⟩
  failing : ∀ {left chunk}, '\n' ∉ left → size left ≤ maxDiagnosticBuffer →
    size (left ++ decodeUtf8 chunk) ≤ maxDiagnosticBuffer →
    (∃ line ∈ (readLines (left ++ decodeUtf8 chunk)).1, lineEnd (JsString.units line) ≠ .goesOn) →
    ∃ next, (∀ chunks, consume push next chunks = ⟨[], false⟩) ∧ push (held left) chunk =
      ⟨upToReturn lineEnd ((readLines (left ++ decodeUtf8 chunk)).1.map JsString.units), false, next⟩

/-- With what is left of the texts before, each is within the bound; nothing stands behind a line
that ends the processing, and no text behind one with a line that fails the consumer. -/
def Fits : List Char → List (List Char) → Prop
  | _, [] => True
  | left, text :: texts =>
      size (left ++ text) ≤ maxDiagnosticBuffer ∧
      (∀ before line after, (readLines (left ++ text)).1 = before ++ line :: after →
        lineEnd (JsString.units line) = .returns → after = []) ∧
      ((∃ line ∈ (readLines (left ++ text)).1, lineEnd (JsString.units line) ≠ .goesOn) →
        texts.flatten = []) ∧
      Fits (readLines (left ++ text)).2 texts

variable {push size lineEnd} {held : List Char → σ} {left : List Char} {texts : List (List Char)}
  {chunks : List (List UInt8)}

theorem length_upToReturn_le (lines : List JsString) :
    (upToReturn lineEnd lines).length ≤ lines.length := by
  induction lines with
  | nil => exact Nat.le_refl _
  | cons line lines ih =>
      rw [upToReturn]
      split
      · simp
      · simpa using ih

/-- All lines are processed exactly if none stands behind one that ends the processing. -/
theorem upToReturn_iff (lines : List JsString) :
    (upToReturn lineEnd lines).length = lines.length ↔
      ∀ before line after, lines = before ++ line :: after → lineEnd line = .returns → after = [] := by
  induction lines with
  | nil => exact ⟨fun _ before line after no => by simp at no, fun _ => rfl⟩
  | cons first lines ih =>
      rw [upToReturn]
      split
      · rename_i returns
        constructor
        · intro all before line after same _
          have none : lines = [] := by
            rw [length_singleton, length_cons] at all
            exact length_eq_zero_iff.mp (Nat.succ.inj all).symm
          rw [none] at same
          rcases append_eq_singleton_iff.mp same.symm with ⟨_, rest⟩ | ⟨_, rest⟩
          · exact (List.cons.inj rest).2
          · cases rest
        · intro last
          rw [last [] first lines rfl returns]
      · rename_i continues
        rw [length_cons, length_cons, Nat.succ_inj, ih]
        constructor
        · intro last before line after same returns
          cases before with
          | nil =>
              obtain ⟨rfl, rfl⟩ := List.cons.inj same
              exact absurd returns continues
          | cons _ before => exact last before line after (List.cons.inj same).2 returns
        · intro last before line after same returns
          exact last (first :: before) line after (by rw [same]; rfl) returns

theorem upToReturn_eq {lines : List JsString}
    (all : (upToReturn lineEnd lines).length = lines.length) : upToReturn lineEnd lines = lines := by
  induction lines with
  | nil => rfl
  | cons line lines ih =>
      rw [upToReturn] at all ⊢
      split at all
      · rename_i returns
        rw [if_pos returns, length_eq_zero_iff.mp (Nat.succ.inj all).symm]
      · rename_i continues
        rw [if_neg continues, ih (Nat.succ.inj all)]

/-- The processing of the lines of a text. -/
theorem upToReturn_units {lines : List (List Char)}
    (last : ∀ before line after, lines = before ++ line :: after →
      lineEnd (units line) = .returns → after = []) :
    upToReturn lineEnd (lines.map units) = lines.map units := by
  refine upToReturn_eq ((upToReturn_iff _).mpr fun before line after same returns => ?_)
  obtain ⟨before, rest, rfl, rfl, split⟩ := map_eq_append_iff.mp same
  obtain ⟨line, after, rfl, rfl, rfl⟩ := map_eq_cons_iff.mp split
  rw [last before line after rfl returns]
  rfl

theorem fits_nothing (clean : '\n' ∉ left) (bounded : size left ≤ maxDiagnosticBuffer) (nothing : texts.flatten = []) :
    Fits size lineEnd left texts := by
  induction texts with
  | nil => trivial
  | cons text texts ih =>
      obtain ⟨rfl, nothing⟩ := append_eq_nil_iff.mp nothing
      rw [Fits, append_nil, readLines_rest clean]
      refine ⟨bounded, fun before line after no => ?_, fun _ => nothing, ih nothing⟩
      cases before <;> cases no

theorem map_decodeUtf8 (texts : List (List Char)) : (texts.map encodeUtf8).map decodeUtf8 = texts := by
  rw [map_map]
  exact (map_congr_left fun text _ => decodeUtf8_encode text).trans (map_id texts)

namespace Consumes

/-- Chunks that fit give the lines of what they are decoded to. -/
theorem consume_fits (consumes : Consumes push size lineEnd held) (clean : '\n' ∉ left)
    (bounded : size left ≤ maxDiagnosticBuffer)
    (fits : Fits size lineEnd left (chunks.map decodeUtf8)) :
    consume push (held left) chunks =
      ⟨(readLines (left ++ chunks.flatMap decodeUtf8)).1.map units, false⟩ := by
  induction chunks generalizing left with
  | nil =>
      rw [flatMap_nil, append_nil, readLines_rest clean]
      rfl
  | cons chunk chunks ih =>
      obtain ⟨bound, last, failed, fits⟩ := fits
      have clean' := (readLines_unbroken (left ++ decodeUtf8 chunk)).2
      have bounded' := Nat.le_trans (consumes.small (left ++ decodeUtf8 chunk)) bound
      rw [consume, flatMap_cons, ← append_assoc, readLines_append]
      by_cases fails : ∃ line ∈ (readLines (left ++ decodeUtf8 chunk)).1,
          lineEnd (units line) ≠ .goesOn
      · obtain ⟨next, stopped, pushed⟩ := consumes.failing clean bounded bound fails
        have nothing : chunks.flatMap decodeUtf8 = [] := by
          rw [flatMap_def]
          exact failed fails
        rw [pushed, stopped, upToReturn_units last, nothing, append_nil]
        simp [readLines_rest clean']
      · have goesOn : ∀ line ∈ (readLines (left ++ decodeUtf8 chunk)).1,
            lineEnd (units line) = .goesOn := by
          intro line mem
          by_contra other
          exact fails ⟨line, mem, other⟩
        rw [consumes.taken clean bounded bound goesOn, ih clean' bounded' fits]
        simp

/-- Chunks of a text with a line break at its end fit, if they give as many lines as that has and
the bound is kept. -/
theorem fits_of_consume (consumes : Consumes push size lineEnd held) (clean : '\n' ∉ left)
    (bounded : size left ≤ maxDiagnosticBuffer)
    (ends : chunks.flatten = [] ∨ ∃ front, chunks.flatten = front ++ [10])
    (kept : (consume push (held left) chunks).bounds = false)
    (count : (consume push (held left) chunks).lines.length =
      (chunks.flatMap decodeUtf8).count '\n') :
    Fits size lineEnd left (chunks.map decodeUtf8) := by
  induction chunks generalizing left with
  | nil => trivial
  | cons chunk chunks ih =>
      have ends' : chunks.flatten = [] ∨ ∃ front, chunks.flatten = front ++ [10] := by
        rcases eq_nil_or_concat' chunks.flatten with none | ⟨front, last, same⟩
        · exact .inl none
        · rw [flatten_cons, same, ← append_assoc] at ends
          rcases ends with no | ⟨front', ends⟩
          · simp at no
          · cases append_inj_right' ends rfl
            exact .inr ⟨front, same⟩
      rw [consume] at kept count
      obtain ⟨kept, kept'⟩ := Bool.or_eq_false_iff.mp kept
      have bound : size (left ++ decodeUtf8 chunk) ≤ maxDiagnosticBuffer := by
        by_contra large
        rw [consumes.cut clean bounded (Nat.not_le.mp large)] at kept
        cases kept
      have clean' := (readLines_unbroken (left ++ decodeUtf8 chunk)).2
      have bounded' := Nat.le_trans (consumes.small (left ++ decodeUtf8 chunk)) bound
      have breaks : (readLines (left ++ decodeUtf8 chunk)).1.length = (decodeUtf8 chunk).count '\n' := by
        rw [length_readLines, count_append, count_eq_zero.mpr clean, Nat.zero_add]
      rw [flatMap_cons, count_append, length_append] at count
      by_cases fails : ∃ line ∈ (readLines (left ++ decodeUtf8 chunk)).1,
          lineEnd (units line) ≠ .goesOn
      · obtain ⟨next, stopped, pushed⟩ := consumes.failing clean bounded bound fails
        rw [pushed, stopped, length_nil, Nat.add_zero] at count
        dsimp only at count
        have few := @length_upToReturn_le lineEnd
          ((readLines (left ++ decodeUtf8 chunk)).1.map units)
        rw [length_map] at few
        have nothing : chunks.flatten = [] := by
          rcases ends' with none | ⟨front, same⟩
          · exact none
          · obtain ⟨before, read⟩ := decodeUtf8_lineBreak same
            rw [read, count_append, count_singleton_self] at count
            omega
        have read : chunks.map decodeUtf8 = chunks.map fun _ => [] :=
          map_congr_left fun chunk mem => by rw [flatten_eq_nil_iff.mp nothing chunk mem]; rfl
        have texts : (chunks.map decodeUtf8).flatten = [] := by
          rw [read]
          simp
        have all := (@upToReturn_iff lineEnd
          ((readLines (left ++ decodeUtf8 chunk)).1.map units)).mp (by
            rw [length_map]
            omega)
        refine ⟨bound, fun before line after same returns => ?_, fun _ => texts,
          fits_nothing clean' bounded' texts⟩
        have none := all (before.map units) (units line) (after.map units)
          (by rw [same, map_append, map_cons]) returns
        exact map_eq_nil_iff.mp none
      · have goesOn : ∀ line ∈ (readLines (left ++ decodeUtf8 chunk)).1,
            lineEnd (units line) = .goesOn := by
          intro line mem
          by_contra other
          exact fails ⟨line, mem, other⟩
        have pushed := consumes.taken clean bounded bound goesOn
        rw [pushed] at kept' count
        rw [length_map, breaks] at count
        refine ⟨bound, fun before line after same returns => ?_, fun no => absurd no fails,
          ih clean' bounded' ends' kept' (Nat.add_left_cancel count)⟩
        rw [goesOn line (by rw [same]; simp)] at returns
        cases returns

/-- A consumer processes exactly the lines of a text, within its bound, if the chunks are texts that
fit. -/
theorem consumed_iff (consumes : Consumes push size lineEnd held) {lines : List (List Char)}
    (unbroken : Unbroken lines) (stream : chunks.flatten = encodeUtf8 (writeLines lines)) :
    consume push (held []) chunks = ⟨lines.map units, false⟩ ↔
      ∃ texts : List (List Char), chunks = texts.map encodeUtf8 ∧ Fits size lineEnd [] texts := by
  constructor
  · intro consumed
    have ends : chunks.flatten = [] ∨ ∃ front, chunks.flatten = front ++ [10] := by
      rw [stream]
      rcases eq_nil_or_concat' lines with rfl | ⟨front, line, rfl⟩
      · exact .inl rfl
      · refine .inr ⟨encodeUtf8 (writeLines front ++ line), ?_⟩
        rw [writeLines_append, encodeUtf8_append, encodeUtf8_append, append_assoc]
        exact congrArg (encodeUtf8 (writeLines front) ++ ·) (encodeUtf8_append line ['\n'])
    have counted := @count_decoded chunks [] (writeLines lines) (fun _ no => by cases no) stream
    have fits := consumes.fits_of_consume  not_mem_nil
      (by rw [consumes.empty]; exact Nat.zero_le _) ends (congrArg Consumed.bounds consumed)
      (by rw [consumed, counted, count_writeLines unbroken, length_map])
    have read := consumes.consume_fits  not_mem_nil
      (by rw [consumes.empty]; exact Nat.zero_le _) fits
    rw [consumed, nil_append] at read
    have same : (readLines (chunks.flatMap decodeUtf8)).1 = lines :=
      (map_injective_iff.mpr units_injective (congrArg Consumed.lines read)).symm
    have rest : (readLines (chunks.flatMap decodeUtf8)).2 = [] := by
      rcases ends with none | ⟨front, ends⟩
      · have none : chunks.flatMap decodeUtf8 = [] :=
          flatMap_eq_nil_iff.mpr fun chunk mem => by
            rw [flatten_eq_nil_iff.mp none chunk mem]
            rfl
        rw [none]
        rfl
      · obtain ⟨before, ends⟩ := decodeUtf8_lineBreak ends
        rw [ends, readLines_lineBreak]
    have whole := writeLines_readLines (chunks.flatMap decodeUtf8)
    rw [same, rest, append_nil] at whole
    obtain ⟨texts, rfl⟩ := (decodeUtf8_chunks stream).mp whole.symm
    refine ⟨texts, rfl, ?_⟩
    rwa [map_decodeUtf8] at fits
  · rintro ⟨texts, rfl, fits⟩
    have whole : texts.flatten = writeLines lines := by
      rw [flatten_encodeUtf8] at stream
      exact encodeUtf8_injective stream
    have fits : Fits size lineEnd [] ((texts.map encodeUtf8).map decodeUtf8) := by
      rwa [map_decodeUtf8]
    rw [consumes.consume_fits not_mem_nil (by rw [consumes.empty]; exact Nat.zero_le _) fits,
      flatMap_decodeUtf8, whole, nil_append, readLines_writeLines unbroken]

end Consumes

end

/-! ## The three consumers -/

/-- The length of a text in code units. -/
def unitLength (text : List Char) : Nat := (JsString.units text).length

/-- The length of a text in UTF-8. -/
def byteLength (text : List Char) : Nat := (JsString.utf8 (JsString.units text)).length

/-- No line fails the consumer. -/
def harmless (_ : JsString) : LineEnd := .goesOn

theorem unitLength_append (text more : List Char) :
    unitLength (text ++ more) = unitLength text + unitLength more := by
  rw [unitLength, units_append, length_append]
  rfl

theorem byteLength_append (text more : List Char) :
    byteLength (text ++ more) = byteLength text + byteLength more := by
  simp only [byteLength, utf8, characters_units]
  rw [← JsString.bytes_append, length_append]

/-- What is left of a text is no longer than it. -/
theorem rest_le {size : List Char → Nat}
    (append : ∀ text more, size (text ++ more) = size text + size more) (text : List Char) :
    size (readLines text).2 ≤ size text := by
  have whole := congrArg size (writeLines_readLines text)
  rw [append] at whole
  omega

theorem HostMetricParser.consumes :
    Consumes HostMetricParser.push unitLength harmless units := by
  refine ⟨rfl, rest_le unitLength_append, ?_, ?_, ?_⟩
  · intro left chunk clean bounded large
    unfold HostMetricParser.push
    split
    · rename_i none
      subst none
      rw [decodeUtf8_nil, append_nil] at large
      omega
    · rw [← units_append]
      exact decide_eq_true large
  · intro left chunk clean bounded small _
    unfold HostMetricParser.push
    split
    · rename_i none
      subst none
      rw [decodeUtf8_nil, append_nil, readLines_rest clean]
      rfl
    · rw [← units_append]
      have fits : decide ((units (left ++ decodeUtf8 chunk)).length > maxDiagnosticBuffer) =
          false := decide_eq_false (Nat.not_lt.mpr small)
      simp only [fits]
      rw [if_neg (by decide), takeLines_units]
  · rintro left chunk _ _ _ ⟨line, _, no⟩
    exact absurd rfl no

theorem MacOSWebSocketWindowSurface.consumes :
    Consumes MacOSWebSocketWindowSurface.consumeDiagnostics byteLength harmless
      (fun left => ⟨false, units left⟩) := by
  refine ⟨rfl, rest_le byteLength_append, ?_, ?_, ?_⟩
  · intro left chunk _ _ large
    unfold byteLength at large
    simp only [MacOSWebSocketWindowSurface.consumeDiagnostics]
    rw [if_neg (by decide), ← units_append, if_pos large]
  · intro left chunk _ _ small _
    unfold byteLength at small
    simp only [MacOSWebSocketWindowSurface.consumeDiagnostics]
    rw [if_neg (by decide), ← units_append, if_neg (Nat.not_lt.mpr small), takeLines_units]
  · rintro left chunk _ _ _ ⟨line, _, no⟩
    exact absurd rfl no

namespace LinuxWebSocketWindowSurface

theorem processLines_lines (rest : JsString) (lines : List JsString) (failed : Bool) :
    (processLines rest lines failed).1 = upToReturn lineEnd lines := by
  induction lines generalizing failed with
  | nil => rfl
  | cons line lines ih =>
      rw [processLines, upToReturn]
      cases ended : lineEnd line <;> simp [ih]

theorem processLines_goesOn {rest : JsString} {lines : List JsString}
    (goesOn : ∀ line ∈ lines, lineEnd line = .goesOn) (failed : Bool) :
    processLines rest lines failed = (lines, ⟨failed, rest⟩) := by
  induction lines with
  | nil => rfl
  | cons line lines ih =>
      rw [processLines, goesOn line mem_cons_self,
        ih fun other mem => goesOn other (mem_cons_of_mem _ mem)]

theorem processLines_failed {rest : JsString} {lines : List JsString} {failed : Bool}
    (fails : failed = true ∨ ∃ line ∈ lines, lineEnd line ≠ .goesOn) :
    (processLines rest lines failed).2.failed = true := by
  induction lines generalizing failed with
  | nil =>
      rcases fails with same | ⟨_, no, _⟩
      · exact same
      · cases no
  | cons line lines ih =>
      rw [processLines]
      cases ended : lineEnd line with
      | returns => rfl
      | fails => exact ih (.inl rfl)
      | goesOn =>
          refine ih (fails.imp_right ?_)
          rintro ⟨other, mem, no⟩
          rcases mem_cons.mp mem with rfl | mem
          · exact absurd ended no
          · exact ⟨other, mem, no⟩

theorem consume_failed {active : DiagnosticsState} (failed : active.failed = true)
    (chunks : List (List UInt8)) : consume consumeDiagnostics active chunks = ⟨[], false⟩ := by
  induction chunks with
  | nil => rfl
  | cons chunk chunks ih =>
      have unread : consumeDiagnostics active chunk = ⟨[], false, active⟩ := if_pos failed
      rw [consume, unread, ih]
      rfl

theorem consumes :
    Consumes consumeDiagnostics unitLength lineEnd (fun left => ⟨false, units left⟩) := by
  refine ⟨rfl, rest_le unitLength_append, ?_, ?_, ?_⟩
  · intro left chunk _ _ large
    unfold unitLength at large
    simp only [consumeDiagnostics]
    rw [if_neg (by decide), ← units_append, if_pos large]
  · intro left chunk _ _ small goesOn
    unfold unitLength at small
    simp only [consumeDiagnostics]
    rw [if_neg (by decide), ← units_append, if_neg (Nat.not_lt.mpr small), takeLines_units,
      processLines_goesOn]
    intro line mem
    obtain ⟨line, inside, rfl⟩ := mem_map.mp mem
    exact goesOn line inside
  · rintro left chunk _ _ small ⟨line, inside, fails⟩
    unfold unitLength at small
    refine ⟨(processLines (takeLines (units (left ++ decodeUtf8 chunk))).2
      (takeLines (units (left ++ decodeUtf8 chunk))).1 false).2,
      consume_failed (processLines_failed (.inr ⟨units line, ?_, fails⟩)), ?_⟩
    · rw [takeLines_units]
      exact mem_map.mpr ⟨line, inside, rfl⟩
    · simp only [consumeDiagnostics]
      rw [if_neg (by decide), ← units_append, if_neg (Nat.not_lt.mpr small), processLines_lines,
        takeLines_units]

end LinuxWebSocketWindowSurface

/-- Each consumer processes exactly the lines that a host writes, without a failure for its bound,
exactly if no chunk cuts a character and the chunks fit. -/
theorem diagnostics_iff {lines : List (List Char)} (unbroken : Unbroken lines)
    {chunks : List (List UInt8)} (stream : chunks.flatten = encodeUtf8 (writeLines lines)) :
    (consume HostMetricParser.push [] chunks = ⟨lines.map JsString.units, false⟩ ↔
      ∃ texts : List (List Char), chunks = texts.map encodeUtf8 ∧
        Fits unitLength harmless [] texts) ∧
    (consume LinuxWebSocketWindowSurface.consumeDiagnostics ⟨false, []⟩ chunks =
        ⟨lines.map JsString.units, false⟩ ↔
      ∃ texts : List (List Char), chunks = texts.map encodeUtf8 ∧
        Fits unitLength LinuxWebSocketWindowSurface.lineEnd [] texts) ∧
    (consume MacOSWebSocketWindowSurface.consumeDiagnostics ⟨false, []⟩ chunks =
        ⟨lines.map JsString.units, false⟩ ↔
      ∃ texts : List (List Char), chunks = texts.map encodeUtf8 ∧
        Fits byteLength harmless [] texts) :=
  ⟨HostMetricParser.consumes.consumed_iff unbroken stream,
    LinuxWebSocketWindowSurface.consumes.consumed_iff unbroken stream,
    MacOSWebSocketWindowSurface.consumes.consumed_iff unbroken stream⟩

/-- A line that is cut is put together again. -/
theorem sampleCut_processed :
    consume HostMetricParser.push [] (["rea".toList, "dy\n".toList].map encodeUtf8) =
      ⟨["ready".toList].map JsString.units, false⟩ := by
  have unbroken : Unbroken ["ready".toList] := by
    intro line mem
    rw [List.mem_singleton.mp mem]
    decide
  refine (diagnostics_iff unbroken (by decide)).1.mpr ⟨_, rfl, ?_⟩
  refine ⟨by decide, ?_, ?_, by decide, ?_, ?_, trivial⟩
  · exact fun _ _ _ _ no => by cases no
  · exact fun ⟨_, _, no⟩ => absurd rfl no
  · exact fun _ _ _ _ no => by cases no
  · exact fun ⟨_, _, no⟩ => absurd rfl no

def sampleLine : List Char := "MCP_HANDOFF_METRIC encode_tenths=12".toList

/-- As many short lines as go beyond the bound together. -/
def sampleBurst : List (List Char) := List.replicate 228 sampleLine

theorem length_takeLines (text : JsString) : (takeLines text).1.length ≤ text.count 10 := by
  induction text with
  | nil => exact Nat.le_refl _
  | cons unit text ih =>
      rw [takeLines]
      split
      · rename_i same
        rw [same, count_cons_self]
        exact Nat.succ_le_succ ih
      · rename_i other
        rw [count_cons_of_ne other]
        split
        · exact Nat.zero_le _
        · rename_i taken
          rw [taken] at ih
          exact ih

theorem units_replicate (count : Nat) (line : List Char) :
    units (writeLines (replicate count line)) =
      (replicate count (units line ++ [10])).flatten := by
  induction count with
  | zero => rfl
  | succ count ih =>
      rw [replicate_succ, replicate_succ, flatten_cons, ← ih]
      change units (line ++ '\n' :: writeLines (replicate count line)) = _
      rw [units_append, append_assoc]
      rfl

theorem size_replicate {size : List Char → Nat} (empty : size [] = 0)
    (append : ∀ text more, size (text ++ more) = size text + size more) (count : Nat)
    (line : List Char) :
    size (writeLines (replicate count line)) = count * size (line ++ ['\n']) := by
  induction count with
  | zero =>
      rw [Nat.zero_mul]
      exact empty
  | succ count ih =>
      rw [replicate_succ, Nat.succ_mul, ← ih, Nat.add_comm, ← append, append_assoc]
      rfl

theorem consume_single {σ : Type} (push : σ → List UInt8 → Pushed σ) (state : σ)
    (chunk : List UInt8) :
    consume push state [chunk] = ⟨(push state chunk).lines, (push state chunk).bounds⟩ := by
  simp [consume]

theorem LinuxWebSocketWindowSurface.consumeDiagnostics_large {text : List Char}
    (large : maxDiagnosticBuffer < (units text).length) :
    LinuxWebSocketWindowSurface.consumeDiagnostics ⟨false, []⟩ (encodeUtf8 text) =
      ⟨[], true, ⟨true, units text⟩⟩ := by
  simp only [LinuxWebSocketWindowSurface.consumeDiagnostics, decodeUtf8_encode, nil_append]
  rw [if_neg (by decide), if_pos large]

theorem MacOSWebSocketWindowSurface.consumeDiagnostics_large {text : List Char}
    (large : maxDiagnosticBuffer < (utf8 (units text)).length) :
    MacOSWebSocketWindowSurface.consumeDiagnostics ⟨false, []⟩ (encodeUtf8 text) =
      ⟨[], true, ⟨true, units text⟩⟩ := by
  simp only [MacOSWebSocketWindowSurface.consumeDiagnostics, decodeUtf8_encode, nil_append]
  rw [if_neg (by decide), if_pos large]

/-- The metric parser only takes lines off the end of what is beyond the bound. -/
theorem HostMetricParser.push_large {text : List Char}
    (large : maxDiagnosticBuffer < (units text).length) :
    (HostMetricParser.push [] (encodeUtf8 text)).lines =
      (takeLines ((units text).drop ((units text).length - 2048))).1 := by
  have nonempty : encodeUtf8 text ≠ [] := by
    intro none
    rw [encodeUtf8_injective (none.trans (by rfl : [] = encodeUtf8 []))] at large
    exact absurd large (by decide)
  simp only [HostMetricParser.push, decodeUtf8_encode, nil_append]
  rw [if_neg nonempty, if_pos (decide_eq_true large)]

/-- Behind so many blocks there are no more line breaks than in the blocks that are left. -/
theorem count_drop_replicate {block : JsString} {skipped rest start : Nat}
    (skip : skipped * block.length ≤ start) :
    (((replicate (skipped + rest) block).flatten).drop start).count 10 ≤
      rest * block.count 10 := by
  obtain ⟨more, rfl⟩ := Nat.exists_eq_add_of_le skip
  have front : (replicate skipped block).flatten.length = skipped * block.length := by
    simp
  rw [replicate_add, flatten_append, ← drop_drop, ← front, drop_left]
  refine Nat.le_trans ((drop_sublist more _).count_le 10) (Nat.le_of_eq ?_)
  simp [count_flatten]

/-- They arrive in one chunk: most are lost, or all of them and the surface. -/
theorem sampleBurst_lost :
    (∀ line ∈ sampleBurst, '\n' ∉ line ∧ unitLength line < maxDiagnosticBuffer ∧
      byteLength line < maxDiagnosticBuffer) ∧
    (consume HostMetricParser.push [] [encodeUtf8 (writeLines sampleBurst)]).lines ≠
      sampleBurst.map JsString.units ∧
    consume LinuxWebSocketWindowSurface.consumeDiagnostics ⟨false, []⟩
      [encodeUtf8 (writeLines sampleBurst)] = ⟨[], true⟩ ∧
    consume MacOSWebSocketWindowSurface.consumeDiagnostics ⟨false, []⟩
      [encodeUtf8 (writeLines sampleBurst)] = ⟨[], true⟩ := by
  have blocks : unitLength (sampleLine ++ ['\n']) = 36 ∧ byteLength (sampleLine ++ ['\n']) = 36 := by
    decide +kernel
  have units := @size_replicate unitLength rfl unitLength_append 228 sampleLine
  rw [blocks.1, unitLength] at units
  have bytes := @size_replicate byteLength rfl byteLength_append 228 sampleLine
  rw [blocks.2, byteLength] at bytes
  refine ⟨fun line mem => ?_, ?_, ?_, ?_⟩
  · rw [List.eq_of_mem_replicate mem]
    decide +kernel
  · rw [consume_single, HostMetricParser.push_large (by rw [sampleBurst, units]; decide)]
    intro same
    have count := congrArg List.length same
    rw [List.length_map, sampleBurst, List.length_replicate, units] at count
    rw [units_replicate] at count
    generalize start : 228 * 36 - 2048 = first at count
    -- the end of the text starts within the last 57 lines
    have few := length_takeLines
      ((List.replicate (171 + 57) (JsString.units sampleLine ++ [10])).flatten.drop first)
    have last := @count_drop_replicate (JsString.units sampleLine ++ [10]) 171 57 first
      (by rw [← start]; decide)
    have one : (JsString.units sampleLine ++ [10]).count 10 = 1 := by decide
    have sum : 171 + 57 = 228 := rfl
    rw [sum, count] at few
    rw [sum, one] at last
    omega
  · rw [consume_single, LinuxWebSocketWindowSurface.consumeDiagnostics_large
      (by rw [sampleBurst, units]; decide)]
  · rw [consume_single, MacOSWebSocketWindowSurface.consumeDiagnostics_large
      (by rw [sampleBurst, bytes]; decide)]

end ExecutionHandoff.Surface
