import ExecutionHandoff.Library.NumberConversion

/-!
# Editable regions

The hosts report the editable regions of a window in one control line.  Three
consumers read it: the metric parser of the WebRTC runtime and the diagnostics of
the Linux and of the macOS window surface.  The first two check the record in the
same way and so does the host that takes it from its accessibility helper; the
macOS surface has its own reading of it.
-/

namespace ExecutionHandoff.Surface

open Library List

/-- `x`, `y`, `width` and `height` in the normalised surface. -/
structure EditableRegion where
  x : ℤ
  y : ℤ
  width : ℤ
  height : ℤ
  deriving DecidableEq

namespace EditableRegion

/-- The region is within the surface and not empty. -/
def Inside (region : EditableRegion) : Prop :=
  0 ≤ region.x ∧ 0 ≤ region.y ∧ 1 ≤ region.width ∧ 1 ≤ region.height ∧
    region.x + region.width ≤ 10000 ∧ region.y + region.height ≤ 10000

instance (region : EditableRegion) : Decidable region.Inside := inferInstanceAs (Decidable (_ ∧ _))

def ofValues : List ℤ → Option EditableRegion
  | [x, y, width, height] => some ⟨x, y, width, height⟩
  | _ => none

end EditableRegion

/-- What becomes of a control line. -/
inductive RegionsOutcome where
  | ignored
  | failed (message : String)
  | delivered (regions : List EditableRegion)
  deriving DecidableEq

/-! ## The record -/

def controlPrefix : JsString := JsString.ascii "MCP_HANDOFF_CONTROL editable_regions="

/-- What `.` does not match. -/
def lineTerminator (unit : UInt16) : Bool :=
  unit == 10 || unit == 13 || unit == 0x2028 || unit == 0x2029

/-- The group of `/^MCP_HANDOFF_CONTROL editable_regions=(.*)$/`. -/
def controlPayload (line : JsString) : Option JsString :=
  if controlPrefix <+: line ∧ (line.drop controlPrefix.length).any lineTerminator = false then
    some (line.drop controlPrefix.length)
  else none

/-- `\d{1,5}`. -/
def numeral (text : JsString) : Bool :=
  decide (1 ≤ text.length) && decide (text.length ≤ 5) && text.all isDigit

/-- The groups of `/^(\d{1,5}),(\d{1,5}),(\d{1,5}),(\d{1,5})$/`. -/
def regionMatch (item : JsString) : Option (List JsString) :=
  let fields := item.splitOn 44
  if fields.length = 4 ∧ fields.all numeral then some fields else none

inductive RegionsError where
  | tooLarge
  | tooManyRegions
  | invalid
  | outOfBounds
  deriving DecidableEq

/-- One region, as all but the macOS surface read it. -/
def readRegion (item : JsString) : Except RegionsError EditableRegion :=
  match regionMatch item with
  | none => .error .invalid
  | some fields =>
      match (fields.mapM safeNumber).bind EditableRegion.ofValues with
      | none => .error .outOfBounds
      | some region => if region.Inside then .ok region else .error .outOfBounds

/-- The regions of a payload, as all but the macOS surface read them. -/
def readRegions (payload : JsString) : Except RegionsError (List EditableRegion) :=
  if payload.length > 1024 then .error .tooLarge
  else if payload = [] then .ok []
  else
    let items := payload.splitOn 59
    if items.length > 32 then .error .tooManyRegions else items.mapM readRegion

/-! ## The consumers -/

/-- The branch of `HostMetricParser.push` for the control line. -/
def HostMetricParser.editableRegions (line : JsString) : RegionsOutcome :=
  match controlPayload (trimUnits line) with
  | none => .ignored
  | some payload =>
      match readRegions payload with
      | .ok regions => .delivered regions
      | .error _ => .ignored

namespace LinuxWebSocketWindowSurface

def parseEditableRegions (payload : JsString) : Except String (List EditableRegion) :=
  (readRegions payload).mapError fun
    | .tooLarge => "Linux WSS editable-region metadata is too large"
    | .tooManyRegions => "Linux WSS editable-region metadata has too many regions"
    | .invalid => "Linux WSS editable-region metadata is invalid"
    | .outOfBounds => "Linux WSS editable-region metadata is out of bounds"

/-- The branch of `consumeDiagnostics` for the control line. -/
def editableRegions (line : JsString) : RegionsOutcome :=
  match controlPayload (trimUnits line) with
  | none => .ignored
  | some payload =>
      match parseEditableRegions payload with
      | .ok regions => .delivered regions
      | .error _ => .failed "Linux WSS editable-region metadata exceeded bounds"

end LinuxWebSocketWindowSurface

namespace MacOSWebSocketWindowSurface

/-- A value that the macOS surface takes. -/
def boundedNumber (text : JsString) : Option ℤ :=
  (safeNumber text).bind fun value => if value < 0 ∨ value > 10000 then none else some value

/-- One region, as the macOS surface reads it. -/
def boundedRegion (item : JsString) : Option EditableRegion :=
  ((item.splitOn 44).mapM boundedNumber).bind EditableRegion.ofValues

def parseEditableRegions (line : JsString) : Option (List EditableRegion) :=
  if controlPrefix <+: line then
    let raw := line.drop controlPrefix.length
    if raw = [] then some []
    else
      -- the list is emptied at the first item that is not four bounded values
      some ((((raw.splitOn 59).take 32).mapM boundedRegion).getD [])
  else none

/-- The branch of `#consumeDiagnostics` for the control line. -/
def editableRegions (line : JsString) : RegionsOutcome :=
  match parseEditableRegions line with
  | none => .ignored
  | some regions => .delivered regions

end MacOSWebSocketWindowSurface

structure LinuxEditableSnapshot where
  regions : List EditableRegion
  focusEditable : Bool
  deriving DecidableEq

/-- The groups of `/^OK focus=(0|1) regions=(.*)$/`. -/
def snapshotMatch (line : JsString) : Option (Bool × JsString) :=
  let focus (flag : Bool) := JsString.ascii (if flag then "OK focus=1 regions=" else "OK focus=0 regions=")
  let payload := line.drop (focus true).length
  if payload.any lineTerminator then none
  else if focus true <+: line then some (true, payload)
  else if focus false <+: line then some (false, payload)
  else none

def parseLinuxAtSpiSnapshotLine (line : JsString) : Except String (Option LinuxEditableSnapshot) :=
  if line = JsString.ascii "NO" then .ok none
  else
    match snapshotMatch line with
    | none => .error "Linux AT-SPI editable helper response is invalid"
    | some (focusEditable, payload) =>
        match readRegions payload with
        | .ok regions => .ok (some ⟨regions, focusEditable⟩)
        | .error .tooLarge => .error "Linux AT-SPI editable helper response is too large"
        | .error .tooManyRegions => .error "Linux AT-SPI editable helper returned too many regions"
        | .error .invalid => .error "Linux AT-SPI editable helper region is invalid"
        | .error .outOfBounds => .error "Linux AT-SPI editable helper region is out of bounds"

/-- The text of the numbers of one region. -/
def regionFields (region : EditableRegion) : List JsString :=
  [region.x, region.y, region.width, region.height].map intUnits

/-- The line that the Linux host writes, without the line break. -/
def editableRegionsControlLine (regions : List EditableRegion) : JsString :=
  controlPrefix ++ [59].intercalate ((regions.take 32).map fun region => [44].intercalate (regionFields region))

/-! ## The grammar of a payload -/

/-- The numerals of a region. -/
structure RegionText where
  x : JsString
  y : JsString
  width : JsString
  height : JsString

namespace RegionText

variable (written : RegionText)

def fields : List JsString := [written.x, written.y, written.width, written.height]

def text : JsString := [44].intercalate written.fields

def region : EditableRegion :=
  ⟨natOfUnits written.x, natOfUnits written.y, natOfUnits written.width, natOfUnits written.height⟩

/-- Numerals of one to five digits, for a region in the surface. -/
def WellFormed : Prop := (∀ field ∈ written.fields, numeral field = true) ∧ written.region.Inside

end RegionText

/-- The payload is written as these regions. -/
structure Written (payload : JsString) (texts : List RegionText) : Prop where
  wellFormed : ∀ written ∈ texts, written.WellFormed
  atMost : texts.length ≤ 32
  short : payload.length ≤ 1024
  same : payload = [59].intercalate (texts.map RegionText.text)

theorem numeral_iff {text : JsString} : numeral text = true ↔
    1 ≤ text.length ∧ text.length ≤ 5 ∧ ∀ unit ∈ text, isDigit unit = true := by
  simp [numeral, and_assoc]

theorem natOfUnits_lt {text : JsString} (digits : ∀ unit ∈ text, isDigit unit = true) :
    natOfUnits text < 10 ^ text.length := by
  induction text using reverseRecOn with
  | nil => decide
  | append_singleton text unit ih =>
      have below := ih fun other mem => digits other (mem_append_left _ mem)
      obtain ⟨low, high⟩ := isDigit_iff.mp (digits unit (by simp))
      have last : natOfUnits (text ++ [unit]) = 10 * natOfUnits text + (unit.toNat - 48) := by
        simp [natOfUnits]
      rw [last, length_append, length_singleton, Nat.pow_succ]
      omega

/-- `Number` of a numeral that may have white space behind it. -/
theorem safeNumber_of_numeral {text white : JsString} (valid : numeral text = true)
    (blank : ∀ unit ∈ white, whiteUnit unit = true) :
    safeNumber (text ++ white) = some (natOfUnits text : ℤ) := by
  obtain ⟨nonempty, short, digits⟩ := numeral_iff.mp valid
  have below : natOfUnits text < 2 ^ 53 :=
    Nat.lt_of_lt_of_le (natOfUnits_lt digits)
      (Nat.le_trans (Nat.pow_le_pow_right (by decide) short) (by decide))
  exact safeNumber_numeral (ne_nil_of_length_pos nonempty) digits blank below

theorem not_mem_numeral {text : JsString} (valid : numeral text = true) {unit : UInt16}
    (other : isDigit unit = false) : unit ∉ text := by
  intro mem
  rw [(numeral_iff.mp valid).2.2 unit mem] at other
  cases other

/-! ## Items one after another -/

section

variable {α β ε : Type}

theorem mapM_pure_of {m : Type → Type} [Monad m] [LawfulMonad m] {f : α → m β} {g : α → β}
    {items : List α} (each : ∀ item ∈ items, f item = pure (g item)) :
    items.mapM f = pure (items.map g) := by
  induction items with
  | nil => simp
  | cons item items ih =>
      rw [mapM_cons, each item mem_cons_self,
        ih fun other mem => each other (mem_cons_of_mem _ mem)]
      simp

theorem mem_intercalate {unit separator : α} {items : List (List α)}
    (mem : unit ∈ [separator].intercalate items) :
    unit = separator ∨ ∃ item ∈ items, unit ∈ item := by
  induction items with
  | nil => cases mem
  | cons item items ih =>
      cases items with
      | nil => exact .inr ⟨item, mem_cons_self, by simpa using mem⟩
      | cons second items =>
          rw [intercalate_cons_cons] at mem
          rcases mem_append.mp mem with mem | mem
          · rcases mem_append.mp mem with mem | mem
            · exact .inr ⟨item, mem_cons_self, mem⟩
            · exact .inl (mem_singleton.mp mem)
          · rcases ih mem with same | ⟨other, inside, mem⟩
            · exact .inl same
            · exact .inr ⟨other, mem_cons_of_mem _ inside, mem⟩

/-- Where every item is read, each is what some text of `encode` stands for. -/
theorem exists_texts {κ : Type} {read : α → Except ε β} {encode : κ → α} {value : κ → β}
    {Valid : κ → Prop} (written : ∀ {item record}, read item = .ok record →
      ∃ code, Valid code ∧ item = encode code ∧ record = value code)
    {items : List α} {records : List β} (ok : items.mapM read = .ok records) :
    ∃ codes : List κ, (∀ code ∈ codes, Valid code) ∧ items = codes.map encode ∧
      records = codes.map value := by
  induction items generalizing records with
  | nil => exact ⟨[], fun _ no => (by cases no), rfl, (Except.ok.inj ok).symm⟩
  | cons item items ih =>
      rw [mapM_cons] at ok
      cases first : read item with
      | error _ =>
          rw [first] at ok
          cases ok
      | ok record =>
          cases others : items.mapM read with
          | error _ =>
              rw [first, others] at ok
              cases ok
          | ok rest =>
              rw [first, others] at ok
              obtain ⟨code, valid, rfl, rfl⟩ := written first
              obtain ⟨codes, all, rfl, rfl⟩ := ih others
              exact ⟨code :: codes, forall_mem_cons.mpr ⟨valid, all⟩, rfl,
                (Except.ok.inj ok).symm⟩

end

/-! ## The strict reading -/

namespace RegionText

variable {written : RegionText}

/-- The values of the numerals; the last may have white space behind it. -/
theorem values_fields {read : JsString → Option ℤ} {white : JsString}
    (value : ∀ field ∈ written.fields, read field = some (natOfUnits field : ℤ))
    (last : read (written.height ++ white) = some (natOfUnits written.height : ℤ)) :
    ([written.x, written.y, written.width, written.height ++ white].mapM read).bind
      EditableRegion.ofValues = some written.region := by
  have x := value written.x (by simp [fields])
  have y := value written.y (by simp [fields])
  have width := value written.width (by simp [fields])
  simp [x, y, width, last, EditableRegion.ofValues, region]

theorem splitOn_text (wellFormed : written.WellFormed) : written.text.splitOn 44 = written.fields :=
  splitOn_intercalate 44 (fun _ mem => not_mem_numeral (wellFormed.1 _ mem) rfl) (by simp [fields])

theorem regionMatch_text (wellFormed : written.WellFormed) :
    regionMatch written.text = some written.fields := by
  have all : written.fields.all numeral = true := all_eq_true.mpr wellFormed.1
  simp only [regionMatch, splitOn_text wellFormed, all]
  rfl

theorem values_numerals (numerals : ∀ field ∈ written.fields, numeral field = true) :
    (written.fields.mapM safeNumber).bind EditableRegion.ofValues = some written.region := by
  have value : ∀ field ∈ written.fields, safeNumber field = some (natOfUnits field : ℤ) := by
    intro field mem
    have read := @safeNumber_of_numeral field [] (numerals field mem) (fun _ no => by cases no)
    rwa [append_nil] at read
  have values := @values_fields written safeNumber [] value
    (by rw [append_nil]; exact value _ (by simp [fields]))
  rwa [append_nil] at values

theorem readRegion_text (wellFormed : written.WellFormed) :
    readRegion written.text = .ok written.region := by
  simp only [readRegion, regionMatch_text wellFormed, values_numerals wellFormed.1,
    if_pos wellFormed.2]

theorem mem_text (numerals : ∀ field ∈ written.fields, numeral field = true) {unit : UInt16}
    (mem : unit ∈ written.text) : isDigit unit = true ∨ unit = 44 := by
  rcases mem_intercalate mem with rfl | ⟨field, inside, mem⟩
  · exact .inr rfl
  · exact .inl ((numeral_iff.mp (numerals field inside)).2.2 unit mem)

theorem WellFormed.not_mem_text (wellFormed : written.WellFormed) : 59 ∉ written.text := by
  intro mem
  rcases mem_text wellFormed.1 mem with digit | same
  · cases digit
  · cases same

theorem text_ne_nil (written : RegionText) : written.text ≠ [] := by
  simp [text, fields]

end RegionText

theorem exists_fields {item : JsString} {fields : List JsString}
    (matched : regionMatch item = some fields) :
    ∃ written : RegionText, (∀ field ∈ written.fields, numeral field = true) ∧
      item = written.text ∧ fields = written.fields := by
  unfold regionMatch at matched
  dsimp only at matched
  split at matched
  · rename_i groups
    cases matched
    obtain ⟨four, numerals⟩ := groups
    have joined := @List.intercalate_splitOn _ item _ _ 44
    obtain ⟨x, y, width, height, same⟩ := length_eq_four.mp four
    rw [same] at numerals joined ⊢
    exact ⟨⟨x, y, width, height⟩, all_eq_true.mp numerals, joined.symm, rfl⟩
  · cases matched

/-- A region is only read from the text it is written in. -/
theorem exists_regionText {item : JsString} {region : EditableRegion}
    (ok : readRegion item = .ok region) :
    ∃ written : RegionText, written.WellFormed ∧ item = written.text ∧ region = written.region := by
  cases matched : regionMatch item with
  | none =>
      simp only [readRegion, matched] at ok
      cases ok
  | some fields =>
      obtain ⟨written, numerals, rfl, rfl⟩ := exists_fields matched
      simp only [readRegion, matched, RegionText.values_numerals numerals] at ok
      split at ok
      · rename_i inside
        cases ok
        exact ⟨written, ⟨numerals, inside⟩, rfl, rfl⟩
      · cases ok

namespace Written

variable {payload : JsString} {texts : List RegionText}

theorem splitOn_payload (written : Written payload texts) (nonempty : texts ≠ []) :
    payload.splitOn 59 = texts.map RegionText.text := by
  rw [written.same]
  refine splitOn_intercalate 59 (fun item mem => ?_) (by simpa using nonempty)
  obtain ⟨one, inside, rfl⟩ := mem_map.mp mem
  exact (written.wellFormed one inside).not_mem_text

theorem ne_nil (written : Written payload texts) (nonempty : texts ≠ []) : payload ≠ [] := by
  rintro rfl
  have items := written.splitOn_payload nonempty
  obtain ⟨first, rest, rfl⟩ := exists_cons_of_ne_nil nonempty
  exact first.text_ne_nil (List.cons.inj items).1.symm

theorem mem (written : Written payload texts) {unit : UInt16} (mem : unit ∈ payload) :
    isDigit unit = true ∨ unit = 44 ∨ unit = 59 := by
  rw [written.same] at mem
  rcases mem_intercalate mem with same | ⟨item, inside, mem⟩
  · exact .inr (.inr same)
  · obtain ⟨one, listed, rfl⟩ := mem_map.mp inside
    rcases RegionText.mem_text (written.wellFormed one listed).1 mem with digit | same
    · exact .inl digit
    · exact .inr (.inl same)

end Written

variable {regions : List EditableRegion}

/-- The strict reading takes the payloads that are written as regions, as these regions. -/
theorem readRegions_iff {payload : JsString} :
    readRegions payload = .ok regions ↔
      ∃ texts, Written payload texts ∧ regions = texts.map RegionText.region := by
  constructor
  · intro ok
    unfold readRegions at ok
    split at ok
    · cases ok
    · rename_i short
      split at ok
      · rename_i empty
        cases ok
        exact ⟨[], ⟨fun _ no => (by cases no), by decide, Nat.not_lt.mp short, empty⟩, rfl⟩
      · dsimp only at ok
        split at ok
        · cases ok
        · rename_i few
          obtain ⟨texts, wellFormed, items, rfl⟩ := exists_texts exists_regionText ok
          have joined := @List.intercalate_splitOn _ payload _ _ 59
          refine ⟨texts, ⟨wellFormed, ?_, Nat.not_lt.mp short, ?_⟩, rfl⟩
          · rw [items, length_map] at few
            exact Nat.not_lt.mp few
          · rw [← items, joined]
  · rintro ⟨texts, written, rfl⟩
    by_cases nonempty : texts = []
    · subst nonempty
      have empty : payload = [] := written.same
      subst empty
      rfl
    · have read : (texts.map RegionText.text).mapM readRegion =
          .ok (texts.map RegionText.region) := by
        rw [mapM_map]
        exact mapM_pure_of fun one inside => RegionText.readRegion_text (written.wellFormed one inside)
      simp only [readRegions]
      rw [if_neg (Nat.not_lt.mpr written.short), if_neg (written.ne_nil nonempty),
        written.splitOn_payload nonempty,
        if_neg (by rw [length_map]; exact Nat.not_lt.mpr written.atMost), read]

/-! ## The reading of the macOS surface -/

theorem intercalate_last {α : Type} (separator : α) (front : List (List α)) (last tail : List α) :
    [separator].intercalate (front ++ [last]) ++ tail =
      [separator].intercalate (front ++ [last ++ tail]) := by
  induction front with
  | nil => simp
  | cons item front ih =>
      rw [cons_append, cons_append, intercalate_cons_of_ne_nil (by simp),
        intercalate_cons_of_ne_nil (by simp), ← ih]
      simp

namespace MacOSWebSocketWindowSurface

theorem boundedNumber_numeral {text white : JsString} (valid : numeral text = true)
    (blank : ∀ unit ∈ white, whiteUnit unit = true) (bound : natOfUnits text ≤ 10000) :
    boundedNumber (text ++ white) = some (natOfUnits text : ℤ) := by
  unfold boundedNumber
  rw [safeNumber_of_numeral valid blank, Option.bind_some, if_neg (by omega)]

variable {white : JsString}

theorem not_mem_white (blank : ∀ unit ∈ white, whiteUnit unit = true)
    {unit : UInt16} (solid : whiteUnit unit = false) : unit ∉ white := by
  intro mem
  rw [blank unit mem] at solid
  cases solid

theorem boundedRegion_text {written : RegionText} (wellFormed : written.WellFormed) {white : JsString}
    (blank : ∀ unit ∈ white, whiteUnit unit = true) :
    boundedRegion (written.text ++ white) = some written.region := by
  obtain ⟨numerals, inside⟩ := wellFormed
  obtain ⟨_, _, _, _, right, below⟩ := inside
  have bound : ∀ field ∈ written.fields, natOfUnits field ≤ 10000 := by
    simp only [RegionText.region] at *
    simp [RegionText.fields]
    omega
  have fields : (written.text ++ white).splitOn 44 =
      [written.x, written.y, written.width, written.height ++ white] := by
    have joined : written.text ++ white =
        [44].intercalate [written.x, written.y, written.width, written.height ++ white] :=
      intercalate_last 44 [written.x, written.y, written.width] written.height white
    rw [joined]
    refine splitOn_intercalate 44 (fun field mem => ?_) (by simp)
    have comma : ∀ field ∈ written.fields, 44 ∉ field := fun field mem =>
      not_mem_numeral (numerals field mem) rfl
    simp only [RegionText.fields, forall_mem_cons] at comma
    obtain ⟨x, y, width, height, _⟩ := comma
    simp only [mem_cons, not_mem_nil, or_false] at mem
    rcases mem with rfl | rfl | rfl | rfl
    · exact x
    · exact y
    · exact width
    · exact fun mem => (mem_append.mp mem).elim height (not_mem_white blank rfl)
  rw [boundedRegion, fields]
  refine RegionText.values_fields (fun field mem => ?_)
    (boundedNumber_numeral (numerals _ (by simp [RegionText.fields])) blank
      (bound _ (by simp [RegionText.fields])))
  have read := @boundedNumber_numeral field [] (numerals field mem) (fun _ no => by cases no)
    (bound field mem)
  rwa [append_nil] at read

/-- White space is read as no region. -/
theorem boundedRegion_white (blank : ∀ unit ∈ white, whiteUnit unit = true) :
    boundedRegion white = none := by
  unfold boundedRegion
  rw [splitOn_eq_singleton (not_mem_white blank rfl), mapM_cons]
  cases boundedNumber white <;> rfl

/-- The macOS surface delivers the regions that a payload is written as, also with white space
behind it. -/
theorem parseEditableRegions_written {payload : JsString} {texts : List RegionText}
    (written : Written payload texts) (blank : ∀ unit ∈ white, whiteUnit unit = true) :
    parseEditableRegions (controlPrefix ++ (payload ++ white)) =
      some (texts.map RegionText.region) := by
  have raw : (controlPrefix ++ (payload ++ white)).drop controlPrefix.length = payload ++ white :=
    drop_left
  simp only [parseEditableRegions, raw]
  rw [if_pos (prefix_append _ _)]
  rcases eq_nil_or_concat' texts with rfl | ⟨front, last, rfl⟩
  · have empty : payload = [] := written.same
    subst empty
    rw [nil_append]
    split
    · rfl
    · have items : (white.splitOn 59).take 32 = [white] := by
        rw [splitOn_eq_singleton (not_mem_white blank rfl)]
        rfl
      rw [items, mapM_cons, boundedRegion_white blank]
      rfl
  · have nonempty := written.ne_nil (by simp)
    have wellFormed : ∀ one ∈ front, one.WellFormed := fun one mem =>
      written.wellFormed one (mem_append_left _ mem)
    have wellFormed' : last.WellFormed := written.wellFormed last (by simp)
    have items : (payload ++ white).splitOn 59 = front.map RegionText.text ++ [last.text ++ white] := by
      rw [written.same, map_append, map_singleton, intercalate_last]
      refine splitOn_intercalate 59 (fun item mem => ?_) (by simp)
      rcases mem_append.mp mem with mem | mem
      · obtain ⟨one, inside, rfl⟩ := mem_map.mp mem
        exact (wellFormed one inside).not_mem_text
      · rw [mem_singleton.mp mem]
        exact fun mem => (mem_append.mp mem).elim wellFormed'.not_mem_text
          (not_mem_white blank rfl)
    have few : (front.map RegionText.text ++ [last.text ++ white]).length ≤ 32 := by
      simpa using written.atMost
    have first : (front.map RegionText.text).mapM boundedRegion =
        some (front.map RegionText.region) := by
      rw [mapM_map]
      refine mapM_pure_of fun one mem => ?_
      have read := @boundedRegion_text one (wellFormed one mem) [] (fun _ no => by cases no)
      rwa [append_nil] at read
    rw [if_neg (by simp [nonempty]), items, take_of_length_le few, mapM_append, first,
      mapM_cons, boundedRegion_text wellFormed' blank]
    simp

end MacOSWebSocketWindowSurface

/-! ## The three readings -/

theorem trimUnits_control (payload : JsString) :
    trimUnits (controlPrefix ++ payload) = controlPrefix ++ trimEndUnits payload := by
  have front : (controlPrefix ++ payload).dropWhile whiteUnit = controlPrefix ++ payload := rfl
  rw [trimUnits, front, trimEndUnits_append (by decide +kernel) (by decide)]

theorem controlPayload_control (payload : JsString) :
    controlPayload (controlPrefix ++ payload) =
      if payload.any lineTerminator then none else some payload := by
  unfold controlPayload
  rw [drop_left]
  cases payload.any lineTerminator <;> simp

theorem Written.controlPayload_eq {payload : JsString} {texts : List RegionText}
    (written : Written payload texts) :
    controlPayload (controlPrefix ++ payload) = some payload := by
  rw [controlPayload_control, if_neg]
  intro broken
  obtain ⟨unit, mem, terminator⟩ := any_eq_true.mp broken
  simp only [lineTerminator, Bool.or_eq_true, beq_iff_eq] at terminator
  rcases written.mem mem with digit | rfl | rfl
  · rcases terminator with ((rfl | rfl) | rfl) | rfl <;> cases digit
  · simp at terminator
  · simp at terminator

/-- The metric parser delivers what the strict reading takes from the trimmed payload. -/
theorem HostMetricParser.delivered_iff {payload : JsString} :
    HostMetricParser.editableRegions (controlPrefix ++ payload) = .delivered regions ↔
      ∃ texts, Written (trimEndUnits payload) texts ∧ regions = texts.map RegionText.region := by
  unfold HostMetricParser.editableRegions
  rw [trimUnits_control]
  constructor
  · intro delivered
    rw [controlPayload_control] at delivered
    split at delivered
    · cases delivered
    · rename_i same
      split at same
      · cases same
      · cases same
        split at delivered
        · cases delivered
          exact readRegions_iff.mp (by assumption)
        · cases delivered
  · rintro ⟨texts, written, rfl⟩
    have read := readRegions_iff.mpr ⟨texts, written, rfl⟩
    simp only [written.controlPayload_eq, read]

/-- The Linux surface delivers the same as the metric parser; what that ignores may fail it. -/
theorem LinuxWebSocketWindowSurface.delivered_iff {line : JsString} :
    LinuxWebSocketWindowSurface.editableRegions line = .delivered regions ↔
      HostMetricParser.editableRegions line = .delivered regions := by
  unfold LinuxWebSocketWindowSurface.editableRegions HostMetricParser.editableRegions
    LinuxWebSocketWindowSurface.parseEditableRegions
  cases controlPayload (trimUnits line) with
  | none => rfl
  | some payload => cases h : readRegions payload <;> simp [Except.mapError, h]

/-- The three consumers take the payload for the same regions, and these are in the surface. -/
structure Agreed (payload : JsString) : Prop where
  linux : ∀ regions, LinuxWebSocketWindowSurface.editableRegions (controlPrefix ++ payload) =
    .delivered regions ↔ HostMetricParser.editableRegions (controlPrefix ++ payload) =
    .delivered regions
  macOS : ∀ regions, MacOSWebSocketWindowSurface.editableRegions (controlPrefix ++ payload) =
    .delivered regions ↔ HostMetricParser.editableRegions (controlPrefix ++ payload) =
    .delivered regions
  inside : ∀ editableRegions ∈ [HostMetricParser.editableRegions,
    LinuxWebSocketWindowSurface.editableRegions, MacOSWebSocketWindowSurface.editableRegions],
    ∀ regions, editableRegions (controlPrefix ++ payload) = .delivered regions →
      regions.length ≤ 32 ∧ ∀ region ∈ regions, region.Inside

theorem Written.inside {payload : JsString} {texts : List RegionText} (written : Written payload texts) :
    (texts.map RegionText.region).length ≤ 32 ∧
      ∀ region ∈ texts.map RegionText.region, region.Inside := by
  refine ⟨by simpa using written.atMost, fun region mem => ?_⟩
  obtain ⟨one, listed, rfl⟩ := mem_map.mp mem
  exact (written.wellFormed one listed).2

/-- The macOS surface delivers some regions for every payload. -/
theorem MacOSWebSocketWindowSurface.delivers (payload : JsString) :
    ∃ regions, MacOSWebSocketWindowSurface.editableRegions (controlPrefix ++ payload) =
      .delivered regions := by
  have parsed : ∃ regions, MacOSWebSocketWindowSurface.parseEditableRegions (controlPrefix ++ payload) =
      some regions := by
    simp only [MacOSWebSocketWindowSurface.parseEditableRegions]
    rw [if_pos (prefix_append _ _)]
    split
    · exact ⟨_, rfl⟩
    · exact ⟨_, rfl⟩
  obtain ⟨regions, parsed⟩ := parsed
  exact ⟨regions, by simp only [MacOSWebSocketWindowSurface.editableRegions, parsed]⟩

/-- All three deliver the regions that a payload is written as. -/
theorem Written.delivered {payload : JsString} {texts : List RegionText}
    (written : Written (trimEndUnits payload) texts) :
    ∀ editableRegions ∈ [HostMetricParser.editableRegions,
      LinuxWebSocketWindowSurface.editableRegions, MacOSWebSocketWindowSurface.editableRegions],
      editableRegions (controlPrefix ++ payload) = .delivered (texts.map RegionText.region) := by
  obtain ⟨white, blank, same⟩ := trimEndUnits_tail payload
  have metric := HostMetricParser.delivered_iff.mpr ⟨texts, written, rfl⟩
  intro editableRegions mem
  simp only [mem_cons, not_mem_nil, or_false] at mem
  rcases mem with rfl | rfl | rfl
  · exact metric
  · exact LinuxWebSocketWindowSurface.delivered_iff.mpr metric
  · unfold MacOSWebSocketWindowSurface.editableRegions
    rw [same, MacOSWebSocketWindowSurface.parseEditableRegions_written written blank]

/-- The readings of the editable regions agree, on regions in the surface, exactly for the payloads
that are written as such regions, white space behind them apart. -/
theorem editableRegions_agreed_iff (payload : JsString) :
    Agreed payload ↔ ∃ texts, Written (trimEndUnits payload) texts := by
  constructor
  · intro agreed
    obtain ⟨regions, delivered⟩ := MacOSWebSocketWindowSurface.delivers payload
    obtain ⟨texts, written, _⟩ :=
      HostMetricParser.delivered_iff.mp ((agreed.macOS regions).mp delivered)
    exact ⟨texts, written⟩
  · rintro ⟨texts, written⟩
    have delivered := written.delivered
    have metric := delivered HostMetricParser.editableRegions (by simp)
    have macOS := delivered MacOSWebSocketWindowSurface.editableRegions (by simp)
    refine ⟨fun regions => LinuxWebSocketWindowSurface.delivered_iff, fun regions => ?_, ?_⟩
    · rw [macOS, metric]
    · intro editableRegions mem regions delivered'
      cases (delivered editableRegions mem).symm.trans delivered'
      exact written.inside

/-- A region that reaches out of the surface is ignored by the one, fails the other and is delivered
by the third. -/
theorem sampleOutside_differs :
    HostMetricParser.editableRegions (controlPrefix ++ JsString.ascii "9000,0,2000,1") = .ignored ∧
    LinuxWebSocketWindowSurface.editableRegions (controlPrefix ++ JsString.ascii "9000,0,2000,1") =
      .failed "Linux WSS editable-region metadata exceeded bounds" ∧
    MacOSWebSocketWindowSurface.editableRegions (controlPrefix ++ JsString.ascii "9000,0,2000,1") =
      .delivered [⟨9000, 0, 2000, 1⟩] ∧
    ¬ Agreed (JsString.ascii "9000,0,2000,1") := by
  have delivered : MacOSWebSocketWindowSurface.editableRegions
      (controlPrefix ++ JsString.ascii "9000,0,2000,1") = .delivered [⟨9000, 0, 2000, 1⟩] := by
    decide +kernel
  refine ⟨by decide +kernel, by decide +kernel, delivered, fun agreed => ?_⟩
  obtain ⟨_, inside⟩ := agreed.inside _ (by simp) _ delivered
  exact absurd (inside _ List.mem_cons_self) (by decide)

/-! ## What the Linux host passes on -/

theorem length_intercalate_le {α : Type} {separator : α} {items : List (List α)} {most : Nat}
    (short : ∀ item ∈ items, item.length ≤ most) :
    ([separator].intercalate items).length ≤ items.length * (most + 1) := by
  induction items with
  | nil => simp
  | cons item items ih =>
      have first := short item mem_cons_self
      have rest := ih fun other mem => short other (mem_cons_of_mem _ mem)
      cases items with
      | nil =>
          rw [intercalate_singleton, length_singleton]
          omega
      | cons second items =>
          rw [intercalate_cons_cons, length_append, length_append, length_singleton,
            length_cons, Nat.succ_mul]
          omega

theorem numeral_natUnits {value : Nat} (bound : value ≤ 10000) : numeral (natUnits value) = true := by
  have short : (Nat.toDigits 10 value).length ≤ 5 :=
    (Nat.length_toDigits_le_iff (by decide) (by decide)).mpr (by omega)
  refine numeral_iff.mpr ⟨length_pos_of_ne_nil (natUnits_ne_nil value), ?_, isDigit_natUnits value⟩
  rwa [natUnits, length_map]

namespace EditableRegion

/-- The numerals that the Linux host writes. -/
def written (region : EditableRegion) : RegionText :=
  ⟨intUnits region.x, intUnits region.y, intUnits region.width, intUnits region.height⟩

theorem intUnits_of_nonneg {value : ℤ} (nonneg : 0 ≤ value) :
    intUnits value = natUnits value.natAbs := if_neg (by omega)

theorem Inside.written {region : EditableRegion} (inside : region.Inside) :
    region.written.WellFormed ∧ region.written.region = region := by
  obtain ⟨x, y, width, height, right, below⟩ := inside
  have same : region.written.region = region := by
    cases region
    simp only [EditableRegion.written, RegionText.region, intUnits_of_nonneg x,
      intUnits_of_nonneg y, intUnits_of_nonneg (Int.le_trans (by decide) width),
      intUnits_of_nonneg (Int.le_trans (by decide) height), natOfUnits_natUnits] at *
    simp
    omega
  refine ⟨⟨?_, by rw [same]; exact ⟨x, y, width, height, right, below⟩⟩, same⟩
  simp only [EditableRegion.written, RegionText.fields, forall_mem_cons,
    intUnits_of_nonneg x, intUnits_of_nonneg y,
    intUnits_of_nonneg (Int.le_trans (by decide) width),
    intUnits_of_nonneg (Int.le_trans (by decide) height)]
  exact ⟨numeral_natUnits (by omega), numeral_natUnits (by omega), numeral_natUnits (by omega),
    numeral_natUnits (by omega), fun _ no => by cases no⟩

end EditableRegion

theorem Written.trimmed {payload : JsString} {texts : List RegionText}
    (written : Written payload texts) : trimEndUnits payload = payload := by
  refine rdropWhile_eq_self_iff.mpr fun nonempty white => ?_
  rcases written.mem (getLast_mem nonempty) with digit | same | same
  · rw [not_white_of_digit digit] at white
    cases white
  · rw [same] at white
    cases white
  · rw [same] at white
    cases white

/-- At most 32 regions in the surface are written within the bound on the payload. -/
theorem written_control (few : regions.length ≤ 32) (inside : ∀ region ∈ regions, region.Inside) :
    ∃ payload, editableRegionsControlLine regions = controlPrefix ++ payload ∧
      Written payload (regions.map EditableRegion.written) := by
  have wellFormed : ∀ written ∈ regions.map EditableRegion.written, written.WellFormed := by
    intro written mem
    obtain ⟨region, listed, rfl⟩ := mem_map.mp mem
    exact (inside region listed).written.1
  refine ⟨_, by rw [editableRegionsControlLine, take_of_length_le few], wellFormed,
    by simpa using few, ?_, by rw [map_map]; rfl⟩
  have short : ∀ text ∈ regions.map fun region => [44].intercalate (regionFields region),
      text.length ≤ 24 := by
    intro text mem
    obtain ⟨region, listed, rfl⟩ := mem_map.mp mem
    exact length_intercalate_le fun field mem =>
      (numeral_iff.mp ((inside region listed).written.1.1 field mem)).2.1
  refine Nat.le_trans (length_intercalate_le short) ?_
  rw [length_map]
  omega

/-- What a snapshot holds are regions of the surface. -/
theorem snapshot_inside {line : JsString} {snapshot : LinuxEditableSnapshot}
    (parsed : parseLinuxAtSpiSnapshotLine line = .ok (some snapshot)) :
    snapshot.regions.length ≤ 32 ∧ ∀ region ∈ snapshot.regions, region.Inside := by
  unfold parseLinuxAtSpiSnapshotLine at parsed
  split at parsed
  · cases parsed
  · split at parsed
    · cases parsed
    · split at parsed
      · rename_i read
        cases parsed
        obtain ⟨texts, written, rfl⟩ := readRegions_iff.mp read
        exact written.inside
      all_goals cases parsed

/-- The regions that the Linux host takes from its accessibility helper are the ones that all three
consumers deliver from its control line. -/
theorem snapshot_delivered {line : JsString} {snapshot : LinuxEditableSnapshot}
    (parsed : parseLinuxAtSpiSnapshotLine line = .ok (some snapshot)) :
    ∀ editableRegions ∈ [HostMetricParser.editableRegions,
      LinuxWebSocketWindowSurface.editableRegions, MacOSWebSocketWindowSurface.editableRegions],
      editableRegions (editableRegionsControlLine snapshot.regions) =
        .delivered snapshot.regions := by
  obtain ⟨few, inside⟩ := snapshot_inside parsed
  obtain ⟨payload, line, written⟩ := written_control few inside
  have regions : (snapshot.regions.map EditableRegion.written).map RegionText.region =
      snapshot.regions := by
    rw [map_map]
    exact (map_congr_left fun region mem => (inside region mem).written.2).trans (map_id _)
  have trimmed := written.trimmed
  have delivered := Written.delivered (trimmed.symm ▸ written)
  rwa [regions, ← line] at delivered

theorem sampleSnapshot_delivered :
    LinuxWebSocketWindowSurface.editableRegions (editableRegionsControlLine [⟨1, 2, 3, 4⟩]) =
      .delivered [⟨1, 2, 3, 4⟩] :=
  @snapshot_delivered (JsString.ascii "OK focus=1 regions=1,2,3,4") ⟨[⟨1, 2, 3, 4⟩], true⟩
    (by decide +kernel) _ (.tail _ (.head _))

end ExecutionHandoff.Surface
