import ExecutionHandoff.Library.CodeUnits
import ExecutionHandoff.Library.Runs

/-!
# Text replacement in the browser client

An input event of the hidden text area becomes a number of backspaces and a text
to type, counted in code points, and the client keeps a mirror of what has been
typed on the other side.
-/

namespace ExecutionHandoff.Browser

open Library JsString List

structure BrowserTextReplacementDelta where
  backspaces : Nat
  insert : JsString
  deriving DecidableEq

structure BrowserTextReplacementMutation extends BrowserTextReplacementDelta where
  next : JsString
  deriving DecidableEq

/-- The loop over the characters the two texts begin with. -/
def commonPrefix : List Nat → List Nat → Nat
  | first :: before, second :: after => if first = second then commonPrefix before after + 1 else 0
  | _, _ => 0

/-- `join("")` of characters. -/
def join (points : List Nat) : JsString := points.flatMap encodePoint

def browserTextReplacementDelta (previous current : JsString) : BrowserTextReplacementDelta :=
  let before := codePoints previous
  let after := codePoints current
  let shared := commonPrefix before after
  { backspaces := before.length - shared
    insert := join (after.drop shared) }

def browserTextReplacementMutation (previous current inputType : JsString)
    (inputData : Option JsString) : BrowserTextReplacementMutation :=
  let delta := browserTextReplacementDelta previous current
  let kept : BrowserTextReplacementMutation := { delta with next := current }
  match inputData with
  | none => kept
  | some inputData =>
      if inputType = ascii "insertText" ∧ 0 < inputData.length ∧ 0 < delta.insert.length ∧
          delta.insert ≠ inputData ∧ delta.insert <+: inputData then
        let before := codePoints previous
        let retained := join (before.take (before.length - delta.backspaces))
        let candidate := retained ++ inputData
        if current <+: candidate ∧ (codePoints current).length < (codePoints candidate).length then
          { delta with insert := inputData, next := candidate }
        else kept
      else kept

/-! ## What is typed -/

/-- So many characters are taken off the end, and the text is typed. -/
def replace (text : JsString) (backspaces : Nat) (insert : JsString) : JsString :=
  join ((codePoints text).take ((codePoints text).length - backspaces)) ++ insert

section Prefixes

/-- Both lists begin with the same elements, as many as are counted. -/
theorem take_commonPrefix (before after : List Nat) :
    before.take (commonPrefix before after) = after.take (commonPrefix before after) := by
  induction before generalizing after with
  | nil => cases after <;> rfl
  | cons first before ih =>
      cases after with
      | nil => rfl
      | cons second after =>
          unfold commonPrefix
          split
          · rename_i same
            rw [same, take_succ_cons, take_succ_cons, ih]
          · rfl

theorem commonPrefix_le (before after : List Nat) : commonPrefix before after ≤ before.length := by
  induction before generalizing after with
  | nil => cases after <;> exact Nat.le_refl _
  | cons first before ih =>
      cases after with
      | nil => exact Nat.zero_le _
      | cons second after =>
          unfold commonPrefix
          split
          · exact Nat.succ_le_succ (ih after)
          · exact Nat.zero_le _

/-- What the list and the longer one both begin with is counted, unless it goes beyond the list. -/
theorem le_commonPrefix {before after : List Nat} {count : Nat} (short : count ≤ before.length)
    (begins : before.take count <+: after) : count ≤ commonPrefix before after := by
  induction count generalizing before after with
  | zero => exact Nat.zero_le _
  | succ count ih =>
      cases before with
      | nil => exact absurd short (by simp)
      | cons first before =>
          rw [take_succ_cons] at begins
          cases after with
          | nil => exact absurd (prefix_nil.mp begins) (by simp)
          | cons second after =>
              obtain ⟨same, begins⟩ := cons_prefix_cons.mp begins
              unfold commonPrefix
              rw [if_pos same]
              exact Nat.succ_le_succ (ih (Nat.le_of_succ_le_succ short) begins)

end Prefixes

variable {previous current : JsString}

/-- What is kept of the previous text is what the current one begins with. -/
theorem retained_eq (previous current : JsString) :
    (codePoints previous).take ((codePoints previous).length -
        (browserTextReplacementDelta previous current).backspaces) =
      (codePoints current).take (commonPrefix (codePoints previous) (codePoints current)) := by
  have short := commonPrefix_le (codePoints previous) (codePoints current)
  have count : (codePoints previous).length -
      (browserTextReplacementDelta previous current).backspaces =
        commonPrefix (codePoints previous) (codePoints current) := by
    unfold browserTextReplacementDelta
    dsimp only
    omega
  rw [count, take_commonPrefix]

/-- The delta makes the current text of the previous one. -/
theorem replace_delta (previous current : JsString) :
    replace previous (browserTextReplacementDelta previous current).backspaces
      (browserTextReplacementDelta previous current).insert = current := by
  unfold replace
  rw [retained_eq]
  unfold browserTextReplacementDelta join
  dsimp only
  rw [← flatMap_append, take_append_drop, flatMap_codePoints]

/-- The mutation is the delta, or types the whole payload behind what the delta keeps. -/
theorem mutation_cases (previous current inputType : JsString) (inputData : Option JsString) :
    browserTextReplacementMutation previous current inputType inputData =
        { browserTextReplacementDelta previous current with next := current } ∨
      ∃ payload, inputData = some payload ∧
        (browserTextReplacementMutation previous current inputType inputData).backspaces =
          (browserTextReplacementDelta previous current).backspaces ∧
        (browserTextReplacementMutation previous current inputType inputData).insert = payload ∧
        (browserTextReplacementMutation previous current inputType inputData).next =
          replace previous (browserTextReplacementDelta previous current).backspaces payload ∧
        0 < (browserTextReplacementDelta previous current).insert.length ∧
        current <+: (browserTextReplacementMutation previous current inputType inputData).next := by
  unfold browserTextReplacementMutation
  dsimp only
  cases inputData with
  | none => exact .inl rfl
  | some payload =>
      dsimp only
      split
      · rename_i extends_insert
        split
        · rename_i longer
          exact .inr ⟨payload, rfl, rfl, rfl, rfl, extends_insert.2.2.1, longer.1⟩
        · exact .inl rfl
      · exact .inl rfl

/-- The mutation makes its mirror text of the previous one. -/
theorem replace_mutation (previous current inputType : JsString) (inputData : Option JsString) :
    replace previous
        (browserTextReplacementMutation previous current inputType inputData).backspaces
        (browserTextReplacementMutation previous current inputType inputData).insert =
      (browserTextReplacementMutation previous current inputType inputData).next := by
  rcases mutation_cases previous current inputType inputData with
    plain | ⟨payload, _, backspaces, insert, next, _⟩
  · rw [plain]
    exact replace_delta previous current
  · rw [backspaces, insert, next]

/-! ## The number of backspaces -/

/-- Whatever keeps more of a well-formed text begins with more of it. -/
theorem take_prefix_of_replace (paired : Paired previous) {count : Nat} {insert next : JsString}
    (made : replace previous count insert = next) :
    (codePoints previous).take ((codePoints previous).length - count) <+: codePoints next := by
  have scalars : ∀ point ∈ (codePoints previous).take ((codePoints previous).length - count),
      Scalar point := fun point mem => paired point (mem_of_mem_take mem)
  unfold replace join at made
  rw [← made, codePoints_flatMap scalars]
  exact prefix_append _ _

/-- What is typed begins where the texts part. -/
theorem insert_nonempty (typed : 0 < (browserTextReplacementDelta previous current).insert.length) :
    commonPrefix (codePoints previous) (codePoints current) < (codePoints current).length := by
  by_contra none
  unfold browserTextReplacementDelta join at typed
  dsimp only at typed
  rw [drop_eq_nil_of_le (Nat.le_of_not_lt none)] at typed
  exact Nat.lt_irrefl 0 typed

/-- A longer text has no more in common with the previous one, once the two have parted. -/
theorem take_prefix_of_longer {before after longer : List Nat} {count : Nat}
    (begins : before.take count <+: longer) (goes_on : after <+: longer)
    (parted : commonPrefix before after < after.length) (short : count ≤ before.length) :
    count ≤ commonPrefix before after := by
  rcases Nat.le_total count after.length with within | beyond
  · refine le_commonPrefix short (prefix_of_prefix_length_le begins goes_on ?_)
    rw [length_take]
    omega
  · -- All of the text would begin the previous one, which the two have not in common.
    have all : before.take after.length = after := by
      have first : before.take after.length <+: longer :=
        (take_prefix_take_left beyond).trans begins
      have same_length : (before.take after.length).length = after.length := by
        rw [length_take]
        omega
      exact (prefix_of_prefix_length_le first goes_on (Nat.le_of_eq same_length)).eq_of_length same_length
    have counted : after.length ≤ commonPrefix before after :=
      le_commonPrefix (Nat.le_trans beyond short) ⟨[], (append_nil _).trans all⟩
    omega

/-- For well-formed texts no smaller number of backspaces makes the mirror text. -/
theorem backspaces_le (paired : Paired previous) (paired' : Paired current)
    {inputType : JsString} {inputData : Option JsString} {count : Nat} {insert : JsString}
    (made : replace previous count insert =
      (browserTextReplacementMutation previous current inputType inputData).next) :
    (browserTextReplacementMutation previous current inputType inputData).backspaces ≤ count := by
  have begins := take_prefix_of_replace paired made
  have short : (codePoints previous).length - count ≤ (codePoints previous).length := Nat.sub_le _ _
  have enough : (codePoints previous).length - count ≤
      commonPrefix (codePoints previous) (codePoints current) →
      (browserTextReplacementDelta previous current).backspaces ≤ count := by
    intro counted
    unfold browserTextReplacementDelta
    dsimp only
    omega
  rcases mutation_cases previous current inputType inputData with
    plain | ⟨payload, _, backspaces, _, _, typed, goes_on⟩
  · rw [plain] at begins ⊢
    exact enough (le_commonPrefix short begins)
  · rw [backspaces]
    obtain ⟨rest, whole⟩ := goes_on
    have longer : codePoints current <+:
        codePoints (browserTextReplacementMutation previous current inputType inputData).next := by
      rw [← whole, codePoints_append paired']
      exact prefix_append _ _
    exact enough (take_prefix_of_longer begins longer (insert_nonempty typed) short)

/-! ## The mirror -/

/-- What an input event of the text area carries. -/
structure TextInputEvent where
  current : JsString
  inputType : JsString
  inputData : Option JsString
  deriving DecidableEq

/-- The client's `keyboardMirror`, and the text that has been typed on the other side. -/
structure TypedText where
  keyboardMirror : JsString
  remote : JsString
  deriving DecidableEq

namespace TypedText

def initial : TypedText := ⟨[], []⟩

/-- `sendKeyboardDelta`. -/
def input (text : TypedText) (event : TextInputEvent) : TypedText :=
  let mutation := browserTextReplacementMutation text.keyboardMirror event.current event.inputType
    event.inputData
  { keyboardMirror := mutation.next
    remote := replace text.remote mutation.backspaces mutation.insert }

abbrev Step : TypedText → TextInputEvent → TypedText → Prop :=
  fun first event last => first.input event = last

/-- The mirror shows what has been typed. -/
def Mirrored (text : TypedText) : Prop := text.remote = text.keyboardMirror

theorem step_mirrored {text after : TypedText} {event : TextInputEvent}
    (step : Step text event after) (mirrored : text.Mirrored) : after.Mirrored := by
  rw [← step]
  unfold Mirrored input
  dsimp only
  rw [mirrored]
  exact replace_mutation _ _ _ _

theorem run_mirrored {events : List TextInputEvent} {last : TypedText}
    (run : Run Step initial events last) : last.Mirrored :=
  run.invariant step_mirrored rfl

end TypedText

/-- A payload whose last character the text area does not show yet is typed whole. -/
example : browserTextReplacementMutation (ascii "cat") (ascii "cab") (ascii "insertText")
    (some (ascii "ble")) = ⟨⟨1, ascii "ble"⟩, ascii "cable"⟩ := by
  decide

end ExecutionHandoff.Browser
