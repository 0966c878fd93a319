import Mathlib.Logic.Relation
import Mathlib.Data.List.Basic

/-!
# Labelled runs

Finite runs of a labelled transition relation, the induction rules that lift a
one-step fact to a whole run, and the executable form of a run whose relation
is the graph of a partial function.  Nothing here names a particular system:
states and labels are arbitrary types.
-/

namespace ExecutionHandoff.Library

variable {σ ε : Type*} {Step : σ → ε → σ → Prop}

/-- `Run Step first labels last` strings together the steps named by `labels`. -/
inductive Run (Step : σ → ε → σ → Prop) : σ → List ε → σ → Prop where
  | refl (state : σ) : Run Step state [] state
  | step {first middle last : σ} {label : ε} {labels : List ε}
      (head : Step first label middle) (tail : Run Step middle labels last) :
      Run Step first (label :: labels) last

/-- Steps that also meet a condition on their source state and label. -/
def Guarded (Step : σ → ε → σ → Prop) (Guard : σ → ε → Prop) : σ → ε → σ → Prop :=
  fun first label last => Step first label last ∧ Guard first label

namespace Run

theorem single {first last : σ} {label : ε} (head : Step first label last) :
    Run Step first [label] last :=
  .step head (.refl last)

/-- Runs compose. -/
theorem append {first middle last : σ} {before after : List ε}
    (left : Run Step first before middle) (right : Run Step middle after last) :
    Run Step first (before ++ after) last := by
  induction left with
  | refl => exact right
  | step head _ ih => exact .step head (ih right)

/-- A run over concatenated labels passes through a middle state. -/
theorem split {first last : σ} {before after : List ε}
    (run : Run Step first (before ++ after) last) :
    ∃ middle, Run Step first before middle ∧ Run Step middle after last := by
  induction before generalizing first with
  | nil => exact ⟨first, .refl first, run⟩
  | cons label rest ih =>
      cases run with
      | step head tail =>
          obtain ⟨middle, left, right⟩ := ih tail
          exact ⟨middle, .step head left, right⟩

/-- Every label of a run is one of its steps. -/
theorem exists_step_of_mem {first last : σ} {labels : List ε} {label : ε}
    (run : Run Step first labels last) (mem : label ∈ labels) :
    ∃ before after source target, labels = before ++ label :: after ∧
      Run Step first before source ∧ Step source label target ∧
      Run Step target after last := by
  obtain ⟨before, after, rfl⟩ := List.append_of_mem mem
  obtain ⟨source, left, right⟩ := run.split
  cases right with
  | step head tail => exact ⟨before, after, source, _, rfl, left, head, tail⟩

/-- What one step preserves, a whole run preserves. -/
theorem invariant {Inv : σ → Prop} {first last : σ} {labels : List ε}
    (run : Run Step first labels last)
    (preserves : ∀ {first label last}, Step first label last → Inv first → Inv last)
    (start : Inv first) : Inv last := by
  induction run with
  | refl => exact start
  | step head _ ih => exact ih (preserves head start)

/-- What each step preserves together with the labels before it, a whole run preserves. -/
theorem history {Inv : List ε → σ → Prop} {past labels : List ε} {first last : σ}
    (run : Run Step first labels last)
    (preserves : ∀ {past first label last}, Step first label last → Inv past first →
      Inv (past ++ [label]) last)
    (start : Inv past first) : Inv (past ++ labels) last := by
  induction run generalizing past with
  | refl =>
      rw [List.append_nil]
      exact start
  | step head _ ih =>
      have reached := ih (preserves head start)
      rw [List.append_assoc] at reached
      exact reached

/-- A preorder that contains every step taken under an invariant contains every run. -/
theorem relation {Inv : σ → Prop} {Rel : σ → σ → Prop} {first last : σ} {labels : List ε}
    (run : Run Step first labels last)
    (preserves : ∀ {first label last}, Step first label last → Inv first → Inv last)
    (reflexive : ∀ state, Rel state state)
    (transitive : ∀ {first middle last}, Rel first middle → Rel middle last → Rel first last)
    (contains : ∀ {first label last}, Step first label last → Inv first → Rel first last)
    (start : Inv first) : Rel first last := by
  induction run with
  | refl state => exact reflexive state
  | step head _ ih =>
      exact transitive (contains head start) (ih (preserves head start))

/-- Weakening the step relation keeps every run. -/
theorem mono {Step' : σ → ε → σ → Prop}
    (weaker : ∀ {first label last}, Step first label last → Step' first label last)
    {first last : σ} {labels : List ε} (run : Run Step first labels last) :
    Run Step' first labels last := by
  induction run with
  | refl state => exact .refl state
  | step head _ ih => exact .step (weaker head) ih

/-- A run is no longer than what each of its steps leaves less of. -/
theorem length_le {Inv : σ → Prop} {measure : σ → Nat} {first last : σ} {labels : List ε}
    (run : Run Step first labels last)
    (preserves : ∀ {first label last}, Step first label last → Inv first → Inv last)
    (decreases : ∀ {first label last}, Step first label last → Inv first →
      measure last < measure first)
    (start : Inv first) : labels.length ≤ measure first := by
  induction run with
  | refl => exact Nat.zero_le _
  | step head _ ih =>
      have less := decreases head start
      have rest := ih (preserves head start)
      rw [List.length_cons]
      omega

/-- A guarded run is a run. -/
theorem of_guarded {Guard : σ → ε → Prop} {first last : σ} {labels : List ε}
    (run : Run (Guarded Step Guard) first labels last) : Run Step first labels last :=
  run.mono And.left

end Run

/-- The steps of a partial transition function. -/
def StepOf (next : σ → ε → Option σ) : σ → ε → σ → Prop :=
  fun first label last => next first label = some last

/-- Execute a list of labels, stopping at the first one that is not enabled. -/
def execute (next : σ → ε → Option σ) : σ → List ε → Option σ
  | state, [] => some state
  | state, label :: labels => (next state label).bind fun middle => execute next middle labels

/-- Executing the labels and running them are the same thing. -/
theorem run_iff_execute (next : σ → ε → Option σ) (first last : σ) (labels : List ε) :
    Run (StepOf next) first labels last ↔ execute next first labels = some last := by
  induction labels generalizing first with
  | nil =>
      constructor
      · intro run
        cases run
        rfl
      · intro same
        cases same
        exact .refl _
  | cons label labels ih =>
      constructor
      · intro run
        cases run with
        | step head tail =>
            rw [execute, head]
            exact (ih _).mp tail
      · intro executed
        obtain ⟨middle, head, tail⟩ := Option.bind_eq_some_iff.mp executed
        exact .step head ((ih middle).mpr tail)

/-- The transition function restricted to the steps that meet a condition. -/
def permitted (next : σ → ε → Option σ) (Guard : σ → ε → Prop)
    [∀ state label, Decidable (Guard state label)] : σ → ε → Option σ :=
  fun state label => if Guard state label then next state label else none

/-- Executing only permitted steps is a guarded run. -/
theorem run_guarded_of_execute {next : σ → ε → Option σ} {Guard : σ → ε → Prop}
    [∀ state label, Decidable (Guard state label)] {first last : σ} {labels : List ε}
    (executed : execute (permitted next Guard) first labels = some last) :
    Run (Guarded (StepOf next) Guard) first labels last := by
  refine ((run_iff_execute _ first last labels).mpr executed).mono ?_
  intro source label target step
  by_cases met : Guard source label
  · exact ⟨(if_pos met).symm.trans step, met⟩
  · exact absurd ((if_neg met).symm.trans step) (by simp)

/-! ## Runs of calls -/

section Calls

variable {ω ρ : Type*} (perform : ω → σ → ρ × σ)

/-- A request together with its outcome, as a step of the object that serves it. -/
def CallStep : σ → ω × ρ → σ → Prop :=
  fun first call last => perform call.1 first = (call.2, last)

/-- Serve the requests in order. -/
def replayCalls : σ → List ω → List (ω × ρ) × σ
  | state, [] => ([], state)
  | state, request :: requests =>
      let outcome := perform request state
      let rest := replayCalls outcome.2 requests
      ((request, outcome.1) :: rest.1, rest.2)

/-- Every list of requests has a run. -/
theorem replayCalls_run (state : σ) (requests : List ω) :
    Run (CallStep perform) state (replayCalls perform state requests).1
      (replayCalls perform state requests).2 := by
  induction requests generalizing state with
  | nil => exact .refl state
  | cons request requests ih => exact .step rfl (ih _)

/-- Every request in turn meets the condition. -/
def meetCalls (condition : σ → ω → Bool) : σ → List ω → Bool
  | _, [] => true
  | state, request :: requests =>
      condition state request && meetCalls condition (perform request state).2 requests

/-- Requests that meet the condition in turn have a guarded run. -/
theorem replayCalls_guarded {condition : σ → ω → Bool} {state : σ} {requests : List ω}
    (met : meetCalls perform condition state requests = true) :
    Run (Guarded (CallStep perform) fun source call => condition source call.1 = true) state
      (replayCalls perform state requests).1 (replayCalls perform state requests).2 := by
  induction requests generalizing state with
  | nil => exact .refl state
  | cons request requests ih =>
      obtain ⟨here, later⟩ := Bool.and_eq_true_iff.mp met
      exact .step ⟨rfl, here⟩ (ih later)

end Calls

end ExecutionHandoff.Library
