import ExecutionHandoff.Library.Runs
import Mathlib.Algebra.GroupWithZero.Nat
import Mathlib.Data.List.Infix

/-!
# The session controller

`TakeoverSessionController`: the authority over a session passes between the
agent and one Human binding, and every revoked binding lies below the highest
epoch.  The actor serves its calls one after another.
-/

namespace ExecutionHandoff.TakeoverCore

open Library List

structure TakeoverBinding where
  interventionID : BitVec 128
  principalID : String
  epoch : UInt64
  generation : UInt32
  deriving DecidableEq

inductive TakeoverAuthority where
  | agent
  | human (binding : TakeoverBinding)
  | revoked (lastEpoch : UInt64)
  deriving DecidableEq

inductive TakeoverSessionError where
  | alreadyHumanOwned
  | notHumanOwned
  | bindingMismatch
  | staleEpoch
  | humanStillActive
  deriving DecidableEq

/-- The greater of two epochs. -/
def maxEpoch (left right : UInt64) : UInt64 := if left ≤ right then right else left

structure TakeoverSessionController where
  authority : TakeoverAuthority
  highestEpoch : UInt64
  deriving DecidableEq

inductive SessionCall where
  | grantHuman (binding : TakeoverBinding)
  | validateHuman (binding : TakeoverBinding)
  | revokeHuman (binding : TakeoverBinding)
  | resumeAgent (expectedEpoch : UInt64)
  deriving DecidableEq

namespace TakeoverSessionController

def initial : TakeoverSessionController := ⟨.agent, 0⟩

variable (controller : TakeoverSessionController)

def grantHuman (binding : TakeoverBinding) :
    Except TakeoverSessionError TakeoverSessionController :=
  if binding.epoch < controller.highestEpoch then .error .staleEpoch
  else match controller.authority with
    | .human _ => .error .alreadyHumanOwned
    | _ => .ok { highestEpoch := binding.epoch, authority := .human binding }

def validateHuman (binding : TakeoverBinding) : Except TakeoverSessionError Unit :=
  match controller.authority with
  | .human active => if active = binding then .ok () else .error .bindingMismatch
  | _ => .error .notHumanOwned

def revokeHuman (binding : TakeoverBinding) :
    Except TakeoverSessionError (UInt64 × TakeoverSessionController) := do
  controller.validateHuman binding
  let nextEpoch := maxEpoch controller.highestEpoch binding.epoch + 1
  .ok (nextEpoch, { highestEpoch := nextEpoch, authority := .revoked nextEpoch })

def resumeAgent (expectedEpoch : UInt64) :
    Except TakeoverSessionError TakeoverSessionController :=
  if expectedEpoch = controller.highestEpoch then
    match controller.authority with
    | .human _ => .error .humanStillActive
    | _ => .ok { controller with authority := .agent }
  else .error .staleEpoch

/-- The answer to a call, and the controller after it; a call that throws changes nothing. -/
def serve : SessionCall → TakeoverSessionController →
    Except TakeoverSessionError Unit × TakeoverSessionController
  | .grantHuman binding, controller =>
      match controller.grantHuman binding with
      | .ok after => (.ok (), after)
      | .error error => (.error error, controller)
  | .validateHuman binding, controller => (controller.validateHuman binding, controller)
  | .revokeHuman binding, controller =>
      match controller.revokeHuman binding with
      | .ok (_, after) => (.ok (), after)
      | .error error => (.error error, controller)
  | .resumeAgent expectedEpoch, controller =>
      match controller.resumeAgent expectedEpoch with
      | .ok after => (.ok (), after)
      | .error error => (.error error, controller)

/-- The call succeeds. -/
def Accepts (call : SessionCall) : Prop := (serve call controller).1 = .ok ()

instance (call : SessionCall) : Decidable (controller.Accepts call) :=
  inferInstanceAs (Decidable (_ = _))

end TakeoverSessionController

open TakeoverSessionController

abbrev SessionAnswer := SessionCall × Except TakeoverSessionError Unit

/-- What an answered call does to the bindings that are granted and not revoked since. -/
def hold (held : List TakeoverBinding) : SessionAnswer → List TakeoverBinding
  | (.grantHuman binding, .ok ()) => held ++ [binding]
  | (.revokeHuman binding, .ok ()) => held.erase binding
  | _ => held

/-- The Human bindings that are granted at the end of a history. -/
def heldBindings (history : List SessionAnswer) : List TakeoverBinding :=
  history.foldl hold []

/-! ## One call -/

namespace TakeoverSessionController

variable {controller after : TakeoverSessionController} {call : SessionCall}
  {answer : Except TakeoverSessionError Unit}

/-- The controller is not with a Human. -/
def Free (controller : TakeoverSessionController) : Prop :=
  ∀ binding, controller.authority ≠ .human binding

/-- What a successful call does. -/
inductive Serves (controller : TakeoverSessionController) :
    SessionCall → TakeoverSessionController → Prop where
  | grant (binding : TakeoverBinding) (fresh : controller.highestEpoch ≤ binding.epoch)
      (free : controller.Free) :
      Serves controller (.grantHuman binding) ⟨.human binding, binding.epoch⟩
  | validate (binding : TakeoverBinding) (held : controller.authority = .human binding) :
      Serves controller (.validateHuman binding) controller
  | revoke (binding : TakeoverBinding) (held : controller.authority = .human binding) :
      Serves controller (.revokeHuman binding)
        ⟨.revoked (maxEpoch controller.highestEpoch binding.epoch + 1),
          maxEpoch controller.highestEpoch binding.epoch + 1⟩
  | resume (free : controller.Free) :
      Serves controller (.resumeAgent controller.highestEpoch)
        { controller with authority := .agent }

theorem validateHuman_eq_ok {binding : TakeoverBinding} :
    controller.validateHuman binding = .ok () ↔ controller.authority = .human binding := by
  unfold validateHuman
  cases controller.authority with
  | human active =>
      by_cases same : active = binding
      · subst same
        simp
      · simp [same]
  | _ => simp

/-- A call fails and changes nothing, or it succeeds. -/
theorem serve_cases (step : serve call controller = (answer, after)) :
    answer ≠ .ok () ∧ after = controller ∨ answer = .ok () ∧ Serves controller call after := by
  obtain ⟨authority, highestEpoch⟩ := controller
  cases call with
  | grantHuman binding =>
      by_cases stale : binding.epoch < highestEpoch
      · simp only [serve, grantHuman, if_pos stale, Prod.mk.injEq] at step
        obtain ⟨rfl, rfl⟩ := step
        exact .inl ⟨by simp, rfl⟩
      · simp only [serve, grantHuman, if_neg stale] at step
        cases authority with
        | human active =>
            cases step
            exact .inl ⟨by simp, rfl⟩
        | _ =>
            cases step
            exact .inr ⟨rfl, .grant binding (UInt64.not_lt.mp stale) fun _ no => by cases no⟩
  | validateHuman binding =>
      obtain ⟨rfl, rfl⟩ := Prod.mk.inj step
      by_cases held : authority = .human binding
      · exact .inr ⟨validateHuman_eq_ok.mpr held, .validate binding held⟩
      · exact .inl ⟨fun valid => held (validateHuman_eq_ok.mp valid), rfl⟩
  | revokeHuman binding =>
      by_cases held : authority = .human binding
      · have valid := (@validateHuman_eq_ok ⟨authority, highestEpoch⟩ binding).mpr held
        simp only [serve, revokeHuman, valid] at step
        cases step
        exact .inr ⟨rfl, .revoke binding held⟩
      · cases invalid : validateHuman ⟨authority, highestEpoch⟩ binding with
        | ok => exact absurd (validateHuman_eq_ok.mp invalid) held
        | error error =>
            simp only [serve, revokeHuman, invalid] at step
            cases step
            exact .inl ⟨by simp, rfl⟩
  | resumeAgent expectedEpoch =>
      by_cases same : expectedEpoch = highestEpoch
      · subst same
        simp only [serve, resumeAgent, if_true] at step
        cases authority with
        | human active =>
            cases step
            exact .inl ⟨by simp, rfl⟩
        | _ =>
            cases step
            exact .inr ⟨rfl, .resume fun _ no => by cases no⟩
      · simp only [serve, resumeAgent, if_neg same, Prod.mk.injEq] at step
        obtain ⟨rfl, rfl⟩ := step
        exact .inl ⟨by simp, rfl⟩

/-- A call that is accepted is served. -/
theorem Accepts.serves (accepts : controller.Accepts call) :
    ∃ after, Serves controller call after := by
  have step : serve call controller = ((serve call controller).1, (serve call controller).2) := rfl
  rcases serve_cases step with ⟨fails, _⟩ | ⟨_, serves⟩
  · exact absurd accepts fails
  · exact ⟨_, serves⟩

/-- The last epoch is not revoked, so that there is a next one. -/
def Counts (controller : TakeoverSessionController) (call : SessionCall) : Prop :=
  ∀ binding, call = .revokeHuman binding → controller.authority = .human binding →
    binding.epoch.toNat + 1 < 2 ^ 64

/-! ## Runs -/

/-- What the history of a controller says about it. -/
structure Lawful (history : List SessionAnswer) (controller : TakeoverSessionController) :
    Prop where
  top : ∀ binding, controller.authority = .human binding →
    controller.highestEpoch = binding.epoch ∧ heldBindings history = [binding]
  none : controller.Free → heldBindings history = []
  retired : ∀ binding, (.revokeHuman binding, .ok ()) ∈ history →
    binding.epoch < controller.highestEpoch

variable {history : List SessionAnswer} {served : SessionAnswer}

theorem initial_lawful : Lawful [] initial where
  top := fun _ no => by cases no
  none := fun _ => rfl
  retired := fun _ no => by cases no

theorem heldBindings_concat :
    heldBindings (history ++ [served]) = hold (heldBindings history) served :=
  foldl_concat ..

theorem Lawful.next_epoch (lawful : Lawful history controller) {binding : TakeoverBinding}
    (held : controller.authority = .human binding) (counts : binding.epoch.toNat + 1 < 2 ^ 64) :
    controller.highestEpoch = binding.epoch ∧
      binding.epoch < maxEpoch controller.highestEpoch binding.epoch + 1 := by
  have top := (lawful.top binding held).1
  refine ⟨top, ?_⟩
  have same : maxEpoch controller.highestEpoch binding.epoch = binding.epoch := by
    rw [top]
    exact if_pos (UInt64.le_refl _)
  rw [same, UInt64.lt_iff_toNat_lt, UInt64.toNat_add]
  exact Nat.lt_of_lt_of_eq (Nat.lt_succ_self _) (Nat.mod_eq_of_lt counts).symm

/-- A served call keeps the law and does not lower the highest epoch. -/
theorem Lawful.succeeded (lawful : Lawful history controller) (serves : Serves controller call after)
    (counts : controller.Counts call) :
    controller.highestEpoch ≤ after.highestEpoch ∧ Lawful (history ++ [(call, .ok ())]) after := by
  have old {binding : TakeoverBinding} (other : call ≠ .revokeHuman binding)
      (mem : (.revokeHuman binding, .ok ()) ∈ history ++ [(call, .ok ())]) :
      binding.epoch < controller.highestEpoch := by
    rcases mem_append.mp mem with old | new
    · exact lawful.retired binding old
    · exact absurd (congrArg Prod.fst (mem_singleton.mp new)).symm other
  cases serves with
  | grant binding fresh free =>
      refine ⟨fresh, fun other same => ?_, fun no => absurd rfl (no binding), fun other mem => ?_⟩
      · cases same
        refine ⟨rfl, ?_⟩
        rw [heldBindings_concat, lawful.none free]
        rfl
      · exact UInt64.lt_of_lt_of_le (old (fun no => by cases no) mem) fresh
  | validate binding held =>
      refine ⟨UInt64.le_refl _, fun other same => ?_, fun free => ?_, fun other mem => ?_⟩
      · rw [heldBindings_concat]
        exact lawful.top other same
      · rw [heldBindings_concat]
        exact lawful.none free
      · exact old (fun no => by cases no) mem
  | revoke binding held =>
      obtain ⟨top, next⟩ := lawful.next_epoch held (counts binding rfl held)
      have higher : controller.highestEpoch <
          maxEpoch controller.highestEpoch binding.epoch + 1 := by
        rw [top] at next ⊢
        exact next
      refine ⟨UInt64.le_of_lt higher, fun _ no => (by cases no), fun _ => ?_, fun other mem => ?_⟩
      · rw [heldBindings_concat, (lawful.top binding held).2]
        exact erase_cons_head ..
      · by_cases same : other = binding
        · exact same ▸ next
        · refine UInt64.lt_trans (old (fun no => ?_) mem) higher
          exact same (SessionCall.revokeHuman.inj no).symm
  | resume free =>
      refine ⟨UInt64.le_refl _, fun _ no => (by cases no), fun _ => ?_, fun other mem => ?_⟩
      · rw [heldBindings_concat]
        exact lawful.none free
      · exact old (fun no => by cases no) mem

/-- A call that fails changes nothing that the history says. -/
theorem Lawful.failed (lawful : Lawful history controller) (fails : answer ≠ .ok ()) :
    Lawful (history ++ [(call, answer)]) controller := by
  cases answer with
  | ok => exact absurd rfl fails
  | error error =>
      have same : heldBindings (history ++ [(call, .error error)]) = heldBindings history := by
        rw [heldBindings_concat]
        cases call <;> rfl
      refine ⟨fun binding held => ?_, fun free => ?_, fun binding mem => ?_⟩
      · exact same ▸ lawful.top binding held
      · exact same ▸ lawful.none free
      · rcases mem_append.mp mem with old | new
        · exact lawful.retired binding old
        · cases mem_singleton.mp new

/-- The calls that a controller serves while the epochs do not come round. -/
abbrev Step : TakeoverSessionController → SessionAnswer → TakeoverSessionController → Prop :=
  Guarded (CallStep serve) fun controller served => controller.Counts served.1

theorem Lawful.step (lawful : Lawful history controller) (step : Step controller served after) :
    controller.highestEpoch ≤ after.highestEpoch ∧ Lawful (history ++ [served]) after := by
  obtain ⟨call, answer⟩ := served
  rcases serve_cases step.1 with ⟨fails, rfl⟩ | ⟨rfl, serves⟩
  · exact ⟨UInt64.le_refl _, lawful.failed fails⟩
  · exact lawful.succeeded serves step.2

variable {before rest : List SessionAnswer} {middle last : TakeoverSessionController}

/-- A run keeps the law and does not lower the highest epoch. -/
theorem Lawful.run (lawful : Lawful history middle) (run : Run Step middle rest last) :
    middle.highestEpoch ≤ last.highestEpoch ∧ Lawful (history ++ rest) last := by
  induction run generalizing history with
  | refl => exact ⟨UInt64.le_refl _, by rwa [append_nil]⟩
  | step head _ ih =>
      obtain ⟨higher, lawful⟩ := lawful.step head
      obtain ⟨higher', lawful⟩ := ih lawful
      rw [append_assoc] at lawful
      exact ⟨UInt64.le_trans higher higher', lawful⟩

/-- The law of the controller over every run in which the last epoch is not revoked. -/
theorem session_authority (run : Run Step initial before middle)
    (continuation : Run Step middle rest last) :
    middle.highestEpoch ≤ last.highestEpoch ∧
    (∀ binding, (.revokeHuman binding, .ok ()) ∈ before →
      ¬last.Accepts (.grantHuman binding) ∧ ¬last.Accepts (.validateHuman binding)) ∧
    (heldBindings before).length ≤ 1 ∧
    (∀ binding, middle.Accepts (.grantHuman binding) → heldBindings before = []) ∧
    ∀ expectedEpoch, middle.Accepts (.resumeAgent expectedEpoch) →
      expectedEpoch = middle.highestEpoch ∧ heldBindings before = [] := by
  have lawful := (initial_lawful.run run).2
  obtain ⟨higher, lawful'⟩ := lawful.run continuation
  refine ⟨higher, fun binding revoked => ?_, ?_, fun binding accepts => ?_, fun epoch accepts => ?_⟩
  · have below := lawful'.retired binding (List.mem_append_left _ revoked)
    refine ⟨fun accepts => ?_, fun accepts => ?_⟩
    · obtain ⟨_, serves⟩ := accepts.serves
      cases serves with
      | grant _ fresh _ => exact UInt64.not_lt.mpr fresh below
    · have held := validateHuman_eq_ok.mp accepts
      rw [(lawful'.top binding held).1] at below
      exact UInt64.lt_irrefl _ below
  · by_cases free : middle.Free
    · rw [List.nil_append] at lawful
      rw [lawful.none free]
      exact Nat.zero_le 1
    · obtain ⟨binding, held⟩ := not_forall_not.mp free
      rw [List.nil_append] at lawful
      rw [(lawful.top binding held).2]
      exact Nat.le_refl 1
  · obtain ⟨_, serves⟩ := accepts.serves
    cases serves with
    | grant _ _ free => exact lawful.none free
  · obtain ⟨_, serves⟩ := accepts.serves
    cases serves with
    | resume free => exact ⟨rfl, lawful.none free⟩

end TakeoverSessionController

/-! ## Samples -/

def sampleBinding (epoch : UInt64) : TakeoverBinding := ⟨1, "operator", epoch, 1⟩

/-- The calls of a session that is granted, revoked and granted again. -/
def sampleGrant (epoch : UInt64) : List SessionCall :=
  [.grantHuman (sampleBinding epoch), .revokeHuman (sampleBinding epoch)]

/-- Two epochs below the last the binding that was revoked is refused. -/
theorem sampleGrant_refused :
    ¬(replayCalls serve initial (sampleGrant 3)).2.Accepts (.grantHuman (sampleBinding 3)) := by
  have run : Run Step initial (replayCalls serve initial (sampleGrant 3)).1
      (replayCalls serve initial (sampleGrant 3)).2 :=
    .step ⟨rfl, fun _ no => by cases no⟩ (.step
      ⟨rfl, fun _ same _ => by cases same; decide⟩ (.refl _))
  exact ((session_authority run (.refl _)).2.1 (sampleBinding 3) (by decide)).1

/-- At the last epoch the counter comes round, and the revoked binding is granted again. -/
theorem sampleGrant_regranted :
    ∃ before last, Run (CallStep serve) initial before last ∧
      (.revokeHuman (sampleBinding (-1)), .ok ()) ∈ before ∧
      last.Accepts (.grantHuman (sampleBinding (-1))) ∧
      ∃ middle, Run (CallStep serve) initial (before.take 1) middle ∧
        last.highestEpoch < middle.highestEpoch :=
  ⟨_, _, replayCalls_run serve initial (sampleGrant (-1)), by decide, by decide, _,
    replayCalls_run serve initial ((sampleGrant (-1)).take 1), by decide⟩

end ExecutionHandoff.TakeoverCore
