import Mathlib.Data.List.Basic

/-!
# Custody of issued resources

Resources are numbered in the order they are issued, each to an owner, and are
released one at a time.  A resource is accounted for while it is released or
somebody holds it for its owner; nothing here says who may hold what.
-/

namespace ExecutionHandoff.Library

variable {ω : Type*} {issued : List ω} {released : List Nat} {held held' : Nat → ω → Prop}

/-- Every issued resource is released or held for its owner. -/
def Accounted (issued : List ω) (released : List Nat) (held : Nat → ω → Prop) : Prop :=
  ∀ resource owner, issued[resource]? = some owner → resource ∈ released ∨ held resource owner

namespace Accounted

theorem empty (held : Nat → ω → Prop) : Accounted [] released held := by
  intro resource owner found
  cases found

/-- Resources pass from one holder to another, or are released. -/
theorem passed {released' : List Nat} (accounted : Accounted issued released held)
    (kept : ∀ resource ∈ released, resource ∈ released')
    (passes : ∀ resource owner, held resource owner →
      resource ∈ released' ∨ held' resource owner) :
    Accounted issued released' held' := by
  intro resource owner found
  rcases accounted resource owner found with freed | holds
  · exact .inl (kept resource freed)
  · exact passes resource owner holds

theorem moved (accounted : Accounted issued released held)
    (moves : ∀ resource owner, held resource owner → held' resource owner) :
    Accounted issued released held' :=
  accounted.passed (fun _ freed => freed) fun resource owner holds =>
    .inr (moves resource owner holds)

/-- A new resource is held from the start, and nothing else is dropped for it. -/
theorem issue {owner : ω} (accounted : Accounted issued released held)
    (fresh : held' issued.length owner)
    (moves : ∀ resource owner, held resource owner → held' resource owner) :
    Accounted (issued ++ [owner]) released held' := by
  intro resource owner' found
  rw [List.getElem?_append] at found
  split at found
  · exact accounted.moved moves resource owner' found
  · rename_i beyond
    obtain ⟨last, same⟩ := List.getElem?_eq_some_iff.mp found
    have only : resource - issued.length = 0 := by
      rw [List.length_singleton] at last
      omega
    have here : resource = issued.length := by omega
    subst here
    rw [Nat.sub_self] at found
    cases found
    exact .inr fresh

/-- An owner for whom nothing is held has had everything released. -/
theorem all_released {owner : ω} (accounted : Accounted issued released held)
    (nothing : ∀ resource, ¬ held resource owner) {resource : Nat}
    (found : issued[resource]? = some owner) : resource ∈ released :=
  (accounted resource owner found).resolve_right (nothing resource)

end Accounted

end ExecutionHandoff.Library
