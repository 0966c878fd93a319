import Mathlib.Data.List.Basic
import Mathlib.Tactic.Push

/-!
# Chains of work that run one link at a time

A link is appended to the end of its chain and begins once the link before it
has settled.  Then the links begin in the order they were appended in, and each
of them after all those before it have settled.
-/

namespace ExecutionHandoff.Library

/-- How far a link has come. -/
inductive LinkPhase where
  | waiting
  | running
  | settled
  deriving DecidableEq

section Serial

variable {α : Type*} (phase : α → LinkPhase)

/-- A link that no longer waits has only settled links before it. -/
def Serial (links : List α) : Prop :=
  ∀ (before after : Nat) (first second : α), before < after →
    links[before]? = some first → links[after]? = some second →
    phase second = .waiting ∨ phase first = .settled

/-- The links before a place have all settled. -/
def SettledBefore (links : List α) (index : Nat) : Prop :=
  ∀ (before : Nat) (first : α), before < index → links[before]? = some first → phase first = .settled

variable {phase} {links : List α}

namespace Serial

theorem nil : Serial phase ([] : List α) := by
  intro before after first second _ here
  cases here

theorem concat {link : α} (serial : Serial phase links) (waits : phase link = .waiting) :
    Serial phase (links ++ [link]) := by
  intro before after first second earlier here there
  rw [List.getElem?_append] at here there
  split at there
  · rw [if_pos (by omega)] at here
    exact serial before after first second earlier here there
  · have same : second = link := by
      rw [List.getElem?_singleton] at there
      split at there
      · exact (Option.some.inj there).symm
      · cases there
    exact .inl (same ▸ waits)

theorem settledBefore {index : Nat} {link : α} (serial : Serial phase links)
    (here : links[index]? = some link) (begun : phase link ≠ .waiting) :
    SettledBefore phase links index := fun before first earlier there =>
  (serial before index first link earlier there here).resolve_left begun

/-- Whatever comes after a link that has not settled still waits. -/
theorem waiting_after {index after : Nat} {link later : α} (serial : Serial phase links)
    (here : links[index]? = some link) (unsettled : phase link ≠ .settled)
    (behind : index < after) (there : links[after]? = some later) : phase later = .waiting :=
  (serial index after link later behind here there).resolve_right unsettled

/-- The turn of a link comes when the one before it has settled. -/
theorem settledBefore_turn {index : Nat} (serial : Serial phase links)
    (turn : ∀ link, index ≠ 0 → links[index - 1]? = some link → phase link = .settled)
    (inside : index < links.length) : SettledBefore phase links index := by
  intro before first earlier here
  have within : index - 1 < links.length := by omega
  have previous := List.getElem?_eq_getElem within
  have settled := turn _ (by omega) previous
  by_cases adjacent : before = index - 1
  · subst adjacent
    rw [previous] at here
    exact Option.some.inj here ▸ settled
  · have front := serial before (index - 1) _ _ (by omega) here previous
    rw [settled] at front
    exact front.resolve_left (by decide)

/-- A link that has not settled moves on, once those before it have. -/
theorem set {index : Nat} {link : α} (new : α) (serial : Serial phase links)
    (here : links[index]? = some link) (unsettled : phase link ≠ .settled)
    (front : SettledBefore phase links index) : Serial phase (links.set index new) := by
  intro before after first second earlier one other
  have inside : index < links.length := (List.getElem?_eq_some_iff.mp here).1
  rw [List.getElem?_set] at one other
  by_cases atFirst : index = before
  · rw [if_neg (by omega)] at other
    exact .inl (serial.waiting_after here unsettled (by omega) other)
  · rw [if_neg atFirst] at one
    by_cases atSecond : index = after
    · exact .inr (front before first (by omega) one)
    · rw [if_neg atSecond] at other
      exact serial before after first second earlier one other

/-- Running links settle. -/
theorem map {advance : α → α} (serial : Serial phase links)
    (waits : ∀ link, phase link = .waiting → phase (advance link) = .waiting)
    (settles : ∀ link, phase link = .settled → phase (advance link) = .settled) :
    Serial phase (links.map advance) := by
  intro before after first second earlier one other
  rw [List.getElem?_map] at one other
  obtain ⟨first', here, rfl⟩ := Option.map_eq_some_iff.mp one
  obtain ⟨second', there, rfl⟩ := Option.map_eq_some_iff.mp other
  exact (serial before after first' second' earlier here there).imp (waits _) (settles _)

end Serial

/-- Among the links that have not settled there is a first one. -/
theorem exists_first_unsettled {index : Nat} {link : α} (here : links[index]? = some link)
    (unsettled : phase link ≠ .settled) :
    ∃ first other, links[first]? = some other ∧ phase other ≠ .settled ∧
      SettledBefore phase links first := by
  induction index using Nat.strongRecOn generalizing link with
  | ind index ih =>
      by_cases front : SettledBefore phase links index
      · exact ⟨index, link, here, unsettled, front⟩
      · unfold SettledBefore at front
        push Not at front
        obtain ⟨before, first, earlier, there, open'⟩ := front
        exact ih before earlier there open'

end Serial

end ExecutionHandoff.Library
