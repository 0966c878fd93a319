import Mathlib.Init

/-!
# Computations that throw without rolling back

A method of a mutable object that throws keeps the writes it made before the
throw, so its meaning is a function from a state to a result together with a
state in both outcomes.  `Ensures` is the postcondition judgement of such a
computation at one starting state, with one rule for each way to build it.
-/

namespace ExecutionHandoff.Library

/-- A computation with mutable state `σ` and exceptions `err`. -/
def StateExcept (σ err α : Type) := σ → Except err α × σ

namespace StateExcept

variable {σ err α β : Type}

def succeed (value : α) : StateExcept σ err α := fun state => (.ok value, state)

def throwing (error : err) : StateExcept σ err α := fun state => (.error error, state)

def andThen (first : StateExcept σ err α) (next : α → StateExcept σ err β) :
    StateExcept σ err β := fun state =>
  match first state with
  | (.ok value, middle) => next value middle
  | (.error error, middle) => (.error error, middle)

def read : StateExcept σ err σ := fun state => (.ok state, state)

def update (f : σ → σ) : StateExcept σ err Unit := fun state => (.ok (), f state)

/-- Throw unless the test holds. -/
def require (test : Bool) (error : err) : StateExcept σ err Unit :=
  if test then succeed () else throwing error

instance : Monad (StateExcept σ err) where
  pure := succeed
  bind := andThen

/-- The computation, started in `state`, ends with a result and state satisfying `post`. -/
def Ensures (action : StateExcept σ err α) (state : σ) (post : Except err α → σ → Prop) : Prop :=
  post (action state).1 (action state).2

variable {state : σ} {post : Except err β → σ → Prop} {action : StateExcept σ err α}

theorem Ensures.pure {value : α} {post : Except err α → σ → Prop} (holds : post (.ok value) state) :
    Ensures (Pure.pure value : StateExcept σ err α) state post :=
  holds

theorem Ensures.throwing {error : err} {post : Except err α → σ → Prop}
    (holds : post (.error error) state) :
    Ensures (StateExcept.throwing error : StateExcept σ err α) state post :=
  holds

/-- Sequencing: an error of the first part ends the whole, a value feeds the second part. -/
theorem Ensures.bind {first : StateExcept σ err α} {next : α → StateExcept σ err β}
    {middle : Except err α → σ → Prop}
    (left : Ensures first state middle)
    (failed : ∀ error after, middle (.error error) after → post (.error error) after)
    (passed : ∀ value after, middle (.ok value) after → Ensures (next value) after post) :
    Ensures (first >>= next) state post := by
  change Ensures (andThen first next) state post
  unfold Ensures andThen
  unfold Ensures at left
  cases outcome : first state with
  | mk result after =>
      rw [outcome] at left
      cases result with
      | error error => exact failed error after left
      | ok value => exact passed value after left

theorem Ensures.update {f : σ → σ} {post : Except err Unit → σ → Prop}
    (holds : post (.ok ()) (f state)) :
    Ensures (StateExcept.update f) state post :=
  holds

/-- A failed requirement throws in the unchanged state; a met one is a step of nothing. -/
theorem Ensures.require {test : Bool} {error : err} {next : Unit → StateExcept σ err β}
    (failed : test = false → post (.error error) state)
    (passed : test = true → Ensures (next ()) state post) :
    Ensures (StateExcept.require test error >>= next) state post := by
  cases test with
  | false => exact failed rfl
  | true => exact passed rfl

/-- A first part whose outcome is known feeds it to what follows. -/
theorem Ensures.running {first : StateExcept σ err α} {next : α → StateExcept σ err β}
    {middle : σ} {value : α}
    (ran : first state = (.ok value, middle)) (holds : Ensures (next value) middle post) :
    Ensures (first >>= next) state post := by
  change Ensures (andThen first next) state post
  unfold Ensures andThen
  rw [ran]
  exact holds

/-- A read feeds the state to what follows. -/
theorem Ensures.reading {next : σ → StateExcept σ err β} (holds : Ensures (next state) state post) :
    Ensures (StateExcept.read >>= next) state post :=
  holds

/-- An update changes the state for what follows. -/
theorem Ensures.updating {f : σ → σ} {next : Unit → StateExcept σ err β}
    (holds : Ensures (next ()) (f state) post) :
    Ensures (StateExcept.update f >>= next) state post :=
  holds

/-- Wrapping the value of an action changes its result and nothing else. -/
theorem Ensures.mapping {reply : α → β}
    (holds : Ensures action state fun result after => post (result.map reply) after) :
    Ensures (action >>= fun value => Pure.pure (reply value)) state post := by
  apply holds.bind
  · exact fun _ _ failed => failed
  · exact fun _ _ passed => .pure passed

/-- What holds of the wrapped result holds of the action's own. -/
theorem Ensures.unmapping {reply : α → β}
    (holds : Ensures (action >>= fun value => Pure.pure (reply value)) state post) :
    Ensures action state fun result after => post (result.map reply) after := by
  change post (andThen action _ state).1 (andThen action _ state).2 at holds
  unfold andThen at holds
  unfold Ensures
  cases outcome : action state with
  | mk result after =>
      rw [outcome] at holds
      cases result with
      | error error => exact holds
      | ok value => exact holds

/-- Weakening the postcondition. -/
theorem Ensures.mono {strong weak : Except err α → σ → Prop} (holds : Ensures action state strong)
    (weaker : ∀ result after, strong result after → weak result after) :
    Ensures action state weak :=
  weaker _ _ holds

end StateExcept

end ExecutionHandoff.Library
