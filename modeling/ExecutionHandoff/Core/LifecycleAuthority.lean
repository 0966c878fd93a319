import ExecutionHandoff.Core.Lifecycle

/-!
# Authority over the life of an intervention

Each call of the hand-off state machine is refused without a trace, repeats the
intervention in progress, or makes one of eight transitions.  Authority, epoch
and the way back to the agent are read off the transitions.
-/

namespace ExecutionHandoff.Core

open Library List
open StateExcept hiding read update
open Ensures (reading mapping running)

variable {TAction TReason : Type}

namespace ExecutionHandoffState

variable {config : HandoffConfig}

/-- What a call does, by the operation and its outcome. -/
inductive Transition (state : ExecutionHandoffState TAction TReason) :
    HandoffOp TAction TReason → Except ExecutionHandoffError (HandoffReply TAction TReason) →
      ExecutionHandoffState TAction TReason → Prop where
  | rejected {op : HandoffOp TAction TReason} (error : ExecutionHandoffError) :
      Transition state op (.error error) state
  | begun (input : BeginInput TAction TReason) (idle : state.active = none) (id : String)
      (time : Int) :
      Transition state (.begin input)
        (.ok (.intervention
          ⟨id, input.reason, .awaitingHuman, .none, state.epoch + 1, input.action,
            input.resumePolicy, time, time⟩))
        { epoch := state.epoch + 1, reads := state.reads + 1, created := state.created + 1
          active := some ⟨id, input.reason, .awaitingHuman, .none, state.epoch + 1, input.action,
            input.resumePolicy, time, time⟩ }
  | kept (input : BeginInput TAction TReason) (active : ExecutionIntervention TAction TReason)
      (held : state.active = some active) :
      Transition state (.begin input) (.ok (.intervention active)) state
  | reclaimed (active : ExecutionIntervention TAction TReason)
      (held : state.active = some active) (status : active.status = .humanActive) :
      Transition state (.claimHuman active.id) (.ok (.intervention active)) state
  | claimed (active : ExecutionIntervention TAction TReason) (held : state.active = some active)
      (status : active.status = .awaitingHuman ∨ active.status = .verifying) (time : Int) :
      Transition state (.claimHuman active.id)
        (.ok (.intervention
          { active with status := .humanActive, authority := .human, updatedAt := time }))
        { state with
          reads := state.reads + 1
          active := some
            { active with status := .humanActive, authority := .human, updatedAt := time } }
  | completed (active : ExecutionIntervention TAction TReason) (held : state.active = some active)
      (status : active.status = .humanActive) (time : Int) :
      Transition state (.markHumanComplete active.id)
        (.ok (.intervention
          { active with
            status := .verifying, authority := .none, epoch := state.epoch + 1
            updatedAt := time }))
        { state with
          epoch := state.epoch + 1
          reads := state.reads + 1
          active := some
            { active with
              status := .verifying, authority := .none, epoch := state.epoch + 1
              updatedAt := time } }
  | returned (active : ExecutionIntervention TAction TReason) (held : state.active = some active)
      (status : active.status = .verifying) (time : Int) :
      Transition state (.returnToHuman active.id)
        (.ok (.intervention
          { active with status := .humanActive, authority := .human, updatedAt := time }))
        { state with
          reads := state.reads + 1
          active := some
            { active with status := .humanActive, authority := .human, updatedAt := time } }
  | verified (active : ExecutionIntervention TAction TReason) (held : state.active = some active)
      (status : active.status = .verifying) (time : Int) :
      Transition state (.markVerified active.id)
        (.ok (.intervention { active with status := .readyToResume, updatedAt := time }))
        { state with
          reads := state.reads + 1
          active := some { active with status := .readyToResume, updatedAt := time } }
  | resumed (active : ExecutionIntervention TAction TReason) (held : state.active = some active)
      (status : active.status = .readyToResume) :
      Transition state (.resumeAgent active.id)
        (.ok (.decision ⟨active.action, active.resumePolicy, active.epoch⟩))
        { state with active := none }
  | cancelled (active : ExecutionIntervention TAction TReason)
      (held : state.active = some active) :
      Transition state (.cancel active.id) (.ok .done)
        { state with active := none, epoch := state.epoch + 1 }
  | advanced :
      Transition state .advanceResourceEpoch (.ok (.epoch (state.epoch + 1)))
        { state with epoch := state.epoch + 1 }
  | asserted (idle : state.active = none) :
      Transition state .assertAgentAuthority (.ok .done) state

section Rules

variable {α : Type} {state : ExecutionHandoffState TAction TReason}
  {post : Except ExecutionHandoffError α → ExecutionHandoffState TAction TReason → Prop}

theorem ensures_requireActive {interventionId : String}
    {next : ExecutionIntervention TAction TReason → HandoffM TAction TReason α}
    (failed : ∀ error, post (.error error) state)
    (passed : ∀ active, state.active = some active → active.id = interventionId →
      Ensures (next active) state post) :
    Ensures (requireActive interventionId >>= next) state post := by
  have spec : Ensures (requireActive interventionId) state fun result after =>
      after = state ∧ ∀ active, result = .ok active →
        state.active = some active ∧ active.id = interventionId := by
    apply reading
    split
    · exact .throwing ⟨rfl, fun _ no => nomatch no⟩
    · rename_i active held
      apply Ensures.require
      · exact fun _ => ⟨rfl, fun _ no => nomatch no⟩
      · intro same
        refine .pure ⟨rfl, ?_⟩
        rintro _ ⟨⟩
        exact ⟨held, by simpa using same⟩
  apply spec.bind
  · rintro error _ ⟨rfl, _⟩
    exact failed error
  · rintro active _ ⟨rfl, found⟩
    exact passed active (found active rfl).1 (found active rfl).2

theorem ensures_requireStatus {active : ExecutionIntervention TAction TReason}
    {expected : InterventionStatus} {next : Unit → HandoffM TAction TReason α}
    (failed : ∀ error, post (.error error) state)
    (passed : active.status = expected → Ensures (next ()) state post) :
    Ensures (requireStatus active expected >>= next) state post := by
  apply Ensures.require
  · exact fun _ => failed _
  · exact fun status => passed (of_decide_eq_true status)

end Rules

/-- Every call makes one of the transitions. -/
theorem perform_transition (state : ExecutionHandoffState TAction TReason)
    (op : HandoffOp TAction TReason) :
    Ensures (perform config op) state (Transition state op) := by
  cases op with
  | begin input =>
      apply mapping
      apply reading
      split
      · rename_i active held
        exact .pure (.kept input active held)
      · rename_i idle
        exact .begun input idle _ _
  | claimHuman id =>
      apply mapping
      apply ensures_requireActive (fun _ => .rejected _)
      rintro active held rfl
      split
      · rename_i status
        exact .pure (.reclaimed active held status)
      · apply Ensures.require (fun _ => .rejected _)
        intro status
        exact .claimed active held (by simpa using status) _
  | markHumanComplete id =>
      apply mapping
      apply ensures_requireActive (fun _ => .rejected _)
      rintro active held rfl
      apply ensures_requireStatus (fun _ => .rejected _)
      intro status
      exact .completed active held status _
  | returnToHuman id =>
      apply mapping
      apply ensures_requireActive (fun _ => .rejected _)
      rintro active held rfl
      apply ensures_requireStatus (fun _ => .rejected _)
      intro status
      exact .returned active held status _
  | markVerified id =>
      apply mapping
      apply ensures_requireActive (fun _ => .rejected _)
      rintro active held rfl
      apply ensures_requireStatus (fun _ => .rejected _)
      intro status
      exact .verified active held status _
  | resumeAgent id =>
      apply mapping
      apply ensures_requireActive (fun _ => .rejected _)
      rintro active held rfl
      apply ensures_requireStatus (fun _ => .rejected _)
      intro status
      exact .resumed active held status
  | cancel id =>
      apply mapping
      apply ensures_requireActive (fun _ => .rejected _)
      rintro active held rfl
      exact .cancelled active held
  | advanceResourceEpoch =>
      apply mapping
      exact .advanced
  | assertAgentAuthority =>
      apply mapping
      apply reading
      split
      · rename_i idle
        exact .pure (.asserted idle)
      · exact .throwing (.rejected _)

theorem HandoffStep.transition {first last : ExecutionHandoffState TAction TReason}
    {call : HandoffCall TAction TReason} (step : HandoffStep config first call last) :
    Transition first call.1 call.2 last := by
  have transition : Transition first call.1 (perform config call.1 first).1
      (perform config call.1 first).2 := perform_transition first call.1
  have outcome : perform config call.1 first = (call.2, last) := step
  rw [outcome] at transition
  exact transition

/-! ## One call -/

/-- The intervention in progress carries the authority of its status and an epoch already
issued. -/
structure Consistent (state : ExecutionHandoffState TAction TReason) : Prop where
  authority : ∀ active, state.active = some active →
    (active.authority = .human ↔ active.status = .humanActive)
  epoch : ∀ active, state.active = some active → active.epoch ≤ state.epoch

theorem initial_consistent : Consistent (initial : ExecutionHandoffState TAction TReason) :=
  ⟨fun _ no => (nomatch no), fun _ no => (nomatch no)⟩

namespace Transition

variable {state next : ExecutionHandoffState TAction TReason} {op : HandoffOp TAction TReason}
  {outcome : Except ExecutionHandoffError (HandoffReply TAction TReason)}

theorem epoch_le (transition : Transition state op outcome next) : state.epoch ≤ next.epoch := by
  cases transition with
  | rejected | kept | reclaimed | claimed | returned | verified | resumed | asserted =>
      exact Nat.le_refl _
  | begun | completed | cancelled | advanced => exact Nat.le_succ _

theorem consistent (transition : Transition state op outcome next) (inv : Consistent state) :
    Consistent next := by
  cases transition with
  | rejected | kept | reclaimed | asserted => exact inv
  | begun =>
      constructor
      · rintro _ ⟨⟩
        simp
      · rintro _ ⟨⟩
        exact Nat.le_refl _
  | claimed active held | returned active held =>
      constructor
      · rintro _ ⟨⟩
        simp
      · rintro _ ⟨⟩
        exact inv.epoch active held
  | completed active held =>
      constructor
      · rintro _ ⟨⟩
        simp
      · rintro _ ⟨⟩
        exact Nat.le_refl _
  | verified active held status =>
      constructor
      · rintro _ ⟨⟩
        have unclaimed := inv.authority active held
        simp [status] at unclaimed
        simp [unclaimed]
      · rintro _ ⟨⟩
        exact inv.epoch active held
  | resumed | cancelled => exact ⟨fun _ no => (nomatch no), fun _ no => (nomatch no)⟩
  | advanced =>
      constructor
      · exact inv.authority
      · exact fun active held => Nat.le_succ_of_le (inv.epoch active held)

/-- A refused call leaves no trace. -/
theorem unchanged (transition : Transition state op outcome next) {error : ExecutionHandoffError}
    (refused : outcome = .error error) : next = state := by
  cases transition with
  | rejected => rfl
  | begun | kept | reclaimed | claimed | completed | returned | verified | resumed | cancelled
  | advanced | asserted => cases refused

/-- Calls that fence earlier authority when they are accepted. -/
def fences (state : ExecutionHandoffState TAction TReason) : HandoffOp TAction TReason → Bool
  | .begin _ => state.active.isNone
  | .markHumanComplete _ | .cancel _ => true
  | _ => false

theorem epoch_lt (transition : Transition state op outcome next) (fencing : fences state op = true)
    {reply : HandoffReply TAction TReason} (accepted : outcome = .ok reply) :
    state.epoch < next.epoch := by
  cases transition with
  | rejected => cases accepted
  | kept input active held => simp [fences, held] at fencing
  | begun | completed | cancelled => exact Nat.lt_succ_self _
  | reclaimed | claimed | returned | verified | resumed | advanced | asserted => cases fencing

variable {intervention : ExecutionIntervention TAction TReason}

/-- An accepted completion starts the verification of the same intervention. -/
theorem completion {id : String}
    (transition : Transition state (.markHumanComplete id) (.ok (.intervention intervention)) next) :
    ∃ active, state.active = some active ∧ active.id = id ∧ active.status = .humanActive ∧
      next.active = some intervention ∧ intervention.id = id ∧
      intervention.status = .verifying := by
  cases transition with
  | completed active held status => exact ⟨active, held, rfl, status, rfl, rfl, rfl⟩

/-- The verification is dated by the epoch that the completion hands out. -/
theorem completion_epoch {id : String}
    (transition : Transition state (.markHumanComplete id) (.ok (.intervention intervention)) next) :
    intervention.epoch = next.epoch := by
  cases transition with
  | completed => rfl

/-- An accepted cancellation ends the intervention it names. -/
theorem cancellation {id : String} {reply : HandoffReply TAction TReason}
    (transition : Transition state (.cancel id) (.ok reply) next) :
    (∃ active, state.active = some active ∧ active.id = id) ∧ next.active = none := by
  cases transition with
  | cancelled active held => exact ⟨⟨active, held, rfl⟩, rfl⟩

/-- `begin` starts an intervention that waits for a Human, or repeats the one in progress. -/
theorem beginning {input : BeginInput TAction TReason}
    (transition : Transition state (.begin input) (.ok (.intervention intervention)) next) :
    next.active = some intervention ∧
      (next = state ∨ intervention.status = .awaitingHuman) := by
  cases transition with
  | begun => exact ⟨rfl, .inr rfl⟩
  | kept input active held => exact ⟨held, .inl rfl⟩

theorem claiming {id : String}
    (transition : Transition state (.claimHuman id) (.ok (.intervention intervention)) next) :
    next.active = some intervention ∧ intervention.status = .humanActive := by
  cases transition with
  | reclaimed active held status => exact ⟨held, status⟩
  | claimed => exact ⟨rfl, rfl⟩

theorem verification {id : String}
    (transition : Transition state (.markVerified id) (.ok (.intervention intervention)) next) :
    next.active = some intervention ∧ intervention.status = .readyToResume := by
  cases transition with
  | verified => exact ⟨rfl, rfl⟩

theorem resumption {id : String} {reply : HandoffReply TAction TReason}
    (transition : Transition state (.resumeAgent id) (.ok reply) next) : next.active = none := by
  cases transition with
  | resumed => rfl

/-- `ready_to_resume` is entered from `verifying` only. -/
theorem ready (transition : Transition state op outcome next)
    (held : next.active = some intervention) (status : intervention.status = .readyToResume) :
    state.active = some intervention ∨
      ∃ active, state.active = some active ∧ active.id = intervention.id ∧
        active.status = .verifying ∧ op = .markVerified active.id := by
  cases transition with
  | rejected | kept | reclaimed | advanced | asserted => exact .inl held
  | begun | claimed | completed | returned =>
      cases held
      cases status
  | verified active before verifying =>
      cases held
      exact .inr ⟨active, before, rfl, verifying, rfl⟩
  | resumed | cancelled => cases held

end Transition

/-! ## The way back to the agent -/

section Regaining

variable {since : Nat} {id : String} {calls : List (HandoffCall TAction TReason)}

/-- The accepted calls by which the agent gets its authority back from a Human: completion,
verification and resume in this order, or a cancellation. -/
inductive Regained (since : Nat) (id : String) (calls : List (HandoffCall TAction TReason)) :
    Prop where
  | resumed (completion verified : ExecutionIntervention TAction TReason)
      (decision : ResumeDecision TAction) (fenced : since < decision.epoch)
      (order :
        [((.markHumanComplete id, .ok (.intervention completion)) : HandoffCall TAction TReason),
          (.markVerified id, .ok (.intervention verified)),
          (.resumeAgent id, .ok (.decision decision))].Sublist calls)
  | cancelled (mem : (.cancel id, .ok .done) ∈ calls)

/-- Where an intervention is, some calls after the Human was active in it at epoch `since`. -/
inductive Phase (since : Nat) (id : String) (calls : List (HandoffCall TAction TReason))
    (state : ExecutionHandoffState TAction TReason) : Prop where
  | human (active : ExecutionIntervention TAction TReason) (held : state.active = some active)
      (same : active.id = id) (status : active.status = .humanActive) (epoch : since ≤ state.epoch)
  | verifying (active completion : ExecutionIntervention TAction TReason)
      (held : state.active = some active) (same : active.id = id)
      (status : active.status = .verifying) (fenced : since < active.epoch)
      (epoch : active.epoch ≤ state.epoch)
      (order : [((.markHumanComplete id, .ok (.intervention completion)) :
        HandoffCall TAction TReason)].Sublist calls)
  | ready (active completion verified : ExecutionIntervention TAction TReason)
      (held : state.active = some active) (same : active.id = id)
      (status : active.status = .readyToResume) (fenced : since < active.epoch)
      (epoch : active.epoch ≤ state.epoch)
      (order :
        [((.markHumanComplete id, .ok (.intervention completion)) : HandoffCall TAction TReason),
          (.markVerified id, .ok (.intervention verified))].Sublist calls)
  | ended (regained : Regained since id calls) (epoch : since < state.epoch)

theorem Regained.later (regained : Regained since id calls)
    (more : List (HandoffCall TAction TReason)) : Regained since id (calls ++ more) := by
  cases regained with
  | resumed completion verified decision fenced order =>
      exact .resumed completion verified decision fenced
        (order.trans (sublist_append_left _ _))
  | cancelled mem => exact .cancelled (mem_append_left _ mem)

theorem Phase.step {state next : ExecutionHandoffState TAction TReason}
    {call : HandoffCall TAction TReason} (phase : Phase since id calls state)
    (step : HandoffStep config state call next) : Phase since id (calls ++ [call]) next := by
  have transition := step.transition
  have earlier := transition.epoch_le
  obtain ⟨op, outcome⟩ := call
  cases phase with
  | ended regained epoch => exact .ended (regained.later _) (Nat.lt_of_lt_of_le epoch earlier)
  | human active held same status epoch =>
      cases transition with
      | begun input idle => simp [held] at idle
      | asserted idle => simp [held] at idle
      | rejected | kept | reclaimed => exact .human active held same status epoch
      | advanced => exact .human active held same status (Nat.le_succ_of_le epoch)
      | claimed current found other | returned current found other
      | verified current found other | resumed current found other =>
          cases held.symm.trans found
          simp [status] at other
      | completed current found _ time =>
          cases held.symm.trans found
          cases same
          exact .verifying _ _ rfl rfl rfl (Nat.lt_succ_of_le epoch) (Nat.le_refl _)
            (sublist_append_right _ _)
      | cancelled current found =>
          cases held.symm.trans found
          cases same
          exact .ended (.cancelled (mem_append_right _ (mem_singleton_self _)))
            (Nat.lt_succ_of_le epoch)
  | verifying active completion held same status fenced epoch order =>
      have later := order.trans (sublist_append_left calls [(op, outcome)])
      cases transition with
      | begun input idle => simp [held] at idle
      | asserted idle => simp [held] at idle
      | rejected | kept => exact .verifying active completion held same status fenced epoch later
      | advanced =>
          exact .verifying active completion held same status fenced (Nat.le_succ_of_le epoch) later
      | reclaimed current found other | completed current found other
      | resumed current found other =>
          cases held.symm.trans found
          simp [status] at other
      | claimed current found | returned current found =>
          cases held.symm.trans found
          exact .human _ rfl same rfl (Nat.le_of_lt (Nat.lt_of_lt_of_le fenced epoch))
      | verified current found =>
          cases held.symm.trans found
          cases same
          exact .ready _ completion _ rfl rfl rfl fenced epoch
            (order.append (List.Sublist.refl _))
      | cancelled current found =>
          cases held.symm.trans found
          cases same
          exact .ended (.cancelled (mem_append_right _ (mem_singleton_self _)))
            (Nat.lt_succ_of_lt (Nat.lt_of_lt_of_le fenced epoch))
  | ready active completion verified held same status fenced epoch order =>
      have later := order.trans (sublist_append_left calls [(op, outcome)])
      cases transition with
      | begun input idle => simp [held] at idle
      | asserted idle => simp [held] at idle
      | rejected | kept => exact .ready active completion verified held same status fenced epoch later
      | advanced =>
          exact .ready active completion verified held same status fenced (Nat.le_succ_of_le epoch)
            later
      | reclaimed current found other | completed current found other
      | returned current found other | verified current found other =>
          cases held.symm.trans found
          simp [status] at other
      | claimed current found other =>
          cases held.symm.trans found
          simp [status] at other
      | resumed current found =>
          cases held.symm.trans found
          cases same
          have resumed := order.append (List.Sublist.refl [(.resumeAgent active.id,
            .ok (.decision ⟨active.action, active.resumePolicy, active.epoch⟩))])
          exact .ended (.resumed completion verified _ fenced resumed)
            (Nat.lt_of_lt_of_le fenced epoch)
      | cancelled current found =>
          cases held.symm.trans found
          cases same
          exact .ended (.cancelled (mem_append_right _ (mem_singleton_self _)))
            (Nat.lt_succ_of_lt (Nat.lt_of_lt_of_le fenced epoch))

theorem Phase.run {first last : ExecutionHandoffState TAction TReason}
    {more : List (HandoffCall TAction TReason)} (phase : Phase since id calls first)
    (run : HandoffRun config first more last) : Phase since id (calls ++ more) last := by
  induction run generalizing calls with
  | refl => rwa [append_nil]
  | step head _ ih =>
      rw [append_cons]
      exact ih (phase.step head)

end Regaining

theorem HandoffRun.consistent {first last : ExecutionHandoffState TAction TReason}
    {calls : List (HandoffCall TAction TReason)} (run : HandoffRun config first calls last)
    (inv : Consistent first) : Consistent last :=
  run.invariant (fun step => step.transition.consistent) inv

theorem getAuthority_agent {state : ExecutionHandoffState TAction TReason} :
    state.getAuthority = .agent ↔ state.active = none := by
  unfold getAuthority
  split
  · rename_i idle
    simp [idle]
  · rename_i active held
    split <;> simp [held]

theorem getAuthority_human {state : ExecutionHandoffState TAction TReason} :
    state.getAuthority = .human ↔
      ∃ active, state.active = some active ∧ active.status = .humanActive := by
  unfold getAuthority
  split
  · rename_i idle
    simp [idle]
  · rename_i active held
    split <;> simp_all

/-- Authority in every reachable state, what each call does to it, and how the agent gets it back
after the Human was active. -/
theorem run_handoff_authority {calls : List (HandoffCall TAction TReason)}
    {state : ExecutionHandoffState TAction TReason} (reached : HandoffRun config initial calls state) :
    (state.getAuthority = .agent ↔ state.active = none) ∧
      (state.getAuthority = .human ↔
        ∃ active, state.active = some active ∧ active.status = .humanActive) ∧
      (∀ active, state.active = some active →
        (active.authority = .human ↔ active.status = .humanActive) ∧
          active.epoch ≤ state.epoch) ∧
      (∀ call next, HandoffStep config state call next →
        state.epoch ≤ next.epoch ∧
          (Transition.fences state call.1 = true → (∃ reply, call.2 = .ok reply) →
            state.epoch < next.epoch) ∧
          (∀ intervention, next.active = some intervention →
            intervention.status = .readyToResume →
            state.active = some intervention ∨
              ∃ active, state.active = some active ∧ active.id = intervention.id ∧
                active.status = .verifying ∧ call.1 = .markVerified active.id) ∧
          ((∃ error, call.2 = .error error) → next = state)) ∧
      ∀ more last active, HandoffRun config state more last → state.active = some active →
        active.status = .humanActive → last.getAuthority = .agent →
        Regained state.epoch active.id more ∧ state.epoch < last.epoch := by
  have inv : Consistent state := reached.consistent initial_consistent
  refine ⟨getAuthority_agent, getAuthority_human, ?_, ?_, ?_⟩
  · exact fun active held => ⟨inv.authority active held, inv.epoch active held⟩
  · intro call next step
    have transition := step.transition
    refine ⟨transition.epoch_le, ?_, ?_, ?_⟩
    · rintro fencing ⟨reply, accepted⟩
      exact transition.epoch_lt fencing accepted
    · exact fun intervention held status => transition.ready held status
    · rintro ⟨error, refused⟩
      exact transition.unchanged refused
  · intro more last active run held status agent
    have idle := getAuthority_agent.mp agent
    have start : Phase state.epoch active.id [] state :=
      .human active held rfl status (Nat.le_refl _)
    have phase : Phase state.epoch active.id more last := start.run run
    cases phase with
    | ended regained epoch => exact ⟨regained, epoch⟩
    | human _ found | verifying _ _ found | ready _ _ _ found =>
        rw [idle] at found
        cases found

/-! ## Calls that are accepted -/

section Accepted

variable {state : ExecutionHandoffState TAction TReason}
  {active : ExecutionIntervention TAction TReason}

theorem requireActive_ok (held : state.active = some active) :
    requireActive active.id state = (.ok active, state) := by
  have required : Ensures (requireActive active.id) state fun result after =>
      result = .ok active ∧ after = state := by
    apply reading
    rw [held]
    apply Ensures.require
    · exact fun other => absurd other (by simp)
    · exact fun _ => .pure ⟨rfl, rfl⟩
  exact Prod.ext required.1 required.2

theorem requireStatus_ok {expected : InterventionStatus} (status : active.status = expected) :
    requireStatus active expected state = (.ok (), state) := by
  unfold requireStatus StateExcept.require
  rw [if_pos (decide_eq_true status)]
  rfl

/-- The call is accepted. -/
def Accepted {α : Type} (result : Except ExecutionHandoffError α)
    (_ : ExecutionHandoffState TAction TReason) : Prop :=
  ∃ value, result = .ok value

theorem cancel_accepted (held : state.active = some active) :
    Ensures (cancel active.id) state Accepted := by
  apply running (requireActive_ok held)
  exact ⟨(), rfl⟩

theorem markHumanComplete_accepted (held : state.active = some active)
    (status : active.status = .humanActive) :
    Ensures (markHumanComplete config active.id) state Accepted := by
  apply running (requireActive_ok held)
  apply running (requireStatus_ok status)
  exact ⟨_, rfl⟩

end Accepted

/-! ## A sample intervention -/

def sampleHandoffConfig : HandoffConfig where
  now := fun reads => reads
  createId := fun count => "intervention-" ++ toString count

/-- The agent runs into a sign-in page, and a Human takes over. -/
def sampleTakeover : List (HandoffOp String String) :=
  [.begin ⟨"sign_in", some "search", .replaySafe⟩, .claimHuman "intervention-0"]

def sampleReturn : List (HandoffOp String String) :=
  [.markHumanComplete "intervention-0", .markVerified "intervention-0",
    .resumeAgent "intervention-0"]

def sampleHumanActive : ExecutionHandoffState String String :=
  (replayCalls (perform sampleHandoffConfig) initial sampleTakeover).2

def sampleResumed : List (HandoffCall String String) × ExecutionHandoffState String String :=
  replayCalls (perform sampleHandoffConfig) sampleHumanActive sampleReturn

theorem sampleResumed_regained :
    Regained 1 "intervention-0" sampleResumed.1 ∧ 1 < sampleResumed.2.epoch := by
  have reached : HandoffRun sampleHandoffConfig initial _ sampleHumanActive :=
    replayCalls_run _ initial sampleTakeover
  have returned : HandoffRun sampleHandoffConfig sampleHumanActive sampleResumed.1
      sampleResumed.2 :=
    replayCalls_run _ sampleHumanActive sampleReturn
  obtain ⟨active, held, same, status⟩ : ∃ active, sampleHumanActive.active = some active ∧
      active.id = "intervention-0" ∧ active.status = .humanActive :=
    ⟨_, rfl, by decide⟩
  obtain ⟨_, _, _, _, regained⟩ := run_handoff_authority reached
  exact same ▸ regained _ _ active returned held status (by decide)

end ExecutionHandoffState

end ExecutionHandoff.Core
