import ExecutionHandoff.Experimental.TerminalResync

/-!
# The calls of the terminal gate

For each call of the gate that an adapter relies on: where it leaves the
intervention in progress and the session's life, and when it is accepted.
-/

namespace ExecutionHandoff.Experimental

open Library ExecutionHandoff.Core
open StateExcept hiding read update
open ExecutionHandoffState (Transition Accepted cancel_accepted markHumanComplete
  markHumanComplete_accepted)
open Ensures (reading updating running)

namespace TerminalPtyAuthority

variable {config : TerminalPtyConfig} {authority : TerminalPtyAuthority}
  {binding : TerminalPtyBinding} {id : String} {epoch : Int}

/-- The hand-off state and the session's life are as before. -/
structure SameStanding (first last : TerminalPtyAuthority) : Prop where
  state : last.state = first.state
  alive : last.sessionAlive = first.sessionAlive

theorem SameStanding.refl (authority : TerminalPtyAuthority) : SameStanding authority authority :=
  ⟨rfl, rfl⟩

/-- The epoch of the intervention in progress was already handed out. -/
def Dated (authority : TerminalPtyAuthority) : Prop :=
  ∀ active, authority.state.active = some active → active.epoch ≤ authority.state.epoch

/-- An accepted call has these consequences; a refused one leaves the standing as it was. -/
structure Outcome {α : Type} (first : TerminalPtyAuthority) (accepted : α → TerminalPtyAuthority → Prop)
    (result : Except TerminalPtyError α) (last : TerminalPtyAuthority) : Prop where
  refused : ∀ error, result = .error error → SameStanding first last
  accepted : ∀ value, result = .ok value → accepted value last

theorem Outcome.error {α : Type} {first last : TerminalPtyAuthority}
    {accepted : α → TerminalPtyAuthority → Prop} {error : TerminalPtyError}
    (same : SameStanding first last) : Outcome first accepted (.error error) last :=
  ⟨fun _ _ => same, fun _ no => by cases no⟩

theorem Outcome.ok {α : Type} {first last : TerminalPtyAuthority}
    {accepted : α → TerminalPtyAuthority → Prop} {value : α} (holds : accepted value last) :
    Outcome first accepted (.ok value) last := by
  refine ⟨fun _ no => (by cases no), ?_⟩
  rintro _ ⟨⟩
  exact holds

/-! ## Checks -/

theorem requireSession_ok {requireAlive : Bool} (same : matchesSession config binding = true)
    (alive : requireAlive = true → authority.sessionAlive = true) :
    requireSession config binding requireAlive authority = (.ok (), authority) := by
  have required : Ensures (requireSession config binding requireAlive) authority
      fun result after => result = .ok () ∧ after = authority := by
    unfold matchesSession at same
    unfold requireSession
    split
    · rename_i failed
      rw [failed] at same
      cases same
    · rename_i normalized passed
      rw [passed] at same
      apply Ensures.require
      · exact fun other => absurd (same.symm.trans other) (by simp)
      intro _
      apply reading
      unfold StateExcept.require
      cases requireAlive with
      | false => exact ⟨rfl, rfl⟩
      | true =>
          rw [alive rfl]
          exact ⟨rfl, rfl⟩
  exact Prod.ext required.1 required.2

theorem requireIntervention_ok {status : InterventionStatus} {active : TerminalIntervention}
    (named : Names authority id epoch status active) :
    requireIntervention id epoch status authority = (.ok active, authority) := by
  have required : Ensures (requireIntervention id epoch status) authority
      fun result after => result = .ok active ∧ after = authority := by
    unfold requireIntervention
    apply reading
    rw [named.held]
    apply Ensures.require
    · intro other
      rw [named.id, named.epoch, named.status] at other
      simp at other
    · exact fun _ => .pure ⟨rfl, rfl⟩
  exact Prod.ext required.1 required.2

/-- An accepted call of the hand-off state. -/
theorem onState_accepted {α : Type} {op : HandoffOp Empty TerminalReason}
    {action : HandoffM Empty TerminalReason α} {reply : α → HandoffReply Empty TerminalReason}
    (spec : Ensures (action >>= fun value => pure (reply value)) authority.state
      (Transition authority.state op))
    (accepted : Ensures action authority.state Accepted) :
    ∃ value state, onState action authority = (.ok value, { authority with state }) ∧
      Transition authority.state op (.ok (reply value)) state := by
  have transition := spec.unmapping
  unfold Ensures at transition accepted
  obtain ⟨value, same⟩ := accepted
  cases outcome : action authority.state with
  | mk result state =>
      rw [outcome] at transition same
      cases same
      refine ⟨value, state, ?_, transition⟩
      unfold onState
      rw [outcome]

theorem matchesSession_supplied (config : TerminalPtyConfig) :
    matchesSession config config.supplied = true := by
  unfold matchesSession
  rw [config.normalized]
  exact decide_eq_true rfl

/-! ## Fences -/

/-- An intervention that waits for a Human was begun for a live session. -/
structure Begun (first : TerminalPtyAuthority) (intervention : TerminalIntervention)
    (last : TerminalPtyAuthority) : Prop where
  idle : first.state.active = none
  alive : first.sessionAlive = true
  held : last.state.active = some intervention
  waits : intervention.status = .awaitingHuman
  epoch : intervention.epoch = last.state.epoch
  later : first.state.epoch < last.state.epoch
  living : last.sessionAlive = true

theorem beginFence_spec (idle : authority.state.active = none) :
    Ensures (beginFence config binding) authority
      (Outcome authority (Begun authority)) := by
  apply ensures_requireSession
  · exact fun _ => .error (.refl authority)
  intro _ alive
  have begun := @onState_ran _ authority _ _ _ (@ExecutionHandoffState.perform_transition _ _
    config.toHandoffConfig authority.state (.begin ⟨.terminalPty, none, .neverReplay⟩))
  apply begun.bind
  · rintro error _ rfl
    exact .error (.refl _)
  · rintro intervention _ ⟨state, rfl, transition⟩
    apply updating
    apply Ensures.pure
    refine .ok ?_
    cases transition with
    | begun _ _ id time =>
        exact ⟨idle, alive rfl, rfl, rfl, rfl, Nat.lt_succ_self _, alive rfl⟩
    | kept _ _ held => cases idle.symm.trans held

structure Claimed (id : String) (epoch : Int) (first : TerminalPtyAuthority)
    (human : TerminalIntervention) (last : TerminalPtyAuthority) : Prop where
  waited : ∃ active, Names first id epoch .awaitingHuman active
  named : Names last id epoch .humanActive human
  same : last.state.epoch = first.state.epoch
  alive : last.sessionAlive = first.sessionAlive

theorem claimHumanAfterAgentDrain_spec :
    Ensures (claimHumanAfterAgentDrain config binding id epoch) authority
      (Outcome authority (Claimed id epoch authority)) := by
  apply ensures_requireSession
  · exact fun _ => .error (.refl authority)
  intro _ _
  apply ensures_requireIntervention
  · exact fun _ => .error (.refl authority)
  intro active named
  apply updating
  have claimed := @onState_ran _ { authority with humanDisconnected := false } _ _ _
    (@ExecutionHandoffState.perform_transition _ _ config.toHandoffConfig authority.state
      (.claimHuman id))
  apply claimed.mono
  rintro (error | human) after ran
  · cases ran
    exact .error ⟨rfl, rfl⟩
  · obtain ⟨state, rfl, transition⟩ := ran
    refine .ok ?_
    cases transition with
    | reclaimed current held human =>
        cases named.held.symm.trans held
        cases named.status.symm.trans human
    | claimed current held _ time =>
        cases named.held.symm.trans held
        exact ⟨⟨active, named⟩, ⟨rfl, named.id, named.epoch, rfl⟩, rfl, rfl⟩

structure Cancelled (id : String) (epoch : Int) (first last : TerminalPtyAuthority) : Prop where
  waited : ∃ active, Names first id epoch .awaitingHuman active
  idle : last.state.active = none
  later : first.state.epoch ≤ last.state.epoch
  alive : last.sessionAlive = first.sessionAlive

theorem cancelBeforeHuman_spec :
    Ensures (cancelBeforeHuman config binding id epoch) authority
      (Outcome authority fun _ => Cancelled id epoch authority) := by
  apply ensures_requireSession
  · exact fun _ => .error (.refl authority)
  intro _ _
  apply ensures_requireIntervention
  · exact fun _ => .error (.refl authority)
  intro active named
  have cancelled := @onState_ran _ authority _ _ _ (@ExecutionHandoffState.perform_transition _ _
    config.toHandoffConfig authority.state (.cancel active.id))
  apply cancelled.bind
  · rintro error _ rfl
    exact .error (.refl _)
  · rintro _ _ ⟨state, rfl, transition⟩
    apply updating
    apply reading
    apply Ensures.pure
    exact .ok ⟨⟨active, named⟩, transition.cancellation.2, transition.epoch_le, rfl⟩

theorem cancelBeforeHuman_accepted (same : matchesSession config binding = true)
    (alive : authority.sessionAlive = true) {active : TerminalIntervention}
    (named : Names authority id epoch .awaitingHuman active) :
    Ensures (cancelBeforeHuman config binding id epoch) authority
      fun result _ => ∃ status, result = .ok status := by
  apply running (requireSession_ok same fun _ => alive)
  apply running (requireIntervention_ok named)
  obtain ⟨_, state, ran, _⟩ := onState_accepted (@ExecutionHandoffState.perform_transition _ _
    config.toHandoffConfig authority.state (.cancel active.id))
    (cancel_accepted named.held)
  apply running ran
  exact ⟨_, rfl⟩

structure Completed (id : String) (epoch : Int) (first : TerminalPtyAuthority)
    (verifying : TerminalIntervention) (last : TerminalPtyAuthority) : Prop where
  human : ∃ active, Names first id epoch .humanActive active
  held : last.state.active = some verifying
  status : verifying.status = .verifying
  epoch : verifying.epoch = last.state.epoch
  later : first.state.epoch < last.state.epoch
  alive : last.sessionAlive = first.sessionAlive

theorem markHumanDoneFence_spec :
    Ensures (markHumanDoneFence config binding id epoch) authority
      (Outcome authority (Completed id epoch authority)) := by
  apply ensures_requireSession
  · exact fun _ => .error (.refl authority)
  intro _ _
  apply ensures_requireIntervention
  · exact fun _ => .error (.refl authority)
  intro active named
  have completed := @onState_ran _ authority _ _ _ (@ExecutionHandoffState.perform_transition _ _
    config.toHandoffConfig authority.state (.markHumanComplete id))
  apply completed.bind
  · rintro error _ rfl
    exact .error (.refl _)
  · rintro verifying _ ⟨state, rfl, transition⟩
    apply updating
    apply Ensures.pure
    refine .ok ?_
    cases transition with
    | completed current held status time =>
        exact ⟨⟨active, named⟩, rfl, rfl, rfl, Nat.lt_succ_self _, rfl⟩

theorem markHumanDoneFence_accepted (same : matchesSession config binding = true)
    {active : TerminalIntervention} (named : Names authority id epoch .humanActive active) :
    Ensures (markHumanDoneFence config binding id epoch) authority
      fun result _ => ∃ verifying, result = .ok verifying := by
  apply running (requireSession_ok same fun no => by cases no)
  apply running (requireIntervention_ok named)
  have accepted : Ensures
      (markHumanComplete config.toHandoffConfig id) authority.state
      Accepted :=
    named.id ▸ markHumanComplete_accepted named.held named.status
  obtain ⟨_, state, ran, _⟩ := onState_accepted (@ExecutionHandoffState.perform_transition _ _
    config.toHandoffConfig authority.state (.markHumanComplete id)) accepted
  apply running ran
  exact ⟨_, rfl⟩

/-! ## Assertions and flags -/

theorem assertHumanInput_spec :
    Ensures (assertHumanInput config binding id epoch) authority fun result after =>
      after = authority ∧ ∀ value, result = .ok value →
        ∃ active, Names authority id epoch .humanActive active := by
  apply ensures_requireSession
  · exact fun _ => ⟨rfl, fun _ no => by cases no⟩
  intro _ _
  apply ensures_requireIntervention
  · exact fun _ => ⟨rfl, fun _ no => by cases no⟩
  intro active named
  exact .pure ⟨rfl, fun _ _ => ⟨active, named⟩⟩

theorem noteHumanDisconnect_spec :
    Ensures (noteHumanDisconnect config binding id epoch) authority
      fun _ => SameStanding authority := by
  apply assertHumanInput_spec.bind
  · rintro _ _ ⟨rfl, _⟩
    exact .refl _
  · rintro _ _ ⟨rfl, _⟩
    exact .updating (.reading (.pure ⟨rfl, rfl⟩))

theorem assertAgent_spec (error : TerminalPtyError) :
    Ensures (assertAgent config error binding) authority
      fun _ => SameStanding authority :=
  ⟨(assertAgent_undecided authority error binding).1, (assertAgent_steady authority binding error).1⟩

theorem acknowledge_spec :
    Ensures (acknowledgeAgentStateSynchronization config binding) authority
      fun _ => SameStanding authority := by
  apply ensures_requireSession
  · exact fun _ => .refl authority
  intro _ _
  apply reading
  apply Ensures.require
  · exact fun _ => .refl authority
  · exact fun _ => .update ⟨rfl, rfl⟩

/-! ## Verification -/

theorem confirmHumanWritesDrained_spec :
    Ensures (confirmHumanWritesDrained config binding id epoch) authority
      fun _ => SameStanding authority := by
  apply ensures_requireSession
  · exact fun _ => .refl authority
  intro _ _
  apply ensures_requireIntervention
  · exact fun _ => .refl authority
  · exact fun _ _ => .updating (.pure ⟨rfl, rfl⟩)

/-- The intervention goes on from verification, or ends. -/
structure Verified (first last : TerminalPtyAuthority) : Prop where
  past : ∃ active, first.state.active = some active ∧
    (active.status = .verifying ∨ active.status = .readyToResume)
  next : ∀ active, last.state.active = some active → active.status = .readyToResume
  same : last.state.epoch = first.state.epoch
  alive : last.sessionAlive = first.sessionAlive
  dated : Dated first → Dated last

theorem reportVerification_spec (satisfied : Bool) :
    Ensures (reportVerification config binding id epoch satisfied) authority
      fun _ after => SameStanding authority after ∨ Verified authority after := by
  have same := SameStanding.refl authority
  apply ensures_requireSession
  · exact fun _ => .inl same
  intro _ _
  apply ensures_requireIntervention
  · exact fun _ => .inl same
  intro active named
  apply reading
  apply Ensures.require
  · exact fun _ => .inl same
  intro _
  cases satisfied with
  | false => exact .pure (.inl same)
  | true =>
      apply onState_transition (@ExecutionHandoffState.perform_transition _ _
        config.toHandoffConfig authority.state (.markVerified id))
      · exact fun _ => .inl same
      · intro verified state transition
        refine .inr ?_
        cases transition with
        | verified current held status =>
            refine ⟨⟨current, held, .inl status⟩, ?_, rfl, rfl, fun dated => ?_⟩
            · rintro _ ⟨⟩
              rfl
            · rintro _ ⟨⟩
              exact dated current held

theorem resumeAgent_spec :
    Ensures (resumeAgent config binding id epoch) authority
      fun _ after => SameStanding authority after ∨ Verified authority after := by
  have same := SameStanding.refl authority
  apply ensures_requireSession
  · exact fun _ => .inl same
  intro _ _
  apply ensures_requireIntervention
  · exact fun _ => .inl same
  intro active named
  have resumed := @onState_ran _ authority _ _ _ (@ExecutionHandoffState.perform_transition _ _
    config.toHandoffConfig authority.state (.resumeAgent id))
  apply resumed.bind
  · rintro _ _ rfl
    exact .inl same
  · rintro decision _ ⟨state, rfl, transition⟩
    apply reading
    apply Ensures.pure
    refine .inr ?_
    cases transition with
    | resumed current held status =>
        exact ⟨⟨current, held, .inr status⟩, fun _ no => (by cases no), rfl, rfl,
          fun _ _ no => by cases no⟩

/-! ## The exit of the session -/

structure Exited (first last : TerminalPtyAuthority) : Prop where
  dead : last.sessionAlive = false
  past : ∀ active, last.state.active = some active →
    active.status ≠ .awaitingHuman ∧ active.status ≠ .humanActive
  later : first.state.epoch ≤ last.state.epoch
  dated : Dated first → Dated last

theorem settleExit_spec :
    Ensures (settleExit config) authority fun result after =>
      result = .ok () ∧ after.sessionAlive = authority.sessionAlive ∧
        authority.state.epoch ≤ after.state.epoch ∧
        (∀ active, after.state.active = some active →
          active.status ≠ .awaitingHuman ∧ active.status ≠ .humanActive) ∧
        (Dated authority → Dated after) := by
  apply reading
  split
  · rename_i idle
    refine .pure ⟨rfl, rfl, Nat.le_refl _, fun active held => ?_, fun dated => dated⟩
    cases idle.symm.trans held
  · rename_i active held
    split
    · obtain ⟨_, state, ran, transition⟩ := onState_accepted
        (@ExecutionHandoffState.perform_transition _ _ config.toHandoffConfig authority.state
          (.cancel active.id)) (cancel_accepted held)
      apply running ran
      refine .update ⟨rfl, rfl, transition.epoch_le, fun active' held' => ?_,
        fun _ active' held' => ?_⟩
      · cases transition.cancellation.2.symm.trans held'
      · cases transition.cancellation.2.symm.trans held'
    · rename_i notWaiting
      split
      · rename_i human
        obtain ⟨verifying, state, ran, transition⟩ := onState_accepted
          (@ExecutionHandoffState.perform_transition _ _ config.toHandoffConfig authority.state
            (.markHumanComplete active.id))
          (markHumanComplete_accepted held human)
        apply running ran
        obtain ⟨_, _, _, _, next, _, status⟩ := transition.completion
        refine .update ⟨rfl, rfl, transition.epoch_le, fun active' held' => ?_, fun _ => ?_⟩
        · cases next.symm.trans held'
          rw [status]
          exact ⟨by decide, by decide⟩
        · intro active' held'
          cases next.symm.trans held'
          exact Nat.le_of_eq transition.completion_epoch
      · rename_i notHuman
        refine .pure ⟨rfl, rfl, Nat.le_refl _, fun active' held' => ?_, fun dated => dated⟩
        cases held.symm.trans held'
        exact ⟨notWaiting, notHuman⟩

theorem noteSessionExit_spec :
    Ensures (noteSessionExit config binding) authority fun result after =>
      SameStanding authority after ∧
          ((∃ error, result = .error error) ∨ authority.sessionAlive = false) ∨
        Exited authority after ∧ ∃ status, result = .ok status := by
  apply ensures_requireSession
  · exact fun error => .inl ⟨.refl authority, .inl ⟨error, rfl⟩⟩
  intro _ _
  apply reading
  split
  · apply updating
    apply settleExit_spec.bind
    · rintro error after ⟨no, _⟩
      cases no
    · rintro _ after ⟨_, alive, later, past, dated⟩
      apply updating
      exact .reading (.pure (.inr ⟨⟨alive, past, later, dated⟩, _, rfl⟩))
  · rename_i dead
    exact .reading (.pure (.inl ⟨.refl authority, .inr (eq_false_of_ne_true dead)⟩))

end TerminalPtyAuthority

end ExecutionHandoff.Experimental
