import ExecutionHandoff.Core.LifecycleAuthority
import ExecutionHandoff.Hosted.ChannelSteps
import ExecutionHandoff.Hosted.LifecycleRoute
import ExecutionHandoff.Hosted.RegistryRevival

/-!
# Revocation before termination

A call of the lifecycle advances the hand-off state only after its revocation
has released the route, its hook has succeeded and its message is delivered.
The route is dead from the first such release on, so no two calls succeed.
-/

namespace ExecutionHandoff.Hosted

open Library Core Option
open OrderedMap (get?_set_ne get?_set_self get?_of_get?_delete get?_delete_ne get?_delete_self)
open ExecutionHandoffState (perform Transition perform_transition)
open OrderedMap (delete set)
open HostedWorkerRegistry (Dead initial_invariant)

namespace ControlPlane

variable {clock : Nat → Int} {plane after : ControlPlane}

/-! ## One revocation -/

/-- The revocation went through: released, propagated and delivered. -/
structure Revoked (plane : ControlPlane) (call : Nat) (lease : HostedWorkerRouteLease) :
    Prop where
  released : .released call lease ∈ plane.log
  propagated : .propagated call ∈ plane.log
  delivered : .delivered call ∈ plane.log

/-- What is known of a revocation at an await, by the await. -/
def StageFacts (log : List ChannelFact) (call : Nat) (lease : HostedWorkerRouteLease) :
    ChannelStage → Prop
  | .revoking route => route = lease ∧ .released call lease ∈ log
  | .sendingRevoke _ propagationOk =>
      .released call lease ∈ log ∧ (propagationOk = true → .propagated call ∈ log)
  | .invalidating _ ending | .closing ending =>
      ∃ propagationOk, ending = .revokeFailed propagationOk
  | .opening | .binding _ => False

/-- A revocation that was started: it waits, has failed, or went through. -/
inductive Revocation (plane : ControlPlane) (call : Nat) (lease : HostedWorkerRouteLease) :
    Prop where
  | waiting {id : Nat} {stage : ChannelStage}
      (waiting : plane.calls.get? call = some ⟨id, stage⟩)
      (unanswered : plane.answers.get? call = none)
      (facts : StageFacts plane.log call lease stage)
  | failed {error : HostedWorkerChannelError} (ended : plane.calls.get? call = none)
      (answered : plane.answers.get? call = some (.error error))
  | done (ended : plane.calls.get? call = none)
      (answered : plane.answers.get? call = some (.ok .done)) (revoked : Revoked plane call lease)

theorem Revoked.mono {call : Nat} {lease : HostedWorkerRouteLease}
    (revoked : Revoked plane call lease) {facts : List ChannelFact}
    (log : after.log = facts ++ plane.log) : Revoked after call lease := by
  obtain ⟨released, propagated, delivered⟩ := revoked
  constructor
  · rw [log]
    exact List.mem_append_right _ released
  · rw [log]
    exact List.mem_append_right _ propagated
  · rw [log]
    exact List.mem_append_right _ delivered

theorem StageFacts.mono {log : List ChannelFact} {call : Nat} {lease : HostedWorkerRouteLease}
    {stage : ChannelStage} (known : StageFacts log call lease stage)
    (facts : List ChannelFact) : StageFacts (facts ++ log) call lease stage := by
  cases stage with
  | revoking => exact ⟨known.1, List.mem_append_right _ known.2⟩
  | sendingRevoke =>
      exact ⟨List.mem_append_right _ known.1, fun sent => List.mem_append_right _ (known.2 sent)⟩
  | invalidating | closing | opening | binding => exact known

/-- A step that does not settle the call. -/
theorem Revocation.frame {call : Nat} {lease : HostedWorkerRouteLease}
    (revocation : Revocation plane call lease)
    (calls : after.calls.get? call = plane.calls.get? call)
    (answers : after.answers.get? call = plane.answers.get? call)
    (log : ∃ facts, after.log = facts ++ plane.log) : Revocation after call lease := by
  obtain ⟨facts, log⟩ := log
  cases revocation with
  | waiting waiting unanswered known =>
      refine .waiting (calls.trans waiting) (answers.trans unanswered) ?_
      rw [log]
      exact known.mono facts
  | failed ended answered => exact .failed (calls.trans ended) (answers.trans answered)
  | done ended answered revoked =>
      exact .done (calls.trans ended) (answers.trans answered) (revoked.mono log)

variable {id : Nat} {channel : HostedWorkerControlChannel} {event : ChannelEvent}

/-- A revocation that waits knows what its stage says. -/
theorem Revocation.stage {call : Nat} {lease : HostedWorkerRouteLease} {stage : ChannelStage}
    (revocation : Revocation plane call lease)
    (waiting : plane.calls.get? call = some ⟨id, stage⟩) :
    plane.answers.get? call = none ∧ StageFacts plane.log call lease stage := by
  cases revocation with
  | waiting stored unanswered known =>
      cases waiting.symm.trans stored
      exact ⟨unanswered, known⟩
  | failed ended | done ended =>
      rw [ended] at waiting
      cases waiting

theorem failed_of_answer {base : ControlPlane} {call : Nat} {lease : HostedWorkerRouteLease}
    (error : HostedWorkerChannelError) : Revocation (base.answer call (.error error)) call lease :=
  .failed (get?_delete_self _ _) (get?_set_self _ _ _)

/-- Fencing a channel touches no call and no answer. -/
theorem Fencing.calls {result : Except HostedWorkerRegistryError (List HostedWorkerRouteLease)}
    {middle : ControlPlane} (fencing : Fencing plane id channel (result, middle)) :
    middle.calls = plane.calls ∧ middle.answers = plane.answers := by
  cases fencing <;> exact ⟨rfl, rfl⟩

theorem answer_frame {call other : Nat} {result : ChannelAnswer} (ne : call ≠ other)
    (calls : after.calls = plane.calls.delete other)
    (answers : after.answers = plane.answers.set other result) :
    after.calls.get? call = plane.calls.get? call ∧
      after.answers.get? call = plane.answers.get? call := by
  rw [calls, answers]
  exact ⟨get?_delete_ne _ ne, get?_set_ne _ _ ne⟩

theorem await_frame {call other : Nat} {pending : ChannelCall} (ne : call ≠ other)
    (calls : after.calls = plane.calls.set other pending)
    (answers : after.answers = plane.answers) :
    after.calls.get? call = plane.calls.get? call ∧
      after.answers.get? call = plane.answers.get? call := by
  rw [calls, answers]
  exact ⟨get?_set_ne _ _ ne, rfl⟩

theorem Fences.call_ne {base : ControlPlane} {fencer call : Nat}
    {reason : HostedWorkerRouteInvalidationReason}
    {ending : List HostedWorkerRouteLease → Ending}
    (fences : Fences plane event base fencer id channel reason ending)
    (given : call < plane.started)
    (settled : ∀ succeeded, event = .settle call succeeded → plane.calls.get? call = none) :
    call ≠ fencer := by
  cases fences with
  | disconnecting => exact Nat.ne_of_lt given
  | bindFailed waiting | revokeFailed waiting =>
      rintro rfl
      rw [settled _ rfl] at waiting
      cases waiting

/-- An event leaves every call alone that it does not settle. -/
theorem Effect.others (effect : Effect plane event after) {call : Nat}
    (given : call < plane.started)
    (settled : ∀ succeeded, event = .settle call succeeded → plane.calls.get? call = none) :
    after.calls.get? call = plane.calls.get? call ∧
      after.answers.get? call = plane.answers.get? call := by
  have new : call ≠ plane.started := Nat.ne_of_lt given
  have other : ∀ {waiter : Nat} {pending : ChannelCall} {succeeded : Bool},
      plane.calls.get? waiter = some pending → event = .settle waiter succeeded →
      call ≠ waiter := by
    rintro waiter pending succeeded waiting same rfl
    rw [settled succeeded same] at waiting
    cases waiting
  cases effect with
  | refused | redundant => exact answer_frame new rfl rfl
  | opening | bound | revoked => exact await_frame new rfl rfl
  | openRefused waiting _ fencing =>
      obtain ⟨calls, answers⟩ := fencing.calls
      exact answer_frame (other waiting rfl) (congrArg (delete · _) calls)
        (congrArg (set · _ _) answers)
  | openFailed waiting _ fencing =>
      obtain ⟨calls, answers⟩ := fencing.calls
      exact await_frame (other waiting rfl) (congrArg (set · _ _) calls) answers
  | fenceRefused fences fencing =>
      have ne := fences.call_ne given settled
      obtain ⟨started, rfl⟩ := fences.base_eq
      obtain ⟨calls, answers⟩ := fencing.calls
      exact answer_frame ne (congrArg (delete · _) calls)
        (congrArg (set · _ _) answers)
  | fenced fences fencing =>
      have ne := fences.call_ne given settled
      obtain ⟨started, rfl⟩ := fences.base_eq
      obtain ⟨calls, answers⟩ := fencing.calls
      exact await_frame ne (congrArg (set · _ _) calls) answers
  | opened waiting | finished waiting => exact answer_frame (other waiting rfl) rfl rfl
  | propagated waiting | hookReturned _ waiting => exact await_frame (other waiting rfl) rfl rfl
  | delivered => exact ⟨rfl, rfl⟩

/-- A step of the call itself. -/
theorem Revocation.settled {call : Nat} {lease : HostedWorkerRouteLease}
    (revocation : Revocation plane call lease) {succeeded : Bool}
    (effect : Effect plane (.settle call succeeded) after) (new : call ≠ plane.started) :
    Revocation after call lease := by
  cases effect with
  | refused =>
      refine revocation.frame ?_ ?_ ⟨[], rfl⟩
      · exact get?_delete_ne _ new
      · exact get?_set_ne _ _ new
  | fenceRefused fences fencing =>
      cases fences <;> exact failed_of_answer _
  | fenced fences fencing =>
      cases fences with
      | bindFailed waiting => exact absurd (revocation.stage waiting).2 id
      | revokeFailed waiting =>
          refine .waiting (get?_set_self _ _ _) ?_ ⟨_, rfl⟩
          exact (congrArg (OrderedMap.get? · call) fencing.calls.2).trans
            (revocation.stage waiting).1
  | openRefused waiting | openFailed waiting | opened waiting =>
      exact absurd (revocation.stage waiting).2 id
  | finished waiting finished =>
      have known := (revocation.stage waiting).2
      cases finished with
      | bound => exact absurd known id
      | delivered route propagationOk =>
          cases propagationOk with
          | false => exact failed_of_answer _
          | true =>
              refine .done (get?_delete_self _ _) (get?_set_self _ _ _) ?_
              constructor
              · exact List.mem_cons_of_mem _ known.1
              · exact List.mem_cons_of_mem _ (known.2 rfl)
              · exact List.mem_cons_self
      | closed _ ending =>
          obtain ⟨propagationOk, rfl⟩ := known
          exact failed_of_answer _
  | propagated waiting =>
      obtain ⟨unanswered, rfl, released⟩ := revocation.stage waiting
      refine .waiting (get?_set_self _ _ _) unanswered ?_
      refine ⟨List.mem_append_right _ released, fun succeeded => List.mem_append_left _ ?_⟩
      unfold propagations
      rw [if_pos succeeded]
      exact List.mem_singleton_self _
  | hookReturned propagationOk waiting =>
      obtain ⟨unanswered, known, rfl⟩ := revocation.stage waiting
      exact .waiting (get?_set_self _ _ _) unanswered ⟨_, rfl⟩

/-- A revocation across any step. -/
theorem Revocation.step {call : Nat} {lease : HostedWorkerRouteLease}
    (revocation : Revocation plane call lease) (given : call < plane.started)
    {event : ChannelEvent} (effect : Effect plane event after) : Revocation after call lease := by
  by_cases own : ∃ succeeded, event = .settle call succeeded
  · obtain ⟨succeeded, rfl⟩ := own
    exact revocation.settled effect (Nat.ne_of_lt given)
  · obtain ⟨calls, answers⟩ := effect.others given fun succeeded same =>
      absurd ⟨succeeded, same⟩ own
    exact revocation.frame calls answers effect.log

/-- The call of the channel was refused or has failed. -/
def Failed (plane : ControlPlane) (call : Nat) : Prop :=
  ∃ error, plane.answers.get? call = some (.error error)

/-- A revocation that failed stays so. -/
theorem Revocation.stillFailed {call : Nat} {lease : HostedWorkerRouteLease}
    (revocation : Revocation plane call lease) (given : call < plane.started)
    (effect : Effect plane event after) (failed : Failed plane call) :
    Failed after call := by
  obtain ⟨error, answered⟩ := failed
  have ended : plane.calls.get? call = none := by
    cases revocation with
    | waiting _ unanswered =>
        rw [unanswered] at answered
        cases answered
    | failed ended | done ended => exact ended
  exact ⟨error, (effect.others given fun _ _ => ended).2.trans answered⟩

theorem Revocation.given {call : Nat} {lease : HostedWorkerRouteLease}
    (revocation : Revocation plane call lease) (numbered : Numbered plane) :
    call < plane.started := by
  cases revocation with
  | waiting waiting => exact (numbered.calls _ _ waiting).1
  | failed _ answered | done _ answered => exact numbered.answers _ _ answered

/-- A revocation is refused and changes no map, or releases a route that was current. -/
theorem revocation_started
    (held : plane.handedOut id = some channel) (lease : HostedWorkerRouteLease)
    (numbered : Numbered plane) :
    Revocation (plane.revokeIntervention id channel lease.request) plane.started lease ∧
      (Failed (plane.revokeIntervention id channel lease.request) plane.started ∨
        plane.registry.current lease = true ∧
          Dead lease
            (plane.revokeIntervention id channel lease.request).registry) := by
  have effect := effect_revokeIntervention held lease.request
  generalize plane.revokeIntervention id channel lease.request = after at effect
  generalize event' : ChannelEvent.revokeIntervention id lease.request = event at effect
  cases effect with
  | refused => exact ⟨failed_of_answer _, .inl ⟨_, get?_set_self _ _ _⟩⟩
  | @revoked _ route _ _ _ _ _ current _ change =>
      cases event'
      constructor
      · refine .waiting (get?_set_self _ _ _) ?_ ⟨rfl, ?_⟩
        · change plane.answers.get? plane.started = none
          cases answered : plane.answers.get? plane.started with
          | none => rfl
          | some result =>
              exact absurd (numbered.answers _ _ answered) (Nat.lt_irrefl _)
        · exact List.mem_append_right _ List.mem_cons_self
      · refine .inr ⟨current, ?_⟩
        cases change with
        | released stored active epoch owner worker turn =>
            exact ⟨_, get?_set_self _ _ _, .inr ⟨epoch.symm, .inr ⟨turn.symm, rfl⟩⟩⟩
  | fenceRefused fences | fenced fences =>
      subst event'
      cases fences
  | _ => cases event'

/-- A dead lease stays dead across a step that does not bind its route again. -/
theorem Effect.dead (effect : Effect plane event after)
    (inv : plane.registry.Invariant) {lease : HostedWorkerRouteLease}
    (dead : Dead lease plane.registry)
    (spares : ∀ id request channel, event = .bindIntervention id request →
      plane.handedOut id = some channel → channel.closed = false →
      request.interventionId = lease.interventionId →
      plane.registry.revives (.bindIntervention (request.through channel)) = false) :
    Dead lease after.registry := by
  obtain ⟨op, outcome, calls, change⟩ := effect.registryChange
  apply dead.change inv change
  rintro request rfl same
  cases calls with
  | bindIntervention event held live => exact spares _ _ _ event held live same

end ControlPlane

/-! ## The calls of the lifecycle -/

namespace HostedInterventionRouteLifecycle

variable {TAction TReason : Type} {clock : Nat → Int}
  {lifecycle : HostedInterventionRouteLifecycle}
  {system after : HostedSystem TAction TReason}

/-- The event does not bind the route of the binding again once it is closed. -/
def keepsClosed (lifecycle : HostedInterventionRouteLifecycle)
    (system : HostedSystem TAction TReason) :
    LifecycleEvent TAction TReason → Bool
  | .channel (.bindIntervention id request) =>
      (system.plane.handedOut id).all fun channel =>
        channel.closed || request.interventionId != lifecycle.binding.worker.interventionId
          || !HostedWorkerRegistry.revives system.plane.registry
            (.bindIntervention (request.through channel))
  | _ => true

/-- The call has succeeded, or awaits a revocation that has not failed. -/
def Holds (system : HostedSystem TAction TReason) (call : Nat) : Prop :=
  (∃ pending, system.pending.get? call = some pending ∧
    ¬ system.plane.Failed pending.revocation) ∨
    ∃ reply, system.results.get? call = some (.ok reply)

/-- The state of the calls: one of them at most may still succeed, and then the route is dead. -/
structure Ordered (lifecycle : HostedInterventionRouteLifecycle)
    (system : HostedSystem TAction TReason) : Prop where
  registry : system.plane.registry.Invariant
  numbered : system.plane.Numbered
  calls : ∀ call pending, system.pending.get? call = some pending →
    call < system.calls ∧ pending.revocation < system.plane.started ∧
      system.plane.Revocation pending.revocation lifecycle.binding.worker
  results : ∀ call result, system.results.get? call = some result → call < system.calls
  sole : ∀ call other, Holds system call → Holds system other → call = other
  dead : ∀ call, Holds system call →
    HostedWorkerRegistry.Dead lifecycle.binding.worker system.plane.registry

/-- A system in which no call of the lifecycle was made yet. -/
structure Ready (clock : Nat → Int) (system : HostedSystem TAction TReason) : Prop where
  reached : ∃ events, Run (ControlPlane.Step clock) .initial events system.plane
  pending : system.pending = .empty
  results : system.results = .empty

theorem Ready.ordered (ready : Ready clock system) : Ordered lifecycle system := by
  obtain ⟨⟨events, run⟩, pending, results⟩ := ready
  have none' : ∀ call, ¬ Holds system call := by
    rintro call (⟨_, waiting, _⟩ | ⟨_, found⟩)
    · rw [pending] at waiting
      cases waiting
    · rw [results] at found
      cases found
  constructor
  · exact ControlPlane.run_keeps_registry run initial_invariant
  · exact ControlPlane.run_keeps_numbers run ControlPlane.initial_numbered
  · rw [pending]
    exact fun _ _ no => nomatch no
  · rw [results]
    exact fun _ _ no => nomatch no
  · exact fun call _ holds => absurd holds (none' call)
  · exact fun call holds => absurd holds (none' call)

/-- What a call of the lifecycle does when it starts. -/
inductive Started (lifecycle : HostedInterventionRouteLifecycle)
    (system : HostedSystem TAction TReason) (channel : HostedWorkerControlChannel) :
    HostedSystem TAction TReason → Prop where
  | refused (error : TerminationError) (reads : Nat) :
      Started lifecycle system channel
        (finish { system with calls := system.calls + 1, reads } system.calls (.error error))
  | revoking (kind : HostedTermination) (interventionId : String) (reads : Nat) :
      Started lifecycle system channel
        (lifecycle.revoke { system with calls := system.calls + 1, reads } system.calls kind
          interventionId channel)

theorem terminate_started (kind : HostedTermination) (channel : HostedWorkerControlChannel) :
    Started lifecycle system channel (lifecycle.terminate system kind channel) := by
  unfold terminate
  dsimp only
  split
  · exact .refused _ _
  · split
    · split
      · exact .refused _ _
      · exact .revoking _ _ _
    · exact .revoking _ _ _

/-- The result of a call of the hand-off state, which leaves it alone if it fails. -/
theorem advance_outcome (config : HandoffConfig) (op : HandoffOp TAction TReason)
    (state : ExecutionHandoffState TAction TReason) :
    (∃ reply, (perform config op state).1 = .ok reply) ∨
      ∃ error, perform config op state = (.error error, state) := by
  have spec : StateExcept.Ensures (perform config op) state
      (Transition state op) :=
    perform_transition state op
  unfold StateExcept.Ensures at spec
  generalize perform config op state = outcome at spec ⊢
  obtain ⟨result, last⟩ := outcome
  cases result with
  | ok reply => exact .inl ⟨reply, rfl⟩
  | error error =>
      cases spec with
      | rejected => exact .inr ⟨error, rfl⟩

/-! ### One step -/

theorem holds_finish {base : HostedSystem TAction TReason} {call other : Nat}
    {result : Except TerminationError (HandoffReply TAction TReason)}
    (holds : Holds (finish base call result) other) :
    other ≠ call ∧ Holds base other ∨ other = call ∧ ∃ reply, result = .ok reply := by
  by_cases here : other = call
  · subst here
    rcases holds with ⟨_, waiting, _⟩ | ⟨reply, found⟩
    · change (delete _ _).get? _ = _ at waiting
      rw [get?_delete_self] at waiting
      cases waiting
    · change (set _ _ _).get? _ = _ at found
      rw [get?_set_self] at found
      cases found
      exact .inr ⟨rfl, reply, rfl⟩
  · refine .inl ⟨here, ?_⟩
    rcases holds with ⟨pending, waiting, open'⟩ | ⟨reply, found⟩
    · exact .inl ⟨pending, (get?_delete_ne _ here).symm.trans waiting, open'⟩
    · exact .inr ⟨reply, (get?_set_ne _ _ here).symm.trans found⟩

/-- The call that ends held before if it succeeds. -/
theorem Ordered.finish (ordered : Ordered lifecycle system) {call : Nat}
    {result : Except TerminationError (HandoffReply TAction TReason)} (given : call < system.calls)
    (holds : (∃ reply, result = .ok reply) → Holds system call) :
    Ordered lifecycle (HostedInterventionRouteLifecycle.finish system call result) := by
  have before : ∀ other, Holds (HostedInterventionRouteLifecycle.finish system call result) other →
      Holds system other := by
    intro other held
    rcases holds_finish held with ⟨_, held⟩ | ⟨rfl, succeeded⟩
    · exact held
    · exact holds succeeded
  constructor
  · exact ordered.registry
  · exact ordered.numbered
  · exact fun other pending waiting =>
      ordered.calls other pending (get?_of_get?_delete waiting)
  · intro other earlier found
    by_cases here : other = call
    · exact here ▸ given
    · exact ordered.results other earlier ((get?_set_ne _ _ here).symm.trans found)
  · exact fun first second held held' => ordered.sole first second (before _ held) (before _ held')
  · exact fun other held => ordered.dead other (before other held)

/-- A step of the control plane that leaves the route closed. -/
theorem Ordered.plane (ordered : Ordered lifecycle system) {plane : ControlPlane}
    {event : ChannelEvent} (effect : ControlPlane.Effect system.plane event plane)
    (spares : ∀ id request channel, event = .bindIntervention id request →
      system.plane.handedOut id = some channel → channel.closed = false →
      request.interventionId = lifecycle.binding.worker.interventionId →
      system.plane.registry.revives (.bindIntervention (request.through channel)) = false) :
    Ordered lifecycle { system with plane } ∧
      ∀ call, Holds { system with plane } call → Holds system call := by
  have before : ∀ call, Holds { system with plane } call → Holds system call := by
    rintro call (⟨pending, waiting, open'⟩ | succeeded)
    · obtain ⟨_, given, revocation⟩ := ordered.calls call pending waiting
      exact .inl ⟨pending, waiting, fun failed =>
        open' (revocation.stillFailed given effect failed)⟩
    · exact .inr succeeded
  refine ⟨?_, before⟩
  constructor
  · exact effect.registryInvariant ordered.registry
  · exact effect.numbered ordered.numbered
  · intro call pending waiting
    obtain ⟨known, given, revocation⟩ := ordered.calls call pending waiting
    exact ⟨known, Nat.lt_of_lt_of_le given effect.started_le, revocation.step given effect⟩
  · exact ordered.results
  · exact fun first second held held' => ordered.sole first second (before _ held) (before _ held')
  · exact fun call held => effect.dead ordered.registry (ordered.dead call (before call held)) spares

/-- Starting a revocation: it is refused, or no other call may succeed any more. -/
theorem Ordered.revoke (ordered : Ordered lifecycle system) {channel : HostedWorkerControlChannel}
    (held : system.plane.handedOut lifecycle.channel = some channel) (kind : HostedTermination)
    (interventionId : String) (reads : Nat) :
    Ordered lifecycle
      (lifecycle.revoke { system with calls := system.calls + 1, reads } system.calls kind
        interventionId channel) := by
  have effect := ControlPlane.effect_revokeIntervention held lifecycle.binding.worker.request
  obtain ⟨started, fate⟩ :=
    ControlPlane.revocation_started held lifecycle.binding.worker ordered.numbered
  obtain ⟨moved, before⟩ := ordered.plane effect nofun
  have number := started.given moved.numbered
  -- the new call holds only if the route was current, and then none held before
  have holds : ∀ call,
      Holds (lifecycle.revoke { system with calls := system.calls + 1, reads } system.calls kind
        interventionId channel) call →
      Holds system call ∧ call ≠ system.calls ∨ call = system.calls ∧
        (∀ other, ¬ Holds system other) ∧
        Dead lifecycle.binding.worker
          (system.plane.revokeIntervention lifecycle.channel channel
            lifecycle.binding.worker.request).registry := by
    intro call holding
    by_cases here : call = system.calls
    · subst here
      refine .inr ⟨rfl, ?_⟩
      rcases holding with ⟨pending, waiting, open'⟩ | ⟨reply, found⟩
      · change (set _ _ _).get? _ = _ at waiting
        rw [get?_set_self] at waiting
        cases waiting
        rcases fate with failed | ⟨current, dead⟩
        · exact absurd failed open'
        · refine ⟨fun other holding => ?_, dead⟩
          rw [(ordered.dead other holding).not_current] at current
          cases current
      · exact absurd (ordered.results _ _ found) (Nat.lt_irrefl _)
    · refine .inl ⟨before call ?_, here⟩
      rcases holding with ⟨pending, waiting, open'⟩ | succeeded
      · exact .inl ⟨pending, (get?_set_ne _ _ here).symm.trans waiting, open'⟩
      · exact .inr succeeded
  constructor
  · exact moved.registry
  · exact moved.numbered
  · intro call pending waiting
    by_cases here : call = system.calls
    · subst here
      change (set _ _ _).get? _ = _ at waiting
      rw [get?_set_self] at waiting
      cases waiting
      exact ⟨Nat.lt_succ_self _, number, started⟩
    · obtain ⟨known, facts⟩ :=
        moved.calls call pending ((get?_set_ne _ _ here).symm.trans waiting)
      exact ⟨Nat.lt_succ_of_lt known, facts⟩
  · exact fun call result found => Nat.lt_succ_of_lt (ordered.results call result found)
  · intro first second holding holding'
    rcases holds first holding with ⟨held, _⟩ | ⟨rfl, none', _⟩
    · rcases holds second holding' with ⟨held', _⟩ | ⟨_, none', _⟩
      · exact ordered.sole first second held held'
      · exact absurd held (none' first)
    · rcases holds second holding' with ⟨held', _⟩ | ⟨rfl, _, _⟩
      · exact absurd held' (none' second)
      · rfl
  · intro call holding
    rcases holds call holding with ⟨held, _⟩ | ⟨_, _, dead⟩
    · exact effect.dead ordered.registry (ordered.dead call held) nofun
    · exact dead

/-- What a call whose revocation has been answered does next. -/
inductive Resumed (lifecycle : HostedInterventionRouteLifecycle)
    (system : HostedSystem TAction TReason) (call : Nat) (pending : PendingTermination) :
    HostedSystem TAction TReason → Prop where
  | failed (error : TerminationError) :
      Resumed lifecycle system call pending (finish system call (.error error))
  | succeeded (reply : HandoffReply TAction TReason) (state : ExecutionHandoffState TAction TReason)
      (answered : ∃ reply, system.plane.answers.get? pending.revocation = some (.ok reply)) :
      Resumed lifecycle system call pending (finish { system with state } call (.ok reply))

theorem resume_resumed {call : Nat} {pending : PendingTermination} {answer : ChannelAnswer}
    (answered : system.plane.answers.get? pending.revocation = some answer) :
    Resumed lifecycle system call pending (lifecycle.resume system call pending answer) := by
  unfold resume
  split
  · exact .failed _
  · dsimp only
    rcases advance_outcome lifecycle.handoff (advance pending) system.state with
      ⟨reply, succeeded⟩ | ⟨error, refused⟩
    · rw [succeeded]
      exact .succeeded reply _ ⟨_, answered⟩
    · rw [refused]
      exact .failed _

theorem Ordered.counted (ordered : Ordered lifecycle system) (reads : Nat) :
    Ordered lifecycle { system with calls := system.calls + 1, reads } := by
  refine ⟨ordered.registry, ordered.numbered, ?_, ?_, ordered.sole, ordered.dead⟩
  · intro call pending waiting
    obtain ⟨known, facts⟩ := ordered.calls call pending waiting
    exact ⟨Nat.lt_succ_of_lt known, facts⟩
  · exact fun call result found => Nat.lt_succ_of_lt (ordered.results call result found)

theorem Ordered.withState (ordered : Ordered lifecycle system)
    (state : ExecutionHandoffState TAction TReason) : Ordered lifecycle { system with state } :=
  ⟨ordered.registry, ordered.numbered, ordered.calls, ordered.results, ordered.sole, ordered.dead⟩

theorem holds_of_answer {call : Nat} {pending : PendingTermination}
    (waiting : system.pending.get? call = some pending)
    (answered : ∃ reply, system.plane.answers.get? pending.revocation = some (.ok reply)) :
    Holds system call := by
  refine .inl ⟨pending, waiting, ?_⟩
  rintro ⟨error, failed⟩
  obtain ⟨reply, answered⟩ := answered
  rw [answered] at failed
  cases failed

/-- One step keeps the order, as long as it does not bind the closed route again. -/
theorem Step.ordered {event : LifecycleEvent TAction TReason}
    (step : lifecycle.Step clock system event after) (ordered : Ordered lifecycle system)
    (closed : lifecycle.keepsClosed system event = true) : Ordered lifecycle after := by
  have happened : lifecycle.next clock system event = some after := step
  cases event with
  | terminate kind =>
      obtain ⟨channel, held, same⟩ := map_eq_some_iff.mp happened
      have started : Started lifecycle system channel after := same ▸ terminate_started kind channel
      cases started with
      | refused error reads =>
          exact (ordered.counted reads).finish (Nat.lt_succ_self _) nofun
      | revoking kind interventionId reads => exact ordered.revoke held kind interventionId reads
  | resume call =>
      obtain ⟨pending, waiting, answered⟩ := bind_eq_some_iff.mp happened
      obtain ⟨answer, answered, same⟩ := map_eq_some_iff.mp answered
      have given := (ordered.calls call pending waiting).1
      have resumed : Resumed lifecycle system call pending after := same ▸ resume_resumed answered
      cases resumed with
      | failed error => exact ordered.finish given nofun
      | succeeded reply state succeeded =>
          exact (ordered.withState state).finish given fun _ => holds_of_answer waiting succeeded
  | channel event =>
      obtain ⟨plane, moved, rfl⟩ := map_eq_some_iff.mp happened
      refine (ordered.plane (ControlPlane.Step.effect moved) ?_).1
      rintro id request channel rfl held live same
      simpa [keepsClosed, held, live, same] using closed
  | handoff op =>
      cases happened
      exact ordered.withState _

/-- The event is a step of one of the three calls. -/
def ofCall : LifecycleEvent TAction TReason → Bool
  | .terminate _ | .resume _ => true
  | .channel _ | .handoff _ => false

/-- A step of a call leaves the hand-off state alone, or ends the call with success once its
revocation has gone through. -/
theorem Step.ordering {event : LifecycleEvent TAction TReason}
    (step : lifecycle.Step clock system event after) (ordered : Ordered lifecycle system)
    (own : ofCall event = true) :
    after.state = system.state ∨ ∃ call pending reply, event = .resume call ∧
      system.pending.get? call = some pending ∧ after.results.get? call = some (.ok reply) ∧
      system.plane.Revoked pending.revocation lifecycle.binding.worker ∧
      system.plane.registry.current lifecycle.binding.worker = false := by
  have happened : lifecycle.next clock system event = some after := step
  cases event with
  | terminate kind =>
      obtain ⟨channel, held, same⟩ := map_eq_some_iff.mp happened
      have started : Started lifecycle system channel after := same ▸ terminate_started kind channel
      left
      cases started <;> rfl
  | resume call =>
      obtain ⟨pending, waiting, answered⟩ := bind_eq_some_iff.mp happened
      obtain ⟨answer, answered, same⟩ := map_eq_some_iff.mp answered
      have resumed : Resumed lifecycle system call pending after := same ▸ resume_resumed answered
      cases resumed with
      | failed error => exact .inl rfl
      | succeeded reply state succeeded =>
          have dead := ordered.dead call (holds_of_answer waiting succeeded)
          obtain ⟨value, answered⟩ := succeeded
          refine .inr ⟨call, pending, reply, rfl, waiting, get?_set_self _ _ _, ?_,
            dead.not_current⟩
          obtain ⟨_, _, revocation⟩ := ordered.calls call pending waiting
          cases revocation with
          | waiting _ unanswered =>
              rw [unanswered] at answered
              cases answered
          | failed _ failed =>
              rw [failed] at answered
              cases answered
          | done _ _ revoked => exact revoked
  | channel | handoff => cases own

theorem run_ordered {first last : HostedSystem TAction TReason}
    {events : List (LifecycleEvent TAction TReason)} (ordered : Ordered lifecycle first)
    (run : Run (Guarded (lifecycle.Step clock) fun system event =>
      lifecycle.keepsClosed system event = true) first events last) : Ordered lifecycle last := by
  induction run with
  | refl => exact ordered
  | step head _ ih => exact ih (Step.ordered head.1 ordered head.2)

/-- Along every run of the three calls in which the route, once closed, is not bound again, at
most one call succeeds; and a step of a call changes the hand-off state only as the end of a call
that succeeds, with its route released, the release propagated, and the revocation delivered. -/
theorem run_termination_order {first last : HostedSystem TAction TReason}
    {events : List (LifecycleEvent TAction TReason)} (ready : Ready clock first)
    (run : Run (Guarded (lifecycle.Step clock) fun system event =>
      lifecycle.keepsClosed system event = true) first events last) :
    (∀ call other reply reply', last.results.get? call = some (.ok reply) →
      last.results.get? other = some (.ok reply') → call = other) ∧
    ∀ event after, lifecycle.Step clock last event after → ofCall event = true →
      after.state = last.state ∨ ∃ call pending reply, event = .resume call ∧
        last.pending.get? call = some pending ∧ after.results.get? call = some (.ok reply) ∧
        last.plane.Revoked pending.revocation lifecycle.binding.worker ∧
        last.plane.registry.current lifecycle.binding.worker = false := by
  have ordered : Ordered lifecycle last := run_ordered ready.ordered run
  constructor
  · intro call other reply reply' found found'
    exact ordered.sole call other (.inr ⟨reply, found⟩) (.inr ⟨reply', found'⟩)
  · exact fun event after step own => Step.ordering step ordered own

/-! ## A sample intervention -/

def sampleLifecycle : HostedInterventionRouteLifecycle where
  handoff := ⟨fun reads => reads, fun _ => "intervention-1"⟩
  channel := 0
  binding :=
    ⟨⟨"intervention-1", 1, "principal-binding-a", 1000⟩,
      { HostedWorkerRegistry.sampleLease 1 with epoch := 1 }⟩
  now := fun _ => 500

/-- The channel with the route of the first epoch. -/
def sampleRoute : List ChannelEvent :=
  [.openChannel HostedWorkerRegistry.sampleWorker true, .settle 0 true,
    .bindIntervention 0 { ControlPlane.sampleBind with epoch := 1 }, .settle 1 true]

/-- The intervention is claimed and its route is bound. -/
def sampleSystem : HostedSystem String String where
  plane := ControlPlane.samplePlane sampleRoute
  state := (replayCalls (ExecutionHandoffState.perform sampleLifecycle.handoff) .initial
    [.begin ⟨"captcha", none, .revalidate⟩, .claimHuman "intervention-1"]).2
  pending := .empty
  results := .empty
  calls := 0
  reads := 0

/-- Done and Cancel at once; the hook and the revoke message of the first succeed. -/
def sampleTerminations : List (LifecycleEvent String String) :=
  [.terminate .markHumanDone, .terminate .cancelHuman, .resume 1, .channel (.settle 2 true),
    .channel (.settle 2 true)]

def sampleTerminating (events : List (LifecycleEvent String String)) :
    HostedSystem String String :=
  (execute (sampleLifecycle.next HostedWorkerRegistry.sampleClock) sampleSystem events).getD
    sampleSystem

theorem sampleDone_revoked :
    (sampleTerminating sampleTerminations).plane.Revoked 2 sampleLifecycle.binding.worker := by
  have ready : Ready HostedWorkerRegistry.sampleClock sampleSystem :=
    ⟨⟨sampleRoute, (run_iff_execute _ _ _ _).mpr (by decide)⟩, rfl, rfl⟩
  have run : Run (Guarded (sampleLifecycle.Step HostedWorkerRegistry.sampleClock)
      fun system event => sampleLifecycle.keepsClosed system event = true) sampleSystem
      sampleTerminations (sampleTerminating sampleTerminations) :=
    run_guarded_of_execute (by decide)
  have step : sampleLifecycle.Step HostedWorkerRegistry.sampleClock
      (sampleTerminating sampleTerminations) (.resume 0)
      (sampleTerminating (sampleTerminations ++ [.resume 0])) := by
    unfold HostedInterventionRouteLifecycle.Step StepOf
    decide
  have waiting : (sampleTerminating sampleTerminations).pending.get? 0 =
      some ⟨.markHumanDone, "intervention-1", 2⟩ := by
    decide
  rcases (run_termination_order ready run).2 _ _ step rfl with
    same | ⟨call, pending, reply, event, found, _, revoked, _⟩
  · exact absurd same (by decide)
  · cases event
    cases waiting.symm.trans found
    exact revoked

end HostedInterventionRouteLifecycle

end ExecutionHandoff.Hosted
