import ExecutionHandoff.Core.HumanSurface

/-!
# Grants of any type

A provider may return anything for a grant.  Reading it may throw, and the
recovery reads it once more.  As long as the recovery can read it, the runtime
never waits for a start that is over, and what a call awaits is there.
-/

namespace ExecutionHandoff.Core

open Library
open OrderedMap (get?_set_ne get?_set_self get?_of_get?_delete)
open OrderedMap (exists_get?_set)

/-! ## Grants of any type -/

/-- What `provider.begin` resolves to. -/
inductive ProvidedGrant where
  /-- Null, undefined, or a value whose `sessionId` throws when it is read. -/
  | unreadable
  | fields (sessionId locator expiresAt : SurfaceValue)
  deriving DecidableEq

namespace ProvidedGrant

/-- A limit that is no integer is refused where zero is, and with its error. -/
def limit : SurfaceValue → Option Int
  | .undefined => none
  | .number (some value) => some (if value.den = 1 then value.num else 0)
  | _ => some 0

/-- The grant that `normalizeGrant` checks, unless a `trim` throws before. -/
def read : ProvidedGrant → Option ExternalHumanSurfaceGrant
  | .fields (.string sessionId) (.string locator) expiresAt =>
      some ⟨sessionId, locator, limit expiresAt⟩
  | _ => none

end ProvidedGrant

inductive SettlingEvent where
  | surface (event : SurfaceEvent)
  /-- `provider.begin` resolves, and `startProviderSurface` goes on. -/
  | returned (start : Nat) (grant : ProvidedGrant)
  deriving DecidableEq

namespace CredentialSafeHumanSurfaceRuntime

/-- `startProviderSurface` from the end of its first await on. -/
def providerReturned (now : Nat → Int) (runtime : CredentialSafeHumanSurfaceRuntime) (start : Nat)
    (request : ExternalHumanSurfaceRequest) (grant : ProvidedGrant) :
    CredentialSafeHumanSurfaceRuntime :=
  match grant.read, grant with
  | some grant, _ => runtime.providerBegan now start request (some grant)
  | none, .fields sessionId _ _ =>
      (runtime.record (.granted start sessionId)).failStart start request sessionId .invalidGrant
        .typeError
  -- The clean-up reads `grant.sessionId` outside of any `try`.
  | none, .unreadable =>
      (runtime.record (.granted start .undefined)).settleStart start (.error .typeError)

/-- One event, if it can happen. -/
def settle (now : Nat → Int) (runtime : CredentialSafeHumanSurfaceRuntime) :
    SettlingEvent → Option CredentialSafeHumanSurfaceRuntime
  | .surface event => runtime.next now event
  | .returned start grant =>
      match runtime.starts.get? start with
      | some (.begun request) => some (runtime.providerReturned now start request grant)
      | _ => none

/-- The session id of the grant can be read. -/
def Readable (_ : CredentialSafeHumanSurfaceRuntime) : SettlingEvent → Prop
  | .returned _ grant => grant ≠ .unreadable
  | .surface _ => True

/-- Nothing new is asked for: the provider settles, or a call or a task of the runtime goes on. -/
def Settles : SettlingEvent → Prop
  | .surface (.begin _ _) | .surface (.revoke _) | .surface .getActive => False
  | _ => True

abbrev GrantedStep (now : Nat → Int) :
    CredentialSafeHumanSurfaceRuntime → SettlingEvent → CredentialSafeHumanSurfaceRuntime → Prop :=
  Guarded (StepOf (settle now)) Readable

variable {now : Nat → Int} {runtime after : CredentialSafeHumanSurfaceRuntime}

/-! ## Nothing waits for what is not there -/

/-- What a call awaits is among the starts and revocations. -/
def Awaits (runtime : CredentialSafeHumanSurfaceRuntime) : SurfaceCall → Prop
  | .begin start | .revokeStart start _ => ∃ stage, runtime.starts.get? start = some stage
  | .beginCleanup promise _ | .revoke promise => ∃ task, runtime.revokes.get? promise = some task

/-- The revocation that a clean-up holds is its own, and is not settled. -/
def Holds (runtime : CredentialSafeHumanSurfaceRuntime) (cleanup : SurfaceCleanup) : Prop :=
  ∀ promise, cleanup.revokePromise = some promise →
    ∃ task, runtime.revokes.get? promise = some task ∧ task.cleanup = cleanup.id ∧
      runtime.revokeOutcome promise = none

structure Waiting (runtime : CredentialSafeHumanSurfaceRuntime) : Prop where
  /-- The state is that of a start whose `provider.begin` is not settled. -/
  starting : ∀ start request, runtime.state = .starting start request →
    runtime.starts.get? start = some (.begun request)
  cleaning : ∀ start promise error, runtime.starts.get? start = some (.cleaning promise error) →
    ∃ task, runtime.revokes.get? promise = some task
  held : ∀ cleanup, runtime.state = .cleanupRequired cleanup → runtime.Holds cleanup
  calls : ∀ call stage, runtime.calls.get? call = some stage → runtime.Awaits stage

/-- The starts and revocations that are there stay there. -/
structure Lasting (first last : CredentialSafeHumanSurfaceRuntime) : Prop where
  starts : ∀ start, (∃ stage, first.starts.get? start = some stage) →
    ∃ stage, last.starts.get? start = some stage
  revokes : ∀ promise, (∃ task, first.revokes.get? promise = some task) →
    ∃ task, last.revokes.get? promise = some task

theorem Lasting.awaits {first last : CredentialSafeHumanSurfaceRuntime} (lasting : Lasting first last)
    {stage : SurfaceCall} (awaits : first.Awaits stage) : last.Awaits stage := by
  cases stage with
  | begin start | revokeStart start request => exact lasting.starts start awaits
  | beginCleanup promise error | revoke promise => exact lasting.revokes promise awaits

theorem Waiting.step (waiting : Waiting runtime) (lasting : Lasting runtime after)
    (starting : ∀ start request, after.state = .starting start request →
      after.starts.get? start = some (.begun request))
    (cleaning : ∀ start promise error, after.starts.get? start = some (.cleaning promise error) →
      runtime.starts.get? start = some (.cleaning promise error) ∨
        ∃ task, after.revokes.get? promise = some task)
    (held : ∀ cleanup, after.state = .cleanupRequired cleanup → after.Holds cleanup)
    (calls : ∀ call stage, after.calls.get? call = some stage →
      runtime.calls.get? call = some stage ∨ after.Awaits stage) : Waiting after := by
  refine ⟨starting, fun start promise error stored => ?_, held, fun call stage found => ?_⟩
  · rcases cleaning start promise error stored with before | there
    · exact lasting.revokes promise (waiting.cleaning start promise error before)
    · exact there
  · rcases calls call stage found with before | there
    · exact lasting.awaits (waiting.calls call stage before)
    · exact there

theorem Holds.of_eq {cleanup : SurfaceCleanup} (holds : runtime.Holds cleanup)
    (revokes : after.revokes = runtime.revokes) : after.Holds cleanup := by
  intro promise holding
  unfold revokeOutcome
  rw [revokes]
  exact holds promise holding

theorem Waiting.quiet (waiting : Waiting runtime) (state : after.state = runtime.state)
    (starts : after.starts = runtime.starts) (revokes : after.revokes = runtime.revokes)
    (calls : after.calls = runtime.calls) : Waiting after := by
  apply waiting.step
  · exact ⟨fun _ there => starts ▸ there, fun _ there => revokes ▸ there⟩
  · rw [state, starts]
    exact waiting.starting
  · rw [starts]
    exact fun _ _ _ stored => .inl stored
  · rw [state]
    exact fun cleanup same => (waiting.held cleanup same).of_eq revokes
  · rw [calls]
    exact fun _ _ found => .inl found

theorem Waiting.await (waiting : Waiting runtime) {stage : SurfaceCall}
    (awaits : runtime.Awaits stage) (call : Nat) : Waiting (runtime.await call stage) := by
  refine ⟨waiting.starting, waiting.cleaning, waiting.held, fun other stage' found => ?_⟩
  by_cases here : other = call
  · subst here
    cases (get?_set_self _ _ _).symm.trans found
    exact awaits
  · exact waiting.calls other stage' ((get?_set_ne _ _ here).symm.trans found)

theorem Waiting.answer (waiting : Waiting runtime) (call : Nat)
    (result : Except SurfaceFailure SurfaceReply) : Waiting (runtime.answer call result) :=
  ⟨waiting.starting, waiting.cleaning, waiting.held, fun other stage found =>
    waiting.calls other stage (get?_of_get?_delete found)⟩

/-- A revocation that is there and is not settled. -/
structure Pending (runtime : CredentialSafeHumanSurfaceRuntime) (promise : Nat) : Prop where
  stored : ∃ task, runtime.revokes.get? promise = some task
  outcome : runtime.revokeOutcome promise = none

/-- A clean-up becomes the state, with the revocation that it holds. -/
theorem Waiting.performCleanup (waiting : Waiting runtime) {cleanup : SurfaceCleanup}
    (held : runtime.Holds cleanup) :
    Waiting (runtime.performCleanup cleanup).2 ∧
      Pending (runtime.performCleanup cleanup).2 (runtime.performCleanup cleanup).1 := by
  unfold CredentialSafeHumanSurfaceRuntime.performCleanup
  cases holds : cleanup.revokePromise with
  | some promise =>
      obtain ⟨task, found, _, outcome⟩ := held promise holds
      exact ⟨waiting, ⟨task, found⟩, outcome⟩
  | none =>
      have scheduled : ∀ sessionId, ({ runtime with
          numbers := runtime.numbers + 1
          revokes := runtime.revokes.set runtime.numbers ⟨cleanup.id, sessionId, .scheduled⟩
          state := .cleanupRequired { cleanup with revokePromise := some runtime.numbers } } :
          CredentialSafeHumanSurfaceRuntime).revokeOutcome runtime.numbers = none := by
        intro sessionId
        unfold revokeOutcome
        dsimp only
        rw [get?_set_self]
      refine ⟨?_, ⟨_, get?_set_self _ _ _⟩, scheduled _⟩
      apply waiting.step
      · exact ⟨fun _ there => there, fun _ there => exists_get?_set there _ _⟩
      · exact fun _ _ no => by cases no
      · exact fun _ _ _ stored => .inl stored
      · rintro _ ⟨⟩ promise ⟨⟩
        exact ⟨_, get?_set_self _ _ _, rfl, scheduled _⟩
      · exact fun _ _ found => .inl found

theorem Waiting.cleanUp (waiting : Waiting runtime) (request : ExternalHumanSurfaceRequest)
    (sessionId : SurfaceValue) (reason : ExternalHumanSurfaceCleanupReason) :
    Waiting (runtime.cleanUp request sessionId reason).2 ∧
      Pending (runtime.cleanUp request sessionId reason).2
        (runtime.cleanUp request sessionId reason).1 := by
  have become : Waiting { runtime with
      numbers := runtime.numbers + 1
      state := .cleanupRequired ⟨runtime.numbers, request, sessionId, reason, none⟩ } := by
    refine ⟨fun _ _ no => (by cases no), waiting.cleaning, ?_, waiting.calls⟩
    rintro _ ⟨⟩ _ ⟨⟩
  exact become.performCleanup fun _ no => by cases no

theorem Waiting.reads (waiting : Waiting runtime) (reads : Nat) : Waiting { runtime with reads } :=
  waiting.quiet rfl rfl rfl rfl

theorem Waiting.begin (waiting : Waiting runtime) (intervention : HumanSurfaceInterventionRef)
    (principalBinding : String) : Waiting (runtime.begin now intervention principalBinding) := by
  have begun : Waiting { runtime with numbers := runtime.numbers + 1 } :=
    waiting.quiet rfl rfl rfl rfl
  unfold CredentialSafeHumanSurfaceRuntime.begin
  dsimp only
  split
  · exact begun.answer _ _
  · split
    · rename_i start starting state
      split
      · apply begun.await
        exact ⟨_, waiting.starting start starting state⟩
      · exact begun.answer _ _
    · rename_i cleanup state
      obtain ⟨performed, pending⟩ := begun.performCleanup (waiting.held cleanup state)
      apply performed.await
      exact pending.stored
    · rename_i cached state
      obtain ⟨reads, read⟩ := @isExpired_quiet now
        { runtime with numbers := runtime.numbers + 1 } cached.expiresAt
      rw [read]
      split
      · obtain ⟨performed, pending⟩ := (begun.reads reads).cleanUp
          cached.toExternalHumanSurfaceRequest cached.sessionId .expired
        apply performed.await
        exact pending.stored
      · split
        · exact (begun.reads reads).answer _ _
        · exact (begun.reads reads).answer _ _
    · have started : Waiting ({ runtime with
          numbers := runtime.numbers + 1 + 1
          state := .starting (runtime.numbers + 1) (intervention.requestFor principalBinding)
          starts := runtime.starts.set (runtime.numbers + 1)
            (.begun (intervention.requestFor principalBinding)) }.record
              (.begun (runtime.numbers + 1))) := by
        apply waiting.step
        · exact ⟨fun _ there => exists_get?_set there _ _, fun _ there => there⟩
        · rintro start request ⟨⟩
          exact get?_set_self _ _ _
        · intro start promise error stored
          by_cases here : start = runtime.numbers + 1
          · subst here
            cases (get?_set_self _ _ _).symm.trans stored
          · exact .inl ((get?_set_ne _ _ here).symm.trans stored)
        · exact fun _ no => by cases no
        · exact fun _ _ found => .inl found
      apply started.await
      exact ⟨_, get?_set_self _ _ _⟩

theorem Waiting.revokeFrom (waiting : Waiting runtime) (call : Nat)
    (request : ExternalHumanSurfaceRequest) : Waiting (runtime.revokeFrom now call request) := by
  unfold CredentialSafeHumanSurfaceRuntime.revokeFrom
  split
  · rename_i start starting state
    split
    · apply waiting.await
      exact ⟨_, waiting.starting start starting state⟩
    · exact waiting.answer _ _
  · rename_i surface state
    split
    · obtain ⟨reads, read⟩ := @isExpired_quiet now runtime surface.expiresAt
      dsimp only
      rw [read]
      obtain ⟨performed, pending⟩ := (waiting.reads reads).cleanUp
        surface.toExternalHumanSurfaceRequest surface.sessionId
        (if (runtime.isExpired now surface.expiresAt).1 then .expired else .revocation)
      apply performed.await
      exact pending.stored
    · exact waiting.answer _ _
  · rename_i cleanup state
    split
    · obtain ⟨performed, pending⟩ := waiting.performCleanup (waiting.held cleanup state)
      apply performed.await
      exact pending.stored
    · exact waiting.answer _ _
  · exact waiting.answer _ _

/-! ## The outcome of `provider.begin` -/

/-- A start is over, and another state than its own follows. -/
theorem Waiting.settleStart (waiting : Waiting runtime) {start : Nat}
    {outcome : Except SurfaceFailure ActiveExternalHumanSurface}
    (other : ∀ request, runtime.state ≠ .starting start request) :
    Waiting (runtime.settleStart start outcome) := by
  apply waiting.step
  · exact ⟨fun _ there => exists_get?_set there _ _, fun _ there => there⟩
  · intro started request state
    have ne : started ≠ start := fun here => other request (here ▸ state)
    exact (get?_set_ne _ _ ne).trans (waiting.starting started request state)
  · intro started promise error stored
    by_cases here : started = start
    · subst here
      cases (get?_set_self _ _ _).symm.trans stored
    · exact .inl ((get?_set_ne _ _ here).symm.trans stored)
  · exact waiting.held
  · exact fun _ _ found => .inl found

theorem Waiting.become (waiting : Waiting runtime) {state : ExternalHumanSurfaceRuntimeState}
    (started : ∀ start request, state ≠ .starting start request)
    (free : ∀ cleanup, state = .cleanupRequired cleanup → runtime.Holds cleanup) :
    Waiting (runtime.become state) :=
  ⟨fun start request same => absurd same (started start request), waiting.cleaning, free,
    waiting.calls⟩

theorem Waiting.failStart (waiting : Waiting runtime) (start : Nat)
    (request : ExternalHumanSurfaceRequest) (sessionId : SurfaceValue)
    (reason : ExternalHumanSurfaceCleanupReason) (error : SurfaceFailure) :
    Waiting (runtime.failStart start request sessionId reason error) := by
  obtain ⟨cleaned, pending⟩ := waiting.cleanUp request sessionId reason
  unfold CredentialSafeHumanSurfaceRuntime.failStart
  apply cleaned.step
  · exact ⟨fun _ there => exists_get?_set there _ _, fun _ there => there⟩
  · exact fun _ _ no => by cases no
  · intro started promise error' stored
    by_cases here : started = start
    · subst here
      cases (get?_set_self _ _ _).symm.trans stored
      exact .inr pending.stored
    · exact .inl ((get?_set_ne _ _ here).symm.trans stored)
  · exact cleaned.held
  · exact fun _ _ found => .inl found

theorem normalizeGrant_reads (runtime : CredentialSafeHumanSurfaceRuntime)
    (grant : ExternalHumanSurfaceGrant) (request : ExternalHumanSurfaceRequest) :
    ∃ reads, (runtime.normalizeGrant now grant request).2 = { runtime with reads } := by
  unfold normalizeGrant
  split
  · exact ⟨_, rfl⟩
  · exact isExpired_quiet runtime grant.expiresAt

theorem Waiting.providerBegan (waiting : Waiting runtime) {start : Nat}
    {request : ExternalHumanSurfaceRequest}
    (begun : runtime.starts.get? start = some (.begun request))
    (outcome : Option ExternalHumanSurfaceGrant) :
    Waiting (runtime.providerBegan now start request outcome) := by
  have told : ∀ fact, Waiting (runtime.record fact) := fun fact => waiting.quiet rfl rfl rfl rfl
  unfold CredentialSafeHumanSurfaceRuntime.providerBegan
  dsimp only
  cases outcome with
  | none =>
      dsimp only
      split
      · apply Waiting.settleStart
        · apply (told _).become
          · exact fun _ _ no => by cases no
          · exact fun _ no => by cases no
        · exact fun _ no => by cases no
      · rename_i other
        refine (told _).settleStart fun request' state => other (decide_eq_true ?_)
        cases begun.symm.trans (waiting.starting start request' state)
        exact state
  | some grant =>
      obtain ⟨reads, read⟩ := @normalizeGrant_reads now
        (runtime.record (.granted start grant.sessionId)) grant request
      have after := (told (.granted start grant.sessionId)).reads reads
      rw [← read] at after
      dsimp only
      split
      · exact after.failStart _ _ _ _ _
      · split
        · apply Waiting.settleStart
          · apply after.become
            · exact fun _ _ no => by cases no
            · exact fun _ no => by cases no
          · exact fun _ no => by cases no
        · exact after.failStart _ _ _ _ _

theorem Waiting.providerReturned (waiting : Waiting runtime) {start : Nat}
    {request : ExternalHumanSurfaceRequest}
    (begun : runtime.starts.get? start = some (.begun request)) {grant : ProvidedGrant}
    (readable : grant ≠ .unreadable) :
    Waiting (runtime.providerReturned now start request grant) := by
  have told : ∀ fact, Waiting (runtime.record fact) := fun fact => waiting.quiet rfl rfl rfl rfl
  unfold CredentialSafeHumanSurfaceRuntime.providerReturned
  split
  · exact waiting.providerBegan begun _
  · exact (told _).failStart _ _ _ _ _
  · exact absurd rfl readable

/-! ## Steps -/

/-- The task of a revocation changes, and with it the state. -/
theorem Waiting.setTask (waiting : Waiting runtime) {promise : Nat} {task : RevokeTask}
    {state : ExternalHumanSurfaceRuntimeState}
    (started : ∀ start request, state = .starting start request → runtime.state = state)
    (held : ∀ cleanup, state = .cleanupRequired cleanup →
      ∀ other, cleanup.revokePromise = some other → runtime.state = state ∧
        (other = promise → task.cleanup = cleanup.id ∧ ∀ succeeded, task.stage ≠ .settled succeeded)) :
    Waiting { runtime with revokes := runtime.revokes.set promise task, state } := by
  apply waiting.step
  · exact ⟨fun _ there => there, fun _ there => exists_get?_set there _ _⟩
  · intro start request same
    exact waiting.starting start request ((started start request same).trans same)
  · exact fun _ _ _ stored => .inl stored
  · intro cleanup same other holds
    obtain ⟨before, own⟩ := held cleanup same other holds
    unfold revokeOutcome
    dsimp only
    by_cases here : other = promise
    · subst here
      obtain ⟨own, unsettled⟩ := own rfl
      refine ⟨task, get?_set_self _ _ _, own, ?_⟩
      rw [get?_set_self]
      split
      · rename_i stored
        cases stored
        exact absurd rfl (unsettled _)
      · rfl
    · rw [get?_set_ne _ _ here]
      exact waiting.held cleanup (before.trans same) other holds
  · exact fun _ _ found => .inl found

/-- A task that a clean-up holds is its own. -/
theorem Waiting.own (waiting : Waiting runtime) {promise : Nat} {task : RevokeTask}
    (found : runtime.revokes.get? promise = some task) {cleanup : SurfaceCleanup}
    (state : runtime.state = .cleanupRequired cleanup)
    (holds : cleanup.revokePromise = some promise) : task.cleanup = cleanup.id := by
  obtain ⟨_, stored, own, _⟩ := waiting.held cleanup state promise holds
  cases found.symm.trans stored
  exact own

theorem Waiting.providerRevoked (waiting : Waiting runtime) {promise : Nat} {task : RevokeTask}
    (found : runtime.revokes.get? promise = some task) (succeeded : Bool) :
    Waiting (runtime.providerRevoked promise task succeeded) := by
  -- The clean-up of another task keeps the one that it holds.
  have kept : (∀ cleanup, runtime.state = .cleanupRequired cleanup → cleanup.id ≠ task.cleanup) →
      ∀ fact, Waiting ({ runtime with
        revokes := runtime.revokes.set promise { task with stage := .settled succeeded } }.record
          fact) := by
    intro others fact
    refine (waiting.setTask (fun _ _ _ => rfl) fun cleanup state other holds => ⟨rfl, ?_⟩).quiet rfl
      rfl rfl rfl
    rintro rfl
    exact absurd (waiting.own found state holds).symm (others cleanup state)
  unfold CredentialSafeHumanSurfaceRuntime.providerRevoked
  dsimp only
  split
  · rename_i cleanup state
    split
    · cases succeeded with
      | true =>
          refine (waiting.setTask (fun _ _ no => ?_) fun _ no => ?_).quiet rfl rfl rfl rfl
          · cases no
          · cases no
      | false =>
          refine (waiting.setTask (fun _ _ no => ?_) ?_).quiet rfl rfl rfl rfl
          · cases no
          · rintro _ ⟨⟩ _ ⟨⟩
    · rename_i other
      apply kept
      intro cleanup' same
      cases state.symm.trans same
      exact other
  · rename_i other
    apply kept
    exact fun cleanup same => absurd same (other cleanup)

theorem Waiting.resume (waiting : Waiting runtime) {call : Nat} {stage : SurfaceCall}
    (resumed : runtime.resume now call stage = some after) : Waiting after := by
  cases stage with
  | begin start | beginCleanup promise error | revoke promise =>
      obtain ⟨_, _, rfl⟩ := Option.map_eq_some_iff.mp resumed
      exact waiting.answer _ _
  | revokeStart start request =>
      obtain ⟨outcome, _, rfl⟩ := Option.map_eq_some_iff.mp resumed
      split
      · exact waiting.answer _ _
      · exact waiting.revokeFrom _ _

theorem Waiting.next (waiting : Waiting runtime) {event : SurfaceEvent}
    (step : runtime.next now event = some after) : Waiting after := by
  cases event with
  | begin intervention principalBinding =>
      cases step
      exact waiting.begin _ _
  | revoke request =>
      cases step
      have begun : Waiting { runtime with numbers := runtime.numbers + 1 } :=
        waiting.quiet rfl rfl rfl rfl
      exact begun.revokeFrom _ _
  | getActive =>
      cases step
      unfold getActive
      split
      · rename_i surface _
        obtain ⟨reads, read⟩ := @isExpired_quiet now runtime surface.expiresAt
        dsimp only
        rw [read]
        exact waiting.reads reads
      · exact waiting
  | providerBegan start outcome =>
      simp only [CredentialSafeHumanSurfaceRuntime.next] at step
      split at step
      · rename_i begun
        cases step
        exact waiting.providerBegan begun outcome
      · cases step
  | invokeRevoke promise =>
      simp only [CredentialSafeHumanSurfaceRuntime.next] at step
      split at step
      · rename_i found
        cases step
        refine (waiting.setTask (fun _ _ _ => rfl) fun cleanup state other holds => ⟨rfl, ?_⟩).quiet
          rfl rfl rfl rfl
        rintro rfl
        exact ⟨waiting.own found state holds, fun _ no => by cases no⟩
      · cases step
  | providerRevoked promise succeeded =>
      simp only [CredentialSafeHumanSurfaceRuntime.next] at step
      split at step
      · rename_i found
        cases step
        exact waiting.providerRevoked found succeeded
      · cases step
  | resumeStart start =>
      simp only [CredentialSafeHumanSurfaceRuntime.next] at step
      split at step
      · rename_i promise error cleaning
        obtain ⟨_, _, rfl⟩ := Option.map_eq_some_iff.mp step
        refine waiting.settleStart fun request state => ?_
        cases cleaning.symm.trans (waiting.starting start request state)
      · cases step
  | resume call =>
      obtain ⟨stage, _, resumed⟩ := Option.bind_eq_some_iff.mp step
      exact waiting.resume resumed

theorem GrantedStep.waiting {event : SettlingEvent} (step : GrantedStep now runtime event after)
    (waiting : Waiting runtime) : Waiting after := by
  obtain ⟨step, readable⟩ := step
  cases event with
  | surface event => exact waiting.next step
  | returned start grant =>
      simp only [StepOf, settle] at step
      split at step
      · rename_i begun
        cases step
        exact waiting.providerReturned begun readable
      · cases step

end CredentialSafeHumanSurfaceRuntime

end ExecutionHandoff.Core
