import ExecutionHandoff.Core.HumanSurfaceWaiting
import ExecutionHandoff.Library.MapWeights

/-!
# Calls that settle

With grants whose session id can be read, each step towards an answer leaves
less to do, and a call that waits can always go on or waits for the provider.
-/

namespace ExecutionHandoff.Core

open Library
open Option (map_eq_some_iff bind_eq_some_iff)

namespace CredentialSafeHumanSurfaceRuntime

variable {now : Nat → Int} {runtime after : CredentialSafeHumanSurfaceRuntime}

/-! ## The work that is left -/

/-- How far a start is from its end. -/
def startWork : StartStage → Nat
  | .begun _ => 2
  | .cleaning _ _ => 1
  | .settled _ => 0

/-- How far a revocation is from its end. -/
def revokeWork (task : RevokeTask) : Nat :=
  match task.stage with
  | .scheduled => 2
  | .invoked => 1
  | .settled _ => 0

/-- A revocation of a caller can go on behind a start that is over. -/
def ready (runtime : CredentialSafeHumanSurfaceRuntime) : SurfaceCall → Nat
  | .revokeStart start _ => if (runtime.startOutcome start).isSome then 1 else 0
  | _ => 0

def waitingCalls (runtime : CredentialSafeHumanSurfaceRuntime) : Nat :=
  runtime.calls.weight fun _ => 1

/-- Starts count most, since every call may wait for one; a call that goes on may clean up. -/
def effort (runtime : CredentialSafeHumanSurfaceRuntime) : Nat :=
  runtime.starts.weight startWork * (3 * runtime.waitingCalls + 3) +
    3 * runtime.calls.weight runtime.ready +
    (runtime.revokes.weight revokeWork + runtime.waitingCalls)

theorem ready_le (runtime : CredentialSafeHumanSurfaceRuntime) :
    runtime.calls.weight runtime.ready ≤ runtime.waitingCalls := by
  apply OrderedMap.weight_mono
  intro call stage _
  unfold ready
  split
  · split <;> omega
  · omega

/-- A start goes on, which may clean up and may free every call. -/
theorem effort_lt_of_start (calls : after.calls = runtime.calls)
    (starts : after.starts.weight startWork + 1 ≤ runtime.starts.weight startWork)
    (revokes : after.revokes.weight revokeWork ≤ runtime.revokes.weight revokeWork + 2) :
    after.effort < runtime.effort := by
  have freed := ready_le after
  have same : after.waitingCalls = runtime.waitingCalls := by
    unfold waitingCalls
    rw [calls]
  unfold effort
  rw [same] at freed ⊢
  have fewer : (after.starts.weight startWork + 1) * (3 * runtime.waitingCalls + 3) ≤
      runtime.starts.weight startWork * (3 * runtime.waitingCalls + 3) :=
    Nat.mul_le_mul_right _ starts
  rw [Nat.add_mul, Nat.one_mul] at fewer
  omega

/-- The starts stay as they are, and less is left of the rest. -/
theorem effort_lt_of_rest (starts : after.starts = runtime.starts)
    (calls : after.waitingCalls ≤ runtime.waitingCalls)
    (rest : 3 * after.calls.weight after.ready +
        (after.revokes.weight revokeWork + after.waitingCalls) <
      3 * runtime.calls.weight runtime.ready +
        (runtime.revokes.weight revokeWork + runtime.waitingCalls)) :
    after.effort < runtime.effort := by
  unfold effort
  rw [starts]
  have fewer : runtime.starts.weight startWork * (3 * after.waitingCalls + 3) ≤
      runtime.starts.weight startWork * (3 * runtime.waitingCalls + 3) :=
    Nat.mul_le_mul_left _ (by omega)
  omega

theorem ready_eq (starts : after.starts = runtime.starts) : after.ready = runtime.ready := by
  funext stage
  unfold ready startOutcome
  rw [starts]

/-- A call is answered. -/
theorem effort_answer {call : Nat} {stage : SurfaceCall}
    (found : runtime.calls.get? call = some stage) (result : Except SurfaceFailure SurfaceReply) :
    (runtime.answer call result).effort < runtime.effort := by
  have one := @OrderedMap.weight_delete _ _ (fun _ => 1) _ runtime.calls call stage found
  have less := @OrderedMap.weight_delete _ _ runtime.ready _ runtime.calls call stage found
  apply effort_lt_of_rest
  · rfl
  · change (runtime.calls.delete call).weight (fun _ => 1) ≤ runtime.calls.weight fun _ => 1
    omega
  · change 3 * (runtime.calls.delete call).weight runtime.ready +
      (runtime.revokes.weight revokeWork + (runtime.calls.delete call).weight fun _ => 1) <
      3 * runtime.calls.weight runtime.ready +
        (runtime.revokes.weight revokeWork + runtime.calls.weight fun _ => 1)
    omega

variable {middle : CredentialSafeHumanSurfaceRuntime} {promise : Nat}

/-- A call that could go on awaits a revocation or a start that is not over, perhaps behind a
clean-up of its own. -/
theorem effort_await {call : Nat} {stage : SurfaceCall}
    (found : runtime.calls.get? call = some stage) (free : runtime.ready stage = 1)
    (starts : middle.starts = runtime.starts) (calls : middle.calls = runtime.calls)
    (revokes : middle.revokes.weight revokeWork ≤ runtime.revokes.weight revokeWork + 2)
    {stage' : SurfaceCall} (blocked : runtime.ready stage' = 0) :
    (middle.await call stage').effort < runtime.effort := by
  have one := @OrderedMap.weight_set _ _ (fun _ => 1) _ runtime.calls call stage found stage'
  have less := @OrderedMap.weight_set _ _ runtime.ready _ runtime.calls call stage found stage'
  have same : (middle.await call stage').ready = runtime.ready := ready_eq starts
  have stored : (middle.await call stage').calls = runtime.calls.set call stage' :=
    congrArg (fun map => map.set call stage') calls
  have counted : (middle.await call stage').waitingCalls =
      (runtime.calls.set call stage').weight fun _ => 1 := by
    unfold waitingCalls
    rw [stored]
  have before : runtime.waitingCalls = runtime.calls.weight fun _ => 1 := rfl
  have held : (middle.await call stage').revokes = middle.revokes := rfl
  apply effort_lt_of_rest
  · exact starts
  · omega
  · rw [same, stored, counted, held]
    omega

theorem weight_performCleanup (cleanup : SurfaceCleanup) :
    (runtime.performCleanup cleanup).2.starts = runtime.starts ∧
      (runtime.performCleanup cleanup).2.calls = runtime.calls ∧
      (runtime.performCleanup cleanup).2.revokes.weight revokeWork ≤
        runtime.revokes.weight revokeWork + 2 := by
  unfold performCleanup
  split
  · exact ⟨rfl, rfl, Nat.le_add_right _ _⟩
  · exact ⟨rfl, rfl, OrderedMap.weight_set_le _ _ _⟩

theorem weight_cleanUp (request : ExternalHumanSurfaceRequest) (sessionId : SurfaceValue)
    (reason : ExternalHumanSurfaceCleanupReason) :
    (runtime.cleanUp request sessionId reason).2.starts = runtime.starts ∧
      (runtime.cleanUp request sessionId reason).2.calls = runtime.calls ∧
      (runtime.cleanUp request sessionId reason).2.revokes.weight revokeWork ≤
        runtime.revokes.weight revokeWork + 2 :=
  @weight_performCleanup { runtime with
    numbers := runtime.numbers + 1
    state := .cleanupRequired ⟨runtime.numbers, request, sessionId, reason, none⟩ } _

/-- A start that the state is waiting for is not over. -/
theorem Waiting.blocked (waiting : Waiting runtime) {start : Nat}
    {request request' : ExternalHumanSurfaceRequest} (state : runtime.state = .starting start request) :
    runtime.ready (.revokeStart start request') = 0 := by
  unfold ready startOutcome
  dsimp only
  rw [waiting.starting start request state]
  rfl

theorem effort_revokeFrom (waiting : Waiting runtime) {call : Nat} {stage : SurfaceCall}
    (found : runtime.calls.get? call = some stage) (free : runtime.ready stage = 1)
    (request : ExternalHumanSurfaceRequest) :
    (runtime.revokeFrom now call request).effort < runtime.effort := by
  unfold revokeFrom
  split
  · rename_i start starting state
    split
    · exact effort_await found free rfl rfl (Nat.le_add_right _ _) (waiting.blocked state)
    · exact effort_answer found _
  · rename_i surface state
    split
    · obtain ⟨reads, read⟩ := @isExpired_quiet now runtime surface.expiresAt
      dsimp only
      rw [read]
      obtain ⟨starts, calls, revokes⟩ := @weight_cleanUp { runtime with reads }
        surface.toExternalHumanSurfaceRequest surface.sessionId
        (if (runtime.isExpired now surface.expiresAt).1 then .expired else .revocation)
      exact effort_await found free starts calls revokes rfl
    · exact effort_answer found _
  · rename_i cleanup state
    split
    · obtain ⟨starts, calls, revokes⟩ := @weight_performCleanup runtime cleanup
      exact effort_await found free starts calls revokes rfl
    · exact effort_answer found _
  · exact effort_answer found _

/-- The weight of the starts once one is a step further. -/
theorem weight_start {start : Nat} {stage stage' : StartStage}
    (found : runtime.starts.get? start = some stage) (less : startWork stage' + 1 ≤ startWork stage) :
    (runtime.starts.set start stage').weight startWork + 1 ≤ runtime.starts.weight startWork := by
  have moved := @OrderedMap.weight_set _ _ startWork _ runtime.starts start stage found stage'
  omega

theorem effort_eq (starts : after.starts = runtime.starts) (calls : after.calls = runtime.calls)
    (revokes : after.revokes = runtime.revokes) : after.effort = runtime.effort := by
  unfold effort waitingCalls
  rw [ready_eq starts, starts, calls, revokes]

/-- The runtime in front of what a start does when it goes on. -/
structure SameWork (runtime middle : CredentialSafeHumanSurfaceRuntime) : Prop where
  starts : middle.starts = runtime.starts
  calls : middle.calls = runtime.calls
  answers : middle.answers = runtime.answers
  revokes : middle.revokes = runtime.revokes

theorem effort_failStart (same : SameWork runtime middle)
    {start : Nat} {request : ExternalHumanSurfaceRequest}
    (begun : runtime.starts.get? start = some (.begun request)) (sessionId : SurfaceValue)
    (reason : ExternalHumanSurfaceCleanupReason) (error : SurfaceFailure) :
    (middle.failStart start request sessionId reason error).effort < runtime.effort := by
  obtain ⟨starts, calls, revokes⟩ := @weight_cleanUp middle request sessionId reason
  rw [← effort_eq same.starts same.calls same.revokes]
  unfold failStart
  apply effort_lt_of_start
  · exact calls
  · dsimp only
    rw [starts]
    exact weight_start (same.starts ▸ begun) (Nat.le_refl _)
  · exact revokes

theorem effort_settleStart (same : SameWork runtime middle) {start : Nat} {stage : StartStage}
    (found : runtime.starts.get? start = some stage) (going : 1 ≤ startWork stage)
    (outcome : Except SurfaceFailure ActiveExternalHumanSurface) :
    (middle.settleStart start outcome).effort < runtime.effort := by
  rw [← effort_eq same.starts same.calls same.revokes]
  apply effort_lt_of_start
  · rfl
  · exact weight_start (same.starts ▸ found) going
  · exact Nat.le_add_right _ _

/-- A start ends, or goes on to its clean-up. -/
inductive StartMoves (runtime : CredentialSafeHumanSurfaceRuntime) (start : Nat) :
    CredentialSafeHumanSurfaceRuntime → Prop where
  | settled {middle : CredentialSafeHumanSurfaceRuntime} (same : SameWork runtime middle)
      (outcome : Except SurfaceFailure ActiveExternalHumanSurface) :
      StartMoves runtime start (middle.settleStart start outcome)
  | failed {middle : CredentialSafeHumanSurfaceRuntime} (same : SameWork runtime middle)
      (request : ExternalHumanSurfaceRequest) (sessionId : SurfaceValue)
      (reason : ExternalHumanSurfaceCleanupReason) (error : SurfaceFailure) :
      StartMoves runtime start (middle.failStart start request sessionId reason error)

theorem StartMoves.effort_lt {start : Nat} {request : ExternalHumanSurfaceRequest}
    (moves : StartMoves runtime start after)
    (begun : runtime.starts.get? start = some (.begun request)) : after.effort < runtime.effort := by
  cases moves with
  | settled same outcome => exact effort_settleStart same begun (Nat.le_succ 1) outcome
  | failed same request sessionId reason error =>
      exact effort_failStart same begun sessionId reason error

theorem providerBegan_moves (start : Nat) (request : ExternalHumanSurfaceRequest)
    (outcome : Option ExternalHumanSurfaceGrant) :
    StartMoves runtime start (runtime.providerBegan now start request outcome) := by
  unfold providerBegan
  dsimp only
  cases outcome with
  | none =>
      dsimp only
      split
      · apply StartMoves.settled
        exact ⟨rfl, rfl, rfl, rfl⟩
      · apply StartMoves.settled
        exact ⟨rfl, rfl, rfl, rfl⟩
  | some grant =>
      obtain ⟨reads, read⟩ := @normalizeGrant_reads now
        (runtime.record (.granted start grant.sessionId)) grant request
      have same : SameWork runtime ((runtime.record (.granted start grant.sessionId)).normalizeGrant
          now grant request).2 := by
        rw [read]
        exact ⟨rfl, rfl, rfl, rfl⟩
      dsimp only
      generalize ((runtime.record (.granted start grant.sessionId)).normalizeGrant now grant
        request).2 = checked at same ⊢
      generalize ((runtime.record (.granted start grant.sessionId)).normalizeGrant now grant
        request).1 = result
      cases result with
      | error error => exact .failed same _ _ _ _
      | ok active =>
          dsimp only
          split
          · apply StartMoves.settled
            exact ⟨same.starts, same.calls, same.answers, same.revokes⟩
          · exact .failed same _ _ _ _

theorem providerReturned_moves (start : Nat) (request : ExternalHumanSurfaceRequest)
    (grant : ProvidedGrant) :
    StartMoves runtime start (runtime.providerReturned now start request grant) := by
  unfold providerReturned
  split
  · exact providerBegan_moves _ _ _
  · apply StartMoves.failed
    exact ⟨rfl, rfl, rfl, rfl⟩
  · apply StartMoves.settled
    exact ⟨rfl, rfl, rfl, rfl⟩

theorem effort_setTask {promise : Nat} {task task' : RevokeTask}
    (found : runtime.revokes.get? promise = some task) (less : revokeWork task' < revokeWork task)
    (starts : after.starts = runtime.starts) (calls : after.calls = runtime.calls)
    (revokes : after.revokes = runtime.revokes.set promise task') : after.effort < runtime.effort := by
  have moved := @OrderedMap.weight_set _ _ revokeWork _ runtime.revokes promise task found task'
  have same : after.waitingCalls = runtime.waitingCalls := by
    unfold waitingCalls
    rw [calls]
  apply effort_lt_of_rest starts
  · omega
  · rw [ready_eq starts, calls, revokes]
    omega

theorem providerRevoked_keeps (promise : Nat) (task : RevokeTask) (succeeded : Bool) :
    (runtime.providerRevoked promise task succeeded).starts = runtime.starts ∧
      (runtime.providerRevoked promise task succeeded).calls = runtime.calls ∧
      (runtime.providerRevoked promise task succeeded).answers = runtime.answers ∧
      (runtime.providerRevoked promise task succeeded).revokes =
        runtime.revokes.set promise { task with stage := .settled succeeded } := by
  unfold providerRevoked
  dsimp only
  split
  · split
    · exact ⟨rfl, rfl, rfl, rfl⟩
    · exact ⟨rfl, rfl, rfl, rfl⟩
  · exact ⟨rfl, rfl, rfl, rfl⟩

theorem effort_resume (waiting : Waiting runtime) {call : Nat} {stage : SurfaceCall}
    (found : runtime.calls.get? call = some stage)
    (resumed : runtime.resume now call stage = some after) : after.effort < runtime.effort := by
  cases stage with
  | begin start | beginCleanup promise error | revoke promise =>
      obtain ⟨_, _, rfl⟩ := map_eq_some_iff.mp resumed
      exact effort_answer found _
  | revokeStart start request =>
      obtain ⟨outcome, settled, rfl⟩ := map_eq_some_iff.mp resumed
      split
      · exact effort_answer found _
      · apply effort_revokeFrom waiting found
        unfold ready
        dsimp only
        rw [settled]
        rfl

/-- Every step towards an answer leaves less to do. -/
theorem GrantedStep.effort_lt {event : SettlingEvent} (step : GrantedStep now runtime event after)
    (waiting : Waiting runtime) (settles : Settles event) : after.effort < runtime.effort := by
  obtain ⟨step, readable⟩ := step
  cases event with
  | returned start grant =>
      simp only [StepOf, settle] at step
      split at step
      · rename_i begun
        cases step
        exact (providerReturned_moves _ _ _).effort_lt begun
      · cases step
  | surface event =>
      change runtime.next now event = some after at step
      cases event with
      | begin intervention principalBinding | revoke request | getActive => exact absurd settles id
      | providerBegan start outcome =>
          simp only [next] at step
          split at step
          · rename_i begun
            cases step
            exact (providerBegan_moves _ _ _).effort_lt begun
          · cases step
      | invokeRevoke promise =>
          simp only [next] at step
          split at step
          · rename_i found
            cases step
            exact @effort_setTask _ _ promise _ ⟨_, _, .invoked⟩ found (Nat.lt_succ_self 1) rfl rfl rfl
          · cases step
      | providerRevoked promise succeeded =>
          simp only [next] at step
          split at step
          · rename_i found
            cases step
            obtain ⟨starts, calls, _, revokes⟩ := providerRevoked_keeps promise _ succeeded
            refine effort_setTask found ?_ starts calls revokes
            exact Nat.zero_lt_one
          · cases step
      | resumeStart start =>
          simp only [next] at step
          split at step
          · rename_i cleaning
            obtain ⟨_, _, rfl⟩ := map_eq_some_iff.mp step
            exact effort_settleStart ⟨rfl, rfl, rfl, rfl⟩ cleaning (Nat.le_refl 1) _
          · cases step
      | resume call =>
          obtain ⟨stage, found, resumed⟩ := bind_eq_some_iff.mp step
          exact effort_resume waiting found resumed

/-! ## What a call waits for -/

def startAwaited : SurfaceCall → Option Nat
  | .begin start | .revokeStart start _ => some start
  | .beginCleanup _ _ | .revoke _ => none

/-- The revocation that a call awaits itself, or that the clean-up of its start awaits. -/
def promiseAwaited (runtime : CredentialSafeHumanSurfaceRuntime) : SurfaceCall → Option Nat
  | .beginCleanup promise _ | .revoke promise => some promise
  | .begin start | .revokeStart start _ =>
      match runtime.starts.get? start with
      | some (.cleaning promise _) => some promise
      | _ => none

/-- The steps that a call waits for: its own, and those of its start and of its revocation. -/
def Needs (runtime : CredentialSafeHumanSurfaceRuntime) (call : Nat) (stage : SurfaceCall) :
    SettlingEvent → Prop
  | .surface (.resume other) => other = call
  | .surface (.resumeStart start) | .surface (.providerBegan start _) | .returned start _ =>
      startAwaited stage = some start
  | .surface (.invokeRevoke promise) | .surface (.providerRevoked promise _) =>
      runtime.promiseAwaited stage = some promise
  | .surface (.begin _ _) | .surface (.revoke _) | .surface .getActive => False

theorem next_providerBegan {start : Nat} {request : ExternalHumanSurfaceRequest}
    (begun : runtime.starts.get? start = some (.begun request))
    (outcome : Option ExternalHumanSurfaceGrant) :
    runtime.next now (.providerBegan start outcome) =
      some (runtime.providerBegan now start request outcome) := by
  simp only [next]
  rw [begun]

theorem next_resumeStart {start : Nat} {error : SurfaceFailure} {succeeded : Bool}
    (cleaning : runtime.starts.get? start = some (.cleaning promise error))
    (settled : runtime.revokeOutcome promise = some succeeded) :
    runtime.next now (.resumeStart start) = some (runtime.settleStart start (.error error)) := by
  simp only [next]
  rw [cleaning]
  dsimp only
  rw [settled]
  rfl

theorem next_invokeRevoke {cleanup : Nat} {sessionId : SurfaceValue}
    (found : runtime.revokes.get? promise = some ⟨cleanup, sessionId, .scheduled⟩) :
    runtime.next now (.invokeRevoke promise) =
      some (runtime.invokeRevoke promise ⟨cleanup, sessionId, .scheduled⟩) := by
  simp only [next]
  rw [found]

theorem next_providerRevoked {cleanup : Nat} {sessionId : SurfaceValue}
    (found : runtime.revokes.get? promise = some ⟨cleanup, sessionId, .invoked⟩) (succeeded : Bool) :
    runtime.next now (.providerRevoked promise succeeded) =
      some (runtime.providerRevoked promise ⟨cleanup, sessionId, .invoked⟩ succeeded) := by
  simp only [next]
  rw [found]

/-- A revocation goes on, or is settled. -/
theorem promise_moves (now : Nat → Int) {task : RevokeTask}
    (found : runtime.revokes.get? promise = some task) :
    (∃ after, runtime.next now (.invokeRevoke promise) = some after) ∨
      (∃ after, runtime.next now (.providerRevoked promise true) = some after) ∨
      ∃ succeeded, runtime.revokeOutcome promise = some succeeded := by
  obtain ⟨cleanup, sessionId, stage⟩ := task
  cases stage with
  | scheduled => exact .inl ⟨_, next_invokeRevoke found⟩
  | invoked => exact .inr (.inl ⟨_, next_providerRevoked found true⟩)
  | settled succeeded =>
      refine .inr (.inr ⟨succeeded, ?_⟩)
      unfold revokeOutcome
      rw [found]

theorem GrantedStep.of_next {event : SurfaceEvent} (step : runtime.next now event = some after) :
    GrantedStep now runtime (.surface event) after :=
  ⟨step, trivial⟩

/-- A call that awaits a settled promise goes on. -/
theorem resume_moves {call : Nat} {stage : SurfaceCall} (found : runtime.calls.get? call = some stage)
    (resumed : ∃ after, runtime.resume now call stage = some after) :
    ∃ event after, runtime.Needs call stage event ∧ GrantedStep now runtime event after := by
  obtain ⟨after, resumed⟩ := resumed
  refine ⟨.surface (.resume call), after, rfl, .of_next ?_⟩
  exact bind_eq_some_iff.mpr ⟨stage, found, resumed⟩

/-- Nothing deadlocks: one of the steps that a call waits for can happen. -/
theorem Waiting.moves (waiting : Waiting runtime) {call : Nat} {stage : SurfaceCall}
    (found : runtime.calls.get? call = some stage) :
    ∃ event after, runtime.Needs call stage event ∧ GrantedStep now runtime event after := by
  have awaits := waiting.calls call stage found
  have promised : ∀ promise task, runtime.revokes.get? promise = some task →
      runtime.promiseAwaited stage = some promise → runtime.revokeOutcome promise = none →
      ∃ event after, runtime.Needs call stage event ∧ GrantedStep now runtime event after := by
    intro promise task stored awaited outcome
    rcases promise_moves now stored with ⟨after, step⟩ | ⟨after, step⟩ | ⟨_, settled⟩
    · exact ⟨.surface (.invokeRevoke promise), after, awaited, .of_next step⟩
    · exact ⟨.surface (.providerRevoked promise true), after, awaited, .of_next step⟩
    · cases outcome.symm.trans settled
  have started : ∀ start, startAwaited stage = some start →
      (∃ progress, runtime.starts.get? start = some progress) →
      (∀ promise error, runtime.starts.get? start = some (.cleaning promise error) →
        runtime.promiseAwaited stage = some promise) →
      (∀ outcome, runtime.startOutcome start = some outcome →
        ∃ after, runtime.resume now call stage = some after) →
      ∃ event after, runtime.Needs call stage event ∧ GrantedStep now runtime event after := by
    rintro start awaited ⟨progress, stored⟩ behind resumes
    cases progress with
    | begun request =>
        exact ⟨.surface (.providerBegan start none), _, awaited,
          .of_next (next_providerBegan stored none)⟩
    | cleaning promise error =>
        obtain ⟨task, there⟩ := waiting.cleaning start promise error stored
        cases outcome : runtime.revokeOutcome promise with
        | none => exact promised promise task there (behind promise error stored) outcome
        | some succeeded =>
            exact ⟨.surface (.resumeStart start), _, awaited,
              .of_next (next_resumeStart stored outcome)⟩
    | settled outcome =>
        apply resume_moves found
        apply resumes outcome
        unfold startOutcome
        rw [stored]
  cases stage with
  | begin start | revokeStart start request =>
      apply started start rfl awaits
      · intro promise error cleaning
        unfold promiseAwaited
        dsimp only
        rw [cleaning]
      · intro outcome settled
        unfold CredentialSafeHumanSurfaceRuntime.resume
        dsimp only
        rw [settled]
        exact ⟨_, rfl⟩
  | beginCleanup promise error | revoke promise =>
      obtain ⟨task, stored⟩ := awaits
      cases outcome : runtime.revokeOutcome promise with
      | none => exact promised promise task stored rfl outcome
      | some succeeded =>
          apply resume_moves found
          unfold CredentialSafeHumanSurfaceRuntime.resume
          dsimp only
          rw [outcome]
          exact ⟨_, rfl⟩

theorem await_stands {call : Nat} {stage : SurfaceCall}
    (blocked : (runtime.await call stage).resume now call stage = none) :
    (runtime.await call stage).next now (.resume call) = none := by
  simp only [next]
  rw [show (runtime.await call stage).calls.get? call = some stage from
    OrderedMap.get?_set_self _ _ _]
  exact blocked

theorem answer_stands (call : Nat) (result : Except SurfaceFailure SurfaceReply) :
    (runtime.answer call result).next now (.resume call) = none := by
  simp only [next]
  rw [show (runtime.answer call result).calls.get? call = none from OrderedMap.get?_delete_self _ _]
  rfl

theorem Pending.stands (pending : Pending runtime promise) (call : Nat) :
    (runtime.await call (.revoke promise)).next now (.resume call) = none := by
  apply await_stands
  unfold CredentialSafeHumanSurfaceRuntime.resume
  rw [Option.map_eq_none_iff]
  exact pending.outcome

/-- A revocation never awaits what is settled already. -/
theorem Waiting.revokeFrom_stands (waiting : Waiting runtime) (call : Nat)
    (request : ExternalHumanSurfaceRequest) :
    (runtime.revokeFrom now call request).next now (.resume call) = none := by
  unfold CredentialSafeHumanSurfaceRuntime.revokeFrom
  split
  · rename_i start starting state
    split
    · apply await_stands
      unfold CredentialSafeHumanSurfaceRuntime.resume
      rw [Option.map_eq_none_iff]
      unfold startOutcome
      rw [show (runtime.await call (.revokeStart start request)).starts.get? start =
        some (.begun starting) from waiting.starting start starting state]
    · exact answer_stands _ _
  · rename_i surface state
    split
    · obtain ⟨reads, read⟩ := @isExpired_quiet now runtime surface.expiresAt
      dsimp only
      rw [read]
      obtain ⟨_, pending⟩ := (waiting.reads reads).cleanUp
        surface.toExternalHumanSurfaceRequest surface.sessionId
        (if (runtime.isExpired now surface.expiresAt).1 then .expired else .revocation)
      exact pending.stands call
    · exact answer_stands _ _
  · rename_i cleanup state
    split
    · obtain ⟨_, pending⟩ := waiting.performCleanup (waiting.held cleanup state)
      exact pending.stands call
    · exact answer_stands _ _
  · exact answer_stands _ _

/-- A call that goes on is answered, or awaits what is not settled. -/
theorem Waiting.resume_stands (waiting : Waiting runtime) {call : Nat} {stage : SurfaceCall}
    (resumed : runtime.resume now call stage = some after) :
    after.next now (.resume call) = none := by
  cases stage with
  | begin start | beginCleanup promise error | revoke promise =>
      obtain ⟨_, _, rfl⟩ := map_eq_some_iff.mp resumed
      exact answer_stands _ _
  | revokeStart start request =>
      obtain ⟨outcome, _, rfl⟩ := map_eq_some_iff.mp resumed
      split
      · exact answer_stands _ _
      · exact waiting.revokeFrom_stands _ _

/-! ## Calls are not lost -/

/-- The call is waiting, or it is answered. -/
def Called (runtime : CredentialSafeHumanSurfaceRuntime) (call : Nat) : Prop :=
  (∃ stage, runtime.calls.get? call = some stage) ∨ ∃ result, runtime.answers.get? call = some result

/-- What one call does, ending in its answer or at an await. -/
inductive Attends (runtime : CredentialSafeHumanSurfaceRuntime) (call : Nat) :
    CredentialSafeHumanSurfaceRuntime → Prop where
  | awaits {middle : CredentialSafeHumanSurfaceRuntime} (calls : middle.calls = runtime.calls)
      (answers : middle.answers = runtime.answers) (stage : SurfaceCall) :
      Attends runtime call (middle.await call stage)
  | answers {middle : CredentialSafeHumanSurfaceRuntime} (calls : middle.calls = runtime.calls)
      (answers : middle.answers = runtime.answers) (result : Except SurfaceFailure SurfaceReply) :
      Attends runtime call (middle.answer call result)

theorem Attends.called {call : Nat} (attends : Attends runtime call after) : after.Called call := by
  cases attends with
  | awaits => exact .inl ⟨_, OrderedMap.get?_set_self _ _ _⟩
  | answers => exact .inr ⟨_, OrderedMap.get?_set_self _ _ _⟩

theorem Attends.keeps {call other : Nat} (attends : Attends runtime call after)
    (called : runtime.Called other) : after.Called other := by
  by_cases here : other = call
  · exact here ▸ attends.called
  · cases attends with
    | awaits calls answers stage =>
        refine called.imp (fun ⟨stage', found⟩ => ⟨stage', ?_⟩) fun ⟨result, found⟩ => ⟨result, ?_⟩
        · exact (OrderedMap.get?_set_ne _ _ here).trans (calls ▸ found)
        · exact answers ▸ found
    | answers calls answers result =>
        refine called.imp (fun ⟨stage, found⟩ => ⟨stage, ?_⟩) fun ⟨result', found⟩ => ⟨result', ?_⟩
        · exact (OrderedMap.get?_delete_ne _ here).trans (calls ▸ found)
        · exact (OrderedMap.get?_set_ne _ _ here).trans (answers ▸ found)

theorem performCleanup_keeps (cleanup : SurfaceCleanup) :
    (runtime.performCleanup cleanup).2.calls = runtime.calls ∧
      (runtime.performCleanup cleanup).2.answers = runtime.answers := by
  unfold performCleanup
  split
  · exact ⟨rfl, rfl⟩
  · exact ⟨rfl, rfl⟩

theorem cleanUp_keeps (request : ExternalHumanSurfaceRequest) (sessionId : SurfaceValue)
    (reason : ExternalHumanSurfaceCleanupReason) :
    (runtime.cleanUp request sessionId reason).2.calls = runtime.calls ∧
      (runtime.cleanUp request sessionId reason).2.answers = runtime.answers :=
  @performCleanup_keeps { runtime with
    numbers := runtime.numbers + 1
    state := .cleanupRequired ⟨runtime.numbers, request, sessionId, reason, none⟩ } _

theorem begin_attends (intervention : HumanSurfaceInterventionRef) (principalBinding : String) :
    Attends runtime runtime.numbers (runtime.begin now intervention principalBinding) := by
  unfold CredentialSafeHumanSurfaceRuntime.begin
  dsimp only
  split
  · apply Attends.answers
    · rfl
    · rfl
  · split
    · split
      · apply Attends.awaits
        · rfl
        · rfl
      · apply Attends.answers
        · rfl
        · rfl
    · rename_i cleanup _
      obtain ⟨calls, answers⟩ := @performCleanup_keeps
        { runtime with numbers := runtime.numbers + 1 } cleanup
      apply Attends.awaits
      · exact calls
      · exact answers
    · rename_i cached _
      obtain ⟨reads, read⟩ := @isExpired_quiet now
        { runtime with numbers := runtime.numbers + 1 } cached.expiresAt
      rw [read]
      split
      · obtain ⟨calls, answers⟩ := @cleanUp_keeps
          { runtime with numbers := runtime.numbers + 1, reads }
          cached.toExternalHumanSurfaceRequest cached.sessionId .expired
        apply Attends.awaits
        · exact calls
        · exact answers
      · split
        · apply Attends.answers
          · rfl
          · rfl
        · apply Attends.answers
          · rfl
          · rfl
    · apply Attends.awaits
      · rfl
      · rfl

theorem Attends.of_eq {call : Nat}
    (attends : Attends middle call after) (calls : middle.calls = runtime.calls)
    (answers : middle.answers = runtime.answers) : Attends runtime call after := by
  cases attends with
  | awaits same same' stage => exact .awaits (same.trans calls) (same'.trans answers) stage
  | answers same same' result => exact .answers (same.trans calls) (same'.trans answers) result

theorem revokeFrom_attends (call : Nat) (request : ExternalHumanSurfaceRequest) :
    Attends runtime call (runtime.revokeFrom now call request) := by
  unfold CredentialSafeHumanSurfaceRuntime.revokeFrom
  split
  · split
    · exact .awaits rfl rfl _
    · exact .answers rfl rfl _
  · rename_i surface _
    split
    · obtain ⟨reads, read⟩ := @isExpired_quiet now runtime surface.expiresAt
      dsimp only
      rw [read]
      obtain ⟨calls, answers⟩ := @cleanUp_keeps { runtime with reads }
        surface.toExternalHumanSurfaceRequest surface.sessionId
        (if (runtime.isExpired now surface.expiresAt).1 then .expired else .revocation)
      apply Attends.awaits
      · exact calls
      · exact answers
    · exact .answers rfl rfl _
  · rename_i cleanup _
    split
    · obtain ⟨calls, answers⟩ := @performCleanup_keeps runtime cleanup
      exact .awaits calls answers _
    · exact .answers rfl rfl _
  · exact .answers rfl rfl _

theorem resume_attends {call : Nat} {stage : SurfaceCall}
    (resumed : runtime.resume now call stage = some after) : Attends runtime call after := by
  cases stage with
  | begin start | beginCleanup promise error | revoke promise =>
      obtain ⟨_, _, rfl⟩ := map_eq_some_iff.mp resumed
      exact .answers rfl rfl _
  | revokeStart start request =>
      obtain ⟨outcome, _, rfl⟩ := map_eq_some_iff.mp resumed
      split
      · exact .answers rfl rfl _
      · exact revokeFrom_attends _ _

theorem revoke_attends (request : ExternalHumanSurfaceRequest) :
    Attends runtime runtime.numbers (runtime.revoke now request) := by
  unfold CredentialSafeHumanSurfaceRuntime.revoke
  apply Attends.of_eq (revokeFrom_attends _ _)
  · rfl
  · rfl

/-- The calls that are waiting and their answers stay as they are. -/
structure Spares (runtime after : CredentialSafeHumanSurfaceRuntime) : Prop where
  calls : after.calls = runtime.calls
  answers : after.answers = runtime.answers

theorem Spares.called {call : Nat} (spares : Spares runtime after) (called : runtime.Called call) :
    after.Called call := by
  unfold Called
  rw [spares.calls, spares.answers]
  exact called

theorem StartMoves.spares {start : Nat} (moves : StartMoves runtime start after) :
    Spares runtime after := by
  cases moves with
  | settled same outcome => exact ⟨same.calls, same.answers⟩
  | @failed middle same request sessionId reason error =>
      obtain ⟨calls, answers⟩ := @cleanUp_keeps middle request sessionId reason
      exact ⟨calls.trans same.calls, answers.trans same.answers⟩

/-- A step of a call, or one that leaves the calls as they are. -/
theorem next_attends {event : SurfaceEvent} (step : runtime.next now event = some after) :
    (∃ call, Attends runtime call after) ∨ Spares runtime after := by
  cases event with
  | begin intervention principalBinding =>
      cases step
      exact .inl ⟨_, begin_attends _ _⟩
  | revoke request =>
      cases step
      exact .inl ⟨_, revoke_attends _⟩
  | getActive =>
      cases step
      unfold getActive
      split
      · rename_i surface _
        obtain ⟨reads, read⟩ := @isExpired_quiet now runtime surface.expiresAt
        dsimp only
        rw [read]
        exact .inr ⟨rfl, rfl⟩
      · exact .inr ⟨rfl, rfl⟩
  | providerBegan start outcome =>
      simp only [next] at step
      split at step
      · cases step
        exact .inr (providerBegan_moves _ _ _).spares
      · cases step
  | invokeRevoke promise =>
      simp only [next] at step
      split at step
      · cases step
        exact .inr ⟨rfl, rfl⟩
      · cases step
  | providerRevoked promise succeeded =>
      simp only [next] at step
      split at step
      · cases step
        obtain ⟨_, calls, answers, _⟩ := providerRevoked_keeps promise _ succeeded
        exact .inr ⟨calls, answers⟩
      · cases step
  | resumeStart start =>
      simp only [next] at step
      split at step
      · obtain ⟨_, _, rfl⟩ := map_eq_some_iff.mp step
        exact .inr ⟨rfl, rfl⟩
      · cases step
  | resume call =>
      obtain ⟨stage, _, resumed⟩ := bind_eq_some_iff.mp step
      exact .inl ⟨_, resume_attends resumed⟩

/-- A call that was made stays waiting or answered. -/
theorem settle_called {event : SettlingEvent} {call : Nat} (step : settle now runtime event = some after)
    (called : runtime.Called call) : after.Called call := by
  cases event with
  | surface event =>
      rcases next_attends step with ⟨_, attends⟩ | spares
      · exact attends.keeps called
      · exact spares.called called
  | returned start grant =>
      simp only [settle] at step
      split at step
      · cases step
        exact (providerReturned_moves _ _ _).spares.called called
      · cases step

/-! ## Every run -/

/-- Nothing is wedged: no state waits for a start that is over, and the calls that were made come to
their answers once the provider calls that they wait for are settled. -/
structure Unwedged (now : Nat → Int) (Step : CredentialSafeHumanSurfaceRuntime → SettlingEvent →
    CredentialSafeHumanSurfaceRuntime → Prop) (runtime : CredentialSafeHumanSurfaceRuntime) :
    Prop where
  starting : ∀ start request, runtime.state = .starting start request →
    runtime.starts.get? start = some (.begun request)
  begins : ∀ intervention principalBinding,
    (runtime.begin now intervention principalBinding).Called runtime.numbers
  revokes : ∀ request, (runtime.revoke now request).Called runtime.numbers
  /-- Whatever happens, a call is answered or one of the steps that it waits for can be taken. -/
  moves : ∀ call events last, runtime.Called call → Run Step runtime events last →
    (∃ result, last.answers.get? call = some result) ∨
      ∃ stage event after, last.calls.get? call = some stage ∧ last.Needs call stage event ∧
        Step last event after
  /-- There are only so many steps to take. -/
  bounded : ∃ bound, ∀ events last,
    Run (Guarded Step fun _ event => Settles event) runtime events last → events.length ≤ bound
  /-- No call goes on to await what is settled already. -/
  turns : ∀ call after, settle now runtime (.surface (.resume call)) = some after →
    after.next now (.resume call) = none

theorem effort_bounds {events : List SettlingEvent} {last : CredentialSafeHumanSurfaceRuntime}
    (waiting : Waiting runtime)
    (run : Run (Guarded (GrantedStep now) fun _ event => Settles event) runtime events last) :
    events.length ≤ runtime.effort :=
  run.length_le (fun step => step.1.waiting) (fun step waiting => step.1.effort_lt waiting step.2)
    waiting

theorem Waiting.unwedged (waiting : Waiting runtime) : Unwedged now (GrantedStep now) runtime where
  starting := waiting.starting
  begins intervention principalBinding := (begin_attends intervention principalBinding).called
  revokes request := (revoke_attends request).called
  moves call events last called run := by
    have waiting : Waiting last := run.invariant (fun step => GrantedStep.waiting step) waiting
    have called : last.Called call :=
      run.invariant (fun {_ _ _} step => settle_called step.1) called
    rcases called with ⟨stage, found⟩ | answered
    · obtain ⟨event, after, needs, step⟩ := waiting.moves found
      exact .inr ⟨stage, event, after, found, needs, step⟩
    · exact .inl answered
  bounded := ⟨runtime.effort, fun _ _ run => effort_bounds waiting run⟩
  turns call after step := by
    obtain ⟨stage, _, resumed⟩ := bind_eq_some_iff.mp step
    exact waiting.resume_stands resumed

theorem created_waiting {kind : String} (created : create kind = .ok runtime) : Waiting runtime := by
  unfold create at created
  dsimp only at created
  split at created
  · cases created
  · cases created
    exact ⟨fun _ _ no => (by cases no), fun _ _ _ no => (by cases no), fun _ no => (by cases no),
      fun _ _ no => by cases no⟩

/-- Whatever the provider settles with, as long as the session id of its grants can be read, nothing
is ever wedged. -/
theorem run_unwedged {first : CredentialSafeHumanSurfaceRuntime} {kind : String}
    {events : List SettlingEvent} (created : create kind = .ok first)
    (run : Run (GrantedStep now) first events runtime) : Unwedged now (GrantedStep now) runtime := by
  have waiting : Waiting runtime :=
    run.invariant (fun step => GrantedStep.waiting step) (created_waiting created)
  exact waiting.unwedged

/-! ### Malformed grants -/

instance : ∀ source event, Decidable (Readable source event)
  | _, .returned _ grant => inferInstanceAs (Decidable (grant ≠ .unreadable))
  | _, .surface _ => inferInstanceAs (Decidable True)

def samplePerson : HumanSurfaceInterventionRef := ⟨"ho-1", 1, .humanActive, .human⟩

def sampleRequest : ExternalHumanSurfaceRequest := samplePerson.requestFor "operator"

/-- A grant of no type at all is revoked, at the second attempt. -/
def sampleMalformed : List SettlingEvent :=
  [.surface (.begin samplePerson "operator"), .surface (.revoke sampleRequest),
    .returned 1 (.fields (.number none) .null .undefined), .surface (.invokeRevoke 4),
    .surface (.providerRevoked 4 false), .surface (.resumeStart 1), .surface (.resume 0),
    .surface (.resume 2), .surface (.invokeRevoke 5), .surface (.providerRevoked 5 true),
    .surface (.resume 2)]

def sampleBrowser : CredentialSafeHumanSurfaceRuntime :=
  ⟨"browser", .idle, .empty, .empty, .empty, .empty, [], 0, 0⟩

theorem sampleMalformed_unwedged :
    ∃ runtime, Run (GrantedStep fun _ => 1000) sampleBrowser sampleMalformed runtime ∧
      runtime.state = .idle ∧ Unwedged (fun _ => 1000) (GrantedStep fun _ => 1000) runtime := by
  have idle : (execute (permitted (settle fun _ => 1000) Readable) sampleBrowser
      sampleMalformed).map CredentialSafeHumanSurfaceRuntime.state = some .idle := by decide
  obtain ⟨runtime, executed, state⟩ := Option.map_eq_some_iff.mp idle
  have created : create " browser " = .ok sampleBrowser := by decide
  have run := run_guarded_of_execute executed
  exact ⟨runtime, run, state, run_unwedged created run⟩

/-- The provider grants null, and a `revoke` follows. -/
def sampleUnreadable : List SettlingEvent :=
  [.surface (.begin samplePerson "operator"), .returned 1 .unreadable, .surface (.resume 0),
    .surface (.revoke sampleRequest)]

/-- The `revoke` calls itself for ever. -/
theorem sampleUnreadable_wedged :
    ∃ runtime, create " browser " = .ok sampleBrowser ∧
      Run (StepOf (settle fun _ => 1000)) sampleBrowser sampleUnreadable runtime ∧
      runtime.state = .starting 1 sampleRequest ∧
      settle (fun _ => 1000) runtime (.surface (.resume 2)) = some runtime ∧
      ¬ Unwedged (fun _ => 1000) (StepOf (settle fun _ => 1000)) runtime := by
  have created : create " browser " = .ok sampleBrowser := by decide
  have stuck : (execute (settle fun _ => 1000) sampleBrowser sampleUnreadable).any (fun runtime =>
      decide (runtime.state = .starting 1 sampleRequest ∧
        settle (fun _ => 1000) runtime (.surface (.resume 2)) = some runtime)) = true := by decide
  obtain ⟨runtime, executed, stuck⟩ := (Option.any_eq_true _ _).mp stuck
  obtain ⟨state, again⟩ := of_decide_eq_true stuck
  refine ⟨runtime, created, (run_iff_execute _ _ _ _).mpr executed, state, again, fun unwedged => ?_⟩
  cases again.symm.trans (unwedged.turns 2 runtime again)

end CredentialSafeHumanSurfaceRuntime

end ExecutionHandoff.Core
