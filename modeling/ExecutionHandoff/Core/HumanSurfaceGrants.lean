import ExecutionHandoff.Core.HumanSurface
import ExecutionHandoff.Library.Histories

/-!
# One granted surface at a time

What the provider sees of the runtime: no `provider.begin` while a session that
it granted is not revoked, and one call of it and of `provider.revoke` at a
time.  A session is revoked under the id that the runtime keeps, which is the
granted one with the white space around it removed.
-/

namespace ExecutionHandoff.Core

open Library Option
open OrderedMap (get?_set_ne get?_set_self get?_delete_self)

/-! ## What the log says -/

/-- The granted sessions with no successful `provider.revoke` of their id since. -/
def unrevoked : List SurfaceFact → List SurfaceValue
  | [] => []
  | .granted _ sessionId :: past => sessionId :: unrevoked past
  | .revoked _ sessionId :: past => (unrevoked past).filter (· ≠ sessionId)
  | _ :: past => unrevoked past

/-- The calls of `provider.begin` without an outcome yet. -/
def startsInFlight : List SurfaceFact → List Nat
  | [] => []
  | .begun start :: past => start :: startsInFlight past
  | .granted start _ :: past | .rejected start :: past => (startsInFlight past).filter (· ≠ start)
  | _ :: past => startsInFlight past

/-- The calls of `provider.revoke` without an outcome yet. -/
def revokesInFlight : List SurfaceFact → List Nat
  | [] => []
  | .revoking promise _ :: past => promise :: revokesInFlight past
  | .revoked promise _ :: past | .revokeFailed promise :: past =>
      (revokesInFlight past).filter (· ≠ promise)
  | _ :: past => revokesInFlight past

/-- What must have been so when a fact was recorded. -/
def InTurn : SurfaceFact → List SurfaceFact → Prop
  | .begun _, past => unrevoked past = [] ∧ startsInFlight past = []
  | .revoking _ _, past => revokesInFlight past = []
  | _, _ => True

structure Traffic (log : List SurfaceFact) (sessions : List SurfaceValue)
    (starts revokes : List Nat) : Prop where
  sessions : unrevoked log = sessions
  starts : startsInFlight log = starts
  revokes : revokesInFlight log = revokes

namespace Traffic

variable {log : List SurfaceFact} {sessionId : SurfaceValue} {start promise : Nat}

theorem begun (traffic : Traffic log [] [] []) (start : Nat) :
    Traffic (.begun start :: log) [] [start] [] :=
  ⟨traffic.sessions, congrArg (start :: ·) traffic.starts, traffic.revokes⟩

theorem granted (traffic : Traffic log [] [start] []) (sessionId : SurfaceValue) :
    Traffic (.granted start sessionId :: log) [sessionId] [] [] := by
  refine ⟨congrArg (sessionId :: ·) traffic.sessions, ?_, traffic.revokes⟩
  simp [startsInFlight, traffic.starts]

theorem rejected (traffic : Traffic log [] [start] []) :
    Traffic (.rejected start :: log) [] [] [] := by
  refine ⟨traffic.sessions, ?_, traffic.revokes⟩
  simp [startsInFlight, traffic.starts]

theorem revoking (traffic : Traffic log [sessionId] [] []) (promise : Nat) :
    Traffic (.revoking promise sessionId :: log) [sessionId] [] [promise] :=
  ⟨traffic.sessions, traffic.starts, congrArg (promise :: ·) traffic.revokes⟩

theorem revoked (traffic : Traffic log [sessionId] [] [promise]) :
    Traffic (.revoked promise sessionId :: log) [] [] [] := by
  refine ⟨?_, traffic.starts, ?_⟩
  · simp [unrevoked, traffic.sessions]
  · simp [revokesInFlight, traffic.revokes]

theorem revokeFailed (traffic : Traffic log [sessionId] [] [promise]) :
    Traffic (.revokeFailed promise :: log) [sessionId] [] [] := by
  refine ⟨traffic.sessions, traffic.starts, ?_⟩
  simp [revokesInFlight, traffic.revokes]

end Traffic

namespace CredentialSafeHumanSurfaceRuntime

variable {now : Nat → Int} {runtime after : CredentialSafeHumanSurfaceRuntime}

/-! ## The states of the runtime -/

/-- What the provider has seen, by the state of the runtime. -/
inductive Phase (runtime : CredentialSafeHumanSurfaceRuntime) :
    ExternalHumanSurfaceRuntimeState → Prop where
  | idle (traffic : Traffic runtime.log [] [] []) : Phase runtime .idle
  | starting {start : Nat} {request : ExternalHumanSurfaceRequest}
      (begun : runtime.starts.get? start = some (.begun request))
      (traffic : Traffic runtime.log [] [start] []) : Phase runtime (.starting start request)
  | active {surface : ActiveExternalHumanSurface}
      (traffic : Traffic runtime.log [surface.sessionId] [] []) : Phase runtime (.active surface)
  | resting {cleanup : SurfaceCleanup} (free : cleanup.revokePromise = none)
      (traffic : Traffic runtime.log [cleanup.sessionId] [] []) :
      Phase runtime (.cleanupRequired cleanup)
  | scheduled {cleanup : SurfaceCleanup} {promise : Nat}
      (held : cleanup.revokePromise = some promise)
      (task : runtime.revokes.get? promise = some ⟨cleanup.id, cleanup.sessionId, .scheduled⟩)
      (traffic : Traffic runtime.log [cleanup.sessionId] [] []) :
      Phase runtime (.cleanupRequired cleanup)
  | invoked {cleanup : SurfaceCleanup} {promise : Nat}
      (held : cleanup.revokePromise = some promise)
      (task : runtime.revokes.get? promise = some ⟨cleanup.id, cleanup.sessionId, .invoked⟩)
      (traffic : Traffic runtime.log [cleanup.sessionId] [] [promise]) :
      Phase runtime (.cleanupRequired cleanup)

theorem Phase.transfer {state : ExternalHumanSurfaceRuntimeState} (phase : Phase runtime state)
    (starts : after.starts = runtime.starts) (revokes : after.revokes = runtime.revokes)
    (log : after.log = runtime.log) : Phase after state := by
  cases phase with
  | idle traffic => exact .idle (log ▸ traffic)
  | starting begun traffic => exact .starting (starts ▸ begun) (log ▸ traffic)
  | active traffic => exact .active (log ▸ traffic)
  | resting free traffic => exact .resting free (log ▸ traffic)
  | scheduled held task traffic => exact .scheduled held (revokes ▸ task) (log ▸ traffic)
  | invoked held task traffic => exact .invoked held (revokes ▸ task) (log ▸ traffic)

structure Orderly (runtime : CredentialSafeHumanSurfaceRuntime) : Prop where
  phase : Phase runtime runtime.state
  begun : ∀ start request, runtime.starts.get? start = some (.begun request) →
    runtime.state = .starting start request
  pending : ∀ promise task, runtime.revokes.get? promise = some task →
    (∃ succeeded, task.stage = .settled succeeded) ∨
      ∃ cleanup, runtime.state = .cleanupRequired cleanup ∧
        cleanup.revokePromise = some promise
  starts : ∀ start stage, runtime.starts.get? start = some stage → start < runtime.numbers
  revokes : ∀ promise task, runtime.revokes.get? promise = some task → promise < runtime.numbers
  history : Each InTurn runtime.log

theorem created_orderly {kind : String} (created : create kind = .ok runtime) :
    Orderly runtime := by
  unfold create at created
  dsimp only at created
  split at created
  · cases created
  · cases created
    exact ⟨.idle ⟨rfl, rfl, rfl⟩, fun _ _ no => (nomatch no), fun _ _ no => (nomatch no),
      fun _ _ no => (nomatch no), fun _ _ no => (nomatch no), trivial⟩

/-- A step that leaves the state, the tasks and the log alone. -/
theorem Orderly.quiet (orderly : Orderly runtime) (state : after.state = runtime.state)
    (starts : after.starts = runtime.starts) (revokes : after.revokes = runtime.revokes)
    (log : after.log = runtime.log) (numbers : runtime.numbers ≤ after.numbers) :
    Orderly after := by
  constructor
  · rw [state]
    exact orderly.phase.transfer starts revokes log
  · rw [state, starts]
    exact orderly.begun
  · rw [state, revokes]
    exact orderly.pending
  · rw [starts]
    exact fun start stage stored => Nat.lt_of_lt_of_le (orderly.starts start stage stored) numbers
  · rw [revokes]
    exact fun promise task stored =>
      Nat.lt_of_lt_of_le (orderly.revokes promise task stored) numbers
  · rw [log]
    exact orderly.history

/-! ## Clean-ups -/

/-- A clean-up that has just become the state, with its revocation scheduled. -/
theorem orderly_cleanUp {request : ExternalHumanSurfaceRequest} {sessionId : SurfaceValue}
    {reason : ExternalHumanSurfaceCleanupReason} (traffic : Traffic runtime.log [sessionId] [] [])
    (none' : ∀ start request, runtime.starts.get? start ≠ some (.begun request))
    (ended : ∀ promise task, runtime.revokes.get? promise = some task →
      ∃ succeeded, task.stage = .settled succeeded)
    (starts : ∀ start stage, runtime.starts.get? start = some stage → start < runtime.numbers)
    (revokes : ∀ promise task, runtime.revokes.get? promise = some task →
      promise < runtime.numbers)
    (history : Each InTurn runtime.log) :
    Orderly (runtime.cleanUp request sessionId reason).2 := by
  constructor
  · exact .scheduled rfl (get?_set_self _ _ _) traffic
  · exact fun start request begun => absurd begun (none' start request)
  · intro promise task stored
    by_cases here : promise = runtime.numbers + 1
    · subst here
      exact .inr ⟨_, rfl, rfl⟩
    · exact .inl (ended promise task ((get?_set_ne _ _ here).symm.trans stored))
  · intro start stage stored
    have lt : start < runtime.numbers := starts start stage stored
    change start < runtime.numbers + 1 + 1
    omega
  · intro promise task stored
    change promise < runtime.numbers + 1 + 1
    by_cases here : promise = runtime.numbers + 1
    · omega
    · have lt := revokes promise task ((get?_set_ne _ _ here).symm.trans stored)
      omega
  · exact history

/-- Outside of a start no start awaits the provider. -/
theorem Orderly.none_begun (orderly : Orderly runtime)
    (other : ∀ start request, runtime.state ≠ .starting start request) (start : Nat)
    (request : ExternalHumanSurfaceRequest) :
    runtime.starts.get? start ≠ some (.begun request) :=
  fun begun => other start request (orderly.begun start request begun)

/-- Outside of a clean-up every revocation is over. -/
theorem Orderly.all_over (orderly : Orderly runtime)
    (other : ∀ cleanup, runtime.state ≠ .cleanupRequired cleanup) (promise : Nat)
    (task : RevokeTask) (stored : runtime.revokes.get? promise = some task) :
    ∃ succeeded, task.stage = .settled succeeded := by
  rcases orderly.pending promise task stored with ended | ⟨cleanup, state, _⟩
  · exact ended
  · exact absurd state (other cleanup)

theorem Orderly.performCleanup (orderly : Orderly runtime) {cleanup : SurfaceCleanup}
    (state : runtime.state = .cleanupRequired cleanup) :
    Orderly (runtime.performCleanup cleanup).2 := by
  have phase := orderly.phase
  rw [state] at phase
  unfold CredentialSafeHumanSurfaceRuntime.performCleanup
  cases free : cleanup.revokePromise with
  | some promise => exact orderly
  | none =>
      dsimp only
      have traffic : Traffic runtime.log [cleanup.sessionId] [] [] := by
        cases phase with
        | resting _ traffic => exact traffic
        | scheduled held | invoked held =>
            rw [free] at held
            cases held
      constructor
      · exact .scheduled rfl (get?_set_self _ _ _) traffic
      · intro start request begun
        exact absurd (orderly.begun start request begun) (by rw [state]; nofun)
      · intro promise task stored
        by_cases here : promise = runtime.numbers
        · subst here
          exact .inr ⟨_, rfl, rfl⟩
        · -- no other revocation is open beside a clean-up that is free
          rcases orderly.pending promise task
            ((get?_set_ne _ _ here).symm.trans stored) with ended | ⟨other, same, held⟩
          · exact .inl ended
          · cases state.symm.trans same
            rw [free] at held
            cases held
      · exact fun start stage stored => Nat.lt_succ_of_lt (orderly.starts start stage stored)
      · intro promise task stored
        by_cases here : promise = runtime.numbers
        · exact here ▸ Nat.lt_succ_self _
        · exact Nat.lt_succ_of_lt
            (orderly.revokes promise task ((get?_set_ne _ _ here).symm.trans stored))
      · exact orderly.history

/-- Cleaning up an active surface. -/
theorem Orderly.cleanActive (orderly : Orderly runtime) {surface : ActiveExternalHumanSurface}
    (state : runtime.state = .active surface) (request : ExternalHumanSurfaceRequest)
    (reason : ExternalHumanSurfaceCleanupReason) :
    Orderly (runtime.cleanUp request surface.sessionId reason).2 := by
  have phase := orderly.phase
  rw [state] at phase
  cases phase with
  | active traffic =>
      exact orderly_cleanUp traffic (orderly.none_begun (by rw [state]; nofun))
        (orderly.all_over (by rw [state]; nofun)) orderly.starts orderly.revokes orderly.history

theorem Orderly.await (orderly : Orderly runtime) (call : Nat) (stage : SurfaceCall) :
    Orderly (runtime.await call stage) :=
  orderly.quiet rfl rfl rfl rfl (Nat.le_refl _)

theorem Orderly.answer (orderly : Orderly runtime) (call : Nat)
    (result : Except SurfaceFailure SurfaceReply) : Orderly (runtime.answer call result) :=
  orderly.quiet rfl rfl rfl rfl (Nat.le_refl _)

theorem Orderly.read (orderly : Orderly runtime) (reads : Nat) : Orderly { runtime with reads } :=
  orderly.quiet rfl rfl rfl rfl (Nat.le_refl _)

/-! ## The calls -/

/-- The only place that calls `provider.begin`. -/
theorem Orderly.start (orderly : Orderly runtime) (state : runtime.state = .idle)
    (request : ExternalHumanSurfaceRequest) :
    Orderly ({ runtime with
      numbers := runtime.numbers + 1
      state := .starting runtime.numbers request
      starts := runtime.starts.set runtime.numbers (.begun request) }.record
        (.begun runtime.numbers)) := by
  have phase := orderly.phase
  rw [state] at phase
  cases phase with
  | idle traffic =>
      constructor
      · exact .starting (get?_set_self _ _ _) (traffic.begun _)
      · intro start other begun
        by_cases here : start = runtime.numbers
        · subst here
          cases (get?_set_self _ _ _).symm.trans begun
          rfl
        · -- no other start awaits the provider while the runtime is idle
          have older : runtime.starts.get? start = some (.begun other) :=
            (get?_set_ne _ _ here).symm.trans begun
          exact absurd older (orderly.none_begun (by rw [state]; nofun) start other)
      · exact fun promise task stored =>
          .inl (orderly.all_over (by rw [state]; nofun) promise task stored)
      · intro start stage stored
        by_cases here : start = runtime.numbers
        · exact here ▸ Nat.lt_succ_self _
        · exact Nat.lt_succ_of_lt
            (orderly.starts start stage ((get?_set_ne _ _ here).symm.trans stored))
      · exact fun promise task stored => Nat.lt_succ_of_lt (orderly.revokes promise task stored)
      · exact Each.cons ⟨traffic.sessions, traffic.starts⟩ orderly.history

theorem Orderly.begin (orderly : Orderly runtime) (intervention : HumanSurfaceInterventionRef)
    (principalBinding : String) :
    Orderly (runtime.begin now intervention principalBinding) := by
  have begun : Orderly { runtime with numbers := runtime.numbers + 1 } :=
    orderly.quiet rfl rfl rfl rfl (Nat.le_succ _)
  unfold CredentialSafeHumanSurfaceRuntime.begin
  dsimp only
  split
  · exact begun.answer _ _
  · split
    · split
      · exact begun.await _ _
      · exact begun.answer _ _
    · rename_i cleanup state
      exact (begun.performCleanup state).await _ _
    · rename_i cached state
      obtain ⟨reads, read⟩ := @isExpired_quiet now
        { runtime with numbers := runtime.numbers + 1 } cached.expiresAt
      rw [read]
      split
      · exact ((begun.read reads).cleanActive state _ _).await _ _
      · split
        · exact (begun.read reads).answer _ _
        · exact (begun.read reads).answer _ _
    · rename_i state
      exact (begun.start state _).await _ _

theorem Orderly.revokeFrom (orderly : Orderly runtime) (call : Nat)
    (request : ExternalHumanSurfaceRequest) :
    Orderly (runtime.revokeFrom now call request) := by
  unfold CredentialSafeHumanSurfaceRuntime.revokeFrom
  split
  · split
    · exact orderly.await _ _
    · exact orderly.answer _ _
  · rename_i surface state
    split
    · obtain ⟨reads, read⟩ := @isExpired_quiet now runtime surface.expiresAt
      dsimp only
      rw [read]
      exact ((orderly.read reads).cleanActive state _ _).await _ _
    · exact orderly.answer _ _
  · rename_i cleanup state
    split
    · exact (orderly.performCleanup state).await _ _
    · exact orderly.answer _ _
  · exact orderly.answer _ _

theorem Orderly.revoke (orderly : Orderly runtime) (request : ExternalHumanSurfaceRequest) :
    Orderly (runtime.revoke now request) := by
  have begun : Orderly { runtime with numbers := runtime.numbers + 1 } :=
    orderly.quiet rfl rfl rfl rfl (Nat.le_succ _)
  exact begun.revokeFrom _ request

/-! ## The outcome of `provider.begin` -/

section Started

variable {start : Nat} {request : ExternalHumanSurfaceRequest} {stage : StartStage}

/-- A start whose `provider.begin` is settled leaves none that awaits it. -/
theorem Orderly.none_begun_set (orderly : Orderly runtime)
    (state : runtime.state = .starting start request) (ended : ∀ request, stage ≠ .begun request)
    (other : Nat) (otherRequest : ExternalHumanSurfaceRequest) :
    (runtime.starts.set start stage).get? other ≠ some (.begun otherRequest) := by
  intro begun
  by_cases here : other = start
  · subst here
    exact ended otherRequest (Option.some.inj ((get?_set_self _ _ _).symm.trans begun))
  · have older : runtime.starts.get? other = some (.begun otherRequest) :=
      (get?_set_ne _ _ here).symm.trans begun
    cases state.symm.trans (orderly.begun other otherRequest older)
    exact here rfl

theorem Orderly.starts_set (orderly : Orderly runtime)
    (begun : runtime.starts.get? start = some (.begun request)) (other : Nat) (found : StartStage)
    (stored : (runtime.starts.set start stage).get? other = some found) :
    other < runtime.numbers := by
  by_cases here : other = start
  · exact here ▸ orderly.starts start _ begun
  · exact orderly.starts other found ((get?_set_ne _ _ here).symm.trans stored)

theorem Orderly.over_of_begun (orderly : Orderly runtime)
    (begun : runtime.starts.get? start = some (.begun request)) :
    ∀ promise task, runtime.revokes.get? promise = some task →
      ∃ succeeded, task.stage = .settled succeeded :=
  orderly.all_over (by rw [orderly.begun start request begun]; nofun)

/-- The traffic while a start awaits the provider. -/
theorem Orderly.traffic_of_begun (orderly : Orderly runtime)
    (begun : runtime.starts.get? start = some (.begun request)) :
    Traffic runtime.log [] [start] [] := by
  have phase := orderly.phase
  rw [orderly.begun start request begun] at phase
  cases phase with
  | starting _ traffic => exact traffic

/-- A start that settles without a clean-up. -/
theorem Orderly.settleStart (orderly : Orderly runtime)
    (begun : runtime.starts.get? start = some (.begun request))
    {outcome : Except SurfaceFailure ActiveExternalHumanSurface}
    {state : ExternalHumanSurfaceRuntimeState} {fact : SurfaceFact}
    (free : ∀ past, InTurn fact past)
    (phase : Phase (((runtime.record fact).become state).settleStart start outcome) state) :
    Orderly (((runtime.record fact).become state).settleStart start outcome) := by
  have starting : runtime.state = .starting start request := orderly.begun start request begun
  constructor
  · exact phase
  · intro other otherRequest awaiting
    exact absurd awaiting (orderly.none_begun_set starting (by nofun) other otherRequest)
  · exact fun promise task stored => .inl (orderly.over_of_begun begun promise task stored)
  · exact orderly.starts_set begun
  · exact orderly.revokes
  · exact Each.cons (free _) orderly.history

/-- A start that cleans up the session that it was granted. -/
theorem Orderly.failStart (orderly : Orderly runtime)
    (begun : runtime.starts.get? start = some (.begun request)) (reads : Nat)
    (sessionId : SurfaceValue) (reason : ExternalHumanSurfaceCleanupReason)
    (error : SurfaceFailure) :
    Orderly ({ runtime.record (.granted start sessionId) with reads }.failStart start request
      sessionId reason error) := by
  have starting : runtime.state = .starting start request := orderly.begun start request begun
  have traffic : Traffic (.granted start sessionId :: runtime.log) [sessionId] [] [] :=
    (orderly.traffic_of_begun begun).granted sessionId
  -- the start leaves its await before the clean-up becomes the state
  exact @orderly_cleanUp
    { runtime.record (.granted start sessionId) with
      reads, starts := runtime.starts.set start (.cleaning (runtime.numbers + 1) error) }
    request sessionId reason traffic (orderly.none_begun_set starting (by nofun))
    (orderly.over_of_begun begun) (orderly.starts_set begun) orderly.revokes
    (Each.cons trivial orderly.history)

/-- A granted session id that the runtime accepts has no white space around it. -/
def grantsTrimmed (now : Nat → Int) (runtime : CredentialSafeHumanSurfaceRuntime) :
    SurfaceEvent → Bool
  | .providerBegan _ (some grant) =>
      grant.refusal.isSome || (runtime.isExpired now grant.expiresAt).1
        || decide (trim grant.sessionId = grant.sessionId)
  | _ => true

theorem Orderly.providerBegan (orderly : Orderly runtime)
    (begun : runtime.starts.get? start = some (.begun request))
    {outcome : Option ExternalHumanSurfaceGrant}
    (trimmed : runtime.grantsTrimmed now (.providerBegan start outcome) = true) :
    Orderly (runtime.providerBegan now start request outcome) := by
  have current : runtime.state = .starting start request := orderly.begun start request begun
  have traffic := orderly.traffic_of_begun begun
  cases outcome with
  | none =>
      simp only [CredentialSafeHumanSurfaceRuntime.providerBegan, current, decide_true, if_true]
      exact orderly.settleStart begun (fun _ => trivial) (.idle traffic.rejected)
  | some grant =>
      obtain ⟨reads, read⟩ := @isExpired_quiet now
        (runtime.record (.granted start grant.sessionId)) grant.expiresAt
      simp only [CredentialSafeHumanSurfaceRuntime.providerBegan, current, decide_true, if_true,
        normalizeGrant]
      cases refusal : grant.refusal with
      | some error => exact orderly.failStart begun _ _ _ _
      | none =>
          dsimp only
          rw [read]
          cases expired : ((runtime.record (.granted start grant.sessionId)).isExpired now
              grant.expiresAt).1 with
          | true => exact orderly.failStart begun _ _ _ _
          | false =>
              -- the accepted surface keeps the id that was granted
              have kept : trim grant.sessionId = grant.sessionId := by
                have notExpired : (runtime.isExpired now grant.expiresAt).1 = false := by
                  cases limit : grant.expiresAt with
                  | none => rfl
                  | some expiresAt => rwa [limit] at expired
                simpa [grantsTrimmed, refusal, notExpired] using trimmed
              have accepted : Orderly (((runtime.record (.granted start grant.sessionId)).become
                  (.active (grant.surface runtime.providerKind request))).settleStart start
                    (.ok (grant.surface runtime.providerKind request))) := by
                apply orderly.settleStart begun
                · exact fun _ => trivial
                · apply Phase.active
                  change Traffic _ [trim grant.sessionId] [] []
                  rw [kept]
                  exact traffic.granted grant.sessionId
              exact accepted.read reads

end Started

/-! ## The outcome of `provider.revoke` -/

section Revoked

variable {promise : Nat} {task : RevokeTask}

/-- A revocation that is not over is the one that the state's clean-up holds. -/
theorem Orderly.cleanup_of_open (orderly : Orderly runtime)
    (stored : runtime.revokes.get? promise = some task)
    (running : ∀ succeeded, task.stage ≠ .settled succeeded) :
    ∃ cleanup, runtime.state = .cleanupRequired cleanup ∧ cleanup.revokePromise = some promise := by
  rcases orderly.pending promise task stored with ⟨succeeded, ended⟩ | holder
  · exact absurd ended (running succeeded)
  · exact holder

/-- Replacing the task of the promise that a clean-up holds opens no other one. -/
theorem Orderly.pending_set (orderly : Orderly runtime) {cleanup : SurfaceCleanup}
    (state : runtime.state = .cleanupRequired cleanup)
    (held : cleanup.revokePromise = some promise) {stage : RevokeStage} (other : Nat)
    (found : RevokeTask)
    (stored : (runtime.revokes.set promise { task with stage }).get? other = some found) :
    (other = promise ∧ found.stage = stage) ∨ ∃ succeeded, found.stage = .settled succeeded := by
  by_cases here : other = promise
  · subst here
    cases (get?_set_self _ _ _).symm.trans stored
    exact .inl ⟨rfl, rfl⟩
  · rcases orderly.pending other found ((get?_set_ne _ _ here).symm.trans stored) with
      ended | ⟨holder, same, holds⟩
    · exact .inr ended
    · cases state.symm.trans same
      exact absurd (Option.some.inj (holds.symm.trans held)) here

theorem Orderly.revokes_set (orderly : Orderly runtime)
    (stored : runtime.revokes.get? promise = some task) {stage : RevokeStage} (other : Nat)
    (found : RevokeTask)
    (later : (runtime.revokes.set promise { task with stage }).get? other = some found) :
    other < runtime.numbers := by
  by_cases here : other = promise
  · exact here ▸ orderly.revokes promise task stored
  · exact orderly.revokes other found ((get?_set_ne _ _ here).symm.trans later)

/-- The microtask of a clean-up is the only place that calls `provider.revoke`. -/
theorem Orderly.invokeRevoke (orderly : Orderly runtime)
    (stored : runtime.revokes.get? promise = some task) (scheduled : task.stage = .scheduled) :
    Orderly (runtime.invokeRevoke promise task) := by
  obtain ⟨cleanup, state, held⟩ := orderly.cleanup_of_open stored (by rw [scheduled]; nofun)
  have phase := orderly.phase
  rw [state] at phase
  obtain ⟨same, traffic⟩ : task = ⟨cleanup.id, cleanup.sessionId, .scheduled⟩ ∧
      Traffic runtime.log [cleanup.sessionId] [] [] := by
    cases phase with
    | resting free => exact absurd (held.symm.trans free) (by nofun)
    | scheduled holds found traffic =>
        cases held.symm.trans holds
        exact ⟨Option.some.inj (stored.symm.trans found), traffic⟩
    | invoked holds found traffic =>
        cases held.symm.trans holds
        cases stored.symm.trans found
        cases scheduled
  subst same
  constructor
  · change Phase _ runtime.state
    rw [state]
    exact .invoked held (get?_set_self _ _ _) (traffic.revoking promise)
  · exact orderly.begun
  · intro other found later
    rcases orderly.pending_set state held other found later with ⟨rfl, _⟩ | ended
    · exact .inr ⟨cleanup, state, held⟩
    · exact .inl ended
  · exact orderly.starts
  · exact orderly.revokes_set stored
  · exact Each.cons traffic.revokes orderly.history

theorem Orderly.providerRevoked (orderly : Orderly runtime)
    (stored : runtime.revokes.get? promise = some task) (invoked : task.stage = .invoked)
    (succeeded : Bool) : Orderly (runtime.providerRevoked promise task succeeded) := by
  obtain ⟨cleanup, state, held⟩ := orderly.cleanup_of_open stored (by rw [invoked]; nofun)
  have phase := orderly.phase
  rw [state] at phase
  obtain ⟨same, traffic⟩ : task = ⟨cleanup.id, cleanup.sessionId, .invoked⟩ ∧
      Traffic runtime.log [cleanup.sessionId] [] [promise] := by
    cases phase with
    | resting free => exact absurd (held.symm.trans free) (by nofun)
    | scheduled holds found traffic =>
        cases held.symm.trans holds
        cases stored.symm.trans found
        cases invoked
    | invoked holds found traffic =>
        cases held.symm.trans holds
        exact ⟨Option.some.inj (stored.symm.trans found), traffic⟩
  subst same
  simp only [CredentialSafeHumanSurfaceRuntime.providerRevoked, state, if_true]
  have ended : ∀ other found, (runtime.revokes.set promise
      ⟨cleanup.id, cleanup.sessionId, .settled succeeded⟩).get? other = some found →
      ∃ succeeded, found.stage = .settled succeeded := by
    intro other found later
    rcases @Orderly.pending_set _ _ ⟨cleanup.id, cleanup.sessionId, .invoked⟩ orderly cleanup state
      held _ other found later with ⟨_, settled⟩ | ended
    · exact ⟨succeeded, settled⟩
    · exact ended
  constructor
  · cases succeeded with
    | true => exact .idle traffic.revoked
    | false => exact .resting rfl traffic.revokeFailed
  · intro start request begun
    exact absurd (orderly.begun start request begun) (by rw [state]; nofun)
  · exact fun other found later => .inl (ended other found later)
  · exact orderly.starts
  · exact orderly.revokes_set stored
  · cases succeeded with
    | true => exact Each.cons trivial orderly.history
    | false => exact Each.cons trivial orderly.history

end Revoked

/-! ## Runs -/

/-- A step that only ends a start after its clean-up. -/
theorem Orderly.resumeStart (orderly : Orderly runtime) {start promise : Nat}
    {error : SurfaceFailure}
    (cleaning : runtime.starts.get? start = some (.cleaning promise error)) :
    Orderly (runtime.settleStart start (.error error)) := by
  have begun_of : ∀ other request, (runtime.starts.set start
      (.settled (.error error))).get? other = some (.begun request) →
      runtime.starts.get? other = some (.begun request) := by
    intro other request begun
    by_cases here : other = start
    · subst here
      cases (get?_set_self _ _ _).symm.trans begun
    · exact (get?_set_ne _ _ here).symm.trans begun
  constructor
  · change Phase _ runtime.state
    have phase := orderly.phase
    generalize runtime.state = state at phase ⊢
    cases phase with
    | idle traffic => exact .idle traffic
    | starting begun traffic =>
        refine .starting ?_ traffic
        rename_i other request
        by_cases here : other = start
        · subst here
          cases begun.symm.trans cleaning
        · exact (get?_set_ne _ _ here).trans begun
    | active traffic => exact .active traffic
    | resting free traffic => exact .resting free traffic
    | scheduled held task traffic => exact .scheduled held task traffic
    | invoked held task traffic => exact .invoked held task traffic
  · exact fun other request begun => orderly.begun other request (begun_of other request begun)
  · exact orderly.pending
  · intro other stage stored
    by_cases here : other = start
    · exact here ▸ orderly.starts start _ cleaning
    · exact orderly.starts other stage ((get?_set_ne _ _ here).symm.trans stored)
  · exact orderly.revokes
  · exact orderly.history

theorem Orderly.resume (orderly : Orderly runtime) {call : Nat} {stage : SurfaceCall}
    (resumed : runtime.resume now call stage = some after) : Orderly after := by
  cases stage with
  | begin start | beginCleanup promise error | revoke promise =>
      obtain ⟨_, _, rfl⟩ := map_eq_some_iff.mp resumed
      exact orderly.answer _ _
  | revokeStart start request =>
      obtain ⟨outcome, _, rfl⟩ := map_eq_some_iff.mp resumed
      split
      · exact orderly.answer _ _
      · exact orderly.revokeFrom _ _

theorem step_orderly {event : SurfaceEvent} (step : Step now runtime event after)
    (trimmed : runtime.grantsTrimmed now event = true) (orderly : Orderly runtime) :
    Orderly after := by
  cases event with
  | begin intervention principalBinding =>
      cases step
      exact orderly.begin _ _
  | revoke request =>
      cases step
      exact orderly.revoke _
  | getActive =>
      cases step
      unfold CredentialSafeHumanSurfaceRuntime.getActive
      split
      · rename_i surface _
        obtain ⟨reads, read⟩ := @isExpired_quiet now runtime surface.expiresAt
        dsimp only
        rw [read]
        exact orderly.read reads
      · exact orderly
  | providerBegan start outcome =>
      simp only [Step, StepOf, next] at step
      split at step
      · rename_i begun
        cases step
        exact orderly.providerBegan begun trimmed
      · cases step
  | invokeRevoke promise =>
      simp only [Step, StepOf, next] at step
      split at step
      · rename_i stored
        cases step
        exact orderly.invokeRevoke stored rfl
      · cases step
  | providerRevoked promise succeeded =>
      simp only [Step, StepOf, next] at step
      split at step
      · rename_i stored
        cases step
        exact orderly.providerRevoked stored rfl succeeded
      · cases step
  | resumeStart start =>
      simp only [Step, StepOf, next] at step
      split at step
      · rename_i cleaning
        obtain ⟨_, _, rfl⟩ := map_eq_some_iff.mp step
        exact orderly.resumeStart cleaning
      · cases step
  | resume call =>
      obtain ⟨stage, _, resumed⟩ := bind_eq_some_iff.mp step
      exact orderly.resume resumed

/-! ## What every reached state promises -/

/-- A revocation is open until `provider.revoke` is settled. -/
def RevokeOpen (runtime : CredentialSafeHumanSurfaceRuntime) (promise : Nat) : Prop :=
  ∃ task, runtime.revokes.get? promise = some task ∧
    ∀ succeeded, task.stage ≠ .settled succeeded

structure SingleGrant (now : Nat → Int) (runtime : CredentialSafeHumanSurfaceRuntime) : Prop where
  inTurn : Each InTurn runtime.log
  inactive : runtime.assertInactive = .ok () → Traffic runtime.log [] [] []
  active : ∀ surface, (runtime.getActive now).1 = some surface →
    (∀ expiresAt, surface.expiresAt = some expiresAt → now runtime.reads < expiresAt) ∧
      Traffic runtime.log [surface.sessionId] [] []
  /-- While `provider.begin` is in flight no `begin` calls it, and one for its request awaits it. -/
  sharedStart : ∀ start ∈ startsInFlight runtime.log, ∃ request,
    runtime.starts.get? start = some (.begun request) ∧
      ∀ intervention principalBinding,
        (runtime.begin now intervention principalBinding).log = runtime.log ∧
          (intervention.entryRefusal principalBinding = none →
            intervention.requestFor principalBinding = request →
            (runtime.begin now intervention principalBinding).calls.get? runtime.numbers =
              some (.begin start))
  oneRevoke : ∀ promise other, runtime.RevokeOpen promise → runtime.RevokeOpen other →
    other = promise
  /-- While a revocation is open no call opens another, and one that cleans up awaits it. -/
  sharedRevoke : ∀ promise, runtime.RevokeOpen promise →
    (∀ request, (runtime.revoke now request).revokes = runtime.revokes ∧
      ∀ stage, (runtime.revoke now request).calls.get? runtime.numbers = some stage →
        stage = .revoke promise) ∧
    ∀ intervention principalBinding,
      (runtime.begin now intervention principalBinding).revokes = runtime.revokes ∧
        ∀ stage, (runtime.begin now intervention principalBinding).calls.get? runtime.numbers =
          some stage → ∃ error, stage = .beginCleanup promise error

theorem Orderly.inactive (orderly : Orderly runtime) (inactive : runtime.assertInactive = .ok ()) :
    Traffic runtime.log [] [] [] := by
  have phase := orderly.phase
  unfold assertInactive at inactive
  generalize runtime.state = state at phase inactive
  cases phase with
  | idle traffic => exact traffic
  | starting | active | resting | scheduled | invoked => cases inactive

theorem Orderly.active (orderly : Orderly runtime) {surface : ActiveExternalHumanSurface}
    (active : (runtime.getActive now).1 = some surface) :
    (∀ expiresAt, surface.expiresAt = some expiresAt → now runtime.reads < expiresAt) ∧
      Traffic runtime.log [surface.sessionId] [] [] := by
  have phase := orderly.phase
  unfold CredentialSafeHumanSurfaceRuntime.getActive at active
  generalize runtime.state = state at phase active
  cases phase with
  | idle | starting | resting | scheduled | invoked => cases active
  | @active cached traffic =>
      have same : cached = surface ∧ (runtime.isExpired now cached.expiresAt).1 = false := by
        cases expired : (runtime.isExpired now cached.expiresAt).1 with
        | true => simp [expired] at active
        | false => simpa [expired] using active
      obtain ⟨rfl, fresh⟩ := same
      constructor
      · intro expiresAt limit
        rw [limit] at fresh
        exact Int.not_le.mp (of_decide_eq_false fresh)
      · exact traffic

theorem Orderly.sharedStart (orderly : Orderly runtime) {start : Nat}
    (inFlight : start ∈ startsInFlight runtime.log) :
    ∃ request, runtime.starts.get? start = some (.begun request) ∧
      ∀ intervention principalBinding,
        (runtime.begin now intervention principalBinding).log = runtime.log ∧
          (intervention.entryRefusal principalBinding = none →
            intervention.requestFor principalBinding = request →
            (runtime.begin now intervention principalBinding).calls.get? runtime.numbers =
              some (.begin start)) := by
  obtain ⟨request, begun⟩ : ∃ request, runtime.starts.get? start = some (.begun request) := by
    have phase := orderly.phase
    generalize runtime.state = state at phase
    cases phase with
    | starting begun traffic =>
        rw [traffic.starts] at inFlight
        cases List.mem_singleton.mp inFlight
        exact ⟨_, begun⟩
    | idle traffic | active traffic | resting _ traffic | scheduled _ _ traffic
    | invoked _ _ traffic =>
        rw [traffic.starts] at inFlight
        cases inFlight
  have state : runtime.state = .starting start request := orderly.begun start request begun
  refine ⟨request, begun, fun intervention principalBinding => ?_⟩
  simp only [CredentialSafeHumanSurfaceRuntime.begin, state]
  cases intervention.entryRefusal principalBinding with
  | some error => exact ⟨rfl, fun no => by cases no⟩
  | none =>
      dsimp only
      split
      · exact ⟨rfl, fun _ _ => get?_set_self _ _ _⟩
      · rename_i other
        exact ⟨rfl, fun _ same => absurd same.symm other⟩

theorem Orderly.oneRevoke (orderly : Orderly runtime) {promise other : Nat}
    (first : runtime.RevokeOpen promise) (second : runtime.RevokeOpen other) : other = promise := by
  obtain ⟨_, stored, unsettled⟩ := first
  obtain ⟨_, found, running⟩ := second
  obtain ⟨cleanup, state, held⟩ := orderly.cleanup_of_open stored unsettled
  obtain ⟨holder, same, holds⟩ := orderly.cleanup_of_open found running
  cases state.symm.trans same
  exact some.inj (holds.symm.trans held)

theorem Orderly.sharedRevoke (orderly : Orderly runtime) {promise : Nat}
    (running : runtime.RevokeOpen promise) :
    (∀ request, (runtime.revoke now request).revokes = runtime.revokes ∧
      ∀ stage, (runtime.revoke now request).calls.get? runtime.numbers = some stage →
        stage = .revoke promise) ∧
    ∀ intervention principalBinding,
      (runtime.begin now intervention principalBinding).revokes = runtime.revokes ∧
        ∀ stage, (runtime.begin now intervention principalBinding).calls.get? runtime.numbers =
          some stage → ∃ error, stage = .beginCleanup promise error := by
  obtain ⟨task, stored, unsettled⟩ := running
  obtain ⟨cleanup, state, held⟩ := orderly.cleanup_of_open stored unsettled
  constructor
  · intro request
    simp only [CredentialSafeHumanSurfaceRuntime.revoke,
      CredentialSafeHumanSurfaceRuntime.revokeFrom, state]
    split
    · simp only [CredentialSafeHumanSurfaceRuntime.performCleanup, held]
      refine ⟨rfl, fun stage awaiting => ?_⟩
      exact (Option.some.inj ((get?_set_self _ _ _).symm.trans awaiting)).symm
    · refine ⟨rfl, fun stage awaiting => ?_⟩
      exact absurd ((get?_delete_self _ _).symm.trans awaiting) (by simp)
  · intro intervention principalBinding
    simp only [CredentialSafeHumanSurfaceRuntime.begin, state]
    cases intervention.entryRefusal principalBinding with
    | some error =>
        refine ⟨rfl, fun stage awaiting => ?_⟩
        exact absurd ((get?_delete_self _ _).symm.trans awaiting) (by simp)
    | none =>
        simp only [CredentialSafeHumanSurfaceRuntime.performCleanup, held]
        refine ⟨rfl, fun stage awaiting => ?_⟩
        exact ⟨_, (Option.some.inj ((get?_set_self _ _ _).symm.trans awaiting)).symm⟩

/-- In a run whose accepted grants have no white space around their ids there is one granted
surface at a time, and the provider is called in turn. -/
theorem run_single_grant {first : CredentialSafeHumanSurfaceRuntime} {kind : String}
    (created : create kind = .ok first) {events : List SurfaceEvent}
    (run : Run (Guarded (Step now) fun source event => source.grantsTrimmed now event = true) first
      events runtime) : SingleGrant now runtime := by
  have orderly : Orderly runtime := run.invariant
    (fun step orderly => step_orderly step.1 step.2 orderly) (created_orderly created)
  constructor
  · exact orderly.history
  · exact orderly.inactive
  · exact fun surface => orderly.active
  · exact fun start => orderly.sharedStart
  · exact fun _ _ => orderly.oneRevoke
  · exact fun promise => orderly.sharedRevoke

/-! ### A shared surface, and one that is never revoked -/

def sampleHuman : HumanSurfaceInterventionRef := ⟨"ho-1", 1, .humanActive, .human⟩

def sampleIdle : CredentialSafeHumanSurfaceRuntime :=
  ⟨"browser", .idle, .empty, .empty, .empty, .empty, [], 0, 0⟩

/-- Two `begin` calls share a surface, two `revoke` calls share its revocation. -/
def sampleShared : List SurfaceEvent :=
  [.begin sampleHuman "operator", .begin sampleHuman "operator",
    .providerBegan 1 (some ⟨"sess-1", "https://surface.test/1", some 2000⟩),
    .resume 0, .resume 2, .getActive,
    .revoke (sampleHuman.requestFor "operator"), .revoke (sampleHuman.requestFor "operator"),
    .invokeRevoke 5, .providerRevoked 5 true, .resume 3, .resume 6,
    .begin sampleHuman "operator"]

def sampleTrimmed (source : CredentialSafeHumanSurfaceRuntime) (event : SurfaceEvent) : Prop :=
  source.grantsTrimmed (fun _ => 1000) event = true

instance : ∀ source event, Decidable (sampleTrimmed source event) :=
  fun source event => inferInstanceAs (Decidable (source.grantsTrimmed _ event = true))

theorem sampleShared_single :
    ∃ runtime, Run (Guarded (Step fun _ => 1000) sampleTrimmed) sampleIdle sampleShared runtime ∧
      startsInFlight runtime.log = [8] ∧ SingleGrant (fun _ => 1000) runtime := by
  have second : (execute (permitted (next fun _ => 1000) sampleTrimmed) sampleIdle
      sampleShared).map (fun runtime => startsInFlight runtime.log) = some [8] := by decide
  obtain ⟨runtime, executed, inFlight⟩ := Option.map_eq_some_iff.mp second
  have created : create "browser" = .ok sampleIdle := by decide
  have run := run_guarded_of_execute executed
  exact ⟨runtime, run, inFlight, run_single_grant created run⟩

/-- The provider grants an id with white space around it, which `revoke` does not pass on. -/
def samplePadded : List SurfaceEvent :=
  [.begin sampleHuman "operator", .providerBegan 1 (some ⟨" sess-1 ", "https://surface.test/1", none⟩),
    .revoke (sampleHuman.requestFor "operator"), .invokeRevoke 4, .providerRevoked 4 true,
    .begin sampleHuman "operator"]

theorem samplePadded_unrevoked :
    ¬ ∀ (now : Nat → Int) (kind : String) (first runtime : CredentialSafeHumanSurfaceRuntime)
      (events : List SurfaceEvent), create kind = .ok first → Run (Step now) first events runtime →
        SingleGrant now runtime := by
  intro claimed
  have again : (execute (next fun _ => 1000) sampleIdle samplePadded).map
      CredentialSafeHumanSurfaceRuntime.log = some [.begun 6, .revoked 4 "sess-1",
        .revoking 4 "sess-1", .granted 1 " sess-1 ", .begun 1] := by decide
  obtain ⟨runtime, executed, log⟩ := Option.map_eq_some_iff.mp again
  have created : create "browser" = .ok sampleIdle := by decide
  have inTurn := (claimed _ _ _ _ _ created ((run_iff_execute _ _ _ _).mpr executed)).inTurn
  rw [log] at inTurn
  have revoked : unrevoked [.revoked 4 "sess-1", .revoking 4 "sess-1", .granted 1 " sess-1 ",
      .begun 1] = [] := inTurn.1.1
  exact absurd revoked (by decide)

end CredentialSafeHumanSurfaceRuntime

end ExecutionHandoff.Core
