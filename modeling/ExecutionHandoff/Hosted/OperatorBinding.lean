import ExecutionHandoff.Hosted.LifecycleRoute
import ExecutionHandoff.Hosted.RegistryInvariant

/-!
# The binding of an operator session to a worker route

`hosted-operator-binding.ts`: an operator session and a worker route are tied
together, and the tie is checked against what is current of both.  A session
that is presented carries the names of the keys it has beyond the declared ones;
a value that is no such object is absent, and refused with the same error.
-/

namespace ExecutionHandoff.Hosted

open Library

inductive HostedOperatorBindingErrorCode where
  | sessionInvalid
  | sessionExpired
  | sessionMismatch
  | viewerStale
  deriving DecidableEq

structure HostedOperatorBindingError where
  code : HostedOperatorBindingErrorCode
  message : String
  deriving DecidableEq

namespace HostedOperatorBindingError

def invalidReference : HostedOperatorBindingError :=
  ⟨.sessionInvalid, "Invalid hosted operator session reference"⟩
def invalidTime : HostedOperatorBindingError :=
  ⟨.sessionInvalid, "Invalid hosted operator session time"⟩
def expired : HostedOperatorBindingError := ⟨.sessionExpired, "Hosted operator session expired"⟩
def unmatched : HostedOperatorBindingError :=
  ⟨.sessionMismatch, "Hosted operator session does not match the worker route"⟩
def identityChanged : HostedOperatorBindingError :=
  ⟨.sessionMismatch, "Hosted operator session identity changed"⟩
def staleViewer : HostedOperatorBindingError :=
  ⟨.viewerStale, "Hosted operator viewer generation is stale"⟩
def noLongerMatches : HostedOperatorBindingError :=
  ⟨.sessionMismatch, "Hosted operator session no longer matches the worker route"⟩

end HostedOperatorBindingError

/-- What a check of a binding throws. -/
inductive HostedBindingFailure where
  | operator (error : HostedOperatorBindingError)
  | worker (error : HostedWorkerRegistryError)
  deriving DecidableEq

/-- A session reference with all of its fields. -/
structure HostedOperatorSession extends HostedOperatorSessionReference where
  sessionId : String
  viewerGeneration : Int
  deriving DecidableEq

/-- A session reference as it is presented. -/
structure HostedOperatorSessionValue extends HostedOperatorSession where
  undeclared : List String
  deriving DecidableEq

/-- The binding with the objects it was built from. -/
structure HostedOperatorBinding where
  operator : HostedOperatorSessionValue
  worker : HostedWorkerRouteRequest
  deriving DecidableEq

/-- The value passes `parseHostedOperatorSessionReference`. -/
def HostedOperatorSessionValue.wellFormed (value : HostedOperatorSessionValue) : Bool :=
  value.undeclared.isEmpty && boundedString value.sessionId 1 160
    && boundedString value.interventionId 1 160
    && isSafeInteger value.epoch && decide (0 ≤ value.epoch)
    && boundedString value.principalBinding 16 160
    && isSafeInteger value.expiresAt && decide (0 ≤ value.expiresAt)
    && isSafeInteger value.viewerGeneration && decide (0 < value.viewerGeneration)

def parseHostedOperatorSessionReference (value : Option HostedOperatorSessionValue) :
    Except HostedOperatorBindingError HostedOperatorSession :=
  match value with
  | none => .error .invalidReference
  | some value =>
      if value.wellFormed then .ok value.toHostedOperatorSession else .error .invalidReference

def sameSessionIdentity (expected current : HostedOperatorSession) : Bool :=
  expected.sessionId == current.sessionId && expected.interventionId == current.interventionId
    && expected.epoch == current.epoch && expected.principalBinding == current.principalBinding

def assertSessionLive (session : HostedOperatorSession) (now : Int) :
    Except HostedOperatorBindingError Unit :=
  if isSafeInteger now = false ∨ now < 0 then .error .invalidTime
  else if session.expiresAt ≤ now then .error .expired
  else .ok ()

/-- The session is of the intervention, the epoch and the principal of the route. -/
def sameRoute (session : HostedOperatorSession) (worker : HostedWorkerRouteLease) : Bool :=
  session.interventionId == worker.interventionId && session.epoch == worker.epoch
    && session.principalBinding == worker.principalBinding

def bindHostedOperatorSession (operatorValue : Option HostedOperatorSessionValue)
    (worker : HostedWorkerRouteRequest) (registry : HostedWorkerRegistry) (now : Int) :
    Except HostedBindingFailure HostedOperatorBinding :=
  match parseHostedOperatorSessionReference operatorValue with
  | .error error => .error (.operator error)
  | .ok operator =>
      match assertSessionLive operator now with
      | .error error => .error (.operator error)
      | .ok () =>
          match (registry.assertCurrent worker).1 with
          | .error error => .error (.worker error)
          | .ok () =>
              if sameRoute operator worker.toHostedWorkerRouteLease then
                .ok ⟨{ operator with undeclared := [] }, worker⟩
              else .error (.operator .unmatched)

def assertHostedOperatorBindingCurrent (binding : HostedOperatorBinding)
    (currentOperatorValue : Option HostedOperatorSessionValue) (registry : HostedWorkerRegistry)
    (now : Int) : Except HostedBindingFailure Unit :=
  match parseHostedOperatorSessionReference (some binding.operator),
      parseHostedOperatorSessionReference currentOperatorValue with
  | .error error, _ | _, .error error => .error (.operator error)
  | .ok bound, .ok current =>
      match assertSessionLive current now with
      | .error error => .error (.operator error)
      | .ok () =>
          if sameSessionIdentity bound current = false ∨ bound.expiresAt ≠ current.expiresAt then
            .error (.operator .identityChanged)
          else if bound.viewerGeneration ≠ current.viewerGeneration then
            .error (.operator .staleViewer)
          else
            match (registry.assertCurrent binding.worker).1 with
            | .error error => .error (.worker error)
            | .ok () =>
                if sameRoute current binding.worker.toHostedWorkerRouteLease then .ok ()
                else .error (.operator .noLongerMatches)

/-! ## What is current -/

/-- The operator session, the viewer generation and the worker route of the binding are current. -/
structure HostedOperatorBinding.Current (binding : HostedOperatorBinding)
    (operator : Option HostedOperatorSessionValue) (registry : HostedWorkerRegistry) (now : Int) :
    Prop where
  session : ∃ live, operator = some live ∧ live.wellFormed = true ∧
    live.sessionId = binding.operator.sessionId ∧
    live.toHostedOperatorSessionReference = binding.operator.toHostedOperatorSessionReference
  unexpired : 0 ≤ now ∧ now < binding.operator.expiresAt
  viewer : operator.map (fun live => live.viewerGeneration) = some binding.operator.viewerGeneration
  route : registry.current binding.worker.toHostedWorkerRouteLease = true
  tied : binding.operator.interventionId = binding.worker.interventionId ∧
    binding.operator.epoch = binding.worker.epoch ∧
    binding.operator.principalBinding = binding.worker.principalBinding

variable {binding : HostedOperatorBinding} {operator : Option HostedOperatorSessionValue}
  {registry : HostedWorkerRegistry} {now : Int}

theorem parseHostedOperatorSessionReference_ok {value : Option HostedOperatorSessionValue}
    {session : HostedOperatorSession} (parsed : parseHostedOperatorSessionReference value = .ok session) :
    ∃ presented, value = some presented ∧ presented.wellFormed = true ∧
      session = presented.toHostedOperatorSession := by
  unfold parseHostedOperatorSessionReference at parsed
  split at parsed
  · cases parsed
  · rename_i presented
    split at parsed
    · rename_i formed
      exact ⟨presented, rfl, formed, (Except.ok.inj parsed).symm⟩
    · cases parsed

theorem assertSessionLive_ok {session : HostedOperatorSession}
    (live : assertSessionLive session now = .ok ()) : 0 ≤ now ∧ now < session.expiresAt := by
  unfold assertSessionLive at live
  split at live
  · cases live
  · rename_i time
    split at live
    · cases live
    · omega

theorem HostedWorkerRegistry.current_of_assertCurrent {request : HostedWorkerRouteRequest}
    (passed : (registry.assertCurrent request).1 = .ok ()) :
    registry.current request.toHostedWorkerRouteLease = true := by
  have spec : StateExcept.Ensures (assertCurrent request) registry fun result _ =>
      result = .ok () → registry.current request.toHostedWorkerRouteLease = true := by
    refine ensures_parseRouteRequest (fun _ no => by cases no) fun _ => ?_
    apply StateExcept.Ensures.reading
    unfold StateExcept.require
    split
    · rename_i holds
      exact fun _ => holds
    · exact fun no => by cases no
  exact spec passed

/-- A check that passes finds everything current. -/
theorem assertHostedOperatorBindingCurrent_ok
    (passed : assertHostedOperatorBindingCurrent binding operator registry now = .ok ()) :
    binding.Current operator registry now := by
  unfold assertHostedOperatorBindingCurrent at passed
  split at passed
  · cases passed
  · cases passed
  · rename_i bound current parsedBound parsedCurrent
    obtain ⟨_, ⟨⟩, formed, rfl⟩ := parseHostedOperatorSessionReference_ok parsedBound
    obtain ⟨live, rfl, liveFormed, rfl⟩ := parseHostedOperatorSessionReference_ok parsedCurrent
    split at passed
    · cases passed
    · rename_i unexpired
      split at passed
      · cases passed
      · rename_i same
        split at passed
        · cases passed
        · rename_i viewer
          split at passed
          · cases passed
          · rename_i routed
            split at passed
            · rename_i tied
              simp only [sameSessionIdentity, sameRoute, Bool.and_eq_true, beq_iff_eq, not_or,
                Bool.not_eq_false, not_not, ne_eq] at same viewer tied
              obtain ⟨⟨⟨⟨id, intervention⟩, epoch⟩, principal⟩, expires⟩ := same
              have bounds := assertSessionLive_ok unexpired
              refine ⟨⟨live, rfl, liveFormed, id.symm, ?_⟩, expires ▸ bounds, ?_,
                HostedWorkerRegistry.current_of_assertCurrent routed, ?_⟩
              · rw [HostedOperatorSessionReference.mk.injEq]
                exact ⟨intervention.symm, epoch.symm, principal.symm, expires.symm⟩
              · rw [viewer, Option.map_some]
              · rw [intervention, epoch, principal]
                exact ⟨tied.1.1, tied.1.2, tied.2⟩
            · cases passed

/-- A binding that was just made is current. -/
theorem bindHostedOperatorSession_current {worker : HostedWorkerRouteRequest}
    (bound : bindHostedOperatorSession operator worker registry now = .ok binding) :
    assertHostedOperatorBindingCurrent binding operator registry now = .ok () := by
  unfold bindHostedOperatorSession at bound
  split at bound
  · cases bound
  · rename_i session parsed
    split at bound
    · cases bound
    · rename_i live
      split at bound
      · cases bound
      · rename_i routed
        split at bound
        · rename_i tied
          cases bound
          obtain ⟨presented, rfl, formed, rfl⟩ := parseHostedOperatorSessionReference_ok parsed
          have again : parseHostedOperatorSessionReference
              (some { presented.toHostedOperatorSession with undeclared := [] }) =
                .ok presented.toHostedOperatorSession := by
            refine if_pos ?_
            simp only [HostedOperatorSessionValue.wellFormed, Bool.and_eq_true] at formed ⊢
            simp only [List.isEmpty_nil, true_and]
            simp only [formed, and_self]
          unfold assertHostedOperatorBindingCurrent
          rw [again, parsed]
          simp [live, sameSessionIdentity, routed, tied]
        · cases bound

end ExecutionHandoff.Hosted
