import ExecutionHandoff.Library.OrderedMap
import ExecutionHandoff.Surface.WindowSurface
import ExecutionHandoff.WebSocket.Messages

/-!
# The window hand-off over WebSockets

`ExperimentalWebSocketWindowHandoff`: its sessions, the captures that
`#pumpFrame` awaits and the inputs that `#dispatchInput` awaits.  Sessions,
captures and inputs are numbered together, which also tells the session objects
apart.  The link of the broker binding and the client generation of a session
come with the events that read them; what is done with a captured frame is left
out.
-/

namespace ExecutionHandoff.WebSocket

open Library List
open OrderedMap (get?_set_ne get?_set_self get?_of_get?_delete get?_delete_ne get?_delete_self)
open Surface (TakeoverHostTarget)
open Option (bind_eq_some_iff map_eq_some_iff)

inductive WindowHandoffErrorCode where
  | unavailable
  | targetInvalid
  deriving DecidableEq

def validWindowHandoffTarget (target : TakeoverHostTarget) : Bool :=
  isSafeInteger target.processId && decide (0 < target.processId) &&
    target.windowId.all fun id => isSafeInteger id && decide (0 < id)

structure WindowStartRequest where
  interventionId : String
  epoch : Int
  principalBinding : String
  target : TakeoverHostTarget
  inputPolicy : WebSocketTakeoverInputPolicy
  deriving DecidableEq

/-- What `createLink` returns, with the session id that its path holds. -/
structure WindowLink where
  locator : String
  sessionId : Option String
  deriving DecidableEq

structure ActiveWindowSession extends WindowStartRequest where
  sessionId : String
  locator : String
  /-- The timer is running. -/
  timer : Bool
  captureInFlight : Bool
  captureAbort : Option Nat
  activeClientGeneration : Option Int
  deriving DecidableEq

/-- A capture that is awaited, and its abort signal. -/
structure WindowCapture where
  session : Nat
  aborted : Bool
  deriving DecidableEq

/-- `captureFailureDisposition` and `inputFailureDisposition`. -/
inductive FailureDisposition where
  | recoverable
  | authorityLost
  deriving DecidableEq

inductive WindowHandoffFact where
  /-- The intervention was revoked, also at the broker: the epoch of the session whose failure was
  the cause, and the epoch of the session that was forgotten. -/
  | revoked (interventionId : String) (cause forgotten : Option Int)
  /-- `onAuthorityReleased` was called. -/
  | released (interventionId : String) (epoch : Int)
  deriving DecidableEq

/-- A revocation for a failure has forgotten no session of a newer epoch. -/
def WindowHandoffFact.isolated : WindowHandoffFact → Prop
  | .revoked _ (some cause) (some forgotten) => forgotten ≤ cause
  | _ => True

structure WindowHandoff where
  /-- All sessions there have been. -/
  sessions : OrderedMap Nat ActiveWindowSession
  sessionsByIntervention : OrderedMap String Nat
  sessionsById : OrderedMap String Nat
  captures : OrderedMap Nat WindowCapture
  /-- The inputs that are awaited, each with its session. -/
  inputs : OrderedMap Nat Nat
  /-- Newest first. -/
  log : List WindowHandoffFact
  numbers : Nat
  deriving DecidableEq

inductive WindowHandoffEvent where
  | start (request : WindowStartRequest) (link : Option WindowLink)
  | revoke (interventionId : String)
  /-- The broker reports that a session is completed. -/
  | completed (interventionId : String) (epoch : Int)
  | pumpFrame (session : Nat) (generation : Option Int)
  | captureSettled (capture : Nat) (failure : Option FailureDisposition)
  | dispatchInput (interventionId : String) (epoch : Int)
  | inputSettled (input : Nat) (failure : Option FailureDisposition)
  deriving DecidableEq

namespace WindowHandoff

def initial : WindowHandoff := ⟨.empty, .empty, .empty, .empty, .empty, [], 0⟩

variable (handoff : WindowHandoff)

/-- The session of an intervention. -/
def current (interventionId : String) : Option (Nat × ActiveWindowSession) :=
  (handoff.sessionsByIntervention.get? interventionId).bind fun number =>
    (handoff.sessions.get? number).map fun session => (number, session)

def store (number : Nat) (session : ActiveWindowSession) : WindowHandoff :=
  { handoff with sessions := handoff.sessions.set number session }

/-- `state.captureAbort?.abort()`. -/
def abort (session : ActiveWindowSession) : WindowHandoff :=
  { handoff with
    captures :=
      match session.captureAbort with
      | none => handoff.captures
      | some capture =>
          match handoff.captures.get? capture with
          | none => handoff.captures
          | some found => handoff.captures.set capture { found with aborted := true } }

/-- `#forgetSession`. -/
def forgetSession (number : Nat) (session : ActiveWindowSession) : WindowHandoff :=
  ({ handoff with
    sessionsByIntervention :=
      if handoff.sessionsByIntervention.get? session.interventionId = some number then
        handoff.sessionsByIntervention.delete session.interventionId
      else handoff.sessionsByIntervention
    sessionsById :=
      if handoff.sessionsById.get? session.sessionId = some number then
        handoff.sessionsById.delete session.sessionId
      else handoff.sessionsById }.abort session).store number { session with timer := false }

/-- `#forgetIntervention`. -/
def forgetIntervention (interventionId : String) : WindowHandoff :=
  match handoff.current interventionId with
  | some (number, session) => handoff.forgetSession number session
  | none => handoff

/-- `revoke`, with the epoch of the session that failed if a failure is the cause. -/
def revoke (interventionId : String) (cause : Option Int) : WindowHandoff :=
  { handoff.forgetIntervention interventionId with
    log := .revoked interventionId cause
      ((handoff.current interventionId).map fun entry => entry.2.epoch) :: handoff.log }

/-- `#forgetMatchingSession`. -/
def forgetMatchingSession (interventionId : String) (epoch : Int) : WindowHandoff :=
  match handoff.current interventionId with
  | some (number, session) =>
      if session.epoch = epoch then handoff.forgetSession number session else handoff
  | none => handoff

/-- `start` from `createLink` on. -/
def openSession (request : WindowStartRequest) (link : Option WindowLink) :
    Except WindowHandoffErrorCode String × WindowHandoff :=
  match link with
  | none => (.error .unavailable, handoff)
  | some ⟨_, none⟩ =>
      (.error .unavailable,
        { handoff with log := .revoked request.interventionId none none :: handoff.log })
  | some ⟨locator, some sessionId⟩ =>
      (.ok locator,
        { handoff with
          sessions := handoff.sessions.set handoff.numbers
            { request with
              sessionId, locator, timer := true, captureInFlight := false, captureAbort := none
              activeClientGeneration := none }
          sessionsByIntervention :=
            handoff.sessionsByIntervention.set request.interventionId handoff.numbers
          sessionsById := handoff.sessionsById.set sessionId handoff.numbers
          numbers := handoff.numbers + 1 })

def start (request : WindowStartRequest) (link : Option WindowLink) :
    Except WindowHandoffErrorCode String × WindowHandoff :=
  if validWindowHandoffTarget request.target = false then (.error .targetInvalid, handoff)
  else
    match handoff.current request.interventionId with
    | none => handoff.openSession request link
    | some (_, existing) =>
        if request.epoch < existing.epoch then (.error .unavailable, handoff)
        else if request.epoch = existing.epoch then
          if existing.principalBinding ≠ request.principalBinding ∨ existing.target ≠ request.target ∨
              existing.inputPolicy ≠ request.inputPolicy then
            (.error .unavailable, handoff)
          else (.ok existing.locator, handoff)
        else (handoff.revoke request.interventionId none).openSession request link

/-- `#pumpFrame` up to the capture that it awaits. -/
def pumpFrame (number : Nat) (session : ActiveWindowSession) (generation : Option Int) :
    WindowHandoff :=
  if handoff.sessionsById.get? session.sessionId ≠ some number then handoff
  else
    match generation with
    | none => (handoff.abort session).store number { session with activeClientGeneration := none }
    | some generation =>
        let claimed := { session with activeClientGeneration := some generation }
        let fresh :=
          if session.activeClientGeneration ≠ some generation then
            (handoff.abort session).store number claimed
          else handoff
        if session.captureInFlight then fresh
        else
          { fresh with
            captures := fresh.captures.set fresh.numbers ⟨number, false⟩
            numbers := fresh.numbers + 1 }.store number
              { claimed with captureAbort := some fresh.numbers, captureInFlight := true }

/-- The `finally` of a capture. -/
def finishCapture (capture number : Nat) : WindowHandoff :=
  match handoff.sessions.get? number with
  | none => handoff
  | some session =>
      { handoff with captures := handoff.captures.delete capture }.store number
        { session with
          captureAbort := if session.captureAbort = some capture then none else session.captureAbort
          captureInFlight := false }

/-- The authority over a session is lost. -/
def loseAuthority (session : ActiveWindowSession) : WindowHandoff :=
  let revoked := handoff.revoke session.interventionId (some session.epoch)
  { revoked with log := .released session.interventionId session.epoch :: revoked.log }

/-- What a capture throws or returns, up to the frame. -/
def settleCapture (capture : Nat) (session : ActiveWindowSession) (awaited : WindowCapture)
    (failure : Option FailureDisposition) : WindowHandoff :=
  let settled :=
    if failure = some .authorityLost ∧ awaited.aborted = false then handoff.loseAuthority session
    else handoff
  settled.finishCapture capture awaited.session

/-- `#dispatchInput` up to the call that it awaits. -/
def dispatchInput (interventionId : String) (epoch : Int) : WindowHandoff :=
  match handoff.current interventionId with
  | some (number, session) =>
      if session.epoch = epoch ∧ handoff.sessionsById.get? session.sessionId = some number then
        { handoff with
          inputs := handoff.inputs.set handoff.numbers number
          numbers := handoff.numbers + 1 }
      else handoff
  | none => handoff

def settleInput (input : Nat) (session : ActiveWindowSession) (failure : Option FailureDisposition) :
    WindowHandoff :=
  let settled := { handoff with inputs := handoff.inputs.delete input }
  if failure = some .authorityLost then settled.loseAuthority session else settled

/-- One event, if it can happen. -/
def next : WindowHandoffEvent → Option WindowHandoff
  | .start request link => some (handoff.start request link).2
  | .revoke interventionId => some (handoff.revoke interventionId none)
  | .completed interventionId epoch => some (handoff.forgetMatchingSession interventionId epoch)
  | .pumpFrame number generation =>
      (handoff.sessions.get? number).bind fun session =>
        if session.timer then some (handoff.pumpFrame number session generation) else none
  | .captureSettled capture failure =>
      (handoff.captures.get? capture).bind fun awaited =>
        (handoff.sessions.get? awaited.session).map fun session =>
          handoff.settleCapture capture session awaited failure
  | .dispatchInput interventionId epoch => some (handoff.dispatchInput interventionId epoch)
  | .inputSettled input failure =>
      (handoff.inputs.get? input).bind fun number =>
        (handoff.sessions.get? number).map fun session =>
          handoff.settleInput input session failure

abbrev Step : WindowHandoff → WindowHandoffEvent → WindowHandoff → Prop := StepOf next

variable {handoff after : WindowHandoff}

/-! ## What is in flight -/

/-- A capture that is not aborted belongs to the session that its intervention has. -/
structure Sound (handoff : WindowHandoff) : Prop where
  held : ∀ id number, handoff.sessionsByIntervention.get? id = some number →
    ∃ session, handoff.sessions.get? number = some session ∧ session.interventionId = id
  known : ∀ id number, handoff.sessionsById.get? id = some number →
    ∃ session, handoff.sessions.get? number = some session ∧ session.sessionId = id ∧
      handoff.sessionsByIntervention.get? session.interventionId = some number
  awaited : ∀ capture found, handoff.captures.get? capture = some found →
    ∃ session, handoff.sessions.get? found.session = some session ∧
      session.captureInFlight = true ∧ session.captureAbort = some capture ∧
      (found.aborted = false →
        handoff.sessionsByIntervention.get? session.interventionId = some found.session)
  numbered : ∀ number session, handoff.sessions.get? number = some session → number < handoff.numbers

theorem initial_sound : Sound initial where
  held _ _ no := by cases no
  known _ _ no := by cases no
  awaited _ _ no := by cases no
  numbered _ _ no := by cases no

variable {session : ActiveWindowSession} {capture : Nat}

theorem current_eq_some_iff {interventionId : String} {number : Nat} :
    handoff.current interventionId = some (number, session) ↔
      handoff.sessionsByIntervention.get? interventionId = some number ∧
        handoff.sessions.get? number = some session := by
  unfold current
  rw [bind_eq_some_iff]
  constructor
  · rintro ⟨found, held, mapped⟩
    obtain ⟨session', stored, same⟩ := map_eq_some_iff.mp mapped
    cases same
    exact ⟨held, stored⟩
  · rintro ⟨held, stored⟩
    exact ⟨number, held, by rw [stored]; rfl⟩

theorem Sound.current_eq_none (sound : Sound handoff) {interventionId : String}
    (none : handoff.current interventionId = none) :
    handoff.sessionsByIntervention.get? interventionId = .none := by
  cases held : handoff.sessionsByIntervention.get? interventionId with
  | none => rfl
  | some number =>
      obtain ⟨session, stored, _⟩ := sound.held interventionId number held
      cases none.symm.trans (current_eq_some_iff.mpr ⟨held, stored⟩)

/-- A session keeps what names it and its capture. -/
structure SameSession (session session' : ActiveWindowSession) : Prop where
  interventionId : session'.interventionId = session.interventionId
  sessionId : session'.sessionId = session.sessionId
  captureInFlight : session'.captureInFlight = session.captureInFlight
  captureAbort : session'.captureAbort = session.captureAbort

theorem Sound.store (sound : Sound handoff) {number : Nat} {session' : ActiveWindowSession}
    (stored : handoff.sessions.get? number = some session) (same : SameSession session session') :
    Sound (handoff.store number session') := by
  have kept : ∀ other found, handoff.sessions.get? other = some found →
      ∃ found', (handoff.store number session').sessions.get? other = some found' ∧
        SameSession found found' := by
    intro other found there
    by_cases here : other = number
    · subst here
      cases stored.symm.trans there
      exact ⟨session', get?_set_self _ _ _, same⟩
    · exact ⟨found, (get?_set_ne _ _ here).trans there, rfl, rfl, rfl, rfl⟩
  constructor
  · intro id other held
    obtain ⟨found, there, named⟩ := sound.held id other held
    obtain ⟨found', there', same⟩ := kept other found there
    exact ⟨found', there', same.interventionId.trans named⟩
  · intro id other known
    obtain ⟨found, there, named, held⟩ := sound.known id other known
    obtain ⟨found', there', same⟩ := kept other found there
    refine ⟨found', there', same.sessionId.trans named, ?_⟩
    rw [same.interventionId]
    exact held
  · intro capture awaited inFlight
    obtain ⟨found, there, flying, abort, held⟩ := sound.awaited capture awaited inFlight
    obtain ⟨found', there', same⟩ := kept awaited.session found there
    refine ⟨found', there', same.captureInFlight.trans flying, same.captureAbort.trans abort, ?_⟩
    rw [same.interventionId]
    exact held
  · intro other found there
    by_cases here : other = number
    · subst here
      exact sound.numbered other session stored
    · exact sound.numbered other found ((get?_set_ne _ _ here).symm.trans there)

/-- The abort signal of a session is set. -/
theorem abort_cases (session : ActiveWindowSession) :
    (handoff.abort session).captures = handoff.captures ∨
      ∃ capture found, session.captureAbort = some capture ∧
        handoff.captures.get? capture = some found ∧ (handoff.abort session).captures =
          handoff.captures.set capture { found with aborted := true } := by
  unfold abort
  dsimp only
  split
  · exact .inl rfl
  · rename_i capture signal
    split
    · exact .inl rfl
    · rename_i found there
      exact .inr ⟨capture, found, signal, there, rfl⟩

theorem Sound.abort (sound : Sound handoff) (session : ActiveWindowSession) :
    Sound (handoff.abort session) := by
  refine ⟨sound.held, sound.known, fun other awaited inFlight => ?_, sound.numbered⟩
  rcases @abort_cases handoff session with same | ⟨capture, found, _, there, same⟩
  · rw [same] at inFlight
    exact sound.awaited other awaited inFlight
  · rw [same] at inFlight
    by_cases here : other = capture
    · subst here
      cases (get?_set_self _ _ _).symm.trans inFlight
      obtain ⟨session, stored, flying, abort, _⟩ := sound.awaited other found there
      exact ⟨session, stored, flying, abort, fun no => by cases no⟩
    · exact sound.awaited other awaited ((get?_set_ne _ _ here).symm.trans inFlight)

/-- Setting the abort signal leaves no capture of the session that is not aborted. -/
theorem Sound.abort_quiet (sound : Sound handoff) {number : Nat}
    (stored : handoff.sessions.get? number = some session) {found : WindowCapture}
    (inFlight : (handoff.abort session).captures.get? capture = some found)
    (own : found.session = number) : found.aborted = true := by
  have before : ∃ found', handoff.captures.get? capture = some found' ∧ found'.session = number := by
    rcases @abort_cases handoff session with same | ⟨other, found', _, there, same⟩
    · rw [same] at inFlight
      exact ⟨found, inFlight, own⟩
    · rw [same] at inFlight
      by_cases here : capture = other
      · subst here
        cases (get?_set_self _ _ _).symm.trans inFlight
        exact ⟨found', there, own⟩
      · exact ⟨found, (get?_set_ne _ _ here).symm.trans inFlight, own⟩
  obtain ⟨found', there, own'⟩ := before
  obtain ⟨session', stored', _, signal, _⟩ := sound.awaited capture found' there
  rw [own'] at stored'
  cases stored.symm.trans stored'
  simp only [WindowHandoff.abort] at inFlight
  rw [signal] at inFlight
  dsimp only at inFlight
  rw [there] at inFlight
  cases (get?_set_self _ _ _).symm.trans inFlight
  rfl

/-- A session without a capture that could still fail is taken out of the maps. -/
theorem Sound.unmap (sound : Sound handoff) {number : Nat} {session : ActiveWindowSession}
    (stored : handoff.sessions.get? number = some session)
    (quiet : ∀ capture found, handoff.captures.get? capture = some found → found.session = number →
      found.aborted = true) :
    Sound { handoff with
      sessionsByIntervention :=
        if handoff.sessionsByIntervention.get? session.interventionId = some number then
          handoff.sessionsByIntervention.delete session.interventionId
        else handoff.sessionsByIntervention
      sessionsById :=
        if handoff.sessionsById.get? session.sessionId = some number then
          handoff.sessionsById.delete session.sessionId
        else handoff.sessionsById } := by
  -- Sessions of other numbers keep their place.
  have kept : ∀ id other, other ≠ number →
      handoff.sessionsByIntervention.get? id = some other →
      (if handoff.sessionsByIntervention.get? session.interventionId = some number then
        handoff.sessionsByIntervention.delete session.interventionId
      else handoff.sessionsByIntervention).get? id = some other := by
    intro id other ne held
    split
    · rename_i mapped
      have apart : id ≠ session.interventionId := by
        rintro rfl
        cases held.symm.trans mapped
        exact ne rfl
      exact (get?_delete_ne _ apart).trans held
    · exact held
  constructor
  · intro id other held
    dsimp only at held
    split at held
    · exact sound.held id other (get?_of_get?_delete held)
    · exact sound.held id other held
  · intro id other known
    have before : handoff.sessionsById.get? id = some other ∧ other ≠ number := by
      dsimp only at known
      split at known
      · rename_i mapped
        have found := get?_of_get?_delete known
        refine ⟨found, ?_⟩
        rintro rfl
        obtain ⟨session', stored', named, _⟩ := sound.known id other found
        cases stored.symm.trans stored'
        subst named
        cases (get?_delete_self _ _).symm.trans known
      · rename_i unmapped
        refine ⟨known, ?_⟩
        rintro rfl
        obtain ⟨session', stored', named, _⟩ := sound.known id other known
        cases stored.symm.trans stored'
        subst named
        exact unmapped known
    obtain ⟨session', stored', named, held⟩ := sound.known id other before.1
    exact ⟨session', stored', named, kept _ _ before.2 held⟩
  · intro capture found inFlight
    obtain ⟨session', stored', flying, signal, held⟩ := sound.awaited capture found inFlight
    refine ⟨session', stored', flying, signal, fun living => ?_⟩
    apply kept _ _ _ (held living)
    intro own
    cases living.symm.trans (quiet capture found inFlight own)
  · exact sound.numbered

theorem Sound.forgetSession (sound : Sound handoff) {number : Nat}
    (stored : handoff.sessions.get? number = some session) :
    Sound (handoff.forgetSession number session) := by
  have unmapped := @Sound.unmap _ (sound.abort session) number session stored
    fun _ _ inFlight own => sound.abort_quiet stored inFlight own
  exact unmapped.store stored ⟨rfl, rfl, rfl, rfl⟩

theorem Sound.forgetIntervention (sound : Sound handoff) (interventionId : String) :
    Sound (handoff.forgetIntervention interventionId) := by
  unfold WindowHandoff.forgetIntervention
  split
  · rename_i number session found
    exact sound.forgetSession (current_eq_some_iff.mp found).2
  · exact sound

theorem Sound.of_log (sound : Sound handoff) (log : List WindowHandoffFact) :
    Sound { handoff with log } :=
  ⟨sound.held, sound.known, sound.awaited, sound.numbered⟩

theorem Sound.revoke (sound : Sound handoff) (interventionId : String) (cause : Option Int) :
    Sound (handoff.revoke interventionId cause) :=
  (sound.forgetIntervention interventionId).of_log _

theorem Sound.loseAuthority (sound : Sound handoff) (session : ActiveWindowSession) :
    Sound (handoff.loseAuthority session) :=
  (sound.revoke _ _).of_log _

theorem Sound.forgetMatchingSession (sound : Sound handoff) (interventionId : String) (epoch : Int) :
    Sound (handoff.forgetMatchingSession interventionId epoch) := by
  unfold WindowHandoff.forgetMatchingSession
  split
  · rename_i number session found
    split
    · exact sound.forgetSession (current_eq_some_iff.mp found).2
    · exact sound
  · exact sound

/-! ## New sessions -/

theorem forgetIntervention_unmapped (sound : Sound handoff) (interventionId : String) :
    (handoff.forgetIntervention interventionId).sessionsByIntervention.get? interventionId = none := by
  unfold WindowHandoff.forgetIntervention
  split
  · rename_i number session found
    obtain ⟨held, stored⟩ := current_eq_some_iff.mp found
    obtain ⟨session', stored', named⟩ := sound.held interventionId number held
    cases stored.symm.trans stored'
    subst named
    change (if handoff.sessionsByIntervention.get? session.interventionId = some number then
      handoff.sessionsByIntervention.delete session.interventionId
      else handoff.sessionsByIntervention).get? session.interventionId = none
    rw [if_pos held]
    exact get?_delete_self _ _
  · rename_i none
    exact sound.current_eq_none none

/-- A session of an intervention that has none. -/
theorem Sound.openSession (sound : Sound handoff) {request : WindowStartRequest}
    (free : handoff.sessionsByIntervention.get? request.interventionId = none)
    (link : Option WindowLink) : Sound (handoff.openSession request link).2 := by
  have fresh : ∀ number session, handoff.sessions.get? number = some session →
      number ≠ handoff.numbers := fun number session stored =>
    Nat.ne_of_lt (sound.numbered number session stored)
  have apart : ∀ id number, handoff.sessionsByIntervention.get? id = some number →
      id ≠ request.interventionId := by
    rintro id number held rfl
    cases free.symm.trans held
  unfold WindowHandoff.openSession
  split
  · exact sound
  · exact sound.of_log _
  · rename_i locator sessionId
    constructor
    · intro id number held
      by_cases here : id = request.interventionId
      · subst here
        cases (get?_set_self _ _ _).symm.trans held
        exact ⟨_, get?_set_self _ _ _, rfl⟩
      · obtain ⟨session, stored, named⟩ :=
          sound.held id number ((get?_set_ne _ _ here).symm.trans held)
        exact ⟨session, (get?_set_ne _ _ (fresh number session stored)).trans stored,
          named⟩
    · intro id number known
      by_cases here : id = sessionId
      · subst here
        cases (get?_set_self _ _ _).symm.trans known
        exact ⟨_, get?_set_self _ _ _, rfl, get?_set_self _ _ _⟩
      · obtain ⟨session, stored, named, held⟩ :=
          sound.known id number ((get?_set_ne _ _ here).symm.trans known)
        exact ⟨session, (get?_set_ne _ _ (fresh number session stored)).trans stored,
          named, (get?_set_ne _ _ (apart _ _ held)).trans held⟩
    · intro capture found inFlight
      obtain ⟨session, stored, flying, signal, held⟩ := sound.awaited capture found inFlight
      refine ⟨session, (get?_set_ne _ _ (fresh _ session stored)).trans stored, flying,
        signal, fun living => ?_⟩
      exact (get?_set_ne _ _ (apart _ _ (held living))).trans (held living)
    · intro number session stored
      by_cases here : number = handoff.numbers
      · rw [here]
        exact Nat.lt_succ_self _
      · exact Nat.lt_succ_of_lt
          (sound.numbered number session ((get?_set_ne _ _ here).symm.trans stored))

theorem Sound.start (sound : Sound handoff) (request : WindowStartRequest)
    (link : Option WindowLink) : Sound (handoff.start request link).2 := by
  unfold WindowHandoff.start
  split
  · exact sound
  · split
    · rename_i none
      exact sound.openSession (sound.current_eq_none none) link
    · split
      · exact sound
      · split
        · split
          · exact sound
          · exact sound
        · apply (sound.revoke _ _).openSession
          exact forgetIntervention_unmapped sound request.interventionId

/-! ## Captures -/

/-- A session that is in the maps and awaits no capture begins one. -/
theorem Sound.beginCapture (sound : Sound handoff) {number : Nat}
    {session claimed : ActiveWindowSession} (stored : handoff.sessions.get? number = some session)
    (idle : session.captureInFlight = false)
    (known : handoff.sessionsById.get? session.sessionId = some number)
    (interventionId : claimed.interventionId = session.interventionId)
    (sessionId : claimed.sessionId = session.sessionId) :
    Sound ({ handoff with
      captures := handoff.captures.set handoff.numbers ⟨number, false⟩
      numbers := handoff.numbers + 1 }.store number
        { claimed with captureAbort := some handoff.numbers, captureInFlight := true }) := by
  obtain ⟨session', stored', _, mapped⟩ := sound.known _ number known
  cases stored.symm.trans stored'
  have kept : ∀ other found, handoff.sessions.get? other = some found → ∃ found',
      (handoff.sessions.set number { claimed with
        captureAbort := some handoff.numbers, captureInFlight := true }).get? other = some found' ∧
      found'.interventionId = found.interventionId ∧ found'.sessionId = found.sessionId := by
    intro other found there
    by_cases here : other = number
    · subst here
      cases stored.symm.trans there
      exact ⟨_, get?_set_self _ _ _, interventionId, sessionId⟩
    · exact ⟨found, (get?_set_ne _ _ here).trans there, rfl, rfl⟩
  constructor
  · intro id other held
    obtain ⟨found, there, named⟩ := sound.held id other held
    obtain ⟨found', there', same, _⟩ := kept other found there
    exact ⟨found', there', same.trans named⟩
  · intro id other known
    obtain ⟨found, there, named, held⟩ := sound.known id other known
    obtain ⟨found', there', same, same'⟩ := kept other found there
    refine ⟨found', there', same'.trans named, ?_⟩
    rw [same]
    exact held
  · intro capture awaited inFlight
    by_cases here : capture = handoff.numbers
    · subst here
      cases (get?_set_self _ _ _).symm.trans inFlight
      refine ⟨_, get?_set_self _ _ _, rfl, rfl, fun _ => ?_⟩
      dsimp only
      rw [interventionId]
      exact mapped
    · obtain ⟨found, there, flying, signal, held⟩ :=
        sound.awaited capture awaited ((get?_set_ne _ _ here).symm.trans inFlight)
      have apart : awaited.session ≠ number := by
        intro own
        rw [own] at there
        cases stored.symm.trans there
        cases idle.symm.trans flying
      exact ⟨found, (get?_set_ne _ _ apart).trans there, flying, signal, held⟩
  · intro other found there
    by_cases here : other = number
    · subst here
      exact Nat.lt_succ_of_lt (sound.numbered other session stored)
    · exact Nat.lt_succ_of_lt
        (sound.numbered other found ((get?_set_ne _ _ here).symm.trans there))

theorem Sound.pumpFrame (sound : Sound handoff) {number : Nat}
    (stored : handoff.sessions.get? number = some session) (generation : Option Int) :
    Sound (handoff.pumpFrame number session generation) := by
  have aborted : ∀ claimed, SameSession session claimed →
      Sound ((handoff.abort session).store number claimed) := fun claimed same =>
    (sound.abort session).store stored same
  unfold WindowHandoff.pumpFrame
  split
  · exact sound
  · rename_i known
    rw [not_not] at known
    cases generation with
    | none =>
        apply aborted
        exact ⟨rfl, rfl, rfl, rfl⟩
    | some generation =>
        dsimp only
        by_cases changed : session.activeClientGeneration ≠ some generation
        · rw [if_pos changed]
          have claimed := aborted { session with activeClientGeneration := some generation }
            ⟨rfl, rfl, rfl, rfl⟩
          split
          · exact claimed
          · rename_i idle
            exact @Sound.beginCapture _ claimed number
              { session with activeClientGeneration := some generation }
              { session with activeClientGeneration := some generation }
              (get?_set_self _ _ _) (Bool.eq_false_iff.mpr idle) known rfl rfl
        · rw [if_neg changed]
          split
          · exact sound
          · rename_i idle
            exact @Sound.beginCapture _ sound number session
              { session with activeClientGeneration := some generation } stored
              (Bool.eq_false_iff.mpr idle) known rfl rfl

theorem Sound.finishCapture (sound : Sound handoff) {number : Nat} {awaited : WindowCapture}
    (inFlight : handoff.captures.get? capture = some awaited) (own : awaited.session = number) :
    Sound (handoff.finishCapture capture number) := by
  obtain ⟨session, stored, _, signal, _⟩ := sound.awaited capture awaited inFlight
  rw [own] at stored
  have kept : ∀ other found, handoff.sessions.get? other = some found → ∃ found',
      (handoff.sessions.set number { session with
        captureAbort := none, captureInFlight := false }).get? other = some found' ∧
      found'.interventionId = found.interventionId ∧ found'.sessionId = found.sessionId := by
    intro other found there
    by_cases here : other = number
    · subst here
      cases stored.symm.trans there
      exact ⟨_, get?_set_self _ _ _, rfl, rfl⟩
    · exact ⟨found, (get?_set_ne _ _ here).trans there, rfl, rfl⟩
  unfold WindowHandoff.finishCapture
  rw [stored]
  dsimp only
  rw [if_pos signal]
  constructor
  · intro id other held
    obtain ⟨found, there, named⟩ := sound.held id other held
    obtain ⟨found', there', same, _⟩ := kept other found there
    exact ⟨found', there', same.trans named⟩
  · intro id other known
    obtain ⟨found, there, named, held⟩ := sound.known id other known
    obtain ⟨found', there', same, same'⟩ := kept other found there
    refine ⟨found', there', same'.trans named, ?_⟩
    rw [same]
    exact held
  · intro other found flying
    have apart : other ≠ capture := by
      rintro rfl
      cases (get?_delete_self _ _).symm.trans flying
    obtain ⟨session', stored', flies, signal', held⟩ :=
      sound.awaited other found (get?_of_get?_delete flying)
    have elsewhere : found.session ≠ number := by
      intro same
      rw [same] at stored'
      cases stored.symm.trans stored'
      cases signal.symm.trans signal'
      exact apart rfl
    exact ⟨session', (get?_set_ne _ _ elsewhere).trans stored', flies, signal', held⟩
  · intro other found there
    by_cases here : other = number
    · subst here
      exact sound.numbered other session stored
    · exact sound.numbered other found ((get?_set_ne _ _ here).symm.trans there)

/-- A capture that is awaited stays so when a session is forgotten. -/
theorem forgetIntervention_captures {awaited : WindowCapture}
    (inFlight : handoff.captures.get? capture = some awaited) (interventionId : String) :
    ∃ found, (handoff.forgetIntervention interventionId).captures.get? capture = some found ∧
      found.session = awaited.session := by
  unfold WindowHandoff.forgetIntervention
  split
  · rename_i number session _
    change ∃ found, (handoff.abort session).captures.get? capture = some found ∧ _
    rcases @abort_cases handoff session with same | ⟨other, found, _, there, same⟩
    · rw [same]
      exact ⟨awaited, inFlight, rfl⟩
    · rw [same]
      by_cases here : capture = other
      · subst here
        cases inFlight.symm.trans there
        exact ⟨_, get?_set_self _ _ _, rfl⟩
      · exact ⟨awaited, (get?_set_ne _ _ here).trans inFlight, rfl⟩
  · exact ⟨awaited, inFlight, rfl⟩

theorem Sound.settleCapture (sound : Sound handoff) {awaited : WindowCapture}
    (inFlight : handoff.captures.get? capture = some awaited) (session : ActiveWindowSession)
    (failure : Option FailureDisposition) :
    Sound (handoff.settleCapture capture session awaited failure) := by
  unfold WindowHandoff.settleCapture
  dsimp only
  split
  · obtain ⟨found, there, same⟩ := forgetIntervention_captures inFlight session.interventionId
    exact (sound.loseAuthority session).finishCapture there same
  · exact sound.finishCapture inFlight rfl

/-! ## Steps -/

theorem Sound.of_inputs (sound : Sound handoff) (inputs : OrderedMap Nat Nat) (numbers : Nat)
    (more : handoff.numbers ≤ numbers) : Sound { handoff with inputs, numbers } :=
  ⟨sound.held, sound.known, sound.awaited, fun number session stored =>
    Nat.lt_of_lt_of_le (sound.numbered number session stored) more⟩

theorem step_sound {event : WindowHandoffEvent} (step : Step handoff event after)
    (sound : Sound handoff) : Sound after := by
  cases event with
  | start request link =>
      cases step
      exact sound.start request link
  | revoke interventionId =>
      cases step
      exact sound.revoke _ _
  | completed interventionId epoch =>
      cases step
      exact sound.forgetMatchingSession _ _
  | pumpFrame number generation =>
      obtain ⟨session, stored, pumped⟩ := bind_eq_some_iff.mp step
      split at pumped
      · cases pumped
        exact sound.pumpFrame stored generation
      · cases pumped
  | captureSettled capture failure =>
      obtain ⟨awaited, inFlight, settled⟩ := bind_eq_some_iff.mp step
      obtain ⟨session, _, rfl⟩ := map_eq_some_iff.mp settled
      exact sound.settleCapture inFlight session failure
  | dispatchInput interventionId epoch =>
      cases step
      unfold WindowHandoff.dispatchInput
      split
      · split
        · exact sound.of_inputs _ _ (Nat.le_succ _)
        · exact sound
      · exact sound
  | inputSettled input failure =>
      obtain ⟨number, _, settled⟩ := bind_eq_some_iff.mp step
      obtain ⟨session, _, rfl⟩ := map_eq_some_iff.mp settled
      have ended := sound.of_inputs (handoff.inputs.delete input) handoff.numbers (Nat.le_refl _)
      unfold WindowHandoff.settleInput
      dsimp only
      split
      · exact ended.loseAuthority session
      · exact ended

/-! ## What a failure costs -/

/-- No failure has revoked or forgotten a session of a newer epoch than its own. -/
def Isolated (handoff : WindowHandoff) : Prop :=
  ∀ fact ∈ handoff.log, fact.isolated

/-- No input that fails for good belongs to a session that a newer epoch has replaced. -/
def Current (handoff : WindowHandoff) : WindowHandoffEvent → Prop
  | .inputSettled input (some .authorityLost) =>
      ∀ session ∈ (handoff.inputs.get? input).bind handoff.sessions.get?,
        ∀ entry ∈ handoff.current session.interventionId, entry.2.epoch ≤ session.epoch
  | _ => True

theorem loseAuthority_log (session : ActiveWindowSession) :
    (handoff.loseAuthority session).log =
      [.released session.interventionId session.epoch,
        .revoked session.interventionId (some session.epoch)
          ((handoff.current session.interventionId).map fun entry => entry.2.epoch)] ++ handoff.log :=
  rfl

/-- A failure is isolated exactly if the session that it forgets is of no newer epoch. -/
theorem loseAuthority_isolated_iff (session : ActiveWindowSession) (isolated : Isolated handoff) :
    Isolated (handoff.loseAuthority session) ↔ ∀ number newer,
      handoff.current session.interventionId = some (number, newer) → newer.epoch ≤ session.epoch := by
  unfold Isolated
  rw [loseAuthority_log]
  constructor
  · intro claimed number newer found
    rw [found] at claimed
    exact claimed (.revoked session.interventionId (some session.epoch) (some newer.epoch))
      (mem_append_left _ (mem_cons_of_mem _ mem_cons_self))
  · intro older fact mem
    rcases mem_append.mp mem with recent | past
    · rcases mem_pair.mp recent with rfl | rfl
      · exact trivial
      · cases found : handoff.current session.interventionId with
        | none => exact trivial
        | some entry => exact older entry.1 entry.2 found
    · exact isolated fact past

theorem finishCapture_log (capture number : Nat) :
    (handoff.finishCapture capture number).log = handoff.log := by
  unfold finishCapture
  split
  · rfl
  · rfl

/-- A capture that is not aborted is one of the session that its failure forgets. -/
theorem settleCapture_isolated (sound : Sound handoff) (isolated : Isolated handoff)
    {awaited : WindowCapture} (inFlight : handoff.captures.get? capture = some awaited)
    (stored : handoff.sessions.get? awaited.session = some session)
    (failure : Option FailureDisposition) :
    Isolated (handoff.settleCapture capture session awaited failure) := by
  unfold settleCapture Isolated
  rw [finishCapture_log]
  split
  · rename_i lost
    obtain ⟨session', stored', _, _, held⟩ := sound.awaited capture awaited inFlight
    cases stored.symm.trans stored'
    refine (loseAuthority_isolated_iff session isolated).mpr fun number newer found => ?_
    obtain ⟨held', stored'⟩ := current_eq_some_iff.mp found
    cases (held lost.2).symm.trans held'
    cases stored.symm.trans stored'
    exact Int.le_refl _
  · exact isolated

theorem start_isolated (isolated : Isolated handoff) (request : WindowStartRequest)
    (link : Option WindowLink) : Isolated (handoff.start request link).2 := by
  have opened : ∀ handoff : WindowHandoff, Isolated handoff →
      Isolated (handoff.openSession request link).2 := by
    intro handoff isolated
    unfold openSession
    split
    · exact isolated
    · exact forall_mem_cons.mpr ⟨trivial, isolated⟩
    · exact isolated
  unfold start
  split
  · exact isolated
  · split
    · exact opened handoff isolated
    · split
      · exact isolated
      · split
        · split
          · exact isolated
          · exact isolated
        · apply opened
          exact forall_mem_cons.mpr ⟨trivial, isolated⟩

theorem pumpFrame_log (number : Nat) (session : ActiveWindowSession) (generation : Option Int) :
    (handoff.pumpFrame number session generation).log = handoff.log := by
  unfold pumpFrame
  split
  · rfl
  · cases generation with
    | none => rfl
    | some generation =>
        have fresh : (if session.activeClientGeneration ≠ some generation then
            (handoff.abort session).store number
              { session with activeClientGeneration := some generation }
          else handoff).log = handoff.log := by
          split
          · rfl
          · rfl
        dsimp only
        split
        · exact fresh
        · exact fresh

/-- A step isolates failures exactly if no input fails for a session that a newer epoch has
replaced. -/
theorem step_isolated_iff {event : WindowHandoffEvent} (step : Step handoff event after)
    (sound : Sound handoff) (isolated : Isolated handoff) :
    Isolated after ↔ handoff.Current event := by
  cases event with
  | start request link =>
      cases step
      exact iff_of_true (start_isolated isolated request link) trivial
  | revoke interventionId =>
      cases step
      exact iff_of_true (forall_mem_cons.mpr ⟨trivial, isolated⟩) trivial
  | completed interventionId epoch =>
      cases step
      refine iff_of_true ?_ trivial
      unfold forgetMatchingSession
      split
      · split
        · exact isolated
        · exact isolated
      · exact isolated
  | pumpFrame number generation =>
      obtain ⟨session, _, pumped⟩ := bind_eq_some_iff.mp step
      split at pumped
      · cases pumped
        refine iff_of_true ?_ trivial
        unfold Isolated
        rw [pumpFrame_log]
        exact isolated
      · cases pumped
  | captureSettled capture failure =>
      obtain ⟨awaited, inFlight, settled⟩ := bind_eq_some_iff.mp step
      obtain ⟨session, stored, rfl⟩ := map_eq_some_iff.mp settled
      exact iff_of_true (settleCapture_isolated sound isolated inFlight stored failure) trivial
  | dispatchInput interventionId epoch =>
      cases step
      refine iff_of_true ?_ trivial
      unfold dispatchInput
      split
      · split
        · exact isolated
        · exact isolated
      · exact isolated
  | inputSettled input failure =>
      obtain ⟨number, begun, settled⟩ := bind_eq_some_iff.mp step
      obtain ⟨session, stored, rfl⟩ := map_eq_some_iff.mp settled
      have ended : Isolated { handoff with inputs := handoff.inputs.delete input } := isolated
      rcases failure with _ | _ | _
      · exact iff_of_true ended trivial
      · exact iff_of_true ended trivial
      · have own : (handoff.inputs.get? input).bind handoff.sessions.get? = some session :=
          bind_eq_some_iff.mpr ⟨number, begun, stored⟩
        refine (loseAuthority_isolated_iff session ended).trans ⟨fun older => ?_, fun current => ?_⟩
        · intro session' same entry found
          cases own.symm.trans same
          exact older entry.1 entry.2 found
        · exact fun other newer found => current session own (other, newer) found

/-- As long as no input fails for a session that a newer epoch has replaced, failures are isolated,
those of the captures always; and the first step that is not so revokes a newer session. -/
theorem run_isolated {events : List WindowHandoffEvent} {last : WindowHandoff}
    (run : Run (Guarded Step Current) initial events last) :
    Isolated last ∧ ∀ event after, Step last event after → (Isolated after ↔ last.Current event) := by
  have reached : Sound last ∧ Isolated last := by
    refine @Run.invariant _ _ _ (fun handoff => Sound handoff ∧ Isolated handoff) _ _ _ run ?_
      ⟨initial_sound, fun _ no => by cases no⟩
    rintro first event after ⟨step, current⟩ ⟨sound, isolated⟩
    exact ⟨step_sound step sound, (step_isolated_iff step sound isolated).mpr current⟩
  exact ⟨reached.2, fun event after step => step_isolated_iff step reached.1 reached.2⟩

/-! ### A capture and an input that fail late -/

def sampleTarget : TakeoverHostTarget := ⟨4711, some 12⟩

def samplePolicy : WebSocketTakeoverInputPolicy := ⟨true, true, true, false⟩

def sampleStart (epoch : Int) : WindowStartRequest :=
  ⟨"ho-7", epoch, "operator", sampleTarget, samplePolicy⟩

/-- Both are begun for the first epoch, and the second one is started. -/
def sampleReplaced : List WindowHandoffEvent :=
  [.start (sampleStart 1) (some ⟨"https://takeover.test/takeover/session-1", some "session-1"⟩),
    .pumpFrame 0 (some 1), .dispatchInput "ho-7" 1,
    .start (sampleStart 2) (some ⟨"https://takeover.test/takeover/session-2", some "session-2"⟩)]

instance currentDecidable (handoff : WindowHandoff) : (event : WindowHandoffEvent) →
    Decidable (handoff.Current event)
  | .inputSettled _ (some .authorityLost) =>
      inferInstanceAs (Decidable (∀ session ∈ _, ∀ entry ∈ _, _ ≤ _))
  | .inputSettled _ none | .inputSettled _ (some .recoverable) | .start _ _ | .revoke _
  | .completed _ _ | .pumpFrame _ _ | .captureSettled _ _ | .dispatchInput _ _ =>
      inferInstanceAs (Decidable True)

/-- The capture does no harm. -/
theorem sampleReplaced_isolated :
    ∃ last, Run (Guarded Step Current) initial
        (sampleReplaced ++ [.captureSettled 1 (some .authorityLost)]) last ∧
      last.sessionsByIntervention.get? "ho-7" = some 3 ∧ Isolated last := by
  have kept : (execute (permitted next Current) initial
      (sampleReplaced ++ [.captureSettled 1 (some .authorityLost)])).map
        (fun last => last.sessionsByIntervention.get? "ho-7") = some (some 3) := by decide
  obtain ⟨last, executed, kept⟩ := Option.map_eq_some_iff.mp kept
  have run := run_guarded_of_execute executed
  exact ⟨last, run, kept, (run_isolated run).1⟩

/-- The input revokes the second epoch. -/
theorem sampleReplaced_revoked :
    ∃ last, Run Step initial (sampleReplaced ++ [.inputSettled 2 (some .authorityLost)]) last ∧
      last.sessionsByIntervention.get? "ho-7" = none ∧ ¬ Isolated last := by
  have lost : (execute next initial
      (sampleReplaced ++ [.inputSettled 2 (some .authorityLost)])).map (fun last =>
        decide (last.sessionsByIntervention.get? "ho-7" = none ∧
          WindowHandoffFact.revoked "ho-7" (some 1) (some 2) ∈ last.log)) = some true := by decide
  obtain ⟨last, executed, lost⟩ := Option.map_eq_some_iff.mp lost
  obtain ⟨forgotten, revoked⟩ := of_decide_eq_true lost
  refine ⟨last, (run_iff_execute _ _ _ _).mpr executed, forgotten, fun isolated => ?_⟩
  have older : (2 : Int) ≤ 1 := isolated _ revoked
  exact absurd older (by decide)

end WindowHandoff

end ExecutionHandoff.WebSocket
