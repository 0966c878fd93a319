import ExecutionHandoff.Takeover.SessionAuthority
import ExecutionHandoff.Experimental.TerminalEvents

/-!
# The terminal transport

`ExperimentalTerminalWebRtcTakeover` with the data-channel runtime it drives.
Session objects and active runtimes are mutable objects that callbacks keep
hold of, so each is named by its place in the order of creation.  A step is the
code between two awaits; what a request or a revocation waits for is pending
work, and the environment decides which of it goes on and how.  What is sent to
the peer and the bodies of responses are left out.
-/

namespace ExecutionHandoff.Experimental

open Library Takeover
open WebSocket (utf8Length maxSafeInteger)

/-- `publicOrigin` is that of the public base URL, if there is one; `iceProvider` says whether
the environment configures a credential provider. -/
structure TerminalWebRtcConfig where
  enabled : Bool
  publicOrigin : Option String
  iceProvider : Bool
  sessions : TakeoverSessionConfig
  parse : String → Option (JsonValue (Option ℚ))

structure TerminalSession where
  id : String
  interventionId : String
  epoch : Int
  principalBinding : String
  humanActive : Bool
  disconnected : Bool
  completed : Bool
  faulted : Bool
  queue : List TerminalWebRtcEvent
  queuedBytes : Nat
  clientGeneration : Option Nat
  deriving DecidableEq

structure TerminalWebRtcStatus where
  transportReady : Bool
  humanActive : Bool
  disconnected : Bool
  completed : Bool
  faulted : Bool
  clientGeneration : Option Nat
  queuedEvents : Nat
  deriving DecidableEq

/-- `WebRtcTakeoverRuntimeBinding`, which has the fields of a use. -/
abbrev RuntimeBinding := TakeoverUse

def webRtcBindingFromGrant (grant : TakeoverGrant) : RuntimeBinding :=
  { grant.toTakeoverLocator with
    clientBinding := grant.clientBinding
    clientGeneration := grant.clientGeneration }

/-- The ICE session and the timer are named by number. -/
structure PreparedRuntime where
  binding : RuntimeBinding
  ice : Nat
  expiry : Nat
  deriving DecidableEq

inductive ChannelState where
  | connecting
  | open
  | closed
  deriving DecidableEq

/-- The hooks of a runtime were made for one session object. -/
structure ActiveRuntime where
  binding : RuntimeBinding
  ice : Nat
  expiry : Nat
  session : Nat
  channel : Option ChannelState
  inputEnabled : Bool
  closing : Bool
  deriving DecidableEq

/-! ## The data-channel runtime -/

structure TerminalDataChannelRuntime where
  prepared : OrderedMap String PreparedRuntime
  active : OrderedMap String Nat
  runtimes : List ActiveRuntime
  /-- The armed expiry timers with the takeover session each one revokes. -/
  timers : List (Nat × String)
  timersSet : Nat
  /-- The takeover session every ICE session was made for. -/
  iceSessions : List String
  /-- The ICE sessions whose `revoke` was called. -/
  iceRevoked : List Nat
  deriving DecidableEq

/-- What a revocation waits for: the prepared ICE session, the peer, or the ICE session of the
runtime it took. -/
inductive RevokePhase where
  | prepared
  | closing (runtime : Option Nat)
  | ice
  deriving DecidableEq

namespace TerminalDataChannelRuntime

def initial : TerminalDataChannelRuntime :=
  ⟨OrderedMap.empty, OrderedMap.empty, [], [], 0, [], []⟩

variable (runtime : TerminalDataChannelRuntime)

def clearTimer (expiry : Nat) : TerminalDataChannelRuntime :=
  { runtime with timers := runtime.timers.filter fun timer => timer.1 ≠ expiry }

def setTimer (id : String) : TerminalDataChannelRuntime :=
  { runtime with
    timers := (runtime.timersSet, id) :: runtime.timers
    timersSet := runtime.timersSet + 1 }

def revokeIce (ice : Nat) : TerminalDataChannelRuntime :=
  { runtime with iceRevoked := ice :: runtime.iceRevoked }

def modify (key : Nat) (f : ActiveRuntime → ActiveRuntime) : TerminalDataChannelRuntime :=
  { runtime with runtimes := runtime.runtimes.modify key f }

/-- `revokePrepared` up to its await. -/
def revokePrepared (id : String) : TerminalDataChannelRuntime :=
  match runtime.prepared.get? id with
  | none => runtime
  | some prepared =>
      ({ runtime with prepared := runtime.prepared.delete id }.clearTimer prepared.expiry).revokeIce
        prepared.ice

/-- `revokeActive` up to its first await. -/
def revokeActive (id : String) : TerminalDataChannelRuntime :=
  match runtime.active.get? id with
  | none => runtime
  | some key =>
      let taken := { runtime with active := runtime.active.delete id }.modify key fun active =>
        { active with closing := true, inputEnabled := false }
      match runtime.runtimes[key]? with
      | some active => taken.clearTimer active.expiry
      | none => taken

/-- `revokeActive` once the peer is closed. -/
def revokeIceOf (key : Nat) : TerminalDataChannelRuntime :=
  match runtime.runtimes[key]? with
  | some active => runtime.revokeIce active.ice
  | none => runtime

/-- What the revocation waited for has settled. -/
def advance (id : String) : RevokePhase → TerminalDataChannelRuntime
  | .prepared => runtime.revokeActive id
  | .closing (some key) => runtime.revokeIceOf key
  | .closing none => runtime
  | .ice => runtime

/-- What the revocation waits for next, if it goes on. -/
def nextPhase (id : String) : RevokePhase → Option RevokePhase
  | .prepared => some (.closing (runtime.active.get? id))
  | .closing (some _) => some .ice
  | .closing none => none
  | .ice => none

/-- The end of `prepare`: the ICE session, from the provider or direct, is stored. -/
def store (binding : RuntimeBinding) : TerminalDataChannelRuntime :=
  { runtime.setTimer binding.id with
    prepared := runtime.prepared.set binding.id
      ⟨binding, runtime.iceSessions.length, runtime.timersSet⟩
    iceSessions := runtime.iceSessions ++ [binding.id] }

/-- `start` takes the prepared ICE session for a runtime of its own. -/
def take (binding : RuntimeBinding) (session : Nat) (prepared : PreparedRuntime) :
    TerminalDataChannelRuntime :=
  let taken := { runtime with prepared := runtime.prepared.delete binding.id }.clearTimer
    prepared.expiry
  { taken.setTimer binding.id with
    active := taken.active.set binding.id taken.runtimes.length
    runtimes := taken.runtimes ++ [{
      binding, ice := prepared.ice, expiry := taken.timersSet, session
      channel := none, inputEnabled := false, closing := false }] }

def fence (id : String) : TerminalDataChannelRuntime :=
  match runtime.active.get? id with
  | none => runtime
  | some key => runtime.modify key fun active => { active with inputEnabled := false }

/-- The runtime of the generation, unless it is closing. -/
def requireGeneration (id : String) (generation : Nat) : Option (Nat × ActiveRuntime) :=
  (runtime.active.get? id).bind fun key =>
    (runtime.runtimes[key]?).bind fun active =>
      if active.binding.clientGeneration = generation ∧ active.closing = false then
        some (key, active)
      else
        none

/-- `activate`, unless it throws. -/
def activate (id : String) (generation : Nat) : Option TerminalDataChannelRuntime :=
  (runtime.requireGeneration id generation).bind fun found =>
    if found.2.channel = some .open then
      some (runtime.modify found.1 fun active => { active with inputEnabled := true })
    else
      none

end TerminalDataChannelRuntime

/-! ## Requests -/

inductive TerminalOperation where
  | page
  | prepare
  | connect
  deriving DecidableEq

structure TerminalRequest where
  operation : TerminalOperation
  id : String
  /-- The method is the one the path is for. -/
  method : Bool
  origin : Option String
  clientBinding : Option String
  capability : Option String
  deriving DecidableEq

/-- A connect request whose capability was verified. -/
structure Connect where
  session : Nat
  id : String
  binding : RuntimeBinding
  deriving DecidableEq

/-- Where a request or a revocation stands at an await. -/
inductive Work where
  /-- `prepare` awaits the revocation of the old prepared ICE session. -/
  | prepare (binding : RuntimeBinding)
  | issue (binding : RuntimeBinding)
  /-- `handleConnect` awaits the body. -/
  | connect (session : Nat) (id capability principalBinding clientBinding : String)
  /-- `start` awaits the revocation of the runtime it replaces. -/
  | start (connect : Connect) (phase : RevokePhase)
  /-- `start` awaits its own `prepare`, first for its revocation and then as a whole. -/
  | startPrepare (connect : Connect)
  | startPrepared (connect : Connect)
  | negotiate (connect : Connect) (runtime : Nat)
  /-- `start` failed and revokes the active runtime, then `handleConnect` revokes everything. -/
  | abandon (connect : Connect) (phase : RevokePhase)
  | refuse (connect : Connect) (phase : RevokePhase)
  /-- A revocation nobody awaits. -/
  | revoke (id : String) (phase : RevokePhase)
  /-- `ExperimentalTerminalWebRtcTakeover.revoke`. -/
  | ending (session : Nat) (id : String) (phase : RevokePhase)
  deriving DecidableEq

inductive PeerEvent where
  /-- The control channel is announced. -/
  | announced
  | opened
  | closed
  /-- The connection failed, was disconnected or closed. -/
  | lost
  | message (text : String)
  deriving DecidableEq

structure ExperimentalTerminalWebRtcTakeover where
  sessions : TakeoverSessionManager
  objects : List TerminalSession
  session : Option Nat
  runtime : TerminalDataChannelRuntime
  pending : List Work
  /-- The takeover sessions whose revocation, Done or expiry has begun. -/
  ended : List String
  deriving DecidableEq

abbrev TransportM (α : Type) := StateExcept ExperimentalTerminalWebRtcTakeover String α

def hexShaped (length : Nat) (text : String) : Bool :=
  let chars := text.toList
  chars.length == length
    && chars.all fun char => char.isDigit || (decide ('a' ≤ char) && decide (char ≤ 'f'))

def validIntervention (id : String) (epoch : Int) : Bool :=
  shaped 1 128 id && decide (0 < epoch) && decide (epoch ≤ maxSafeInteger)

namespace ExperimentalTerminalWebRtcTakeover

def initial : ExperimentalTerminalWebRtcTakeover :=
  ⟨TakeoverSessionManager.initial, [], none, .initial, [], []⟩

section Pieces

variable (config : TerminalWebRtcConfig) (takeover : ExperimentalTerminalWebRtcTakeover)

def await (work : Work) : ExperimentalTerminalWebRtcTakeover :=
  { takeover with pending := work :: takeover.pending }

def withRuntime (runtime : TerminalDataChannelRuntime) : ExperimentalTerminalWebRtcTakeover :=
  { takeover with runtime }

def modify (key : Nat) (f : TerminalSession → TerminalSession) :
    ExperimentalTerminalWebRtcTakeover :=
  { takeover with objects := takeover.objects.modify key f }

/-- Whatever the session manager throws is caught. -/
def onSessions {α : Type} (action : SessionM α) : ExperimentalTerminalWebRtcTakeover :=
  { takeover with sessions := (action takeover.sessions).2 }

/-- `TerminalDataChannelRuntime.revoke` up to its first await. -/
def beginRevoke (id : String) (work : RevokePhase → Work) : ExperimentalTerminalWebRtcTakeover :=
  (takeover.withRuntime (takeover.runtime.revokePrepared id)).await (work .prepared)

/-- A revocation goes on, or what follows it does. -/
def advance (id : String) (phase : RevokePhase) (work : RevokePhase → Work)
    (after : ExperimentalTerminalWebRtcTakeover → ExperimentalTerminalWebRtcTakeover) :
    ExperimentalTerminalWebRtcTakeover :=
  let advanced := takeover.withRuntime (takeover.runtime.advance id phase)
  match takeover.runtime.nextPhase id phase with
  | some next => advanced.await (work next)
  | none => after advanced

def markEnded (id : String) : ExperimentalTerminalWebRtcTakeover :=
  { takeover with ended := id :: takeover.ended }

/-! ## Messages -/

def faultSession (key : Nat) (session : TerminalSession) : ExperimentalTerminalWebRtcTakeover :=
  let faulted := takeover.modify key fun session =>
    { session with humanActive := false, faulted := true }
  (faulted.withRuntime (faulted.runtime.fence session.id)).beginRevoke session.id
    (.revoke session.id)

/-- The event is queued; a Done also ends the session. -/
def queueEvent (key : Nat) (session : TerminalSession) (event : TerminalWebRtcEvent) :
    ExperimentalTerminalWebRtcTakeover :=
  let queued := takeover.modify key fun session =>
    { session with
      queue := session.queue ++ [event]
      queuedBytes := session.queuedBytes + terminalEventCost event }
  if event = .done then
    let done := queued.modify key fun session =>
      { session with humanActive := false, completed := true }
    (((done.withRuntime (done.runtime.fence session.id)).onSessions
      (TakeoverSessionManager.revoke session.id)).markEnded session.id).beginRevoke session.id
        (.revoke session.id)
  else
    queued

/-- Messages are taken only for the current session while its Human is active. -/
def listens (key generation : Nat) (session : TerminalSession) : Bool :=
  takeover.session == some key && !session.completed && !session.disconnected
    && !session.faulted && session.humanActive && session.clientGeneration == some generation

def acceptMessage (key generation : Nat) (message : String) : ExperimentalTerminalWebRtcTakeover :=
  match takeover.objects[key]? with
  | none => takeover
  | some session =>
      if takeover.listens key generation session = false then
        takeover
      else
        match config.parse message with
        | none => takeover.faultSession key session
        | some value =>
            match parseTerminalEvent value with
            | .error _ => takeover
            | .ok none => takeover.faultSession key session
            | .ok (some event) =>
                if maxEventQueueItems ≤ session.queue.length
                    ∨ maxEventQueueBytes < session.queuedBytes + terminalEventCost event then
                  takeover.faultSession key session
                else
                  takeover.queueEvent key session event

/-! ## Hooks -/

def hookReady (key generation : Nat) : ExperimentalTerminalWebRtcTakeover :=
  takeover.modify key fun session =>
    if takeover.session = some key ∧ session.completed = false then
      { session with clientGeneration := some generation, disconnected := false }
    else
      session

def hookFaulted (key generation : Nat) : ExperimentalTerminalWebRtcTakeover :=
  takeover.modify key fun session =>
    if takeover.session = some key ∧ session.clientGeneration = some generation then
      { session with humanActive := false, faulted := true }
    else
      session

/-- The current session, if it is of the intervention and epoch. -/
def current? (interventionId : String) (epoch : Int) : Option (Nat × TerminalSession) :=
  takeover.session.bind fun key =>
    (takeover.objects[key]?).bind fun session =>
      if session.interventionId = interventionId ∧ session.epoch = epoch then some (key, session)
      else none

/-- `noteTransportDisconnect`; a mismatch throws into the callback and changes nothing. -/
def noteTransportDisconnect (interventionId : String) (epoch generation : Int) :
    ExperimentalTerminalWebRtcTakeover :=
  match takeover.current? interventionId epoch with
  | none => takeover
  | some (key, session) =>
      if generation < 1 ∨ maxSafeInteger < generation ∨ session.completed
          ∨ session.clientGeneration.map Int.ofNat ≠ some generation then
        takeover
      else
        takeover.modify key fun session => { session with humanActive := false, disconnected := true }

def hookDisconnected (key generation : Nat) : ExperimentalTerminalWebRtcTakeover :=
  match takeover.objects[key]? with
  | none => takeover
  | some session =>
      takeover.noteTransportDisconnect session.interventionId session.epoch generation

end Pieces

/-! ## The calls of the adapter -/

section Calls

variable (config : TerminalWebRtcConfig)

def requireIntervention (interventionId : String) (epoch : Int) :
    TransportM (Nat × TerminalSession) := do
  match (← StateExcept.read).current? interventionId epoch with
  | some found => return found
  | none => StateExcept.throwing "terminal WebRTC intervention mismatch"

/-- The session is named by the locator's id. -/
def start (interventionId : String) (epoch : Int) (principalBinding : String) :
    TransportM String := do
  StateExcept.require
    (config.enabled && config.publicOrigin.isSome && validIntervention interventionId epoch
      && hexShaped 64 principalBinding)
    "terminal WebRTC takeover unavailable"
  let takeover ← StateExcept.read
  StateExcept.require
    ((takeover.session.bind fun key => takeover.objects[key]?).all fun session => session.completed)
    "terminal WebRTC takeover already active"
  match TakeoverSessionManager.ensure config.sessions interventionId epoch principalBinding
      takeover.sessions with
  | (.error error, sessions) =>
      StateExcept.update fun takeover => { takeover with sessions }
      StateExcept.throwing error.message
  | (.ok locator, sessions) =>
      StateExcept.update fun takeover =>
        { takeover with
          sessions
          objects := takeover.objects ++ [{
            id := locator.id
            interventionId
            epoch
            principalBinding
            humanActive := false
            disconnected := false
            completed := false
            faulted := false
            queue := []
            queuedBytes := 0
            clientGeneration := none }]
          session := some takeover.objects.length }
      return locator.id

def status (interventionId : String) (epoch : Int) : TransportM TerminalWebRtcStatus := do
  let (_, session) ← requireIntervention interventionId epoch
  return {
    transportReady := session.clientGeneration.isSome && !session.disconnected && !session.faulted
    humanActive := session.humanActive
    disconnected := session.disconnected
    completed := session.completed
    faulted := session.faulted
    clientGeneration := session.clientGeneration
    queuedEvents := session.queue.length }

def activateHuman (interventionId : String) (epoch : Int) : TransportM Unit := do
  let (key, session) ← requireIntervention interventionId epoch
  StateExcept.require (!session.completed && !session.disconnected && !session.faulted)
    "terminal WebRTC transport unavailable"
  match session.clientGeneration with
  | none => StateExcept.throwing "terminal WebRTC transport unavailable"
  | some generation =>
      match (← StateExcept.read).runtime.activate session.id generation with
      | none => StateExcept.throwing "terminal WebRTC channel unavailable"
      | some runtime =>
          StateExcept.update fun takeover =>
            (takeover.withRuntime runtime).modify key fun session =>
              { session with humanActive := true }

def fenceHuman (interventionId : String) (epoch : Int) : TransportM Unit := do
  let (key, session) ← requireIntervention interventionId epoch
  StateExcept.update fun takeover =>
    (takeover.modify key fun session => { session with humanActive := false }).withRuntime
      (takeover.runtime.fence session.id)

def drainEvents (interventionId : String) (epoch : Int) :
    TransportM (List TerminalWebRtcEvent) := do
  let (key, session) ← requireIntervention interventionId epoch
  StateExcept.update fun takeover =>
    takeover.modify key fun session => { session with queue := [], queuedBytes := 0 }
  return session.queue

def nextEvent (interventionId : String) (epoch : Int) :
    TransportM (Option TerminalWebRtcEvent) := do
  let (key, session) ← requireIntervention interventionId epoch
  match session.queue with
  | [] => return none
  | event :: rest =>
      StateExcept.update fun takeover =>
        takeover.modify key fun session =>
          { session with
            queue := rest
            queuedBytes := session.queuedBytes - terminalEventCost event }
      return some event

/-- Only a transport that an ordered Done has completed is released. -/
def releaseCompleted (interventionId : String) (epoch : Int) : TransportM Unit := do
  let (_, session) ← requireIntervention interventionId epoch
  StateExcept.require (session.completed && !session.humanActive)
    "terminal WebRTC transport is not completed"
  StateExcept.update fun takeover => { takeover with session := none }

/-- `revoke` up to its await; a mismatch rejects. -/
def revoke (interventionId : String) (epoch : Int) : TransportM Unit := do
  let (key, session) ← requireIntervention interventionId epoch
  StateExcept.update fun takeover =>
    ((takeover.modify key fun session => { session with humanActive := false }).markEnded
      session.id).beginRevoke session.id (.ending key session.id)

end Calls

/-! ## Requests -/

section Requests

variable (config : TerminalWebRtcConfig) (takeover : ExperimentalTerminalWebRtcTakeover)

/-- What `handleConnect` does once `start` has thrown. -/
def refuse (connect : Connect) : ExperimentalTerminalWebRtcTakeover :=
  (takeover.onSessions (TakeoverSessionManager.releaseClientGeneration config.sessions connect.id
    connect.binding.principalBinding connect.binding.clientBinding
    connect.binding.clientGeneration)).beginRevoke connect.id (.refuse connect)

/-- `start` from the check of the prepared ICE session on; its check of the offer repeats that of
`parseWebRtcOffer`. -/
def startTake (connect : Connect) : ExperimentalTerminalWebRtcTakeover :=
  match takeover.runtime.prepared.get? connect.binding.id with
  | none => takeover.refuse config connect
  | some prepared =>
      if prepared.binding = connect.binding then
        (takeover.withRuntime
          (takeover.runtime.take connect.binding connect.session prepared)).await
            (.negotiate connect takeover.runtime.runtimes.length)
      else
        takeover.refuse config connect

/-- `start` once no runtime is in its way; its own `prepare` finds nothing to revoke. -/
def startWith (connect : Connect) : ExperimentalTerminalWebRtcTakeover :=
  if config.iceProvider = false ∧ takeover.runtime.prepared.get? connect.binding.id = none then
    takeover.await (.startPrepare connect)
  else
    takeover.startTake config connect

def startRuntime (connect : Connect) : ExperimentalTerminalWebRtcTakeover :=
  match takeover.runtime.active.get? connect.binding.id with
  | none => takeover.startWith config connect
  | some key =>
      if (takeover.runtime.runtimes[key]?).any fun active =>
          active.binding.clientGeneration == connect.binding.clientGeneration then
        takeover.refuse config connect
      else
        (takeover.withRuntime (takeover.runtime.revokeActive connect.binding.id)).await
          (.start connect (.closing (some key)))

/-- `handleConnect` once the body has been read. -/
def verifyConnect (key : Nat) (id capability principalBinding clientBinding : String) :
    ExperimentalTerminalWebRtcTakeover :=
  match TakeoverSessionManager.verify config.sessions id capability principalBinding clientBinding
      takeover.sessions with
  | (.error _, sessions) => { takeover with sessions }
  | (.ok verified, sessions) =>
      { takeover with sessions }.startRuntime config ⟨key, id, verified⟩

def handlePrepare (session : TerminalSession) (clientBinding : String) :
    ExperimentalTerminalWebRtcTakeover :=
  if session.completed then
    takeover
  else
    match TakeoverSessionManager.claimClient config.sessions session.id session.principalBinding
        clientBinding takeover.sessions with
    | (.error _, sessions) => { takeover with sessions }
    | (.ok grant, sessions) =>
        let binding := webRtcBindingFromGrant grant
        ({ takeover with sessions }.withRuntime (takeover.runtime.revokePrepared binding.id)).await
          (.prepare binding)

/-- `handle`: a request that names the current session and passes the checks of its path. -/
def handle (request : TerminalRequest) : ExperimentalTerminalWebRtcTakeover :=
  match takeover.session.bind fun key => (takeover.objects[key]?).map fun session => (key, session)
    with
  | none => takeover
  | some (key, session) =>
      if shaped 8 100 request.id = false ∨ request.id ≠ session.id ∨ request.method = false then
        takeover
      else
        match request.operation with
        | .page =>
            if session.completed then takeover
            else takeover.onSessions
              (TakeoverSessionManager.validateLocator config.sessions session.id
                session.principalBinding)
        | .prepare =>
            if config.publicOrigin.isSome ∧ request.origin = config.publicOrigin then
              match request.clientBinding.filter (hexShaped 32) with
              | some clientBinding => takeover.handlePrepare config session clientBinding
              | none => takeover
            else
              takeover
        | .connect =>
            if config.publicOrigin.isSome ∧ request.origin = config.publicOrigin then
              match request.clientBinding.filter (hexShaped 32),
                request.capability.filter (shaped 24 128) with
              | some clientBinding, some capability =>
                  takeover.await
                    (.connect key session.id capability session.principalBinding clientBinding)
              | _, _ => takeover
            else
              takeover

/-- What a piece of work waited for has settled; `succeeded` is false for a body that is no offer
and for a negotiation that failed.  An ICE session that could not be issued is replaced by a
direct one. -/
def settle (work : Work) (succeeded : Bool) : ExperimentalTerminalWebRtcTakeover :=
  let resumed := { takeover with pending := takeover.pending.erase work }
  match work with
  | .prepare binding =>
      if config.iceProvider then resumed.await (.issue binding)
      else resumed.withRuntime (resumed.runtime.store binding)
  | .issue binding => resumed.withRuntime (resumed.runtime.store binding)
  | .connect key id capability principalBinding clientBinding =>
      if succeeded then
        resumed.verifyConnect config key id capability principalBinding clientBinding
      else
        resumed
  | .start connect phase =>
      resumed.advance connect.binding.id phase (.start connect) fun takeover =>
        takeover.startWith config connect
  | .startPrepare connect =>
      (resumed.withRuntime (resumed.runtime.store connect.binding)).await (.startPrepared connect)
  | .startPrepared connect => resumed.startTake config connect
  | .negotiate connect _ =>
      if succeeded then resumed
      else
        (resumed.withRuntime (resumed.runtime.revokeActive connect.binding.id)).await
          (.abandon connect (.closing (resumed.runtime.active.get? connect.binding.id)))
  | .abandon connect phase =>
      resumed.advance connect.binding.id phase (.abandon connect) fun takeover =>
        takeover.refuse config connect
  | .refuse connect phase => resumed.advance connect.id phase (.refuse connect) fun takeover => takeover
  | .revoke id phase => resumed.advance id phase (.revoke id) fun takeover => takeover
  | .ending key id phase =>
      resumed.advance id phase (.ending key id) fun takeover =>
        { takeover.onSessions (TakeoverSessionManager.revoke id) with session := none }

end Requests

/-! ## The peer -/

section Peer

variable (config : TerminalWebRtcConfig) (takeover : ExperimentalTerminalWebRtcTakeover)

def setChannel (key : Nat) (state : ChannelState) : ExperimentalTerminalWebRtcTakeover :=
  takeover.withRuntime (takeover.runtime.modify key fun active =>
    { active with channel := some state })

/-- A callback of the runtime's peer or of its control channel. -/
def onPeer (key : Nat) (active : ActiveRuntime) : PeerEvent → ExperimentalTerminalWebRtcTakeover
  | .announced =>
      if active.channel = none then takeover.setChannel key .connecting else takeover
  | .opened =>
      if active.channel = none then takeover
      else (takeover.setChannel key .open).hookReady active.session active.binding.clientGeneration
  | .closed =>
      if active.channel = none then takeover
      else if active.closing then takeover.setChannel key .closed
      else (takeover.setChannel key .closed).hookDisconnected active.session
        active.binding.clientGeneration
  | .lost =>
      if active.closing then takeover
      else
        (takeover.withRuntime (takeover.runtime.modify key fun active =>
          { active with inputEnabled := false })).hookDisconnected active.session
            active.binding.clientGeneration
  | .message text =>
      if active.channel = none ∨ active.inputEnabled = false ∨ active.closing then takeover
      else if maxChannelMessageBytes < utf8Length text then
        ((takeover.withRuntime (takeover.runtime.modify key fun active =>
          { active with inputEnabled := false })).hookFaulted active.session
            active.binding.clientGeneration).beginRevoke active.binding.id
              (.revoke active.binding.id)
      else
        takeover.acceptMessage config active.session active.binding.clientGeneration text

end Peer

end ExperimentalTerminalWebRtcTakeover

/-! ## Steps -/

/-- A call of the takeover's owner. -/
inductive TransportOp where
  | start (interventionId : String) (epoch : Int) (principalBinding : String)
  | status (interventionId : String) (epoch : Int)
  | activateHuman (interventionId : String) (epoch : Int)
  | fenceHuman (interventionId : String) (epoch : Int)
  | noteTransportDisconnect (interventionId : String) (epoch generation : Int)
  | drainEvents (interventionId : String) (epoch : Int)
  | nextEvent (interventionId : String) (epoch : Int)
  | releaseCompleted (interventionId : String) (epoch : Int)
  | revoke (interventionId : String) (epoch : Int)
  deriving DecidableEq

/-- What the environment does to a transport: everything but the calls of its owner. -/
inductive NetworkEvent where
  | request (request : TerminalRequest)
  | settle (work : Work) (succeeded : Bool)
  | peer (runtime : Nat) (event : PeerEvent)
  | expire (timer : Nat)
  deriving DecidableEq

inductive TransportEvent where
  | call (op : TransportOp)
  | network (event : NetworkEvent)
  deriving DecidableEq

namespace ExperimentalTerminalWebRtcTakeover

variable (config : TerminalWebRtcConfig)

/-- The state after a call, whether it threw or not. -/
def call (takeover : ExperimentalTerminalWebRtcTakeover) :
    TransportOp → ExperimentalTerminalWebRtcTakeover
  | .start interventionId epoch principalBinding =>
      (start config interventionId epoch principalBinding takeover).2
  | .status interventionId epoch => (status interventionId epoch takeover).2
  | .activateHuman interventionId epoch => (activateHuman interventionId epoch takeover).2
  | .fenceHuman interventionId epoch => (fenceHuman interventionId epoch takeover).2
  | .noteTransportDisconnect interventionId epoch generation =>
      takeover.noteTransportDisconnect interventionId epoch generation
  | .drainEvents interventionId epoch => (drainEvents interventionId epoch takeover).2
  | .nextEvent interventionId epoch => (nextEvent interventionId epoch takeover).2
  | .releaseCompleted interventionId epoch => (releaseCompleted interventionId epoch takeover).2
  | .revoke interventionId epoch => (revoke interventionId epoch takeover).2

/-- What may happen next outside: the environment picks, the transport decides what follows. -/
def network (takeover : ExperimentalTerminalWebRtcTakeover) :
    NetworkEvent → Option ExperimentalTerminalWebRtcTakeover
  | .request request => some (takeover.handle config request)
  | .settle work succeeded =>
      if work ∈ takeover.pending then some (takeover.settle config work succeeded) else none
  | .peer key event =>
      (takeover.runtime.runtimes[key]?).map fun active => takeover.onPeer config key active event
  | .expire timer =>
      (takeover.runtime.timers.lookup timer).map fun id =>
        ((takeover.withRuntime (takeover.runtime.clearTimer timer)).markEnded id).beginRevoke id
          (.revoke id)

def next (takeover : ExperimentalTerminalWebRtcTakeover) :
    TransportEvent → Option ExperimentalTerminalWebRtcTakeover
  | .call op => some (takeover.call config op)
  | .network event => takeover.network config event

abbrev Step : ExperimentalTerminalWebRtcTakeover → TransportEvent →
    ExperimentalTerminalWebRtcTakeover → Prop :=
  StepOf (next config)

end ExperimentalTerminalWebRtcTakeover

/-! ## A sample transport -/

def samplePrincipal : String :=
  "0123456789abcdef0123456789abcdef0123456789abcdef0123456789abcdef"

def samplePage : String := "0123456789abcdef0123456789abcdef"

def sampleTransportText (kind : String) : String :=
  signedText ["mcp-execution-handoff/" ++ kind, "takeover-0", "intervention", "1",
    samplePrincipal, samplePage, "1", "1001"]

def samplePageCapability : String := "Id9lusx5z0DSqjB8G-8X059FzjCEuSS8uClPkNXbGh4"

/-- A permutation of the strings that agrees with HMAC-SHA256 under the all-zero key on the
texts the sample transport signs. -/
def sampleTransportHmac : Equiv.Perm String :=
  (Equiv.swap (sampleTransportText "takeover/v2") samplePageCapability).trans
    (Equiv.swap (sampleTransportText "takeover-reconnect/v1")
      "NmhGytLCodHAusmbq4eQuxHoQQs30zk8guE4cqNNPNE")

/-- A transport with a credential provider, whose peers say nothing but Done. -/
def sampleTransport : TerminalWebRtcConfig where
  enabled := true
  publicOrigin := some "https://agent.example"
  iceProvider := true
  sessions := { TakeoverSessionManager.sampleConfig with hmac := sampleTransportHmac }
  parse := fun message =>
    if message = "\x7b\"kind\":\"done\"\x7d" then
      some (.object [(JsString.ascii "kind", .string (JsString.ascii "done"))])
    else none

def sampleRequest (operation : TerminalOperation) : TerminalRequest where
  operation := operation
  id := "takeover-0"
  method := true
  origin := some "https://agent.example"
  clientBinding := some samplePage
  capability := some samplePageCapability

/-- What the sample page was granted. -/
def sampleBinding : RuntimeBinding where
  id := "takeover-0"
  interventionId := "intervention"
  epoch := 1
  principalBinding := samplePrincipal
  expiresAt := 1001
  clientBinding := samplePage
  clientGeneration := 1

end ExecutionHandoff.Experimental
