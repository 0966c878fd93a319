import ExecutionHandoff.Library.Runs
import ExecutionHandoff.WebSocket.Messages

/-!
# The channel of a WebSocket takeover

`ExperimentalWebSocketTakeoverChannel` handles messages one after another on a
chain of promises, while a frame loop, the announcement of readiness and a
drain timer run beside it.  A step is the code between two awaits of promises
the channel does not settle itself: the lease, the input handler and the peer.
An await that only hands on a value at hand is no step, because nothing is
read or written between it and the code that follows.  Latencies, input stages
and the observed extremes are only reported and are left out.
-/

namespace ExecutionHandoff.WebSocket

open Library

/-! ## Options -/

/-- A double: a finite one, or none. -/
abbrev Double := Option ℚ

structure ExperimentalWebSocketTakeoverOptions where
  binding : WebSocketTakeoverBinding
  inputPolicy : WebSocketTakeoverInputPolicy
  maxInboundBytes : Option Double
  maxQueuedInboundMessages : Option Double
  maxQueuedInboundBytes : Option Double
  maxFrameBytes : Option Double
  maxBufferedBytes : Option Double

structure WebSocketChannelSettings where
  binding : WebSocketTakeoverBinding
  inputPolicy : WebSocketTakeoverInputPolicy
  maxInboundBytes : Nat
  maxQueuedInboundMessages : Nat
  maxQueuedInboundBytes : Nat
  maxFrameBytes : Nat
  maxBufferedBytes : Nat
  deriving DecidableEq

def defaultMaxInboundBytes : Nat := 8 * 1024
def defaultMaxQueuedInboundMessages : Nat := 32
def defaultMaxQueuedInboundBytes : Nat := 128 * 1024
def defaultMaxFrameBytes : Nat := 4 * 1024 * 1024
def defaultMaxBufferedBytes : Nat := 512 * 1024
def absoluteMaxInboundBytes : Nat := 64 * 1024
def absoluteMaxQueuedInboundMessages : Nat := 256
def absoluteMaxQueuedInboundBytes : Nat := 1024 * 1024
def absoluteMaxFrameBytes : Nat := 8 * 1024 * 1024
def absoluteMaxBufferedBytes : Nat := 4 * 1024 * 1024

def validateBinding (binding : WebSocketTakeoverBinding) : Except String Unit :=
  if binding.interventionId = "" ∨ boundedInteger binding.epoch 0 maxSafeInteger = false
      ∨ binding.principalBinding = "" ∨ binding.clientBinding = ""
      ∨ boundedInteger binding.clientGeneration 1 maxSafeInteger = false then
    .error "websocket takeover requires one exact active session binding"
  else
    .ok ()

def boundedLimit (value : Option Double) (fallback maximum : Nat) (name : String) :
    Except String Nat :=
  match value.getD (some (fallback : ℚ)) with
  | some resolved =>
      if boundedInteger resolved 1 maximum then .ok resolved.num.toNat
      else .error (name ++ " must be an integer between 1 and " ++ toString maximum)
  | none => .error (name ++ " must be an integer between 1 and " ++ toString maximum)

def construct (options : ExperimentalWebSocketTakeoverOptions) :
    Except String WebSocketChannelSettings := do
  validateBinding options.binding
  let maxInboundBytes ← boundedLimit options.maxInboundBytes defaultMaxInboundBytes
    absoluteMaxInboundBytes "maxInboundBytes"
  let maxQueuedInboundMessages ← boundedLimit options.maxQueuedInboundMessages
    defaultMaxQueuedInboundMessages absoluteMaxQueuedInboundMessages "maxQueuedInboundMessages"
  let maxQueuedInboundBytes ← boundedLimit options.maxQueuedInboundBytes
    defaultMaxQueuedInboundBytes absoluteMaxQueuedInboundBytes "maxQueuedInboundBytes"
  let maxFrameBytes ← boundedLimit options.maxFrameBytes defaultMaxFrameBytes
    absoluteMaxFrameBytes "maxFrameBytes"
  let maxBufferedBytes ← boundedLimit options.maxBufferedBytes defaultMaxBufferedBytes
    absoluteMaxBufferedBytes "maxBufferedBytes"
  pure
    { binding := options.binding
      inputPolicy := options.inputPolicy
      maxInboundBytes, maxQueuedInboundMessages, maxQueuedInboundBytes, maxFrameBytes
      maxBufferedBytes }

/-- A channel's settings, with the language's parser and the answers of its peer. -/
structure WebSocketChannelConfig extends WebSocketChannelSettings where
  /-- `JSON.parse`. -/
  parse : String → Option JsonValue
  /-- What `bufferedAmount` answers, by how often it was asked; `none` when it throws. -/
  bufferedAmount : Nat → Option Double

/-! ## What is under way -/

/-- A frame given to `pushFrame`, with the number of the call. -/
structure PushedFrame where
  call : Nat
  frame : WebSocketTakeoverFrame
  deriving DecidableEq

/-- An operation on the chain that has not begun; a message has the number of its call. -/
inductive Operation where
  | refuse (error : WebSocketTakeoverError)
  | message (call : Nat) (raw : String)
  | disconnect
  | revoke
  deriving DecidableEq

/-- What an error says to the channel. -/
inductive Thrown where
  | recoverable
  | takeover (error : WebSocketTakeoverError)
  | other
  deriving DecidableEq

def Thrown.code : Thrown → WebSocketTakeoverFailureCode
  | .takeover error => error.code
  | .recoverable | .other => .transportFailure

/-- The asynchronous functions of the channel that can stand at an await. -/
inductive Work where
  | start
  | ping (nonce : Option String)
  | input (call : Nat) (input : WebSocketTakeoverHumanInput)
  | done
  | disconnect
  | revoke
  /-- A message that only fails the channel. -/
  | refuse
  /-- The frame loop, with its current frame. -/
  | frame (current : PushedFrame)
  /-- `pushFrame` or `flushPendingFrame` after a failure outside the loop. -/
  | push
  deriving DecidableEq

/-- The work is an operation of the chain. -/
def Work.queued : Work → Bool
  | .ping _ | .input _ _ | .done | .disconnect | .revoke | .refuse => true
  | .start | .frame _ | .push => false

def Work.isFrame : Work → Bool
  | .frame _ => true
  | _ => false

/-- The promise the work waits for. -/
inductive Await where
  | beginUse
  /-- The peer or the input handler. -/
  | operation
  | endUse (thrown : Option Thrown)
  | complete
  /-- The lease's release on behalf of `disconnect` or `revoke`. -/
  | release
  /-- The lease's release on behalf of `failClosed`. -/
  | failing (failure : WebSocketTakeoverFailureCode)
  deriving DecidableEq

structure Activity where
  work : Work
  await : Await
  deriving DecidableEq

inductive Settled where
  | fulfilled
  | rejected (thrown : Thrown)
  deriving DecidableEq

def Settled.thrown : Settled → Option Thrown
  | .fulfilled => none
  | .rejected thrown => some thrown

/-- What the world outside sees of the channel, and the calls it makes. -/
inductive ChannelFact where
  | received (call : Nat) (raw : String)
  | inputStarted (call : Nat) (input : WebSocketTakeoverHumanInput)
  | inputSettled (call : Nat)
  | doneProcessed
  | disconnectCalled
  | revokeCalled
  | failed (code : WebSocketTakeoverFailureCode)
  /-- `lease.complete` succeeded. -/
  | completed
  /-- `lease.release` succeeded. -/
  | released
  | releaseFailed
  /-- `pushFrame` was called with a valid frame. -/
  | pushed (frame : PushedFrame)
  /-- A frame was handed to the peer. -/
  | handed (frame : PushedFrame)
  | sent (frame : PushedFrame)
  | dropped (frame : PushedFrame)
  | told (message : WebSocketTakeoverServerMessage)
  | closing (code : Nat) (reason : String)
  deriving DecidableEq

/-- The fact is about a frame. -/
def ChannelFact.isFrame : ChannelFact → Bool
  | .pushed _ | .handed _ | .sent _ | .dropped _ => true
  | _ => false

structure ExperimentalWebSocketTakeoverChannel where
  stateValue : WebSocketTakeoverState
  inputAdmissionOpen : Bool
  /-- The operations chained on the promise that have not begun, first one first. -/
  operationTail : List Operation
  frameSending : Bool
  pendingFrame : Option PushedFrame
  released : Bool
  doneStarted : Bool
  drainTimer : Bool
  sentFramesValue : Nat
  droppedFramesValue : Nat
  queuedInboundMessagesValue : Int
  queuedInboundBytesValue : Int
  lastFailureValue : Option WebSocketTakeoverFailureCode
  /-- How often `bufferedAmount` was asked. -/
  reads : Nat
  /-- How often `receiveText` and `pushFrame` were called. -/
  receives : Nat
  pushes : Nat
  activities : List Activity
  /-- Newest first. -/
  log : List ChannelFact
  deriving DecidableEq

def normalClose : Nat := 1000
def policyClose : Nat := 1008
def internalClose : Nat := 1011

namespace ExperimentalWebSocketTakeoverChannel

def initial : ExperimentalWebSocketTakeoverChannel where
  stateValue := .open
  inputAdmissionOpen := true
  operationTail := []
  frameSending := false
  pendingFrame := none
  released := false
  doneStarted := false
  drainTimer := false
  sentFramesValue := 0
  droppedFramesValue := 0
  queuedInboundMessagesValue := 0
  queuedInboundBytesValue := 0
  lastFailureValue := none
  reads := 0
  receives := 0
  pushes := 0
  activities := []
  log := []

variable (config : WebSocketChannelConfig) (channel : ExperimentalWebSocketTakeoverChannel)

def record (fact : ChannelFact) : ExperimentalWebSocketTakeoverChannel :=
  { channel with log := fact :: channel.log }

/-- The work comes to an await. -/
def await (work : Work) (await : Await) : ExperimentalWebSocketTakeoverChannel :=
  { channel with activities := ⟨work, await⟩ :: channel.activities }

/-- The work ends; only the frame loop has something left to do. -/
def finish (work : Work) : ExperimentalWebSocketTakeoverChannel :=
  match work with
  | .frame _ => { channel with frameSending := false }
  | _ => channel

def enqueue (operation : Operation) : ExperimentalWebSocketTakeoverChannel :=
  { channel with operationTail := channel.operationTail ++ [operation] }

/-! ## Ends -/

def notifyTerminal (message : WebSocketTakeoverServerMessage) :
    ExperimentalWebSocketTakeoverChannel :=
  channel.record (.told message)

def safeClose (code : Nat) (reason : String) : ExperimentalWebSocketTakeoverChannel :=
  channel.record (.closing code reason)

def recordReleaseFailure : ExperimentalWebSocketTakeoverChannel :=
  { channel with
    released := false
    stateValue := .failed
    lastFailureValue := some .authorityReleaseFailed }.record .releaseFailed

/-- What `failClosed` does once its release has settled. -/
def reportFailure (failure : WebSocketTakeoverFailureCode) : ExperimentalWebSocketTakeoverChannel :=
  let last := channel.lastFailureValue.getD failure
  (channel.notifyTerminal (.error last)).safeClose
    (if failure = .transportFailure ∨ channel.lastFailureValue = some .authorityReleaseFailed then
      internalClose
    else
      policyClose)
    last.text

/-- `failClosed` has set the state of the failure. -/
def fail (code : WebSocketTakeoverFailureCode) : ExperimentalWebSocketTakeoverChannel :=
  { channel with
    lastFailureValue := some code
    inputAdmissionOpen := false
    stateValue := .failed
    drainTimer := false
    pendingFrame := none }.record (.failed code)

/-- `failClosed`, after which the work ends.  The frame loop calls it a second time with the error
of its bound use; the channel has failed by then, so that call returns at once. -/
def failClosed (work : Work) (code : WebSocketTakeoverFailureCode) :
    ExperimentalWebSocketTakeoverChannel :=
  match channel.stateValue with
  | .failed | .closed | .revoked => channel.finish work
  | .open | .closing =>
      if channel.released then
        ((channel.fail code).reportFailure code).finish work
      else
        (channel.fail code).await work (.failing code)

/-- `complete` up to its await. -/
def complete : ExperimentalWebSocketTakeoverChannel :=
  if channel.doneStarted ∨ channel.stateValue ≠ .open then
    channel
  else
    (({ channel with
      doneStarted := true
      inputAdmissionOpen := false
      stateValue := .closing
      drainTimer := false
      pendingFrame := none }.record .doneProcessed).notifyTerminal .closing).await .done .complete

/-- `complete` after the lease's completion. -/
def completed : ExperimentalWebSocketTakeoverChannel :=
  (({ channel with released := true, stateValue := .closed }.record .completed).notifyTerminal
    .closed).safeClose normalClose "done"

/-- The state a disconnect or a revocation leaves before it releases the lease. -/
def leave (state : WebSocketTakeoverState) : ExperimentalWebSocketTakeoverChannel :=
  { channel with stateValue := state, drainTimer := false, pendingFrame := none }

/-- Nothing is left to do for a disconnect or a revocation. -/
def settled : Bool :=
  (channel.stateValue == .closed || channel.stateValue == .revoked) && channel.released

def runDisconnect : ExperimentalWebSocketTakeoverChannel :=
  if channel.settled then
    channel
  else if channel.released then
    channel.leave .closed
  else
    (channel.leave .closed).await .disconnect .release

def runRevoke : ExperimentalWebSocketTakeoverChannel :=
  if channel.settled then
    channel
  else if channel.released then
    (channel.leave .revoked).safeClose normalClose "revoked"
  else
    (channel.leave .revoked).await .revoke .release

/-- `lease.release` has succeeded. -/
def noteReleased : ExperimentalWebSocketTakeoverChannel :=
  { channel with released := true }.record .released

/-- A disconnect or a revocation after its release. -/
def afterRelease (work : Work) : Settled → ExperimentalWebSocketTakeoverChannel
  | .fulfilled =>
      match work with
      | .revoke => channel.noteReleased.safeClose normalClose "revoked"
      | _ => channel.noteReleased
  | .rejected _ =>
      channel.recordReleaseFailure.safeClose internalClose "authority_release_failed"

/-- `failClosed` after its release. -/
def afterFailing (work : Work) (failure : WebSocketTakeoverFailureCode) :
    Settled → ExperimentalWebSocketTakeoverChannel
  | .fulfilled => (channel.noteReleased.reportFailure failure).finish work
  | .rejected _ => (channel.recordReleaseFailure.reportFailure failure).finish work

/-! ## Frames -/

def validateFrame (frame : WebSocketTakeoverFrame) : Bool :=
  decide (1 ≤ frame.data.length) && decide (frame.data.length ≤ config.maxFrameBytes)
    && boundedInteger frame.width 1 16384 && boundedInteger frame.height 1 16384
    && (frame.mimeType == "image/jpeg" || frame.mimeType == "image/png")

/-- `isBackpressured`, unless it throws. -/
def isBackpressured : Option Bool :=
  match config.bufferedAmount channel.reads with
  | some (some amount) =>
      if boundedNumber (some amount) 0 maxSafeInteger then
        some (decide ((config.maxBufferedBytes : ℚ) < amount))
      else
        none
  | _ => none

def ticked : ExperimentalWebSocketTakeoverChannel := { channel with reads := channel.reads + 1 }

/-- The pending frame, if there is one, counts as dropped. -/
def dropPending : ExperimentalWebSocketTakeoverChannel :=
  match channel.pendingFrame with
  | some pending =>
      { channel with
        droppedFramesValue := channel.droppedFramesValue + 1
        pendingFrame := none }.record (.dropped pending)
  | none => channel

def replacePendingFrame (frame : PushedFrame) : ExperimentalWebSocketTakeoverChannel :=
  { channel.dropPending with pendingFrame := some frame }

def scheduleDrain : ExperimentalWebSocketTakeoverChannel :=
  if channel.drainTimer ∨ channel.stateValue ≠ .open then channel
  else { channel with drainTimer := true }

/-- The head of the loop in `sendFrameLoop`, with the current frame. -/
def sendFrameLoop (current : Option PushedFrame) : ExperimentalWebSocketTakeoverChannel :=
  match current with
  | none => { channel with frameSending := false }
  | some frame =>
      if channel.stateValue ≠ .open then
        { channel with frameSending := false }
      else
        match isBackpressured config channel with
        | none => channel.ticked.failClosed (.frame frame) .transportFailure
        | some true =>
            { (channel.ticked.replacePendingFrame frame).scheduleDrain with frameSending := false }
        | some false => channel.ticked.await (.frame frame) .beginUse

/-- `pushFrame` with a valid frame. -/
def acceptFrame (frame : PushedFrame) : ExperimentalWebSocketTakeoverChannel :=
  if channel.frameSending then
    (channel.replacePendingFrame frame).scheduleDrain
  else
    match isBackpressured config channel with
    | none => channel.ticked.failClosed .push .transportFailure
    | some true => (channel.ticked.replacePendingFrame frame).scheduleDrain
    | some false =>
        { channel.ticked.dropPending with frameSending := true }.sendFrameLoop config (some frame)

def pushFrame (frame : WebSocketTakeoverFrame) : ExperimentalWebSocketTakeoverChannel :=
  let called := { channel with pushes := channel.pushes + 1 }
  if channel.stateValue ≠ .open then
    called
  else if validateFrame config frame = false then
    called.failClosed .push .frameTooLarge
  else
    (called.record (.pushed ⟨channel.pushes, frame⟩)).acceptFrame config ⟨channel.pushes, frame⟩

/-- `flushPendingFrame`, when the timer fires. -/
def flushPendingFrame : ExperimentalWebSocketTakeoverChannel :=
  match channel.pendingFrame with
  | none => channel
  | some frame =>
      if channel.stateValue ≠ .open ∨ channel.frameSending then
        channel
      else
        match isBackpressured config channel with
        | none => channel.ticked.failClosed .push .transportFailure
        | some true => channel.ticked.scheduleDrain
        | some false =>
            { channel.ticked with pendingFrame := none, frameSending := true }.sendFrameLoop config
              (some frame)

/-! ## Bound uses -/

/-- `runBoundUse` up to its first await. -/
def runBoundUse (work : Work) : ExperimentalWebSocketTakeoverChannel := channel.await work .beginUse

/-- The operation of a bound use, once the lease has begun it. -/
def operate (work : Work) : ExperimentalWebSocketTakeoverChannel :=
  match work with
  | .start => (channel.record (.told .ready)).await work .operation
  | .ping nonce => (channel.record (.told (.pong nonce))).await work (.endUse none)
  | .input call input =>
      if channel.stateValue ≠ .open ∨ channel.inputAdmissionOpen = false then
        channel.await work (.endUse none)
      else
        (channel.record (.inputStarted call input)).await work .operation
  | .frame current => (channel.record (.handed current)).await work .operation
  | _ => channel.await work (.endUse none)

/-- The input handler has answered. -/
def noteSettled (work : Work) : ExperimentalWebSocketTakeoverChannel :=
  match work with
  | .input call _ => channel.record (.inputSettled call)
  | _ => channel

/-- The current frame counts as sent, and the pending one is taken. -/
def noteSent (current : PushedFrame) : ExperimentalWebSocketTakeoverChannel :=
  { channel with
    sentFramesValue := channel.sentFramesValue + 1
    pendingFrame := none }.record (.sent current)

/-- After a bound use that ended well. -/
def useSucceeded (work : Work) : ExperimentalWebSocketTakeoverChannel :=
  match work with
  | .frame current => (channel.noteSent current).sendFrameLoop config channel.pendingFrame
  | _ => channel.finish work

/-- After a bound use whose operation threw.  A recoverable error fails only the frame loop. -/
def useThrew (work : Work) (thrown : Thrown) : ExperimentalWebSocketTakeoverChannel :=
  if thrown = .recoverable ∧ work.isFrame = false then
    channel.finish work
  else
    channel.failClosed work .transportFailure

/-! ## Messages -/

def reserveQueuedInbound (bytes : Nat) : Option ExperimentalWebSocketTakeoverChannel :=
  let nextMessages := channel.queuedInboundMessagesValue + 1
  let nextBytes := channel.queuedInboundBytesValue + bytes
  if config.maxQueuedInboundMessages < nextMessages ∨ config.maxQueuedInboundBytes < nextBytes then
    none
  else
    some { channel with
      queuedInboundMessagesValue := nextMessages
      queuedInboundBytesValue := nextBytes }

def releaseQueuedInbound (bytes : Nat) : ExperimentalWebSocketTakeoverChannel :=
  { channel with
    queuedInboundMessagesValue := channel.queuedInboundMessagesValue - 1
    queuedInboundBytesValue := channel.queuedInboundBytesValue - bytes }

/-- The chain gets an operation that fails the channel, and no further message is admitted. -/
def enqueueRefusal (error : WebSocketTakeoverError) : ExperimentalWebSocketTakeoverChannel :=
  { channel with inputAdmissionOpen := false }.enqueue (.refuse error)

def receiveText (raw : String) : ExperimentalWebSocketTakeoverChannel :=
  let called := { channel with receives := channel.receives + 1 }
  if channel.inputAdmissionOpen = false then
    called
  else if config.maxInboundBytes < utf8Length raw then
    called.enqueueRefusal ⟨.invalidMessage, "WebSocket takeover message is too large"⟩
  else
    match called.reserveQueuedInbound config (utf8Length raw) with
    | none =>
        called.enqueueRefusal
          ⟨.inboundQueueOverflow, "WebSocket takeover inbound queue limit exceeded"⟩
    | some reserved =>
        (reserved.record (.received channel.receives raw)).enqueue (.message channel.receives raw)

/-- The operation of a message, up to its first await. -/
def takeMessage (call : Nat) (raw : String) : ExperimentalWebSocketTakeoverChannel :=
  let taken := channel.releaseQueuedInbound (utf8Length raw)
  if channel.stateValue ≠ .open ∨ channel.inputAdmissionOpen = false then
    taken
  else
    match parseHumanMessage config.parse raw config.maxInboundBytes config.inputPolicy with
    | .error error => taken.failClosed .refuse error.code
    | .ok (.diagnostic _) | .ok (.latency _ _) => taken
    | .ok (.ping nonce) => taken.runBoundUse (.ping nonce)
    | .ok .done => taken.complete
    | .ok (.input input) => taken.runBoundUse (.input call input)

/-- The first operation of the chain begins. -/
def begin (operation : Operation) : ExperimentalWebSocketTakeoverChannel :=
  match operation with
  | .refuse error => channel.failClosed .refuse error.code
  | .message call raw => channel.takeMessage config call raw
  | .disconnect => channel.runDisconnect
  | .revoke => channel.runRevoke

/-! ## Calls -/

def start : ExperimentalWebSocketTakeoverChannel :=
  if channel.stateValue ≠ .open then channel else channel.runBoundUse .start

def disconnect : ExperimentalWebSocketTakeoverChannel :=
  ({ channel with inputAdmissionOpen := false }.record .disconnectCalled).enqueue .disconnect

def revoke : ExperimentalWebSocketTakeoverChannel :=
  ({ channel with inputAdmissionOpen := false }.record .revokeCalled).enqueue .revoke

/-- The promise an activity waits for settles. -/
def settle (activity : Activity) (outcome : Settled) : ExperimentalWebSocketTakeoverChannel :=
  let resumed := { channel with activities := channel.activities.erase activity }
  match activity.await, outcome with
  | .beginUse, .fulfilled => resumed.operate activity.work
  | .beginUse, .rejected _ => resumed.failClosed activity.work .staleGeneration
  | .operation, outcome =>
      (resumed.noteSettled activity.work).await activity.work (.endUse outcome.thrown)
  | .endUse none, .fulfilled => resumed.useSucceeded config activity.work
  | .endUse (some thrown), .fulfilled => resumed.useThrew activity.work thrown
  | .endUse _, .rejected _ => resumed.failClosed activity.work .staleGeneration
  | .complete, .fulfilled => resumed.completed
  | .complete, .rejected _ => resumed.failClosed activity.work .staleGeneration
  | .release, outcome => resumed.afterRelease activity.work outcome
  | .failing failure, outcome => resumed.afterFailing activity.work failure outcome

end ExperimentalWebSocketTakeoverChannel

/-! ## Steps -/

inductive ChannelEvent where
  | start
  | receiveText (raw : String)
  | pushFrame (frame : WebSocketTakeoverFrame)
  | disconnect
  | revoke
  /-- The promise of the operation before is settled and the chain goes on. -/
  | operation
  /-- The drain timer fires. -/
  | drain
  | settle (activity : Activity) (outcome : Settled)
  deriving DecidableEq

namespace ExperimentalWebSocketTakeoverChannel

/-- Some operation of the chain stands at an await. -/
def busy (channel : ExperimentalWebSocketTakeoverChannel) : Bool :=
  channel.activities.any fun activity => activity.work.queued

/-- What may happen next: the environment picks the event, the channel decides what follows. -/
def next (config : WebSocketChannelConfig) (channel : ExperimentalWebSocketTakeoverChannel) :
    ChannelEvent → Option ExperimentalWebSocketTakeoverChannel
  | .start => some channel.start
  | .receiveText raw => some (channel.receiveText config raw)
  | .pushFrame frame => some (channel.pushFrame config frame)
  | .disconnect => some channel.disconnect
  | .revoke => some channel.revoke
  | .operation =>
      match channel.operationTail with
      | [] => none
      | operation :: rest =>
          if channel.busy then none
          else some ({ channel with operationTail := rest }.begin config operation)
  | .drain =>
      if channel.drainTimer then
        some ({ channel with drainTimer := false }.flushPendingFrame config)
      else
        none
  | .settle activity outcome =>
      if activity ∈ channel.activities then some (channel.settle config activity outcome) else none

abbrev Step (config : WebSocketChannelConfig) :
    ExperimentalWebSocketTakeoverChannel → ChannelEvent → ExperimentalWebSocketTakeoverChannel →
      Prop :=
  StepOf (next config)

/-! ## A sample channel -/

def sampleBinding : WebSocketTakeoverBinding where
  interventionId := "intervention"
  epoch := 1
  principalBinding := "human"
  clientBinding := "client"
  clientGeneration := 1

/-- A channel with one byte for each message and room for two, whose peer has no backlog. -/
def sampleConfig : WebSocketChannelConfig where
  binding := sampleBinding
  inputPolicy := ⟨false, false, true, false⟩
  maxInboundBytes := 1
  maxQueuedInboundMessages := 2
  maxQueuedInboundBytes := 2
  maxFrameBytes := 1
  maxBufferedBytes := 1
  parse := fun raw =>
    if raw = "d" then some (.object [("kind", .string "done")])
    else some (.object [("kind", .string "text"), ("text", .string raw)])
  bufferedAmount := fun _ => some (some 0)

def sampleFrame : WebSocketTakeoverFrame := ⟨[0], 1, 1, "image/jpeg"⟩

end ExperimentalWebSocketTakeoverChannel

end ExecutionHandoff.WebSocket
