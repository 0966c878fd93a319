import ExecutionHandoff.Library.SerialChain
import ExecutionHandoff.Surface.AuthorityHelper
import ExecutionHandoff.Surface.MacOSInput
import ExecutionHandoff.Surface.WindowSurface

/-!
# The input chain of an exact-window surface

`#input` waits for `#ensure` and appends its work to the `inputChain` of the
helper it got.  On macOS a link begins whatever the one before it came to, on
Linux only if that one has resolved; otherwise it takes over its rejection.  The
acknowledgement a helper waits for belongs to the link that has been written.
-/

namespace ExecutionHandoff.Surface

open Library
open WebSocket (WebSocketTakeoverHumanInput)
open ActiveMacOSSurface (editablePrefix lostLines successorStage)

/-! ## The two platforms -/

/-- `lineage` says whether a successor window may be followed. -/
inductive WindowPlatform where
  | linux
  | macOS (secureWindow lineage : Bool)
  deriving DecidableEq

/-- An error of the macOS surface's own, or any other. -/
abbrev SurfaceError := MacOSSurfaceError

inductive InputFailureDisposition where
  | authorityLost
  | recoverable
  deriving DecidableEq

def processUnavailable : SurfaceError := .plain "Linux WSS target process is unavailable"

def windowInvisible : SurfaceError := .plain "Linux WSS target window is no longer visible"

def ownershipChanged : SurfaceError := .plain "Linux WSS target window ownership changed"

def geometryUnavailable : SurfaceError :=
  .plain "Linux WSS target window geometry is unavailable"

/-- `isExactWindowBoundaryError`. -/
def isExactWindowBoundaryError (error : SurfaceError) : Bool :=
  [processUnavailable, windowInvisible, ownershipChanged, geometryUnavailable].contains error

/-- `#revalidate`, after the check of the target; what went wrong is thrown. -/
def revalidate (alive : Bool) (query : Except SurfaceError LinuxWindowAuthorityResult) :
    Option SurfaceError :=
  if alive = false then
    some processUnavailable
  else
    match query with
    | .error error => some error
    | .ok .visibleOwnerGeometryValid => none
    | .ok .windowNotVisible => some windowInvisible
    | .ok .ownerChanged => some ownershipChanged
    | .ok .geometryUnavailable => some geometryUnavailable

/-- What a line of the helper's diagnostics means to the input that waits for it. -/
inductive InputReport where
  | applied
  | rejected
  | failed
  | lost
  deriving DecidableEq

def linuxStageLine (stage : String) : List Char :=
  ("MCP_HANDOFF_DIAGNOSTIC linux_stage=" ++ stage).toList

namespace WindowPlatform

def window : WindowPlatform → WindowSurfaceKind
  | .linux => linuxWindowSurface
  | .macOS secureWindow _ => macOSWindowSurface secureWindow

/-- The chain is caught before the next link is appended. -/
def catches : WindowPlatform → Bool
  | .linux => false
  | .macOS _ _ => true

/-- The checks of the methods that call `#input`. -/
def accepts : WindowPlatform → WebSocketTakeoverHumanInput → Bool
  | .linux, .key key | .macOS false _, .key key => key == "Backspace" || key == "Enter"
  | .macOS true _, .key key => key == "Backspace"
  | .macOS true _, .scroll _ => false
  | _, _ => true

def inputFailureDisposition : WindowPlatform → SurfaceError → InputFailureDisposition
  | .linux, error => if isExactWindowBoundaryError error then .authorityLost else .recoverable
  | .macOS _ _, .surface .authorityLost _ => .authorityLost
  | .macOS _ _, _ => .recoverable

def unavailable : WindowPlatform → SurfaceError
  | .linux => .plain "Linux WSS exact-window helper is unavailable"
  | .macOS _ _ => .unavailable

def busy : WindowPlatform → SurfaceError
  | .linux => .plain "Linux WSS exact-window helper input is busy"
  | .macOS _ _ => .surface .helperFailure "macOS WSS helper input is busy"

def timedOut : WindowPlatform → SurfaceError
  | .linux => .plain "Linux WSS exact-window helper input acknowledgement timed out"
  | .macOS _ _ => .timedOut

/-- The error of `failActive`. -/
def failure : WindowPlatform → String → SurfaceError
  | .linux, message => .plain message
  | .macOS _ _, message => .surface .helperFailure message

/-- A complete line, trimmed on Linux. -/
def report : WindowPlatform → List Char → Option InputReport
  | .linux, line =>
      if line = linuxStageLine "input_applied" then some .applied
      else if line = linuxStageLine "input_failure" then some .failed
      else none
  | .macOS _ lineage, line =>
      if editablePrefix.isPrefixOf line then
        none
      else
        match (if lineage then successorStage line else none) with
        | some stage =>
            if stage ∈ ["ambiguous", "unsupported", "failure"] then some .lost else none
        | none =>
            if line = stageLine "applied" then some .applied
            else if lostLines.contains line then some .lost
            else if line = stageLine "rejected" ∨ line = stageLine "activation_failed" then
              some .rejected
            else
              none

end WindowPlatform

/-! ## The chain -/

inductive LinkStage where
  | waiting
  | revalidating
  | written
  | resolved
  /-- It was attempted, and this went wrong. -/
  | failed (error : SurfaceError)
  /-- Its own checks threw before anything was attempted. -/
  | refused (error : SurfaceError)
  /-- The link before it rejected, and it never ran. -/
  | inherited (error : SurfaceError)
  deriving DecidableEq

namespace LinkStage

def phase : LinkStage → LinkPhase
  | .waiting => .waiting
  | .revalidating | .written => .running
  | .resolved | .failed _ | .refused _ | .inherited _ => .settled

def error? : LinkStage → Option SurfaceError
  | .failed error | .refused error | .inherited error => some error
  | _ => none

/-- What went wrong with the attempt itself. -/
def failure? : LinkStage → Option SurfaceError
  | .failed error => some error
  | _ => none

/-- The link has come to its revalidation or its write. -/
def attempted : LinkStage → Bool
  | .revalidating | .written | .resolved | .failed _ => true
  | _ => false

/-- How many steps it has taken. -/
def rank : LinkStage → Nat
  | .waiting => 0
  | .revalidating => 1
  | .written => 2
  | _ => 3

end LinkStage

structure InputLink where
  input : WebSocketTakeoverHumanInput
  stage : LinkStage
  deriving DecidableEq

def InputLink.phase (link : InputLink) : LinkPhase := link.stage.phase

/-- A link that waits for its acknowledgement settles. -/
def InputLink.settle (stage : LinkStage) (link : InputLink) : InputLink :=
  if link.stage = .written then { link with stage } else link

/-- `failed` lists the helpers that `failActive` was called on; the chain of a helper is found under
the number of its host process. -/
structure InputSurface where
  surface : WindowSurface
  failed : List Nat
  chains : Nat → List InputLink

inductive InputEvent where
  /-- Anything the surface does apart from its inputs. -/
  | surface (event : SurfaceEvent)
  /-- An input that has its helper appends itself to the chain. -/
  | submitted (call : SurfaceCall) (host : Nat) (input : WebSocketTakeoverHumanInput)
  | turn (host index : Nat)
  | revalidated (host index : Nat) (alive : Bool)
      (query : Except SurfaceError LinuxWindowAuthorityResult)
  | reported (host : Nat) (line : List Char)
  | timedOut (host : Nat)
  | writeFailed (host : Nat)
  | failed (host : Nat) (message : String)

/-- The helper is the active one, and has not failed. -/
def WindowSurface.available (surface : WindowSurface) (host : Nat) : Bool :=
  surface.active.any fun active => active.host == host && !active.failed

namespace InputSurface

def initial : InputSurface := ⟨.initial, [], fun _ => []⟩

variable (platform : WindowPlatform) (state : InputSurface)

def available (host : Nat) : Bool := state.surface.available host

/-- Some input of the helper waits for its acknowledgement. -/
def pendingInputAck (host : Nat) : Bool :=
  (state.chains host).any fun link => link.stage == .written

def setChain (host : Nat) (links : List InputLink) : InputSurface :=
  { state with chains := Function.update state.chains host links }

def setStage (host index : Nat) (link : InputLink) (stage : LinkStage) : InputSurface :=
  state.setChain host ((state.chains host).set index { link with stage })

/-- The acknowledgement that the helper waits for, if any, is settled. -/
def settleInput (host : Nat) (stage : LinkStage) : InputSurface :=
  state.setChain host ((state.chains host).map (InputLink.settle stage))

def failActive (host : Nat) (message : String) : InputSurface :=
  if host ∈ state.failed then
    state
  else
    { state.settleInput host (.failed (platform.failure message)) with
      surface := state.surface.failActive host
      failed := host :: state.failed }

/-- The write, once nothing stands against it. -/
def writeStage (host : Nat) : LinkStage :=
  if state.pendingInputAck host then .refused platform.busy else .written

/-- A link runs. -/
def beginStage (host : Nat) : LinkStage :=
  if platform.window.fenced ∧ state.surface.lost then .refused .authorityLost
  else if state.available host = false then .refused platform.unavailable
  else if platform.window.authority then .revalidating
  else state.writeStage platform host

/-- The link before this one. -/
def previous (host index : Nat) : Option InputLink :=
  if index = 0 then none else (state.chains host)[index - 1]?

/-- The turn of a link has come. -/
def turnStage (host index : Nat) : LinkStage :=
  match (state.previous host index).bind fun link => link.stage.error? with
  | none => state.beginStage platform host
  | some error =>
      if platform.catches then state.beginStage platform host else .inherited error

/-- `stopActive` of the macOS surface settles what waits as soon as it is called. -/
def stopPrevious (after : WindowSurface) : InputSurface :=
  match platform, state.surface.active with
  | .macOS _ _, some previous =>
      if after.active.all fun active => active.host != previous.host then
        state.settleInput previous.host (.failed .stopped)
      else
        state
  | _, _ => state

/-- A helper that is started has not failed and begins with an empty chain. -/
def startChain (after : WindowSurface) : InputSurface :=
  if state.surface.processes.length < after.processes.length then
    { state.setChain state.surface.processes.length [] with
      failed := state.failed.filter (· != state.surface.processes.length) }
  else
    state

def afterSurface (after : WindowSurface) : InputSurface :=
  { (state.stopPrevious platform after).startChain after with surface := after }

/-- What the surface model does with an input that has its helper, and with a helper that fails, is
done by the events of their own. -/
def surfaceEvent : SurfaceEvent → Bool
  | .served call _ => call.capture
  | .helperFailed _ | .stalled _ _ => false
  | _ => true

def next : InputEvent → Option InputSurface
  | .surface event =>
      if surfaceEvent event then
        (state.surface.next platform.window event).map (state.afterSurface platform)
      else
        match event with
        | .stalled call host =>
            (state.surface.next platform.window (.stalled call host)).map fun after =>
              { state.failActive platform host
                  "Linux WSS exact-window helper capture stalled" with surface := after }
        | _ => none
  | .submitted call host input =>
      if call ∈ state.surface.calls ∧ call.capture = false ∧ call.stage = .using host ∧
          platform.accepts input then
        some
          { state.setChain host (state.chains host ++ [⟨input, .waiting⟩]) with
            surface := state.surface.dropCall call }
      else
        none
  | .turn host index =>
      match (state.chains host)[index]? with
      | none => none
      | some link =>
          if link.stage = .waiting ∧
              (state.previous host index).all (fun link => link.phase == .settled) then
            some (state.setStage host index link (state.turnStage platform host index))
          else
            none
  | .revalidated host index alive query =>
      match (state.chains host)[index]? with
      | none => none
      | some link =>
          if link.stage = .revalidating then
            some (state.setStage host index link
              (match revalidate alive query with
              | some error => .failed error
              | none => state.writeStage platform host))
          else
            none
  | .reported host line =>
      if host ∈ state.failed then
        some state
      else
        match platform.report line with
        | none => some state
        | some .applied => some (state.settleInput host .resolved)
        | some .rejected => some (state.settleInput host (.failed .rejected))
        | some .lost =>
            some
              { state.settleInput host (.failed .authorityLost) with
                surface := { state.surface with lost := true } }
        | some .failed =>
            some (state.failActive platform host "Linux WSS exact-window helper input failed")
  | .timedOut host =>
      if state.pendingInputAck host then
        let settled := state.settleInput host (.failed platform.timedOut)
        match platform with
        | .linux => some (settled.failActive .linux host
            "Linux WSS exact-window helper input acknowledgement timed out")
        | .macOS _ _ => some settled
      else
        none
  | .writeFailed host =>
      match platform with
      | .linux => none
      | .macOS _ _ => some (state.settleInput host (.failed .unwritten))
  | .failed host message => some (state.failActive platform host message)

abbrev Step : InputSurface → InputEvent → InputSurface → Prop := StepOf (next platform)

end InputSurface

end ExecutionHandoff.Surface
