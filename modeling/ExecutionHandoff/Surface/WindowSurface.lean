import ExecutionHandoff.Library.Runs
import ExecutionHandoff.Library.Text

/-!
# The exact-window surfaces

`ExperimentalLinuxWebSocketWindowSurface` and `MacOSWebSocketWindowSurface` keep
one active helper.  `#ensure` replaces it, and the calls that need it wait for
the one transition; `close` waits for that transition too and then stops what is
active.  The two surfaces differ in what is listed in `WindowSurfaceKind`.
Processes are named in the order they are started.  What a call does with the
helper once it has it is left out, up to how it ends.
-/

namespace ExecutionHandoff.Surface

open Library

structure TakeoverHostTarget where
  processId : Int
  windowId : Option Int
  deriving DecidableEq

/-- `validateExactTarget` of the Linux surface. -/
def validateExactTarget (target : TakeoverHostTarget) : Bool :=
  isSafeInteger target.processId && decide (0 < target.processId) &&
    target.windowId.any fun id => isSafeInteger id && decide (0 < id)

/-- `validateTarget` of the macOS surface. -/
def validateTarget (secureWindow : Bool) (target : TakeoverHostTarget) : Bool :=
  isSafeInteger target.processId && decide (0 < target.processId) &&
    if secureWindow then
      target.windowId.isNone
    else
      target.windowId.any fun id => isSafeInteger id && decide (0 < id)

/-- `fenced` surfaces refuse every call once the authority is lost; those with an `authority` start
an authority helper before each host. -/
structure WindowSurfaceKind where
  valid : TakeoverHostTarget → Bool
  fenced : Bool
  authority : Bool
  captureAttempts : Nat

def linuxWindowSurface : WindowSurfaceKind := ⟨validateExactTarget, false, true, 2⟩

def macOSWindowSurface (secureWindow : Bool) : WindowSurfaceKind :=
  ⟨validateTarget secureWindow, true, false, 1⟩

inductive HelperProcess where
  | host
  | authority
  deriving DecidableEq

structure ActiveSurface where
  target : TakeoverHostTarget
  host : Nat
  authority : Option Nat
  failed : Bool
  deriving DecidableEq

/-- What `stopActive` stops, in its order. -/
def ActiveSurface.processes (active : ActiveSurface) : List Nat :=
  active.host :: active.authority.toList

/-- How far `#replace` has come. -/
inductive ReplaceStage where
  | stopping (rest : List Nat)
  | launching
  | readying (authority : Nat)
  | revalidating (authority : Nat)
  /-- The authority helper is closed, and what went wrong is thrown. -/
  | dismissing (authority : Nat) (boundary : Bool)
  | spawning (authority : Nat)
  | framing
  deriving DecidableEq

def ReplaceStage.processes : ReplaceStage → List Nat
  | .stopping rest => rest
  | .readying authority | .revalidating authority | .dismissing authority _
  | .spawning authority => [authority]
  | .launching | .framing => []

/-- A rejection says whether it is an exact-window boundary error. -/
inductive Settlement where
  | resolved
  | rejected (boundary : Bool)
  deriving DecidableEq

inductive CallStage where
  /-- Waits for the transition it has begun. -/
  | initiated
  /-- Waits for a transition, to call `#ensure` again. -/
  | awaiting
  | settled (initiated : Bool) (settlement : Settlement)
  | using (host : Nat)
  | delayed
  deriving DecidableEq

def CallStage.settle (settlement : Settlement) : CallStage → CallStage
  | .initiated => .settled true settlement
  | .awaiting => .settled false settlement
  | stage => stage

/-- A capture or an input that has not settled. -/
structure SurfaceCall where
  target : TakeoverHostTarget
  capture : Bool
  attempt : Nat
  stage : CallStage
  deriving DecidableEq

/-- A `close` that has not settled. -/
inductive CloseStage where
  | awaiting
  | settled
  | stopping (rest : List Nat)
  deriving DecidableEq

def CloseStage.settle : CloseStage → CloseStage
  | .awaiting => .settled
  | stage => stage

def CloseStage.processes : CloseStage → List Nat
  | .stopping rest => rest
  | .awaiting | .settled => []

/-- `killed` are the processes that were still running when the wait for their end was over, and
were sent a signal then. -/
structure WindowSurface where
  active : Option ActiveSurface
  lost : Bool
  transition : Option (TakeoverHostTarget × ReplaceStage)
  calls : List SurfaceCall
  closes : List CloseStage
  closed : Bool
  processes : List HelperProcess
  exited : List Nat
  killed : List Nat
  deriving DecidableEq

inductive SurfaceEvent where
  | capture (target : TakeoverHostTarget)
  | input (target : TakeoverHostTarget)
  | close
  /-- A wait of the transition for a process to end is over. -/
  | waited (outlived : Bool)
  | started
  /-- A process could not be spawned at all. -/
  | throws
  | ready
  | unready
  | revalidated
  | invalid (boundary : Bool)
  | framed
  | unframed
  | resumed (call : SurfaceCall) (initiated : Bool) (settlement : Settlement)
  | retried (call : SurfaceCall)
  | served (call : SurfaceCall) (host : Nat)
  /-- No frame came for a capture that has an attempt left. -/
  | stalled (call : SurfaceCall) (host : Nat)
  | closeResumed
  | closeWaited (process : Nat) (rest : List Nat) (outlived : Bool)
  | helperFailed (host : Nat)
  | exited (process : Nat)
  | authorityLost
  deriving DecidableEq

namespace WindowSurface

def initial : WindowSurface := ⟨none, false, none, [], [], false, [], [], []⟩

variable (kind : WindowSurfaceKind) (surface : WindowSurface)

/-- The host of the active helper, if that is good for the target. -/
def ready? (target : TakeoverHostTarget) : Option Nat :=
  match surface.active with
  | none => none
  | some active =>
      if active.failed = false ∧ active.target = target then some active.host else none

def addCall (call : SurfaceCall) (stage : CallStage) : WindowSurface :=
  { surface with calls := { call with stage } :: surface.calls }

def dropCall (call : SurfaceCall) : WindowSurface :=
  { surface with calls := surface.calls.erase call }

/-- `failActive`, which also sends a signal. -/
def failActive (host : Nat) : WindowSurface :=
  { surface with
    active := surface.active.map fun active =>
      if active.host = host then { active with failed := true } else active }

/-- The transition settles, and what waits for it can go on. -/
def settle (settlement : Settlement) : WindowSurface :=
  { surface with
    transition := none
    calls := surface.calls.map fun call => { call with stage := call.stage.settle settlement }
    closes := surface.closes.map CloseStage.settle }

/-- A call of `#ensure` rejects; a capture may be tried again. -/
def reject (call : SurfaceCall) (boundary : Bool) : WindowSurface :=
  if call.capture ∧ boundary = false ∧ call.attempt + 1 < kind.captureAttempts then
    surface.addCall { call with attempt := call.attempt + 1 } .delayed
  else
    surface

/-- `#replace` up to its first await. -/
def replace (target : TakeoverHostTarget) : WindowSurface :=
  match surface.active with
  | none => { surface with transition := some (target, .launching) }
  | some previous =>
      { surface with
        active := none
        transition := some (target, .stopping previous.processes) }

def ensure (call : SurfaceCall) : WindowSurface :=
  if kind.valid call.target = false ∨ (kind.fenced ∧ surface.lost) then
    surface.reject kind call false
  else
    match surface.ready? call.target with
    | some host => surface.addCall call (.using host)
    | none =>
        match surface.transition with
        | some _ => surface.addCall call .awaiting
        | none => (surface.replace call.target).addCall call .initiated

/-- A call goes on after the transition it waited for. -/
def resume (call : SurfaceCall) : Bool → Settlement → WindowSurface
  | _, .rejected boundary => surface.reject kind call boundary
  | false, .resolved => surface.ensure kind call
  | true, .resolved =>
      match surface.ready? call.target with
      | some host => surface.addCall call (.using host)
      | none => surface.reject kind call false

/-- `close` once no transition is in its way. -/
def stopCurrent : WindowSurface :=
  match surface.active with
  | none => surface
  | some active =>
      { surface with active := none, closes := .stopping active.processes :: surface.closes }

def close : WindowSurface :=
  match surface.transition with
  | some _ => { surface with closes := .awaiting :: surface.closes, closed := true }
  | none => { surface with closed := true }.stopCurrent

/-- The wait for the end of a process is over: it has exited, or it is sent a signal. -/
def waitOver (process : Nat) (outlived : Bool) : Option WindowSurface :=
  if outlived then
    some { surface with killed := process :: surface.killed }
  else if process ∈ surface.exited then
    some surface
  else
    none

def atStage (target : TakeoverHostTarget) (stage : ReplaceStage) : WindowSurface :=
  { surface with transition := some (target, stage) }

def afterStop (target : TakeoverHostTarget) (rest : List Nat) : WindowSurface :=
  surface.atStage target (if rest = [] then .launching else .stopping rest)

def startAuthority (target : TakeoverHostTarget) : WindowSurface :=
  { surface with
    processes := surface.processes ++ [.authority]
    transition := some (target, .readying surface.processes.length) }

def startHost (target : TakeoverHostTarget) (authority : Option Nat) : WindowSurface :=
  { surface with
    processes := surface.processes ++ [.host]
    active := some ⟨target, surface.processes.length, authority, false⟩
    transition := some (target, .framing) }

def dropClose (stage : CloseStage) : WindowSurface :=
  { surface with closes := surface.closes.erase stage }

def afterCloseStop (rest : List Nat) : WindowSurface :=
  if rest = [] then surface
  else { surface with closes := .stopping rest :: surface.closes }

/-- The step of `#replace` that an event is. -/
def advance : SurfaceEvent → TakeoverHostTarget → ReplaceStage → Option WindowSurface
  | .waited outlived, target, .stopping (process :: rest) =>
      (surface.waitOver process outlived).map fun surface => surface.afterStop target rest
  | .waited outlived, _, .dismissing process boundary =>
      (surface.waitOver process outlived).map fun surface => surface.settle (.rejected boundary)
  | .started, target, .launching =>
      if kind.authority then some (surface.startAuthority target)
      else some (surface.startHost target none)
  | .started, target, .spawning authority => some (surface.startHost target (some authority))
  | .throws, _, .launching => some (surface.settle (.rejected false))
  | .throws, _, .spawning _ => some (surface.settle (.rejected false))
  | .ready, target, .readying authority => some (surface.atStage target (.revalidating authority))
  | .unready, target, .readying authority =>
      some (surface.atStage target (.dismissing authority false))
  | .revalidated, target, .revalidating authority =>
      some (surface.atStage target (.spawning authority))
  | .invalid boundary, target, .revalidating authority =>
      some (surface.atStage target (.dismissing authority boundary))
  | .framed, _, .framing => some (surface.settle .resolved)
  | .unframed, _, .framing => some (surface.settle (.rejected false))
  | _, _, _ => none

def next : SurfaceEvent → Option WindowSurface
  | .capture target => some (surface.ensure kind ⟨target, true, 0, .delayed⟩)
  | .input target => some (surface.ensure kind ⟨target, false, 0, .delayed⟩)
  | .close => some surface.close
  | .resumed call initiated settlement =>
      if call ∈ surface.calls ∧ call.stage = .settled initiated settlement then
        some ((surface.dropCall call).resume kind call initiated settlement)
      else
        none
  | .retried call =>
      if call ∈ surface.calls ∧ call.stage = .delayed then
        some ((surface.dropCall call).ensure kind call)
      else
        none
  | .served call host =>
      if call ∈ surface.calls ∧ call.stage = .using host then
        some (surface.dropCall call)
      else
        none
  | .stalled call host =>
      if call ∈ surface.calls ∧ call.stage = .using host ∧ call.capture ∧
          call.attempt + 1 < kind.captureAttempts then
        some (((surface.dropCall call).failActive host).reject kind call false)
      else
        none
  | .closeResumed =>
      if .settled ∈ surface.closes then some (surface.dropClose .settled).stopCurrent else none
  | .closeWaited process rest outlived =>
      if .stopping (process :: rest) ∈ surface.closes then
        ((surface.dropClose (.stopping (process :: rest))).waitOver process outlived).map
          fun surface => surface.afterCloseStop rest
      else
        none
  | .helperFailed host => some (surface.failActive host)
  | .exited process =>
      if process < surface.processes.length then
        some { surface with exited := process :: surface.exited }
      else
        none
  | .authorityLost => some { surface with lost := true }
  | event => surface.transition.bind fun transition =>
      surface.advance kind event transition.1 transition.2

abbrev Step : WindowSurface → SurfaceEvent → WindowSurface → Prop := StepOf (next kind)

end WindowSurface

end ExecutionHandoff.Surface
