import ExecutionHandoff.Host.WindowSurface
import ExecutionHandoff.Library.Runs

/-!
# The lineage of the target window

`WindowTargetAuthority` and `WindowLineageController` of the macOS host.  A
primary release fences the authority and starts a probe; the probe lists the
windows, moves the content filter of the stream and lets the authority go on
with the next target.  Every access to what probes share is a step of its own,
and whatever is awaited ends when the environment pleases.
-/

namespace ExecutionHandoff.Host

open Library

variable {Frame : Type}

structure WindowTargetSnapshot (Frame : Type) where
  processID : ProcessID
  windowID : WindowID
  inputBounds : Frame
  allowNonZeroLayer : Bool
  deriving BEq

structure WindowTargetFrameToken (Frame : Type) where
  snapshot : WindowTargetSnapshot Frame
  generation : UInt64

/-! ## The authority -/

structure WindowTargetAuthority (Frame : Type) where
  current : WindowTargetSnapshot Frame
  generation : UInt64
  fenced : Bool
  failed : Bool

namespace WindowTargetAuthority

def initial (snapshot : WindowTargetSnapshot Frame) : WindowTargetAuthority Frame :=
  ⟨snapshot, 0, false, false⟩

variable (authority : WindowTargetAuthority Frame)

def snapshotForInput : Option (WindowTargetSnapshot Frame) :=
  if !authority.fenced && !authority.failed then some authority.current else none

def snapshotForFrame : Option (WindowTargetFrameToken Frame) :=
  if !authority.fenced && !authority.failed then
    some ⟨authority.current, authority.generation⟩
  else none

def frameTokenIsCurrent [BEq Frame] (token : WindowTargetFrameToken Frame) : Bool :=
  !authority.fenced && !authority.failed && authority.generation == token.generation &&
    authority.current == token.snapshot

def fenceForTransition : Option (WindowTargetAuthority Frame) :=
  if !authority.fenced && !authority.failed then
    some { authority with generation := authority.generation + 1, fenced := true }
  else none

def resume (expected : WindowTargetSnapshot Frame) : Option (WindowTargetAuthority Frame) :=
  if !authority.failed && authority.fenced &&
      authority.current.windowID == expected.windowID then
    some { authority with fenced := false }
  else none

def rotate (expected successor : WindowTargetSnapshot Frame) :
    Option (WindowTargetAuthority Frame) :=
  if !authority.failed && authority.fenced &&
      authority.current.windowID == expected.windowID &&
      successor.processID == authority.current.processID then
    some { authority with current := successor, fenced := false }
  else none

def failClosed : WindowTargetAuthority Frame :=
  { authority with failed := true, fenced := true }

end WindowTargetAuthority

/-! ## The probes -/

inductive MoveKind where
  | admission
  | restore
  deriving DecidableEq

/-- The surface a probe has chosen, with the snapshot made from it. -/
structure Move (Frame : Type) where
  kind : MoveKind
  filter : ContentFilter Frame
  target : WindowTargetSnapshot Frame

inductive ProbeStage (Frame : Type) where
  /-- The authority is fenced, and `stop` is still to be asked. -/
  | starting
  | looping
  | listing
  | readingKnown (content : ShareableContent Frame)
  | readingPredecessor (content : ShareableContent Frame) (known : List WindowID)
  | updatingFilter (move : Move Frame)
  | updatingConfiguration (move : Move Frame)
  | rotating (move : Move Frame)
  | stacking (move : Move Frame)
  | remembering
  | sleeping
  | concluding
  | resuming
  | failing
  | stopping
  | done

structure Probe (Frame : Type) where
  previous : WindowTargetSnapshot Frame
  lastObservedSameProcessIDs : List WindowID
  stage : ProbeStage Frame

/-- What the environment does for a probe that takes a step. -/
inductive ProbeOutcome (Frame : Type) where
  | proceeds
  /-- The deadline has passed. -/
  | expired
  | lists (content : ShareableContent Frame)
  /-- The metadata as `windowLineageCandidates` reads it, the first and the second time. -/
  | reads (first second : List (AXWindowLineageMetadata Frame))
  /-- An awaited call throws; an update may have been applied nevertheless. -/
  | throws (applied : Bool)

/-! ## The controller -/

structure WindowLineageController (Frame : Type) where
  targetProcessID : ProcessID
  authority : WindowTargetAuthority Frame
  /-- The content filter of the stream. -/
  filter : ContentFilter Frame
  stopped : Bool
  knownWindowIDs : List WindowID
  /-- The top comes first. -/
  predecessorStack : List (WindowTargetSnapshot Frame)
  probes : List (Probe Frame)

inductive LineageEvent (Frame : Type) where
  | primaryRelease
  | stop
  /-- The frame output finds that its target is lost. -/
  | authorityLost
  | probe (index : Nat) (outcome : ProbeOutcome Frame)

namespace WindowLineageController

/-- The controller as the host sets it up. -/
def launch (geometry : WindowGeometry Frame) (targetProcessID : ProcessID)
    (targetWindowID : Option WindowID) (content lineageInventory : ShareableContent Frame) :
    Except WebRtcHostError (WindowLineageController Frame) :=
  match selectedCaptureSurface geometry content targetProcessID targetWindowID with
  | .error error => .error error
  | .ok surface =>
      match surface.targetWindowID with
      | none => .error .configuration
      | some resolvedWindowID => .ok
          { targetProcessID := targetProcessID
            authority := .initial
              ⟨targetProcessID, resolvedWindowID, surface.inputBounds, surface.allowNonZeroLayer⟩
            filter := surface.filter
            stopped := false
            knownWindowIDs := sameProcessWindowIDs lineageInventory targetProcessID
            predecessorStack := []
            probes := [] }

/-- Where a probe goes that has listed the windows and read what it shares with the others. -/
def choose (geometry : WindowGeometry Frame) (targetProcessID : ProcessID)
    (previous : WindowTargetSnapshot Frame) (content : ShareableContent Frame)
    (known : List WindowID) (predecessor : Option (WindowTargetSnapshot Frame))
    (first second : List (AXWindowLineageMetadata Frame)) : ProbeStage Frame :=
  let candidates := windowLineageCandidates geometry content targetProcessID first
  match predecessor.filter fun predecessor =>
      MacOSWindowLineage.canReturnToPredecessor candidates targetProcessID previous.windowID
        predecessor.windowID with
  | some predecessor =>
      match selectedCaptureSurface geometry content targetProcessID
          (some predecessor.windowID) with
      | .error _ => .failing
      | .ok surface => .updatingFilter ⟨.restore, surface.filter,
          ⟨targetProcessID, predecessor.windowID, surface.inputBounds, surface.allowNonZeroLayer⟩⟩
  | none =>
      match MacOSWindowLineage.resolveSuccessor geometry candidates targetProcessID
          previous.windowID known with
      | .error .noSuccessor => .sleeping
      | .error .ambiguousSuccessor => .failing
      | .ok resolution =>
          match selectedLineageCaptureSurface geometry content targetProcessID resolution
              second with
          | .error _ => .failing
          | .ok surface =>
              if surface.targetWindowID == some resolution.windowID then
                .updatingFilter ⟨.admission, surface.filter, ⟨targetProcessID, resolution.windowID,
                  surface.inputBounds, surface.allowNonZeroLayer⟩⟩
              else .failing

/-- `pushPredecessor` or `popPredecessor`. -/
def restack (move : Move Frame) (previous : WindowTargetSnapshot Frame)
    (stack : List (WindowTargetSnapshot Frame)) : List (WindowTargetSnapshot Frame) :=
  match move.kind with
  | .admission => previous :: stack
  | .restore => stack.tail

variable (geometry : WindowGeometry Frame) (controller : WindowLineageController Frame)

/-- `afterPrimaryRelease`; its second half is the first step of the probe. -/
def afterPrimaryRelease : WindowLineageController Frame :=
  match controller.authority.fenceForTransition with
  | none => controller
  | some authority =>
      { controller with
        authority := authority
        probes := controller.probes ++ [⟨controller.authority.current, [], .starting⟩] }

/-- One step of a probe: what it shares with the others, and the probe afterwards. -/
def advance (probe : Probe Frame) :
    ProbeOutcome Frame → Option (WindowLineageController Frame × Probe Frame)
  | .proceeds =>
      match probe.stage with
      | .starting =>
          some (controller,
            { probe with stage := if controller.stopped then .done else .looping })
      | .looping =>
          some (controller,
            { probe with stage := if controller.stopped then .concluding else .listing })
      | .readingKnown content =>
          some (controller,
            { probe with stage := .readingPredecessor content controller.knownWindowIDs })
      | .updatingFilter move =>
          some ({ controller with filter := move.filter },
            { probe with stage := .updatingConfiguration move })
      | .updatingConfiguration move => some (controller, { probe with stage := .rotating move })
      | .rotating move =>
          match controller.authority.rotate probe.previous move.target with
          | none => some (controller, { probe with stage := .failing })
          | some authority =>
              some ({ controller with authority := authority },
                { probe with stage := .stacking move })
      | .stacking move =>
          some ({ controller with
            predecessorStack := restack move probe.previous controller.predecessorStack },
            { probe with stage := .remembering })
      | .remembering =>
          some ({ controller with
            knownWindowIDs := controller.knownWindowIDs ++ probe.lastObservedSameProcessIDs },
            { probe with stage := .done })
      | .sleeping => some (controller, { probe with stage := .looping })
      | .concluding =>
          if !probe.lastObservedSameProcessIDs.contains probe.previous.windowID ||
              probe.lastObservedSameProcessIDs.any (!controller.knownWindowIDs.contains ·) then
            some (controller, { probe with stage := .failing })
          else some (controller, { probe with stage := .resuming })
      | .resuming =>
          match controller.authority.resume probe.previous with
          | none => some (controller, { probe with stage := .failing })
          | some authority =>
              some ({ controller with authority := authority }, { probe with stage := .done })
      | .failing =>
          some ({ controller with authority := controller.authority.failClosed },
            { probe with stage := .stopping })
      | .stopping => some ({ controller with stopped := true }, { probe with stage := .done })
      | _ => none
  | .expired =>
      match probe.stage with
      | .looping => some (controller, { probe with stage := .concluding })
      | _ => none
  | .lists content =>
      match probe.stage with
      | .listing =>
          some (controller, { probe with
            lastObservedSameProcessIDs := sameProcessWindowIDs content controller.targetProcessID
            stage := .readingKnown content })
      | _ => none
  | .reads first second =>
      match probe.stage with
      | .readingPredecessor content known =>
          some (controller, { probe with
            stage := choose geometry controller.targetProcessID probe.previous content known
              controller.predecessorStack.head? first second })
      | _ => none
  | .throws applied =>
      match probe.stage with
      | .listing | .sleeping | .updatingConfiguration _ =>
          some (controller, { probe with stage := .failing })
      | .updatingFilter move =>
          some (if applied then { controller with filter := move.filter } else controller,
            { probe with stage := .failing })
      | _ => none

def next : LineageEvent Frame → Option (WindowLineageController Frame)
  | .primaryRelease => some controller.afterPrimaryRelease
  | .stop => some { controller with stopped := true }
  | .authorityLost => some { controller with authority := controller.authority.failClosed }
  | .probe index outcome => do
      let probe ← controller.probes[index]?
      let (after, moved) ← controller.advance geometry probe outcome
      some { after with probes := after.probes.set index moved }

end WindowLineageController

/-! ## What happens -/

/-- The transitions of a run and the inventories remembered in it. -/
inductive Transition (Frame : Type) where
  | began
  | admitted (previous successor : WindowTargetSnapshot Frame)
  | returned (previous restored : WindowTargetSnapshot Frame)
  | remembered (windowIDs : List WindowID)

def Transition.isBegan : Transition Frame → Bool
  | .began => true
  | _ => false

/-- What it is for a move to be made. -/
def Move.transition (move : Move Frame) (previous : WindowTargetSnapshot Frame) :
    Transition Frame :=
  match move.kind with
  | .admission => .admitted previous move.target
  | .restore => .returned previous move.target

/-- The window from which a window was admitted last; the latest transition comes first. -/
def admittedFrom : List (Transition Frame) → WindowID → Option WindowID
  | [], _ => none
  | .admitted previous successor :: past, windowID =>
      if successor.windowID == windowID then some previous.windowID
      else admittedFrom past windowID
  | _ :: past, windowID => admittedFrom past windowID

namespace WindowLineageController

/-- What the next step of a probe makes happen. -/
def happens (controller : WindowLineageController Frame) (probe : Probe Frame) :
    Option (Transition Frame) :=
  match probe.stage with
  | .rotating move =>
      (controller.authority.rotate probe.previous move.target).map fun _ =>
        move.transition probe.previous
  | .remembering => some (.remembered probe.lastObservedSameProcessIDs)
  | _ => none

/-- What an event makes happen. -/
def transition (controller : WindowLineageController Frame) :
    LineageEvent Frame → Option (Transition Frame)
  | .primaryRelease => controller.authority.fenceForTransition.map fun _ => .began
  | .probe index .proceeds => controller.probes[index]?.bind controller.happens
  | _ => none

end WindowLineageController

/-- A controller with what has happened, the latest first. -/
structure LineageRun (Frame : Type) where
  controller : WindowLineageController Frame
  past : List (Transition Frame)

namespace LineageRun

def next (geometry : WindowGeometry Frame) (run : LineageRun Frame)
    (event : LineageEvent Frame) : Option (LineageRun Frame) :=
  (run.controller.next geometry event).map fun controller =>
    ⟨controller, (run.controller.transition event).toList ++ run.past⟩

/-- How many transitions have begun. -/
def begun (run : LineageRun Frame) : Nat := run.past.countP Transition.isBegan

end LineageRun

end ExecutionHandoff.Host
