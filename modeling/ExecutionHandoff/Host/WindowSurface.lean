import Mathlib.Data.List.Basic

/-!
# The surface of one window

`MacOSExactWindowGeometry`, `MacOSWindowLineage` and the two functions of the
host that choose the window to capture.  A window listing and the metadata of
the accessibility interface come from the system.  Frames are left abstract:
the tests on them are the parameters of a `WindowGeometry`.
-/

namespace ExecutionHandoff.Host

abbrev ProcessID := Int32
abbrev WindowID := UInt32

/-- The tests on frames. -/
structure WindowGeometry (Frame : Type) where
  framesMatch : Frame → Frame → Bool
  /-- At least so wide and so high. -/
  spans : Frame → Nat → Nat → Bool
  contains : Frame → Frame → Bool
  /-- The second frame, moved by the origin of the first, lies within its local bounds. -/
  cropFits : Frame → Frame → Bool

structure SharedWindow (Frame : Type) where
  owner : Option ProcessID
  windowID : WindowID
  frame : Frame
  isOnScreen : Bool
  layer : Int

structure ShareableContent (Frame : Type) where
  windows : List (SharedWindow Frame)
  displays : List Frame

structure AXWindowLineageMetadata (Frame : Type) where
  frame : Frame
  isFocused : Bool
  isModal : Bool
  isDialog : Bool

structure ContentFilter (Frame : Type) where
  display : Frame
  including : List WindowID

structure CaptureSurface (Frame : Type) where
  targetWindowID : Option WindowID
  filter : ContentFilter Frame
  inputBounds : Frame
  allowNonZeroLayer : Bool

inductive WebRtcHostError where
  | configuration
  | display

variable {Frame : Type} (geometry : WindowGeometry Frame)

/-! ## The exact window -/

namespace MacOSExactWindowGeometry

inductive ResolutionError where
  | windowUnavailable
  | containingDisplayUnavailable
  | cropOutsideDisplay

/-- The window and the display it is on. -/
def resolve (content : ShareableContent Frame) (targetProcessID : ProcessID)
    (targetWindowID : Option WindowID) : Except ResolutionError (SharedWindow Frame × Frame) :=
  match content.windows.filter fun window =>
      window.owner.getD 0 == targetProcessID && window.isOnScreen && window.layer == 0 &&
        (targetWindowID.all (window.windowID == ·)) && geometry.spans window.frame 160 120 with
  | [window] =>
      match content.displays.filter (geometry.contains · window.frame) with
      | [display] =>
          if geometry.cropFits display window.frame then .ok (window, display)
          else .error .cropOutsideDisplay
      | _ => .error .containingDisplayUnavailable
  | _ => .error .windowUnavailable

end MacOSExactWindowGeometry

/-- `selectedCaptureSurface` for a target process, without a policy for secure windows. -/
def selectedCaptureSurface (content : ShareableContent Frame) (targetProcessID : ProcessID)
    (targetWindowID : Option WindowID) : Except WebRtcHostError (CaptureSurface Frame) :=
  match MacOSExactWindowGeometry.resolve geometry content targetProcessID targetWindowID with
  | .ok (window, display) => .ok
      { targetWindowID := some window.windowID
        filter := ⟨display, [window.windowID]⟩
        inputBounds := window.frame
        allowNonZeroLayer := false }
  | .error _ => .error .display

/-! ## The lineage -/

structure MacOSWindowLineageCandidate (Frame : Type) where
  processID : ProcessID
  windowID : WindowID
  frame : Frame
  isOnScreen : Bool
  layer : Int
  isFocused : Bool
  isModal : Bool
  isDialog : Bool

structure MacOSWindowLineageResolution (Frame : Type) where
  windowID : WindowID
  frame : Frame

inductive MacOSWindowLineageResolutionError where
  | noSuccessor
  | ambiguousSuccessor

namespace MacOSWindowLineage

def isSupportedSurface (candidate : MacOSWindowLineageCandidate Frame) : Bool :=
  candidate.layer == 0 ||
    (candidate.isFocused && (candidate.isModal || candidate.isDialog))

def eligible (targetProcessID : ProcessID) (currentWindowID : WindowID)
    (knownWindowIDs : List WindowID) (candidate : MacOSWindowLineageCandidate Frame) : Bool :=
  candidate.processID == targetProcessID &&
    candidate.windowID != currentWindowID &&
    !knownWindowIDs.contains candidate.windowID &&
    candidate.isOnScreen &&
    isSupportedSurface candidate &&
    geometry.spans candidate.frame 80 60 &&
    (candidate.isFocused || candidate.isModal || candidate.isDialog)

def resolveSuccessor (candidates : List (MacOSWindowLineageCandidate Frame))
    (targetProcessID : ProcessID) (currentWindowID : WindowID)
    (knownWindowIDs : List WindowID) :
    Except MacOSWindowLineageResolutionError (MacOSWindowLineageResolution Frame) :=
  match candidates.filter (eligible geometry targetProcessID currentWindowID knownWindowIDs) with
  | [] => .error .noSuccessor
  | [successor] => .ok ⟨successor.windowID, successor.frame⟩
  | _ => .error .ambiguousSuccessor

def canReturnToPredecessor (candidates : List (MacOSWindowLineageCandidate Frame))
    (targetProcessID : ProcessID) (currentWindowID predecessorWindowID : WindowID) : Bool :=
  !(candidates.any fun candidate =>
      candidate.processID == targetProcessID && candidate.windowID == currentWindowID &&
        candidate.isOnScreen && isSupportedSurface candidate) &&
    (candidates.filter fun candidate =>
      candidate.processID == targetProcessID && candidate.windowID == predecessorWindowID &&
        candidate.isOnScreen && candidate.layer == 0 && candidate.isFocused).length == 1

end MacOSWindowLineage

def windowLineageCandidates (content : ShareableContent Frame) (targetProcessID : ProcessID)
    (metadata : List (AXWindowLineageMetadata Frame)) : List (MacOSWindowLineageCandidate Frame) :=
  content.windows.map fun window =>
    let processID := window.owner.getD 0
    let relation := match if processID == targetProcessID then
        metadata.filter (geometry.framesMatch ·.frame window.frame) else [] with
      | [relation] => some relation
      | _ => none
    { processID := processID
      windowID := window.windowID
      frame := window.frame
      isOnScreen := window.isOnScreen
      layer := window.layer
      isFocused := (relation.map (·.isFocused)).getD false
      isModal := (relation.map (·.isModal)).getD false
      isDialog := (relation.map (·.isDialog)).getD false }

def sameProcessWindowIDs (content : ShareableContent Frame) (targetProcessID : ProcessID) :
    List WindowID :=
  content.windows.filterMap fun window =>
    if window.owner == some targetProcessID then some window.windowID else none

def selectedLineageCaptureSurface (content : ShareableContent Frame)
    (targetProcessID : ProcessID) (resolution : MacOSWindowLineageResolution Frame)
    (metadata : List (AXWindowLineageMetadata Frame)) :
    Except WebRtcHostError (CaptureSurface Frame) :=
  match (windowLineageCandidates geometry content targetProcessID metadata).filter fun candidate =>
      candidate.processID == targetProcessID && candidate.windowID == resolution.windowID &&
        candidate.isOnScreen && geometry.framesMatch candidate.frame resolution.frame &&
        MacOSWindowLineage.isSupportedSurface candidate with
  | [_] =>
      match content.windows.filter fun window =>
          window.owner == some targetProcessID && window.windowID == resolution.windowID &&
            window.isOnScreen && geometry.framesMatch window.frame resolution.frame with
      | [window] =>
          match content.displays.filter (geometry.contains · window.frame) with
          | [display] =>
              if geometry.cropFits display window.frame then .ok
                { targetWindowID := some window.windowID
                  filter := ⟨display, [window.windowID]⟩
                  inputBounds := window.frame
                  allowNonZeroLayer := window.layer != 0 }
              else .error .display
          | _ => .error .display
      | _ => .error .display
  | _ => .error .display

/-! ## What a chosen surface captures -/

variable {geometry} {content : ShareableContent Frame} {targetProcessID : ProcessID}
  {surface : CaptureSurface Frame}

/-- The one element that a filter leaves is in the list and passes. -/
theorem mem_of_filter_singleton {α : Type} {test : α → Bool} {items : List α} {item : α}
    (only : items.filter test = [item]) : item ∈ items ∧ test item = true :=
  List.mem_filter.mp (only ▸ List.mem_singleton.mpr rfl)

/-- The exact surface is the window asked for, and its filter is for that window alone. -/
theorem selectedCaptureSurface_target {targetWindowID : Option WindowID}
    (selected : selectedCaptureSurface geometry content targetProcessID targetWindowID =
      .ok surface) :
    ∃ windowID, surface.targetWindowID = some windowID ∧ surface.filter.including = [windowID] ∧
      ∀ target, targetWindowID = some target → windowID = target := by
  unfold selectedCaptureSurface at selected
  split at selected
  · rename_i window display resolved
    cases selected
    refine ⟨window.windowID, rfl, rfl, ?_⟩
    rintro target rfl
    unfold MacOSExactWindowGeometry.resolve at resolved
    split at resolved
    · rename_i only
      split at resolved
      · split at resolved
        · cases resolved
          have passes := (mem_of_filter_singleton only).2
          simp only [Bool.and_eq_true, Option.all_some, beq_iff_eq] at passes
          exact passes.1.2
        · cases resolved
      · cases resolved
    · cases resolved
  · cases selected

/-- The surface of a successor is the window of the resolution, a window of the process. -/
theorem selectedLineageCaptureSurface_target
    {resolution : MacOSWindowLineageResolution Frame}
    {metadata : List (AXWindowLineageMetadata Frame)}
    (selected : selectedLineageCaptureSurface geometry content targetProcessID resolution metadata =
      .ok surface) :
    surface.filter.including = [resolution.windowID] ∧
      resolution.windowID ∈ sameProcessWindowIDs content targetProcessID := by
  unfold selectedLineageCaptureSurface at selected
  split at selected
  · split at selected
    · rename_i window only
      obtain ⟨mem, passes⟩ := mem_of_filter_singleton only
      simp only [Bool.and_eq_true, beq_iff_eq] at passes
      have owned : window.owner = some targetProcessID := passes.1.1.1
      have named : window.windowID = resolution.windowID := passes.1.1.2
      split at selected
      · split at selected
        · cases selected
          refine ⟨congrArg (fun windowID => [windowID]) named, ?_⟩
          refine List.mem_filterMap.mpr ⟨window, mem, ?_⟩
          rw [owned, if_pos (beq_self_eq_true _), named]
        · cases selected
      · cases selected
    · cases selected
  · cases selected

/-- A successor is no known window. -/
theorem resolveSuccessor_unknown {candidates : List (MacOSWindowLineageCandidate Frame)}
    {currentWindowID : WindowID} {knownWindowIDs : List WindowID}
    {resolution : MacOSWindowLineageResolution Frame}
    (resolved : MacOSWindowLineage.resolveSuccessor geometry candidates targetProcessID
      currentWindowID knownWindowIDs = .ok resolution) :
    resolution.windowID ∉ knownWindowIDs := by
  unfold MacOSWindowLineage.resolveSuccessor at resolved
  split at resolved
  · cases resolved
  · rename_i only
    cases resolved
    have passes := (mem_of_filter_singleton only).2
    simp only [MacOSWindowLineage.eligible, Bool.and_eq_true, Bool.not_eq_true'] at passes
    intro mem
    have unknown := passes.1.1.1.1.2
    rw [List.contains_iff_mem.mpr mem] at unknown
    cases unknown
  · cases resolved

end ExecutionHandoff.Host
