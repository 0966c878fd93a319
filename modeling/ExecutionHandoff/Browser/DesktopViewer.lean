import ExecutionHandoff.Library.Rectangles
import Mathlib.Data.Rat.Defs
import Mathlib.Tactic.FieldSimp
import Mathlib.Tactic.Linarith
import Mathlib.Tactic.Ring

/-!
# The viewer of a desktop session

Where the surface is drawn in the viewport, and which point of the surface lies
under a point of the viewport.  Numbers are exact.
-/

namespace ExecutionHandoff.Browser

open Library

inductive DesktopViewerMode where
  | fit
  | actualSize
  | adaptive
  deriving DecidableEq

structure DesktopViewerLayoutRequest where
  mode : DesktopViewerMode
  surfaceWidth : ℚ
  surfaceHeight : ℚ
  viewportWidth : ℚ
  viewportHeight : ℚ
  zoom : Option ℚ
  panX : Option ℚ
  panY : Option ℚ

structure DesktopViewerLayout where
  mode : DesktopViewerMode
  surfaceWidth : ℚ
  surfaceHeight : ℚ
  viewportWidth : ℚ
  viewportHeight : ℚ
  baseScale : ℚ
  zoom : ℚ
  renderedWidth : ℚ
  renderedHeight : ℚ
  offsetX : ℚ
  offsetY : ℚ
  displayResizeNegotiated : Bool

structure DesktopSessionBoundaryError where
  code : String
  message : String
  deriving DecidableEq

def validDimension (value : ℚ) : Bool := decide (0 < value)

def resolveDesktopViewerLayout (request : DesktopViewerLayoutRequest) :
    Except DesktopSessionBoundaryError DesktopViewerLayout :=
  if !validDimension request.surfaceWidth || !validDimension request.surfaceHeight ||
      !validDimension request.viewportWidth || !validDimension request.viewportHeight then
    .error ⟨"DESKTOP_VIEWER_LAYOUT_INVALID", "Desktop viewer layout is invalid"⟩
  else
    let zoom := request.zoom.getD 1
    let panX := request.panX.getD 0
    let panY := request.panY.getD 0
    if zoom < 1 ∨ zoom > 4 then
      .error ⟨"DESKTOP_VIEWER_LAYOUT_INVALID", "Desktop viewer transform is invalid"⟩
    else
      let baseScale :=
        if request.mode = .actualSize then 1
        else
          min (request.viewportWidth / request.surfaceWidth)
            (request.viewportHeight / request.surfaceHeight)
      let renderedWidth := request.surfaceWidth * baseScale * zoom
      let renderedHeight := request.surfaceHeight * baseScale * zoom
      let maxPanX := max 0 ((renderedWidth - request.viewportWidth) / 2)
      let maxPanY := max 0 ((renderedHeight - request.viewportHeight) / 2)
      let boundedPanX := clamp panX (-maxPanX) maxPanX
      let boundedPanY := clamp panY (-maxPanY) maxPanY
      .ok {
        mode := request.mode
        surfaceWidth := request.surfaceWidth
        surfaceHeight := request.surfaceHeight
        viewportWidth := request.viewportWidth
        viewportHeight := request.viewportHeight
        baseScale
        zoom
        renderedWidth
        renderedHeight
        offsetX := (request.viewportWidth - renderedWidth) / 2 + boundedPanX
        offsetY := (request.viewportHeight - renderedHeight) / 2 + boundedPanY
        displayResizeNegotiated := false }

def desktopViewerPointToNormalizedSurface (layout : DesktopViewerLayout) (point : Point ℚ) :
    Except DesktopSessionBoundaryError (Point ℚ) :=
  if !validDimension layout.renderedWidth || !validDimension layout.renderedHeight then
    .error ⟨"DESKTOP_VIEWER_LAYOUT_INVALID", "Desktop viewer point is invalid"⟩
  else
    let x := (point.x - layout.offsetX) / layout.renderedWidth
    let y := (point.y - layout.offsetY) / layout.renderedHeight
    if x < 0 ∨ x > 1 ∨ y < 0 ∨ y > 1 then
      .error ⟨"DESKTOP_VIEWER_POINT_OUTSIDE_SURFACE",
        "Desktop viewer point is outside the bounded surface"⟩
    else .ok ⟨x, y⟩

/-! ## One axis -/

/-- What is drawn from `offset` on fills the viewport if it is larger than the viewport, and is
shown whole and in the middle otherwise. -/
structure Placed (viewport rendered offset : ℚ) : Prop where
  covers : viewport < rendered → offset ≤ 0 ∧ viewport ≤ offset + rendered
  centred : rendered ≤ viewport →
    0 ≤ offset ∧ offset + rendered ≤ viewport ∧ offset = viewport - (offset + rendered)

/-- A pan held within half of what exceeds the viewport keeps an axis placed. -/
theorem placed_clamp (viewport rendered pan : ℚ) :
    Placed viewport rendered ((viewport - rendered) / 2 +
      clamp pan (-max 0 ((rendered - viewport) / 2)) (max 0 ((rendered - viewport) / 2))) where
  covers larger := by
    have room : (0 : ℚ) ≤ (rendered - viewport) / 2 := by linarith
    have ordered : -((rendered - viewport) / 2) ≤ (rendered - viewport) / 2 := by linarith
    rw [max_eq_right room]
    have lower := @low_le_clamp ℚ _ pan (-((rendered - viewport) / 2)) ((rendered - viewport) / 2)
    have upper := @clamp_le_high ℚ _ pan _ _ ordered
    exact ⟨by linarith, by linarith⟩
  centred smaller := by
    have none : (rendered - viewport) / 2 ≤ 0 := by linarith
    have still : clamp pan 0 0 = 0 := le_antisymm (clamp_le_high le_rfl) low_le_clamp
    rw [max_eq_left none, neg_zero, still]
    exact ⟨by linarith, by linarith, by linarith⟩

/-! ## The layout -/

/-- A request the layout is computed for. -/
structure ValidRequest (request : DesktopViewerLayoutRequest) : Prop where
  surface : 0 < request.surfaceWidth ∧ 0 < request.surfaceHeight
  viewport : 0 < request.viewportWidth ∧ 0 < request.viewportHeight
  zoom : 1 ≤ request.zoom.getD 1 ∧ request.zoom.getD 1 ≤ 4

namespace DesktopViewerLayout

/-- The point of the viewport at which a normalized point of the surface is drawn. -/
def toViewer (layout : DesktopViewerLayout) (normalized : Point ℚ) : Point ℚ :=
  ⟨layout.offsetX + layout.renderedWidth * normalized.x,
    layout.offsetY + layout.renderedHeight * normalized.y⟩

/-- The point lies over the surface as it is drawn, with all four edges. -/
def Over (layout : DesktopViewerLayout) (point : Point ℚ) : Prop :=
  (layout.offsetX ≤ point.x ∧ point.x ≤ layout.offsetX + layout.renderedWidth) ∧
    layout.offsetY ≤ point.y ∧ point.y ≤ layout.offsetY + layout.renderedHeight

/-- The point lies in the unit square. -/
def InUnitSquare (normalized : Point ℚ) : Prop :=
  (0 ≤ normalized.x ∧ normalized.x ≤ 1) ∧ 0 ≤ normalized.y ∧ normalized.y ≤ 1

/-- What is promised of a layout. -/
structure Sound (layout : DesktopViewerLayout) (request : DesktopViewerLayoutRequest) : Prop where
  viewport : layout.viewportWidth = request.viewportWidth ∧
    layout.viewportHeight = request.viewportHeight
  rendered : 0 < layout.renderedWidth ∧ 0 < layout.renderedHeight
  horizontal : Placed layout.viewportWidth layout.renderedWidth layout.offsetX
  vertical : Placed layout.viewportHeight layout.renderedHeight layout.offsetY

/-- The mapping of viewer points undoes the drawing, and takes exactly the points over the
surface. -/
structure Inverse (layout : DesktopViewerLayout) : Prop where
  maps : ∀ point normalized, desktopViewerPointToNormalizedSurface layout point = .ok normalized ↔
    InUnitSquare normalized ∧ layout.toViewer normalized = point
  accepts : ∀ point, (∃ normalized, desktopViewerPointToNormalizedSurface layout point =
    .ok normalized) ↔ layout.Over point

variable {layout : DesktopViewerLayout}

/-- On one axis dividing by the extent undoes the scaling. -/
theorem axis_iff {offset rendered : ℚ} (positive : 0 < rendered) (value normalized : ℚ) :
    (value - offset) / rendered = normalized ↔ offset + rendered * normalized = value := by
  rw [div_eq_iff positive.ne']
  constructor
  · intro same
    linarith
  · intro same
    linarith

/-- The quotient is between 0 and 1 exactly over the surface. -/
theorem axis_over_iff {offset rendered : ℚ} (positive : 0 < rendered) (value : ℚ) :
    (0 ≤ (value - offset) / rendered ∧ (value - offset) / rendered ≤ 1) ↔
      offset ≤ value ∧ value ≤ offset + rendered := by
  rw [le_div_iff₀ positive, div_le_iff₀ positive, zero_mul, one_mul, sub_nonneg,
    sub_le_iff_le_add']

theorem pointToNormalized_eq (rendered : 0 < layout.renderedWidth ∧ 0 < layout.renderedHeight)
    (point normalized : Point ℚ) :
    desktopViewerPointToNormalizedSurface layout point = .ok normalized ↔
      InUnitSquare normalized ∧ normalized.x = (point.x - layout.offsetX) / layout.renderedWidth ∧
        normalized.y = (point.y - layout.offsetY) / layout.renderedHeight := by
  unfold desktopViewerPointToNormalizedSurface validDimension InUnitSquare
  rw [decide_eq_true rendered.1, decide_eq_true rendered.2, if_neg (by decide)]
  dsimp only
  split
  · rename_i outside
    refine iff_of_false (by simp) ?_
    rintro ⟨⟨⟨left, right⟩, top, bottom⟩, across, down⟩
    rw [across] at left right
    rw [down] at top bottom
    rcases outside with low | high | low | high
    · exact absurd left (not_le.mpr low)
    · exact absurd right (not_le.mpr high)
    · exact absurd top (not_le.mpr low)
    · exact absurd bottom (not_le.mpr high)
  · rename_i inside
    simp only [not_or, not_lt, gt_iff_lt] at inside
    obtain ⟨left, right, top, bottom⟩ := inside
    constructor
    · intro same
      cases same
      exact ⟨⟨⟨left, right⟩, top, bottom⟩, rfl, rfl⟩
    · rintro ⟨_, across, down⟩
      obtain ⟨x, y⟩ := normalized
      dsimp only at across down
      rw [across, down]

theorem inverse (rendered : 0 < layout.renderedWidth ∧ 0 < layout.renderedHeight) :
    layout.Inverse where
  maps point normalized := by
    rw [pointToNormalized_eq rendered, eq_comm (a := normalized.x), eq_comm (a := normalized.y),
      axis_iff rendered.1, axis_iff rendered.2]
    refine and_congr_right fun _ => ?_
    unfold toViewer
    obtain ⟨x, y⟩ := point
    rw [Point.mk.injEq]
  accepts point := by
    unfold Over
    rw [← axis_over_iff rendered.1, ← axis_over_iff rendered.2]
    constructor
    · rintro ⟨normalized, mapped⟩
      obtain ⟨unit, across, down⟩ := (pointToNormalized_eq rendered _ _).mp mapped
      unfold InUnitSquare at unit
      rw [across, down] at unit
      exact unit
    · intro within
      exact ⟨⟨_, _⟩, (pointToNormalized_eq rendered _ _).mpr ⟨within, rfl, rfl⟩⟩

end DesktopViewerLayout

/-- The scale to which the surface is brought before it is zoomed. -/
def baseScale (request : DesktopViewerLayoutRequest) : ℚ :=
  if request.mode = .actualSize then 1
  else
    min (request.viewportWidth / request.surfaceWidth)
      (request.viewportHeight / request.surfaceHeight)

namespace ValidRequest

variable {request : DesktopViewerLayoutRequest} (valid : ValidRequest request)
include valid

theorem baseScale_pos : 0 < baseScale request := by
  unfold baseScale
  split
  · exact one_pos
  · exact lt_min (div_pos valid.viewport.1 valid.surface.1) (div_pos valid.viewport.2 valid.surface.2)

theorem dimensions_valid : (!validDimension request.surfaceWidth ||
    !validDimension request.surfaceHeight || !validDimension request.viewportWidth ||
    !validDimension request.viewportHeight) = false := by
  unfold validDimension
  rw [decide_eq_true valid.surface.1, decide_eq_true valid.surface.2,
    decide_eq_true valid.viewport.1, decide_eq_true valid.viewport.2]
  rfl

theorem resolves : ∃ layout, resolveDesktopViewerLayout request = .ok layout := by
  unfold resolveDesktopViewerLayout
  rw [if_neg (Bool.not_eq_true _ ▸ valid.dimensions_valid)]
  dsimp only
  rw [if_neg]
  · exact ⟨_, rfl⟩
  · rintro (small | large)
    · exact absurd valid.zoom.1 (not_le.mpr small)
    · exact absurd valid.zoom.2 (not_le.mpr large)

end ValidRequest

/-- Only a valid request has a layout. -/
theorem valid_of_resolves {request : DesktopViewerLayoutRequest} {layout : DesktopViewerLayout}
    (resolved : resolveDesktopViewerLayout request = .ok layout) : ValidRequest request := by
  unfold resolveDesktopViewerLayout validDimension at resolved
  dsimp only at resolved
  split at resolved
  · cases resolved
  · rename_i dimensions
    split at resolved
    · cases resolved
    · rename_i zoom
      simp only [Bool.or_eq_true, Bool.not_eq_true', decide_eq_false_iff_not, not_or, not_not]
        at dimensions
      simp only [not_or, not_lt, gt_iff_lt] at zoom
      obtain ⟨⟨⟨surfaceWidth, surfaceHeight⟩, viewportWidth⟩, viewportHeight⟩ := dimensions
      exact ⟨⟨surfaceWidth, surfaceHeight⟩, ⟨viewportWidth, viewportHeight⟩, zoom⟩

theorem sound_of_resolves {request : DesktopViewerLayoutRequest} {layout : DesktopViewerLayout}
    (resolved : resolveDesktopViewerLayout request = .ok layout) : layout.Sound request := by
  have valid := valid_of_resolves resolved
  have zoomed : 0 < request.zoom.getD 1 := lt_of_lt_of_le one_pos valid.zoom.1
  have width : 0 < request.surfaceWidth * baseScale request * request.zoom.getD 1 :=
    mul_pos (mul_pos valid.surface.1 valid.baseScale_pos) zoomed
  have height : 0 < request.surfaceHeight * baseScale request * request.zoom.getD 1 :=
    mul_pos (mul_pos valid.surface.2 valid.baseScale_pos) zoomed
  unfold resolveDesktopViewerLayout at resolved
  rw [if_neg (Bool.not_eq_true _ ▸ valid.dimensions_valid)] at resolved
  dsimp only at resolved
  split at resolved
  · cases resolved
  · cases resolved
    exact ⟨⟨rfl, rfl⟩, ⟨width, height⟩, placed_clamp _ _ _, placed_clamp _ _ _⟩

end ExecutionHandoff.Browser
