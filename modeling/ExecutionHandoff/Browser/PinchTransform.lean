import ExecutionHandoff.Library.Rectangles
import Mathlib.Data.Rat.Defs
import Mathlib.Tactic.FieldSimp
import Mathlib.Tactic.Linarith
import Mathlib.Tactic.Ring

/-!
# Pinching the view

The transform of the view while two fingers are on it.  Numbers are exact; a
number that the code asks to be finite is `none` when it is not.
-/

namespace ExecutionHandoff.Browser

open Library

def maxBrowserHandoffViewScale : ℚ := 4

structure BrowserHandoffViewTransform where
  scale : ℚ
  panX : ℚ
  panY : ℚ
  deriving DecidableEq

structure BrowserHandoffPinchState where
  startDistance : Option ℚ
  startScale : ℚ
  startPanX : ℚ
  startPanY : ℚ
  startMidX : ℚ
  startMidY : ℚ
  centerX : ℚ
  centerY : ℚ

def normalizeBrowserHandoffViewTransform (scale panX panY viewportWidth viewportHeight : Option ℚ) :
    BrowserHandoffViewTransform :=
  match viewportWidth, viewportHeight with
  | some width, some height =>
      if width ≤ 0 ∨ height ≤ 0 then ⟨1, 0, 0⟩
      else
        let nextScale := clamp (scale.getD 1) 1 maxBrowserHandoffViewScale
        let maxPanX := max 0 ((nextScale - 1) * width / 2)
        let maxPanY := max 0 ((nextScale - 1) * height / 2)
        ⟨nextScale, clamp (panX.getD 0) (-maxPanX) maxPanX, clamp (panY.getD 0) (-maxPanY) maxPanY⟩
  | _, _ => ⟨1, 0, 0⟩

/-- The scale a pinch asks for. -/
def pinchScale (state : BrowserHandoffPinchState) (currentDistance : Option ℚ) : ℚ :=
  let safeStartDistance := max 1 (state.startDistance.getD 1)
  let ratio := clamp (currentDistance.getD safeStartDistance / safeStartDistance) (1 / 4) 4
  clamp (state.startScale * ratio) 1 maxBrowserHandoffViewScale

/-- The pan a pinch asks for on one axis. -/
def pinchPan (nextScale startScale current center startMid startPan : ℚ) : ℚ :=
  let scaleRatio := nextScale / max 1 startScale
  current - center - scaleRatio * (startMid - center - startPan)

def browserHandoffPinchTransform (state : BrowserHandoffPinchState) (currentDistance : Option ℚ)
    (currentMidX currentMidY : ℚ) (viewportWidth viewportHeight : Option ℚ) :
    BrowserHandoffViewTransform :=
  let nextScale := pinchScale state currentDistance
  let panX := pinchPan nextScale state.startScale currentMidX state.centerX state.startMidX
    state.startPanX
  let panY := pinchPan nextScale state.startScale currentMidY state.centerY state.startMidY
    state.startPanY
  normalizeBrowserHandoffViewTransform (some nextScale) (some panX) (some panY) viewportWidth
    viewportHeight

/-! ## Normal transforms -/

/-- How far a view of this scale may be moved. -/
def panBound (scale extent : ℚ) : ℚ := (scale - 1) * extent / 2

/-- The scale is between 1 and the greatest one, and the view does not leave the viewport. -/
structure Normal (width height : ℚ) (view : BrowserHandoffViewTransform) : Prop where
  scale : 1 ≤ view.scale ∧ view.scale ≤ maxBrowserHandoffViewScale
  panX : |view.panX| ≤ panBound view.scale width
  panY : |view.panY| ≤ panBound view.scale height

section Normalizing

variable {width height : ℚ} {scale panX panY : Option ℚ}

theorem panBound_nonneg {scale extent : ℚ} (large : 1 ≤ scale) (positive : 0 < extent) :
    0 ≤ panBound scale extent := by
  unfold panBound
  exact div_nonneg (mul_nonneg (sub_nonneg.mpr large) positive.le) (by norm_num)

theorem max_panBound {scale extent : ℚ} (large : 1 ≤ scale) (positive : 0 < extent) :
    max 0 ((scale - 1) * extent / 2) = panBound scale extent :=
  max_eq_right (panBound_nonneg large positive)

theorem scale_bounds (value : ℚ) : 1 ≤ clamp value 1 maxBrowserHandoffViewScale ∧
    clamp value 1 maxBrowserHandoffViewScale ≤ maxBrowserHandoffViewScale :=
  ⟨low_le_clamp, clamp_le_high (by norm_num [maxBrowserHandoffViewScale])⟩

/-- In a viewport of positive size. -/
theorem normalize_eq (positive : 0 < width ∧ 0 < height) :
    normalizeBrowserHandoffViewTransform scale panX panY (some width) (some height) =
      let nextScale := clamp (scale.getD 1) 1 maxBrowserHandoffViewScale
      ⟨nextScale,
        clamp (panX.getD 0) (-panBound nextScale width) (panBound nextScale width),
        clamp (panY.getD 0) (-panBound nextScale height) (panBound nextScale height)⟩ := by
  have outside : ¬ (width ≤ 0 ∨ height ≤ 0) := by
    rintro (narrow | short)
    · exact absurd positive.1 (not_lt.mpr narrow)
    · exact absurd positive.2 (not_lt.mpr short)
  obtain ⟨large, _⟩ := scale_bounds (scale.getD 1)
  unfold normalizeBrowserHandoffViewTransform
  dsimp only
  rw [if_neg outside, max_panBound large positive.1, max_panBound large positive.2]

theorem abs_clamp_le {value bound : ℚ} (nonneg : 0 ≤ bound) : |clamp value (-bound) bound| ≤ bound :=
  abs_le.mpr ⟨low_le_clamp, clamp_le_high (by linarith)⟩

theorem normalize_normal (positive : 0 < width ∧ 0 < height) :
    Normal width height
      (normalizeBrowserHandoffViewTransform scale panX panY (some width) (some height)) := by
  obtain ⟨large, _⟩ := scale_bounds (scale.getD 1)
  rw [normalize_eq positive]
  exact ⟨scale_bounds _, abs_clamp_le (panBound_nonneg large positive.1),
    abs_clamp_le (panBound_nonneg large positive.2)⟩

/-- A normal transform is left alone. -/
theorem normalize_of_normal (positive : 0 < width ∧ 0 < height) {view : BrowserHandoffViewTransform}
    (normal : Normal width height view) :
    normalizeBrowserHandoffViewTransform (some view.scale) (some view.panX) (some view.panY)
      (some width) (some height) = view := by
  obtain ⟨left, right⟩ := abs_le.mp normal.panX
  obtain ⟨top, bottom⟩ := abs_le.mp normal.panY
  rw [normalize_eq positive]
  dsimp only [Option.getD_some]
  rw [clamp_of_mem normal.scale.1 normal.scale.2, clamp_of_mem left right, clamp_of_mem top bottom]

theorem normalize_unusable {viewportWidth viewportHeight : Option ℚ}
    (unusable : ¬ ∃ width height, viewportWidth = some width ∧ viewportHeight = some height ∧
      0 < width ∧ 0 < height) :
    normalizeBrowserHandoffViewTransform scale panX panY viewportWidth viewportHeight = ⟨1, 0, 0⟩ := by
  unfold normalizeBrowserHandoffViewTransform
  split
  · rename_i width height
    split
    · rfl
    · rename_i positive
      rw [not_or, not_le, not_le] at positive
      exact absurd ⟨width, height, rfl, rfl, positive⟩ unusable
  · rfl

/-- Normalizing twice is normalizing once, in any viewport. -/
theorem normalize_idempotent (scale panX panY viewportWidth viewportHeight : Option ℚ) :
    let view := normalizeBrowserHandoffViewTransform scale panX panY viewportWidth viewportHeight
    normalizeBrowserHandoffViewTransform (some view.scale) (some view.panX) (some view.panY)
      viewportWidth viewportHeight = view := by
  dsimp only
  by_cases usable : ∃ width height, viewportWidth = some width ∧ viewportHeight = some height ∧
      0 < width ∧ 0 < height
  · obtain ⟨width, height, rfl, rfl, positive⟩ := usable
    exact normalize_of_normal positive (normalize_normal positive)
  · rw [normalize_unusable usable, normalize_unusable usable]

end Normalizing

/-! ## The point under the fingers -/

/-- The point of the content that is seen at a point of the screen, on one axis. -/
def contentUnder (center pan scale seen : ℚ) : ℚ := center + (seen - center - pan) / scale

/-- The content that was under the start midpoint is under the current one. -/
theorem contentUnder_pinchPan {nextScale startScale : ℚ} (large : 1 ≤ startScale)
    (next : 1 ≤ nextScale) (current center startMid startPan : ℚ) :
    contentUnder center (pinchPan nextScale startScale current center startMid startPan) nextScale
        current = contentUnder center startPan startScale startMid := by
  have nonzero : startScale ≠ 0 := by linarith
  have nonzero' : nextScale ≠ 0 := by linarith
  unfold contentUnder pinchPan
  dsimp only
  rw [max_eq_right large]
  field_simp
  ring

/-- A viewport of positive size. -/
structure Viewport where
  width : ℚ
  height : ℚ
  wide : 0 < width
  tall : 0 < height

section Pinching

variable (state : BrowserHandoffPinchState) (currentDistance : Option ℚ)
  (currentMidX currentMidY : ℚ) (viewport : Viewport)

/-- The transform of a pinch in the viewport. -/
def pinched : BrowserHandoffViewTransform :=
  browserHandoffPinchTransform state currentDistance currentMidX currentMidY (some viewport.width)
    (some viewport.height)

/-- The pans before they are held within their bounds. -/
def unclampedPanX : ℚ :=
  pinchPan (pinchScale state currentDistance) state.startScale currentMidX state.centerX
    state.startMidX state.startPanX

def unclampedPanY : ℚ :=
  pinchPan (pinchScale state currentDistance) state.startScale currentMidY state.centerY
    state.startMidY state.startPanY

theorem pinched_eq :
    pinched state currentDistance currentMidX currentMidY viewport =
      ⟨pinchScale state currentDistance,
        clamp (unclampedPanX state currentDistance currentMidX)
          (-panBound (pinchScale state currentDistance) viewport.width)
          (panBound (pinchScale state currentDistance) viewport.width),
        clamp (unclampedPanY state currentDistance currentMidY)
          (-panBound (pinchScale state currentDistance) viewport.height)
          (panBound (pinchScale state currentDistance) viewport.height)⟩ := by
  have bounds : 1 ≤ pinchScale state currentDistance ∧
      pinchScale state currentDistance ≤ maxBrowserHandoffViewScale := scale_bounds _
  unfold pinched browserHandoffPinchTransform
  rw [normalize_eq ⟨viewport.wide, viewport.tall⟩]
  dsimp only [Option.getD_some]
  rw [clamp_of_mem bounds.1 bounds.2]
  rfl

/-- What is promised of a pinch: its transform is normal, and on an axis whose pan stays within its
bounds the content stays under the fingers. -/
structure Anchored : Prop where
  normal : Normal viewport.width viewport.height
    (pinched state currentDistance currentMidX currentMidY viewport)
  horizontal : 1 ≤ state.startScale →
    |unclampedPanX state currentDistance currentMidX| ≤
      panBound (pinchScale state currentDistance) viewport.width →
    contentUnder state.centerX (pinched state currentDistance currentMidX currentMidY viewport).panX
        (pinched state currentDistance currentMidX currentMidY viewport).scale currentMidX =
      contentUnder state.centerX state.startPanX state.startScale state.startMidX
  vertical : 1 ≤ state.startScale →
    |unclampedPanY state currentDistance currentMidY| ≤
      panBound (pinchScale state currentDistance) viewport.height →
    contentUnder state.centerY (pinched state currentDistance currentMidX currentMidY viewport).panY
        (pinched state currentDistance currentMidX currentMidY viewport).scale currentMidY =
      contentUnder state.centerY state.startPanY state.startScale state.startMidY

theorem anchored : Anchored state currentDistance currentMidX currentMidY viewport := by
  have bounds : 1 ≤ pinchScale state currentDistance ∧
      pinchScale state currentDistance ≤ maxBrowserHandoffViewScale := scale_bounds _
  refine ⟨normalize_normal ⟨viewport.wide, viewport.tall⟩, ?_, ?_⟩
  · intro large within
    obtain ⟨left, right⟩ := abs_le.mp within
    rw [pinched_eq]
    dsimp only
    rw [clamp_of_mem left right]
    exact contentUnder_pinchPan large bounds.1 _ _ _ _
  · intro large within
    obtain ⟨top, bottom⟩ := abs_le.mp within
    rw [pinched_eq]
    dsimp only
    rw [clamp_of_mem top bottom]
    exact contentUnder_pinchPan large bounds.1 _ _ _ _

end Pinching

/-- Pinches are anchored, and normalizing a transform twice is normalizing it once. -/
theorem pinch_anchored :
    (∀ state currentDistance currentMidX currentMidY viewport,
        Anchored state currentDistance currentMidX currentMidY viewport) ∧
      ∀ scale panX panY viewportWidth viewportHeight,
        let view := normalizeBrowserHandoffViewTransform scale panX panY viewportWidth viewportHeight
        normalizeBrowserHandoffViewTransform (some view.scale) (some view.panX) (some view.panY)
          viewportWidth viewportHeight = view :=
  ⟨anchored, normalize_idempotent⟩

end ExecutionHandoff.Browser
