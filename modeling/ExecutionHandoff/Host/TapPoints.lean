import ExecutionHandoff.Library.Rectangles
import Mathlib.Algebra.Order.Floor.Ring
import Mathlib.Data.Rat.Floor
import Mathlib.Tactic.Linarith
import Mathlib.Tactic.Ring

/-!
# Where a tap is posted

A tap has coordinates from 0 to 1 in the window.  The hosts map them to the
screen in three ways: the Linux host through `normalizedPointInWindow` and
`Math.round`, the macOS WebRTC host by scaling alone, and the macOS native host,
whose coordinates are millionths, by scaling to one less than the window.
Numbers are exact.
-/

namespace ExecutionHandoff.Host

open Library

/-! ## Linux -/

/-- The fields of `parseWindowGeometry` that place the window, within its bounds. -/
structure LinuxWindowGeometry where
  x : ℤ
  y : ℤ
  width : ℤ
  height : ℤ
  wide : 160 ≤ width
  tall : 120 ≤ height

def LinuxWindowGeometry.rect (geometry : LinuxWindowGeometry) : Rect ℤ :=
  ⟨geometry.x, geometry.y, geometry.width, geometry.height⟩

def insideOffset (extent normalized : ℚ) : ℚ :=
  let maxInside := max 0 (extent - min 1 extent)
  min (extent * normalized) maxInside

def normalizedPointInWindow (geometry : Rect ℚ) (normalizedX normalizedY : ℚ) :
    Except String (Point ℚ) :=
  if geometry.width ≤ 0 ∨ geometry.height ≤ 0 then .error "bounded window geometry is invalid"
  else if normalizedX < 0 ∨ 1 < normalizedX ∨ normalizedY < 0 ∨ 1 < normalizedY then
    .error "bounded window normalized coordinate is invalid"
  else
    .ok ⟨geometry.minX + insideOffset geometry.width normalizedX,
      geometry.minY + insideOffset geometry.height normalizedY⟩

/-- `Math.round`. -/
def roundHalfUp (value : ℚ) : ℤ := ⌊value + 1 / 2⌋

/-- The point of a tap in `LinuxWindowInput.apply`. -/
def LinuxWindowInput.screenPoint (geometry : LinuxWindowGeometry) (x y : ℚ) :
    Except String (Point ℤ) :=
  (normalizedPointInWindow ⟨geometry.x, geometry.y, geometry.width, geometry.height⟩ x y).map
    fun point => ⟨roundHalfUp point.x, roundHalfUp point.y⟩

/-! ## macOS -/

/-- The bounds of a window that input is let into. -/
structure InputBounds extends Rect ℚ where
  wide : 0 < width
  tall : 0 < height

/-- `screenPoint` of the WebRTC host. -/
def WebRtcInput.screenPoint (x y : ℚ) (inputBounds : InputBounds) : Point ℚ :=
  ⟨inputBounds.minX + inputBounds.width * x, inputBounds.minY + inputBounds.height * y⟩

/-- `screenPoint` of the native host. -/
def MacOSInputInjector.screenPoint (inputBounds : InputBounds) (x y : Int32) : Option (Point ℚ) :=
  let upper : Int32 := 1000000
  if (0 ≤ x ∧ x ≤ upper) ∧ (0 ≤ y ∧ y ≤ upper) then
    let maxX := max 0 (inputBounds.width - 1)
    let maxY := max 0 (inputBounds.height - 1)
    some ⟨inputBounds.minX + maxX * x.toInt / upper.toInt,
      inputBounds.minY + maxY * y.toInt / upper.toInt⟩
  else none

/-! ## A tap -/

/-- A coordinate from 0 to 1. -/
structure Normalized where
  value : ℚ
  nonneg : 0 ≤ value
  le_one : value ≤ 1

/-- A coordinate in millionths. -/
structure Millionths where
  value : Int32
  nonneg : 0 ≤ value
  le_upper : value ≤ 1000000

/-- A tap on a window of one of the hosts. -/
inductive Tap where
  | linux (geometry : LinuxWindowGeometry) (x y : Normalized)
  | macosWebRtc (inputBounds : InputBounds) (x y : Normalized)
  | macosNative (inputBounds : InputBounds) (x y : Millionths)

namespace Tap

/-- The point the tap is posted at. -/
def point : Tap → Option (Point ℚ)
  | linux geometry x y =>
      match LinuxWindowInput.screenPoint geometry x.value y.value with
      | .ok point => some ⟨point.x, point.y⟩
      | .error _ => none
  | macosWebRtc inputBounds x y => some (WebRtcInput.screenPoint x.value y.value inputBounds)
  | macosNative inputBounds x y => MacOSInputInjector.screenPoint inputBounds x.value y.value

def window : Tap → Rect ℚ
  | linux geometry _ _ => ⟨geometry.x, geometry.y, geometry.width, geometry.height⟩
  | macosWebRtc inputBounds _ _ | macosNative inputBounds _ _ => inputBounds.toRect

/-- One tap is not to the right of the other, nor below it, on the same window of the same host. -/
def NotPast : Tap → Tap → Prop
  | linux geometry x y, linux other x' y' =>
      geometry = other ∧ x.value ≤ x'.value ∧ y.value ≤ y'.value
  | macosWebRtc inputBounds x y, macosWebRtc other x' y' =>
      inputBounds = other ∧ x.value ≤ x'.value ∧ y.value ≤ y'.value
  | macosNative inputBounds x y, macosNative other x' y' =>
      inputBounds = other ∧ x.value ≤ x'.value ∧ y.value ≤ y'.value
  | _, _ => False

/-- The tap does not lie on the right or the lower edge, where the host only scales. -/
def Clear : Tap → Prop
  | macosWebRtc _ x y => x.value < 1 ∧ y.value < 1
  | linux _ _ _ | macosNative _ _ _ => True

end Tap

/-! ## One coordinate -/

section Coordinates

variable {extent normalized : ℚ}

theorem insideOffset_nonneg (positive : 0 < extent) (nonneg : 0 ≤ normalized) :
    0 ≤ insideOffset extent normalized :=
  le_min (mul_nonneg positive.le nonneg) (le_max_left _ _)

theorem insideOffset_le (long : 1 ≤ extent) : insideOffset extent normalized ≤ extent - 1 := by
  unfold insideOffset
  rw [min_eq_left long, max_eq_right (sub_nonneg.mpr long)]
  exact min_le_right _ _

theorem insideOffset_mono (positive : 0 < extent) {other : ℚ} (before : normalized ≤ other) :
    insideOffset extent normalized ≤ insideOffset extent other :=
  min_le_min_right _ (mul_le_mul_of_nonneg_left before positive.le)

theorem roundHalfUp_mono {value other : ℚ} (before : value ≤ other) :
    roundHalfUp value ≤ roundHalfUp other :=
  Int.floor_mono (by linarith)

theorem roundHalfUp_intCast (value : ℤ) : roundHalfUp value = value := by
  unfold roundHalfUp
  rw [Int.floor_intCast_add]
  norm_num

/-- Rounding keeps a coordinate between the window's first and last pixel. -/
theorem roundHalfUp_inside {start extent : ℤ} (long : 1 ≤ extent) (nonneg : 0 ≤ normalized) :
    start ≤ roundHalfUp (start + insideOffset extent normalized) ∧
      roundHalfUp (start + insideOffset extent normalized) < start + extent := by
  have positive : (1 : ℚ) ≤ extent := by exact_mod_cast long
  have lower := insideOffset_nonneg (lt_of_lt_of_le one_pos positive) nonneg
  have upper := @insideOffset_le _ normalized positive
  constructor
  · calc
      start = roundHalfUp (start : ℚ) := (roundHalfUp_intCast start).symm
      _ ≤ _ := roundHalfUp_mono (by linarith)
  · have last : roundHalfUp (start + insideOffset extent normalized) ≤ start + extent - 1 := by
      calc
        _ ≤ roundHalfUp ((start + extent - 1 : ℤ) : ℚ) := roundHalfUp_mono (by push_cast; linarith)
        _ = start + extent - 1 := roundHalfUp_intCast _
    omega

/-- Scaled to one less than the extent, a coordinate stays within it. -/
theorem scaled_inside (positive : 0 < extent) {value upper : ℚ} (nonneg : 0 ≤ value)
    (bounded : value ≤ upper) (some_upper : 0 < upper) :
    0 ≤ max 0 (extent - 1) * value / upper ∧ max 0 (extent - 1) * value / upper < extent := by
  have factor : 0 ≤ max 0 (extent - 1) := le_max_left _ _
  constructor
  · exact div_nonneg (mul_nonneg factor nonneg) some_upper.le
  · calc
      max 0 (extent - 1) * value / upper ≤ max 0 (extent - 1) := by
        rw [div_le_iff₀ some_upper]
        exact mul_le_mul_of_nonneg_left bounded factor
      _ < extent := max_lt positive (sub_one_lt extent)

/-- A coordinate that is only scaled is on the far edge at 1. -/
theorem start_add_mul_lt_iff (positive : 0 < extent) (start : ℚ) :
    start + extent * normalized < start + extent ↔ normalized < 1 := by
  rw [add_lt_add_iff_left, mul_lt_iff_lt_one_right positive]

end Coordinates

/-! ## The hosts -/

theorem LinuxWindowInput.screenPoint_eq (geometry : LinuxWindowGeometry) (x y : Normalized) :
    LinuxWindowInput.screenPoint geometry x.value y.value =
      .ok ⟨roundHalfUp (geometry.x + insideOffset geometry.width x.value),
        roundHalfUp (geometry.y + insideOffset geometry.height y.value)⟩ := by
  have wide : (160 : ℚ) ≤ geometry.width := by exact_mod_cast geometry.wide
  have tall : (120 : ℚ) ≤ geometry.height := by exact_mod_cast geometry.tall
  unfold LinuxWindowInput.screenPoint normalizedPointInWindow
  rw [if_neg, if_neg]
  · rfl
  · rintro (below | above | below | above)
    · exact absurd x.nonneg (not_le.mpr below)
    · exact absurd x.le_one (not_le.mpr above)
    · exact absurd y.nonneg (not_le.mpr below)
    · exact absurd y.le_one (not_le.mpr above)
  · rintro (narrow | short)
    · linarith
    · linarith

theorem MacOSInputInjector.screenPoint_eq (inputBounds : InputBounds) (x y : Millionths) :
    MacOSInputInjector.screenPoint inputBounds x.value y.value =
      some ⟨inputBounds.minX + max 0 (inputBounds.width - 1) * x.value.toInt / 1000000,
        inputBounds.minY + max 0 (inputBounds.height - 1) * y.value.toInt / 1000000⟩ := by
  have upper : ((1000000 : Int32).toInt : ℚ) = 1000000 := by norm_num [show
    (1000000 : Int32).toInt = 1000000 from rfl]
  unfold MacOSInputInjector.screenPoint
  dsimp only
  rw [if_pos ⟨⟨x.nonneg, x.le_upper⟩, y.nonneg, y.le_upper⟩, upper]

/-- A coordinate in millionths, as a number. -/
theorem Millionths.bounds (coordinate : Millionths) :
    (0 : ℚ) ≤ coordinate.value.toInt ∧ (coordinate.value.toInt : ℚ) ≤ 1000000 := by
  have nonneg : (0 : Int32).toInt ≤ coordinate.value.toInt := Int32.le_iff_toInt_le.mp coordinate.nonneg
  have upper : coordinate.value.toInt ≤ (1000000 : Int32).toInt :=
    Int32.le_iff_toInt_le.mp coordinate.le_upper
  exact ⟨by exact_mod_cast nonneg, by exact_mod_cast upper⟩

namespace Tap

theorem linux_point (geometry : LinuxWindowGeometry) (x y : Normalized) :
    (linux geometry x y).point =
      some ⟨(roundHalfUp (geometry.x + insideOffset geometry.width x.value) : ℤ),
        (roundHalfUp (geometry.y + insideOffset geometry.height y.value) : ℤ)⟩ := by
  unfold point
  dsimp only
  rw [LinuxWindowInput.screenPoint_eq]

theorem macosNative_point (inputBounds : InputBounds) (x y : Millionths) :
    (macosNative inputBounds x y).point =
      some ⟨inputBounds.minX + max 0 (inputBounds.width - 1) * x.value.toInt / 1000000,
        inputBounds.minY + max 0 (inputBounds.height - 1) * y.value.toInt / 1000000⟩ :=
  MacOSInputInjector.screenPoint_eq inputBounds x y

/-- Every tap is posted somewhere. -/
theorem point_isSome (tap : Tap) : ∃ point, tap.point = some point := by
  cases tap with
  | linux geometry x y => exact ⟨_, linux_point geometry x y⟩
  | macosWebRtc inputBounds x y => exact ⟨_, rfl⟩
  | macosNative inputBounds x y => exact ⟨_, macosNative_point inputBounds x y⟩

/-- A tap is posted in the window exactly if it does not lie on an edge that its host leaves out. -/
theorem contains_iff {tap : Tap} {point : Point ℚ} (posted : tap.point = some point) :
    tap.window.Contains point ↔ tap.Clear := by
  cases tap with
  | linux geometry x y =>
      rw [linux_point] at posted
      cases posted
      have wide : 1 ≤ geometry.width := by linarith [geometry.wide]
      have tall : 1 ≤ geometry.height := by linarith [geometry.tall]
      obtain ⟨left, right⟩ := @roundHalfUp_inside x.value geometry.x geometry.width wide x.nonneg
      obtain ⟨top, bottom⟩ := @roundHalfUp_inside y.value geometry.y geometry.height tall y.nonneg
      refine iff_of_true ⟨⟨?_, ?_⟩, ?_, ?_⟩ trivial
      · exact Int.cast_le.mpr left
      · change _ < (geometry.x : ℚ) + geometry.width
        rw [← Int.cast_add]
        exact Int.cast_lt.mpr right
      · exact Int.cast_le.mpr top
      · change _ < (geometry.y : ℚ) + geometry.height
        rw [← Int.cast_add]
        exact Int.cast_lt.mpr bottom
  | macosWebRtc inputBounds x y =>
      cases posted
      have left : inputBounds.minX ≤ inputBounds.minX + inputBounds.width * x.value :=
        le_add_of_nonneg_right (mul_nonneg inputBounds.wide.le x.nonneg)
      have top : inputBounds.minY ≤ inputBounds.minY + inputBounds.height * y.value :=
        le_add_of_nonneg_right (mul_nonneg inputBounds.tall.le y.nonneg)
      have right := @start_add_mul_lt_iff _ x.value inputBounds.wide inputBounds.minX
      have bottom := @start_add_mul_lt_iff _ y.value inputBounds.tall inputBounds.minY
      constructor
      · rintro ⟨⟨_, inside⟩, _, within⟩
        exact ⟨right.mp inside, bottom.mp within⟩
      · rintro ⟨inside, within⟩
        exact ⟨⟨left, right.mpr inside⟩, top, bottom.mpr within⟩
  | macosNative inputBounds x y =>
      rw [macosNative_point] at posted
      cases posted
      obtain ⟨left, right⟩ := scaled_inside inputBounds.wide x.bounds.1 x.bounds.2 (by norm_num)
      obtain ⟨top, bottom⟩ := scaled_inside inputBounds.tall y.bounds.1 y.bounds.2 (by norm_num)
      refine iff_of_true ⟨⟨?_, ?_⟩, ?_, ?_⟩ trivial
      · exact le_add_of_nonneg_right left
      · exact (add_lt_add_iff_left _).mpr right
      · exact le_add_of_nonneg_right top
      · exact (add_lt_add_iff_left _).mpr bottom

/-- A tap further to the right or further down is not posted to the left or above. -/
theorem point_mono {tap later : Tap} (before : tap.NotPast later) {point further : Point ℚ}
    (posted : tap.point = some point) (next : later.point = some further) :
    point.x ≤ further.x ∧ point.y ≤ further.y := by
  cases tap with
  | linux geometry x y =>
      cases later with
      | linux other x' y' =>
          obtain ⟨rfl, left, top⟩ := before
          rw [linux_point] at posted next
          cases posted
          cases next
          have wide : (0 : ℚ) < geometry.width := by
            exact_mod_cast lt_of_lt_of_le (by norm_num) geometry.wide
          have tall : (0 : ℚ) < geometry.height := by
            exact_mod_cast lt_of_lt_of_le (by norm_num) geometry.tall
          have across := roundHalfUp_mono
            ((add_le_add_iff_left (geometry.x : ℚ)).mpr (insideOffset_mono wide left))
          have down := roundHalfUp_mono
            ((add_le_add_iff_left (geometry.y : ℚ)).mpr (insideOffset_mono tall top))
          exact ⟨Int.cast_le.mpr across, Int.cast_le.mpr down⟩
      | macosWebRtc | macosNative => exact before.elim
  | macosWebRtc inputBounds x y =>
      cases later with
      | macosWebRtc other x' y' =>
          obtain ⟨rfl, left, top⟩ := before
          cases posted
          cases next
          exact ⟨(add_le_add_iff_left _).mpr (mul_le_mul_of_nonneg_left left inputBounds.wide.le),
            (add_le_add_iff_left _).mpr (mul_le_mul_of_nonneg_left top inputBounds.tall.le)⟩
      | linux | macosNative => exact before.elim
  | macosNative inputBounds x y =>
      cases later with
      | macosNative other x' y' =>
          obtain ⟨rfl, left, top⟩ := before
          rw [macosNative_point] at posted next
          cases posted
          cases next
          have across : (x.value.toInt : ℚ) ≤ x'.value.toInt := by
            exact_mod_cast Int32.le_iff_toInt_le.mp left
          have down : (y.value.toInt : ℚ) ≤ y'.value.toInt := by
            exact_mod_cast Int32.le_iff_toInt_le.mp top
          refine ⟨(add_le_add_iff_left _).mpr ?_, (add_le_add_iff_left _).mpr ?_⟩
          · gcongr
          · gcongr
      | linux | macosWebRtc => exact before.elim

/-- A tap is posted inside its window exactly if the macOS WebRTC host does not get it on the right
or the lower edge; and taps are posted in the order of their coordinates. -/
theorem posted_inside (tap : Tap) :
    ∃ point, tap.point = some point ∧ (tap.window.Contains point ↔ tap.Clear) ∧
      ∀ later further, tap.NotPast later → later.point = some further →
        point.x ≤ further.x ∧ point.y ≤ further.y := by
  obtain ⟨point, posted⟩ := tap.point_isSome
  exact ⟨point, posted, contains_iff posted,
    fun later further before next => point_mono before posted next⟩

theorem sampleWide : (0 : ℚ) < 160 := by norm_num

theorem sampleTall : (0 : ℚ) < 120 := by norm_num

theorem sampleEdge_nonneg : (0 : ℚ) ≤ 1 := zero_le_one

theorem sampleEdge_le_one : (1 : ℚ) ≤ 1 := le_rfl

theorem sampleMiddle_nonneg : (0 : ℚ) ≤ 1 / 2 := by norm_num

theorem sampleMiddle_le_one : (1 / 2 : ℚ) ≤ 1 := by norm_num

/-- A tap in the middle of the right edge. -/
def sampleEdge : Tap :=
  macosWebRtc ⟨⟨0, 0, 160, 120⟩, sampleWide, sampleTall⟩
    ⟨1, sampleEdge_nonneg, sampleEdge_le_one⟩ ⟨1 / 2, sampleMiddle_nonneg, sampleMiddle_le_one⟩

/-- It is posted on the first column to the right of the window. -/
theorem sampleEdge_outside :
    ∃ point, sampleEdge.point = some point ∧ ¬ sampleEdge.window.Contains point := by
  refine ⟨_, rfl, fun inside => ?_⟩
  have clear : sampleEdge.Clear := (contains_iff rfl).mp inside
  exact lt_irrefl _ clear.1

end Tap

end ExecutionHandoff.Host
