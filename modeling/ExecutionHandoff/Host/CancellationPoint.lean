import ExecutionHandoff.Host.TapPoints
import ExecutionHandoff.Library.Text

/-!
# Where an interrupted press is released

Before a primary press a host knows a point to move to if the press has to be
taken back: beside the window if there is room on the display, else the corner
of the display that is farthest from the press.  Distances are compared exactly.
-/

namespace ExecutionHandoff.Host

open Library
open Rect (Contains maxX maxY)

section Corners

variable {α : Type*} [CommRing α] [LinearOrder α]

/-- The square of what `hypot` of the differences is. -/
def distance (point other : Point α) : α :=
  (point.x - other.x) * (point.x - other.x) + (point.y - other.y) * (point.y - other.y)

/-- `reduce`, and `max(by:)`: the first of the candidates that is farthest. -/
def farthest (pressed first : Point α) (candidates : List (Point α)) : Point α :=
  candidates.foldl (fun best candidate =>
    if distance best pressed < distance candidate pressed then candidate else best) first

end Corners

/-! ## Linux -/

/-- `cancellationPoint`, with the size of the display as `getdisplaygeometry` tells it, or zeros. -/
def LinuxWindowInput.cancellationPoint (geometry : LinuxWindowGeometry) (width height : ℤ)
    (pressed : Point ℤ) : Point ℤ :=
  if isSafeInteger width ∧ isSafeInteger height ∧ 1 < width ∧ 1 < height then
    let safeX := min (max pressed.x 1) (width - 2)
    let safeY := min (max pressed.y 1) (height - 2)
    let margin := 2
    if geometry.x - margin ≥ 0 then ⟨geometry.x - margin, safeY⟩
    else if geometry.x + geometry.width + margin < width then
      ⟨geometry.x + geometry.width + margin, safeY⟩
    else if geometry.y - margin ≥ 0 then ⟨safeX, geometry.y - margin⟩
    else if geometry.y + geometry.height + margin < height then
      ⟨safeX, geometry.y + geometry.height + margin⟩
    else
      farthest pressed ⟨1, 1⟩ [⟨width - 2, 1⟩, ⟨1, height - 2⟩, ⟨width - 2, height - 2⟩]
  else ⟨max 0 (geometry.x - 2), max 0 (geometry.y - 2)⟩

/-! ## macOS -/

/-- `cancellationPoint`, with the bounds of the window, of a display and the point of the press. -/
def WebRtcInput.cancellationPoint (activeBounds displayBounds : Rect ℚ) (primaryPoint : Point ℚ) :
    Point ℚ :=
  let margin := 8
  let safeY := min (max primaryPoint.y (displayBounds.minY + 1)) (displayBounds.maxY - 1)
  let safeX := min (max primaryPoint.x (displayBounds.minX + 1)) (displayBounds.maxX - 1)
  if activeBounds.minX - margin ≥ displayBounds.minX then ⟨activeBounds.minX - margin, safeY⟩
  else if activeBounds.maxX + margin ≤ displayBounds.maxX then ⟨activeBounds.maxX + margin, safeY⟩
  else if activeBounds.minY - margin ≥ displayBounds.minY then ⟨safeX, activeBounds.minY - margin⟩
  else if activeBounds.maxY + margin ≤ displayBounds.maxY then ⟨safeX, activeBounds.maxY + margin⟩
  else
    farthest primaryPoint ⟨displayBounds.minX + 2, displayBounds.minY + 2⟩
      [⟨displayBounds.maxX - 2, displayBounds.minY + 2⟩,
        ⟨displayBounds.minX + 2, displayBounds.maxY - 2⟩,
        ⟨displayBounds.maxX - 2, displayBounds.maxY - 2⟩]

/-! ## What the point is for -/

section Safety

variable {α : Type*} [CommRing α] [LinearOrder α] (display window : Rect α) (margin : α)

/-- On some side of the window the display goes on beyond the margin. -/
def Room : Prop :=
  display.minX ≤ window.minX - margin ∨ window.maxX + margin < display.maxX ∨
    display.minY ≤ window.minY - margin ∨ window.maxY + margin < display.maxY

/-- The corners of the display, moved inwards. -/
def corners (left right top bottom : α) : List (Point α) :=
  [⟨left, top⟩, ⟨right, top⟩, ⟨left, bottom⟩, ⟨right, bottom⟩]

/-- The point to move to is on the display; it is outside the window if a point of the display keeps
the margin to it, and otherwise it is the corner farthest from the press. -/
structure SafeCleanup (inset : List (Point α)) (pressed cleanup : Point α) : Prop where
  onDisplay : display.Contains cleanup
  outside : (∃ point, display.Contains point ∧ window.Beside margin point) → ¬ window.Contains cleanup
  corner : (¬ ∃ point, display.Contains point ∧ window.Beside margin point) →
    cleanup ∈ inset ∧ ∀ other ∈ inset, distance other pressed ≤ distance cleanup pressed

variable {display window margin} [IsStrictOrderedRing α] {pressed cleanup : Point α}

/-- There is room exactly if some point of the display keeps the margin. -/
theorem room_iff (inWindow : window.Contains pressed) (onDisplay : display.Contains pressed)
    (kept : 0 < margin) :
    Room display window margin ↔ ∃ point, display.Contains point ∧ window.Beside margin point := by
  obtain ⟨⟨left, right⟩, top, bottom⟩ := inWindow
  obtain ⟨⟨first, last⟩, upper, lower⟩ := onDisplay
  constructor
  · rintro (before | behind | above | below)
    · refine ⟨⟨window.minX - margin, pressed.y⟩, ⟨⟨before, ?_⟩, upper, lower⟩, .inl le_rfl⟩
      linarith
    · refine ⟨⟨window.maxX + margin, pressed.y⟩, ⟨⟨?_, behind⟩, upper, lower⟩, .inr (.inl le_rfl)⟩
      linarith
    · refine ⟨⟨pressed.x, window.minY - margin⟩, ⟨⟨first, last⟩, above, ?_⟩,
        .inr (.inr (.inl le_rfl))⟩
      linarith
    · refine ⟨⟨pressed.x, window.maxY + margin⟩, ⟨⟨first, last⟩, ?_, below⟩,
        .inr (.inr (.inr le_rfl))⟩
      linarith
  · rintro ⟨point, ⟨⟨from_left, to_right⟩, from_top, to_bottom⟩, before | behind | above | below⟩
    · exact .inl (from_left.trans before)
    · exact .inr (.inl (behind.trans_lt to_right))
    · exact .inr (.inr (.inl (from_top.trans above)))
    · exact .inr (.inr (.inr (below.trans_lt to_bottom)))

/-- A point of the display that keeps the margin is safe. -/
theorem SafeCleanup.of_beside {inset : List (Point α)} (kept : 0 < margin)
    (onDisplay : display.Contains cleanup) (beside : window.Beside margin cleanup) :
    SafeCleanup display window margin inset pressed cleanup where
  onDisplay := onDisplay
  outside _ := beside.not_contains kept
  corner none := absurd ⟨cleanup, onDisplay, beside⟩ none

/-- In each coordinate the farther one is taken. -/
theorem farthest_eq (pressed : Point α) (left right top bottom : α) :
    farthest pressed ⟨left, top⟩ [⟨right, top⟩, ⟨left, bottom⟩, ⟨right, bottom⟩] =
      ⟨if (left - pressed.x) * (left - pressed.x) < (right - pressed.x) * (right - pressed.x) then right
        else left,
      if (top - pressed.y) * (top - pressed.y) < (bottom - pressed.y) * (bottom - pressed.y) then bottom
        else top⟩ := by
  unfold farthest
  simp only [List.foldl_cons, List.foldl_nil]
  by_cases across : (left - pressed.x) * (left - pressed.x) <
      (right - pressed.x) * (right - pressed.x)
  · have first : distance ⟨left, top⟩ pressed < distance ⟨right, top⟩ pressed := by
      unfold distance
      linarith
    rw [if_pos first, if_pos across]
    by_cases down : (top - pressed.y) * (top - pressed.y) < (bottom - pressed.y) * (bottom - pressed.y)
    · rw [if_pos down]
      by_cases second : distance ⟨right, top⟩ pressed < distance ⟨left, bottom⟩ pressed
      · rw [if_pos second, if_pos]
        unfold distance
        linarith
      · rw [if_neg second, if_pos]
        unfold distance
        linarith
    · have second : ¬ distance ⟨right, top⟩ pressed < distance ⟨left, bottom⟩ pressed := by
        unfold distance
        linarith
      rw [if_neg down, if_neg second, if_neg]
      unfold distance
      linarith
  · have first : ¬ distance ⟨left, top⟩ pressed < distance ⟨right, top⟩ pressed := by
      unfold distance
      linarith
    rw [if_neg first, if_neg across]
    by_cases down : (top - pressed.y) * (top - pressed.y) < (bottom - pressed.y) * (bottom - pressed.y)
    · have second : distance ⟨left, top⟩ pressed < distance ⟨left, bottom⟩ pressed := by
        unfold distance
        linarith
      rw [if_pos down, if_pos second, if_neg]
      unfold distance
      linarith
    · have second : ¬ distance ⟨left, top⟩ pressed < distance ⟨left, bottom⟩ pressed := by
        unfold distance
        linarith
      rw [if_neg down, if_neg second, if_neg]
      unfold distance
      linarith

/-- The farthest corner is one of the corners, and none is farther. -/
theorem farthest_corner (pressed : Point α) (left right top bottom : α) :
    farthest pressed ⟨left, top⟩ [⟨right, top⟩, ⟨left, bottom⟩, ⟨right, bottom⟩] ∈
        corners left right top bottom ∧
      ∀ other ∈ corners left right top bottom, distance other pressed ≤
        distance (farthest pressed ⟨left, top⟩
          [⟨right, top⟩, ⟨left, bottom⟩, ⟨right, bottom⟩]) pressed := by
  rw [farthest_eq]
  unfold corners distance
  simp only [List.mem_cons, List.not_mem_nil, or_false]
  constructor
  · split <;> split <;> simp
  · rintro other (rfl | rfl | rfl | rfl) <;> dsimp only <;> split <;> split <;> linarith

/-- With no room the farthest corner is safe if it is on the display. -/
theorem SafeCleanup.of_farthest (inWindow : window.Contains pressed)
    (onPress : display.Contains pressed) (kept : 0 < margin)
    (full : ¬ Room display window margin) {left right top bottom : α}
    (onDisplay : display.Contains
      (farthest pressed ⟨left, top⟩ [⟨right, top⟩, ⟨left, bottom⟩, ⟨right, bottom⟩])) :
    SafeCleanup display window margin (corners left right top bottom) pressed
      (farthest pressed ⟨left, top⟩ [⟨right, top⟩, ⟨left, bottom⟩, ⟨right, bottom⟩]) where
  onDisplay := onDisplay
  outside room := absurd ((room_iff inWindow onPress kept).mpr room) full
  corner _ := farthest_corner pressed left right top bottom

end Safety

/-! ## The Linux host -/

/-- A press on a display of known size, in the window. -/
structure LinuxPress where
  geometry : LinuxWindowGeometry
  width : ℤ
  height : ℤ
  pressed : Point ℤ
  known : isSafeInteger width ∧ isSafeInteger height
  large : 1 < width ∧ 1 < height
  inWindow : geometry.rect.Contains pressed
  onDisplay : (⟨0, 0, width, height⟩ : Rect ℤ).Contains pressed

namespace LinuxPress

variable (press : LinuxPress)

def display : Rect ℤ := ⟨0, 0, press.width, press.height⟩

def cleanup : Point ℤ :=
  LinuxWindowInput.cancellationPoint press.geometry press.width press.height press.pressed

/-- `coordinate_in_bounds` of the XTEST helper for both coordinates of a command. -/
def helperAccepts (point : Point ℤ) : Bool :=
  decide (point.x ≥ 0 ∧ point.x < press.width) && decide (point.y ≥ 0 ∧ point.y < press.height)

def Safe : Prop :=
  SafeCleanup press.display press.geometry.rect 2
    (corners 1 (press.width - 2) 1 (press.height - 2)) press.pressed press.cleanup

variable {press}

/-- What the helper accepts is on the display. -/
theorem helperAccepts_iff {point : Point ℤ} :
    press.helperAccepts point = true ↔ press.display.Contains point := by
  unfold helperAccepts Contains maxX maxY display
  dsimp only
  rw [Bool.and_eq_true, decide_eq_true_iff, decide_eq_true_iff, zero_add, zero_add]

theorem display_contains {point : Point ℤ} (across : 0 ≤ point.x ∧ point.x < press.width)
    (down : 0 ≤ point.y ∧ point.y < press.height) : press.display.Contains point :=
  helperAccepts_iff.mp (Bool.and_eq_true_iff.mpr ⟨decide_eq_true across, decide_eq_true down⟩)

/-- A coordinate of the press, moved away from the edges, is still on the display. -/
theorem held {value limit : ℤ} (large : 1 < limit) :
    0 ≤ min (max value 1) (limit - 2) ∧ min (max value 1) (limit - 2) < limit := by
  omega

/-- In each coordinate the press is on the display and in the window. -/
theorem overlap (press : LinuxPress) :
    (press.geometry.x ≤ press.pressed.x ∧ press.pressed.x < press.geometry.x + press.geometry.width ∧
        0 ≤ press.pressed.x ∧ press.pressed.x < press.width) ∧
      press.geometry.y ≤ press.pressed.y ∧
        press.pressed.y < press.geometry.y + press.geometry.height ∧
        0 ≤ press.pressed.y ∧ press.pressed.y < press.height := by
  obtain ⟨⟨left, right⟩, top, bottom⟩ := press.inWindow
  obtain ⟨⟨first, last⟩, upper, lower⟩ := press.onDisplay
  unfold maxX at last
  unfold maxY at lower
  rw [zero_add] at last lower
  exact ⟨⟨left, right, first, last⟩, top, bottom, upper, lower⟩

theorem safe (press : LinuxPress) : press.Safe := by
  obtain ⟨⟨left, right, first, last⟩, top, bottom, upper, lower⟩ := press.overlap
  have across := @held press.pressed.x press.width press.large.1
  have down := @held press.pressed.y press.height press.large.2
  unfold Safe cleanup LinuxWindowInput.cancellationPoint
  rw [if_pos ⟨press.known.1, press.known.2, press.large⟩]
  dsimp only
  by_cases roomLeft : press.geometry.x - 2 ≥ 0
  · rw [if_pos roomLeft]
    exact .of_beside (by decide) (display_contains ⟨roomLeft, by dsimp only; omega⟩ down)
      (.inl le_rfl)
  by_cases roomRight : press.geometry.x + press.geometry.width + 2 < press.width
  · rw [if_neg roomLeft, if_pos roomRight]
    exact .of_beside (by decide) (display_contains ⟨by dsimp only; omega, roomRight⟩ down)
      (.inr (.inl le_rfl))
  by_cases roomTop : press.geometry.y - 2 ≥ 0
  · rw [if_neg roomLeft, if_neg roomRight, if_pos roomTop]
    exact .of_beside (by decide) (display_contains across ⟨roomTop, by dsimp only; omega⟩)
      (.inr (.inr (.inl le_rfl)))
  by_cases roomBottom : press.geometry.y + press.geometry.height + 2 < press.height
  · rw [if_neg roomLeft, if_neg roomRight, if_neg roomTop, if_pos roomBottom]
    exact .of_beside (by decide) (display_contains across ⟨by dsimp only; omega, roomBottom⟩)
      (.inr (.inr (.inr le_rfl)))
  rw [if_neg roomLeft, if_neg roomRight, if_neg roomTop, if_neg roomBottom]
  have full : ¬ Room press.display press.geometry.rect 2 := by
    unfold Room maxX maxY display LinuxWindowGeometry.rect
    dsimp only
    omega
  have corner := (farthest_corner press.pressed 1 (press.width - 2) 1 (press.height - 2)).1
  refine SafeCleanup.of_farthest press.inWindow press.onDisplay (by decide) full ?_
  unfold corners at corner
  have large := press.large
  simp only [List.mem_cons, List.not_mem_nil, or_false] at corner
  rcases corner with same | same | same | same <;> rw [same] <;>
    exact display_contains ⟨by dsimp only; omega, by dsimp only; omega⟩
      ⟨by dsimp only; omega, by dsimp only; omega⟩

end LinuxPress

/-! ## The macOS host -/

/-- A press on a display, in the window. -/
structure MacPress where
  activeBounds : Rect ℚ
  displayBounds : Rect ℚ
  primaryPoint : Point ℚ
  large : 1 < displayBounds.width ∧ 1 < displayBounds.height
  inWindow : activeBounds.Contains primaryPoint
  onDisplay : displayBounds.Contains primaryPoint

namespace MacPress

variable (press : MacPress)

def cleanup : Point ℚ :=
  WebRtcInput.cancellationPoint press.activeBounds press.displayBounds press.primaryPoint

def Safe : Prop :=
  SafeCleanup press.displayBounds press.activeBounds 8
    (corners (press.displayBounds.minX + 2) (press.displayBounds.maxX - 2)
      (press.displayBounds.minY + 2) (press.displayBounds.maxY - 2))
    press.primaryPoint press.cleanup

/-- The four tests of the host. -/
abbrev roomLeft : Prop := press.activeBounds.minX - 8 ≥ press.displayBounds.minX

abbrev roomRight : Prop := press.activeBounds.maxX + 8 ≤ press.displayBounds.maxX

abbrev roomTop : Prop := press.activeBounds.minY - 8 ≥ press.displayBounds.minY

abbrev roomBottom : Prop := press.activeBounds.maxY + 8 ≤ press.displayBounds.maxY

/-- An extent of the display in which a corner moved inwards is still on the display. -/
def Inset (start extent value : ℚ) : Prop := 2 < extent ∨ (extent = 2 ∧ start + 1 < value)

/-- Where the right or the lower side is looked at, the margin does not end on the edge of the
display; and where a corner is taken, the display is large enough for it. -/
def Fits : Prop :=
  (¬ press.roomLeft → press.activeBounds.maxX + 8 ≠ press.displayBounds.maxX) ∧
    (¬ press.roomLeft → ¬ press.roomRight → ¬ press.roomTop →
      press.activeBounds.maxY + 8 ≠ press.displayBounds.maxY) ∧
    (¬ press.roomLeft → ¬ press.roomRight → ¬ press.roomTop → ¬ press.roomBottom →
      Inset press.displayBounds.minX press.displayBounds.width press.primaryPoint.x ∧
        Inset press.displayBounds.minY press.displayBounds.height press.primaryPoint.y)

/-- A coordinate of the press, moved away from the edges, is still on the display. -/
theorem held {value start extent : ℚ} (large : 1 < extent) :
    start ≤ min (max value (start + 1)) (start + extent - 1) ∧
      min (max value (start + 1)) (start + extent - 1) < start + extent := by
  constructor
  · refine le_min (le_max_of_le_right ?_) ?_
    · linarith
    · linarith
  · refine (min_le_right _ _).trans_lt ?_
    linarith

/-- Of the two coordinates moved inwards, the one farther from the press is on the display. -/
theorem inset_iff {start extent value : ℚ} (large : 1 < extent) (last : value < start + extent) :
    (start ≤ (if (start + 2 - value) * (start + 2 - value) <
          (start + extent - 2 - value) * (start + extent - 2 - value) then start + extent - 2
        else start + 2) ∧
      (if (start + 2 - value) * (start + 2 - value) <
          (start + extent - 2 - value) * (start + extent - 2 - value) then start + extent - 2
        else start + 2) < start + extent) ↔ Inset start extent value := by
  unfold Inset
  rcases lt_trichotomy extent 2 with small | same | wide
  · refine iff_of_false ?_ (by rintro (wide | ⟨same, _⟩) <;> linarith)
    rintro ⟨above, below⟩
    split at above <;> split at below <;> linarith
  · subst same
    split
    · rename_i farther
      exact iff_of_true ⟨by linarith, by linarith⟩ (.inr ⟨rfl, by linarith⟩)
    · rename_i nearer
      refine iff_of_false (by rintro ⟨_, below⟩; linarith) ?_
      rintro (wide | ⟨_, beyond⟩)
      · exact lt_irrefl _ wide
      · exact nearer (by linarith)
  · refine iff_of_true ?_ (.inl wide)
    split
    · exact ⟨by linarith, by linarith⟩
    · exact ⟨by linarith, by linarith⟩

variable {press}

/-- A point on the edge of the display is not on the display. -/
theorem not_safe_of_edge
    (edge : press.cleanup.x = press.displayBounds.maxX ∨ press.cleanup.y = press.displayBounds.maxY) :
    ¬ press.Safe := by
  intro safe
  obtain ⟨⟨_, right⟩, _, bottom⟩ := safe.onDisplay
  rcases edge with same | same
  · exact lt_irrefl _ (same ▸ right)
  · exact lt_irrefl _ (same ▸ bottom)

/-- The point is safe exactly if the display fits. -/
theorem safe_iff (press : MacPress) : press.Safe ↔ press.Fits := by
  obtain ⟨⟨left, right⟩, top, bottom⟩ := press.inWindow
  obtain ⟨⟨first, last⟩, upper, lower⟩ := press.onDisplay
  have across := @held press.primaryPoint.x press.displayBounds.minX press.displayBounds.width
    press.large.1
  have down := @held press.primaryPoint.y press.displayBounds.minY press.displayBounds.height
    press.large.2
  have cleanup_eq : press.cleanup = WebRtcInput.cancellationPoint press.activeBounds
    press.displayBounds press.primaryPoint := rfl
  unfold WebRtcInput.cancellationPoint at cleanup_eq
  dsimp only at cleanup_eq
  unfold Fits
  by_cases roomLeft : press.roomLeft
  · rw [if_pos roomLeft] at cleanup_eq
    refine iff_of_true ?_ ⟨fun no => absurd roomLeft no, fun no => absurd roomLeft no,
      fun no => absurd roomLeft no⟩
    unfold Safe
    rw [cleanup_eq]
    exact .of_beside (by norm_num) ⟨⟨roomLeft, by dsimp only; linarith⟩, down⟩ (.inl le_rfl)
  rw [if_neg roomLeft] at cleanup_eq
  by_cases roomRight : press.roomRight
  · rw [if_pos roomRight] at cleanup_eq
    rcases lt_or_eq_of_le roomRight with inside | edge
    · refine iff_of_true ?_ ⟨fun _ => ne_of_lt inside, fun _ no => absurd roomRight no,
        fun _ no => absurd roomRight no⟩
      unfold Safe
      rw [cleanup_eq]
      exact .of_beside (by norm_num) ⟨⟨by dsimp only; linarith, inside⟩, down⟩ (.inr (.inl le_rfl))
    · refine iff_of_false (not_safe_of_edge (.inl ?_)) fun fits => fits.1 roomLeft edge
      rw [cleanup_eq]
      exact edge
  rw [if_neg roomRight] at cleanup_eq
  have away : press.activeBounds.maxX + 8 ≠ press.displayBounds.maxX := fun same =>
    roomRight same.le
  by_cases roomTop : press.roomTop
  · rw [if_pos roomTop] at cleanup_eq
    refine iff_of_true ?_ ⟨fun _ => away, fun _ _ no => absurd roomTop no,
      fun _ _ no => absurd roomTop no⟩
    unfold Safe
    rw [cleanup_eq]
    exact .of_beside (by norm_num) ⟨across, roomTop, by dsimp only; linarith⟩
      (.inr (.inr (.inl le_rfl)))
  rw [if_neg roomTop] at cleanup_eq
  by_cases roomBottom : press.roomBottom
  · rw [if_pos roomBottom] at cleanup_eq
    rcases lt_or_eq_of_le roomBottom with inside | edge
    · refine iff_of_true ?_ ⟨fun _ => away, fun _ _ _ => ne_of_lt inside,
        fun _ _ _ no => absurd roomBottom no⟩
      unfold Safe
      rw [cleanup_eq]
      exact .of_beside (by norm_num) ⟨across, by dsimp only; linarith, inside⟩
        (.inr (.inr (.inr le_rfl)))
    · refine iff_of_false (not_safe_of_edge (.inr ?_)) fun fits =>
        fits.2.1 roomLeft roomRight roomTop edge
      rw [cleanup_eq]
      exact edge
  rw [if_neg roomBottom] at cleanup_eq
  have under : press.activeBounds.maxY + 8 ≠ press.displayBounds.maxY := fun same =>
    roomBottom same.le
  have full : ¬ Room press.displayBounds press.activeBounds 8 := by
    rintro (room | room | room | room)
    · exact roomLeft room
    · exact roomRight room.le
    · exact roomTop room
    · exact roomBottom room.le
  have fits : press.displayBounds.Contains press.cleanup ↔
      Inset press.displayBounds.minX press.displayBounds.width press.primaryPoint.x ∧
        Inset press.displayBounds.minY press.displayBounds.height press.primaryPoint.y := by
    rw [cleanup_eq, farthest_eq, ← inset_iff press.large.1 last, ← inset_iff press.large.2 lower]
    rfl
  constructor
  · intro safe
    exact ⟨fun _ => away, fun _ _ _ => under, fun _ _ _ _ => fits.mp safe.onDisplay⟩
  · rintro ⟨_, _, inset⟩
    have onDisplay := fits.mpr (inset roomLeft roomRight roomTop roomBottom)
    unfold Safe
    rw [cleanup_eq] at onDisplay ⊢
    exact .of_farthest press.inWindow press.onDisplay (by norm_num) full onDisplay

end MacPress

/-- On the Linux host the helper accepts the point, and it is safe; on the macOS host it is safe
exactly if the display fits. -/
theorem cancellationPoint_safe (linux : LinuxPress) (mac : MacPress) :
    (linux.helperAccepts linux.cleanup = true ∧ linux.Safe) ∧ (mac.Safe ↔ mac.Fits) :=
  ⟨⟨LinuxPress.helperAccepts_iff.mpr linux.safe.onDisplay, linux.safe⟩, mac.safe_iff⟩

namespace MacPress

theorem sampleFlush_large : (1 : ℚ) < 1440 ∧ (1 : ℚ) < 900 := by norm_num

theorem sampleFlush_inWindow : (⟨0, 0, 1432, 900⟩ : Rect ℚ).Contains ⟨700, 450⟩ := by
  norm_num [Contains, maxX, maxY]

theorem sampleFlush_onDisplay : (⟨0, 0, 1440, 900⟩ : Rect ℚ).Contains ⟨700, 450⟩ := by
  norm_num [Contains, maxX, maxY]

/-- A window from the left edge of a display to eight points before the right one. -/
def sampleFlush : MacPress :=
  ⟨⟨0, 0, 1432, 900⟩, ⟨0, 0, 1440, 900⟩, ⟨700, 450⟩, sampleFlush_large, sampleFlush_inWindow,
    sampleFlush_onDisplay⟩

/-- The point is on the first column behind the display. -/
theorem sampleFlush_unsafe : sampleFlush.cleanup = ⟨1440, 450⟩ ∧
    ¬ sampleFlush.displayBounds.Contains sampleFlush.cleanup ∧ ¬ sampleFlush.Safe := by
  have cleanup : sampleFlush.cleanup = ⟨1440, 450⟩ := by
    norm_num [MacPress.cleanup, WebRtcInput.cancellationPoint, sampleFlush, Rect.maxX, Rect.maxY]
  have outside : ¬ sampleFlush.displayBounds.Contains sampleFlush.cleanup := by
    rw [cleanup]
    norm_num [sampleFlush, Rect.Contains, Rect.maxX, Rect.maxY]
  exact ⟨cleanup, outside, fun safe => outside safe.onDisplay⟩

end MacPress

end ExecutionHandoff.Host
