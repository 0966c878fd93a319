import ExecutionHandoff.Host.WindowLineageRuns
import Mathlib.Algebra.GroupWithZero.Nat

/-!
# What the authority yields

Every run of the controller from its launch, with what holds of the targets
that the authority yields in it.
-/

namespace ExecutionHandoff.Host

open Library Bool
open Option (map_eq_some_iff bind_eq_some_iff)

variable {Frame : Type} {geometry : WindowGeometry Frame}

namespace WindowLineageController

variable {controller after : WindowLineageController Frame} {inventory : List WindowID}
  {past : List (Transition Frame)} {probe moved : Probe Frame} {outcome : ProbeOutcome Frame}
  {targetProcessID : ProcessID}

/-- What a step of a probe does to the authority. -/
theorem advance_authority
    (step : controller.advance geometry probe outcome = some (after, moved)) :
    after.authority = controller.authority ∨
      after.authority = controller.authority.failClosed ∨
      controller.authority.failed = false ∧ ∃ current,
        current.processID = controller.authority.current.processID ∧
          after.authority = { controller.authority with current := current, fenced := false } := by
  obtain ⟨previous, observed, stage⟩ := probe
  cases outcome with
  | proceeds =>
      cases stage with
      | rotating move =>
          unfold advance at step
          dsimp only at step
          split at step
          · cases step
            exact .inl rfl
          · rename_i rotates
            cases step
            obtain ⟨same, process, unfailed⟩ := rotate_eq rotates
            exact .inr (.inr ⟨unfailed, move.target, process, same⟩)
      | resuming =>
          unfold advance at step
          dsimp only at step
          split at step
          · cases step
            exact .inl rfl
          · rename_i resumes
            cases step
            unfold WindowTargetAuthority.resume at resumes
            split at resumes
            · rename_i allowed
              simp only [and_eq_true, not_eq_true'] at allowed
              cases resumes
              exact .inr (.inr ⟨allowed.1.1, controller.authority.current, rfl, rfl⟩)
            · cases resumes
      | concluding =>
          unfold advance at step
          dsimp only at step
          split at step <;> cases step <;> exact .inl rfl
      | failing =>
          cases step
          exact .inr (.inl rfl)
      | _ => cases step <;> exact .inl rfl
  | throws applied =>
      cases stage <;> cases step
      case' updatingFilter.refl => split
      all_goals exact .inl rfl
  | _ => cases stage <;> cases step <;> exact .inl rfl

theorem launch_spec {targetWindowID : Option WindowID}
    {content lineageInventory : ShareableContent Frame}
    (launched : launch geometry targetProcessID targetWindowID content lineageInventory =
      .ok controller) :
    Live (sameProcessWindowIDs lineageInventory targetProcessID) controller [] ∧
      controller.authority.failed = false ∧ controller.authority.generation = 0 ∧
      controller.authority.current.processID = targetProcessID := by
  unfold launch at launched
  split at launched
  · cases launched
  · rename_i surface selected
    obtain ⟨windowID, target, filter, _⟩ := selectedCaptureSurface_target selected
    rw [target] at launched
    cases launched
    refine ⟨?_, rfl, rfl, rfl⟩
    exact {
      idle := fun _ => ⟨fun _ no => (by cases no), filter⟩
      sole := AtMostOne.of_none (fun _ no => by cases no)
      sound := fun _ no => by cases no
      recorder := AtMostOne.of_none (fun _ no => by cases no)
      apart := fun _ no => by cases no
      stacked := fun _ no => by cases no
      settled := fun _ => List.IsChain.singleton _
      initial := fun _ known => known
      remembered := fun _ no => by cases no
      admitted := fun _ no => absurd rfl no }

/-- What happens is the start of a transition, a record, or the move of a probe. -/
theorem transition_cases {event : LineageEvent Frame} {happened : Transition Frame}
    (happens : controller.transition event = some happened) :
    happened = .began ∨ (∃ windowIDs, happened = .remembered windowIDs) ∨
      ∃ (index : Nat) (probe : Probe Frame) (move : Move Frame),
        controller.probes[index]? = some probe ∧ probe.stage = .rotating move ∧ happened = move.transition probe.previous := by
  cases event with
  | primaryRelease =>
      obtain ⟨_, _, rfl⟩ := map_eq_some_iff.mp happens
      exact .inl rfl
  | probe index outcome =>
      cases outcome with
      | proceeds =>
          obtain ⟨probe, found, here⟩ := bind_eq_some_iff.mp happens
          unfold WindowLineageController.happens at here
          split at here
          · rename_i move stage
            obtain ⟨_, _, rfl⟩ := map_eq_some_iff.mp here
            exact .inr (.inr ⟨index, probe, move, found, stage, rfl⟩)
          · cases here
            exact .inr (.inl ⟨_, rfl⟩)
          · cases here
      | _ => cases happens
  | _ => cases happens

/-- No move is made once the authority has failed. -/
theorem transition_unfailed {event : LineageEvent Frame} {happened : Transition Frame}
    (happens : controller.transition event = some happened) (moves : happened ≠ .began)
    (moves' : ∀ windowIDs, happened ≠ .remembered windowIDs) :
    controller.authority.failed = false := by
  cases event with
  | primaryRelease =>
      obtain ⟨_, _, rfl⟩ := map_eq_some_iff.mp happens
      exact absurd rfl moves
  | probe index outcome =>
      cases outcome with
      | proceeds =>
          obtain ⟨probe, _, here⟩ := bind_eq_some_iff.mp happens
          unfold WindowLineageController.happens at here
          split at here
          · obtain ⟨_, rotates, _⟩ := map_eq_some_iff.mp here
            exact (rotate_eq rotates).2.2
          · cases here
            exact absurd rfl (moves' _)
          · cases here
      | _ => cases happens
  | _ => cases happens

variable {event : LineageEvent Frame} {previous target : WindowTargetSnapshot Frame}

/-- Only unknown windows are admitted. -/
theorem Live.admits (live : Live inventory controller past)
    (happens : controller.transition event = some (.admitted previous target)) :
    target.windowID ∉ controller.knownWindowIDs := by
  obtain no | ⟨_, no⟩ | ⟨index, probe, move, found, stage, same⟩ := transition_cases happens
  · cases no
  · cases no
  · have fits := (live.rotating found stage).2.2.1.2
    unfold Move.transition at same
    split at same
    · rename_i kind
      cases same
      rw [kind] at fits
      exact fits.1
    · cases same

/-- A return goes to the window from which the current one was admitted. -/
theorem Live.returns (live : Live inventory controller past)
    (happens : controller.transition event = some (.returned previous target)) :
    previous = controller.authority.current ∧
      admittedFrom past previous.windowID = some target.windowID := by
  obtain no | ⟨_, no⟩ | ⟨index, probe, move, found, stage, same⟩ := transition_cases happens
  · cases no
  · cases no
  · obtain ⟨current, _, fits, descends, _⟩ := live.rotating found stage
    unfold Move.transition at same
    split at same
    · cases same
    · rename_i kind
      cases same
      unfold Fits at fits
      rw [kind] at fits
      obtain ⟨below, rest, stack, named⟩ := fits.2
      rw [stack] at descends
      exact ⟨current, named ▸ (List.isChain_cons_cons.mp descends).1⟩

end WindowLineageController

/-! ## Whole runs -/

namespace LineageRun

open WindowLineageController

/-- No probe reads what another has yet to record, and the generations do not come round. -/
def Orderly (run : LineageRun Frame) (event : LineageEvent Frame) : Prop :=
  Settled run.controller event ∧
    (event = .primaryRelease → run.controller.authority.fenceForTransition.isSome →
      run.controller.authority.generation.toNat + 1 < 2 ^ 64)

structure Sound (inventory : List WindowID) (targetProcessID : ProcessID)
    (run : LineageRun Frame) : Prop where
  closed : run.controller.authority.failed = true → run.controller.authority.fenced = true
  process : run.controller.authority.current.processID = targetProcessID
  counted : run.controller.authority.generation.toNat = run.begun
  live : run.controller.authority.failed = false → Live inventory run.controller run.past

variable {inventory : List WindowID} {targetProcessID : ProcessID}
  {run run' first last : LineageRun Frame} {event : LineageEvent Frame}
  {labels : List (LineageEvent Frame)}

/-- Only the step that reads the known windows has a condition. -/
theorem orderly_probe {index : Nat} {outcome : ProbeOutcome Frame} {probe : Probe Frame}
    (found : run.controller.probes[index]? = some probe)
    (reads : ∀ content, probe.stage ≠ .readingKnown content) :
    Orderly run (.probe index outcome) := by
  refine ⟨fun other content found' stage => ?_, fun no => by cases no⟩
  cases found.symm.trans found'
  exact absurd stage (reads content)

theorem begun_append (controller controller' : WindowLineageController Frame)
    (happened past : List (Transition Frame)) :
    begun ⟨controller, happened ++ past⟩ =
      happened.countP Transition.isBegan + begun ⟨controller', past⟩ :=
  List.countP_append

theorem Sound.released (sound : Sound inventory targetProcessID run)
    (orderly : Orderly run .primaryRelease)
    (step : run.next geometry .primaryRelease = some run') :
    Sound inventory targetProcessID run' := by
  obtain ⟨controller, past⟩ := run
  unfold LineageRun.next WindowLineageController.next afterPrimaryRelease transition at step
  cases fences : controller.authority.fenceForTransition with
  | none =>
      rw [fences] at step
      cases step
      exact sound
  | some authority =>
      rw [fences] at step
      cases step
      have bound := orderly.2 rfl (fences ▸ rfl)
      have fenced := fences
      unfold WindowTargetAuthority.fenceForTransition at fenced
      split at fenced
      · rename_i free
        simp only [and_eq_true, not_eq_true'] at free
        cases fenced
        refine ⟨fun _ => rfl, sound.process, ?_, fun up => (sound.live up).released fences⟩
        have next : (controller.authority.generation + 1).toNat =
            controller.authority.generation.toNat + 1 := by
          rw [UInt64.toNat_add]
          exact Nat.mod_eq_of_lt bound
        refine next.trans ?_
        rw [sound.counted]
        exact (Nat.add_comm _ _).trans (begun_append _ _ [.began] past).symm
      · cases fenced

/-- A probe begins no transition. -/
theorem begun_probe {controller : WindowLineageController Frame} {index : Nat}
    {outcome : ProbeOutcome Frame} :
    (controller.transition (.probe index outcome)).toList.countP Transition.isBegan = 0 := by
  refine List.countP_eq_zero.mpr fun happened mem => ?_
  have comes := Option.mem_toList.mp mem
  unfold transition at comes
  cases outcome with
  | proceeds =>
      obtain ⟨probe, _, here⟩ := bind_eq_some_iff.mp comes
      unfold happens at here
      split at here
      · obtain ⟨_, _, rfl⟩ := map_eq_some_iff.mp here
        unfold Move.transition
        split <;> exact Bool.false_ne_true
      · cases here
        exact Bool.false_ne_true
      · cases here
  | _ => cases comes

theorem Sound.probed (sound : Sound inventory targetProcessID run) {index : Nat}
    {outcome : ProbeOutcome Frame} (orderly : Orderly run (.probe index outcome))
    (step : run.next geometry (.probe index outcome) = some run') :
    Sound inventory targetProcessID run' := by
  obtain ⟨controller, past⟩ := run
  obtain ⟨controller', next, rfl⟩ := map_eq_some_iff.mp step
  obtain ⟨probe, found, next⟩ := bind_eq_some_iff.mp next
  obtain ⟨⟨after, moved⟩, advance, next⟩ := bind_eq_some_iff.mp next
  cases next
  have authority := advance_authority advance
  have counted : begun ⟨controller, past⟩ = begun
      ⟨{ after with probes := after.probes.set index moved },
        (controller.transition (.probe index outcome)).toList ++ past⟩ := by
    rw [begun_append _ controller, begun_probe, Nat.zero_add]
  refine ⟨?_, ?_, counted ▸ ?_, fun up => ?_⟩
  · intro failed
    rcases authority with same | same | ⟨unfailed, current, _, same⟩
    · rw [same] at failed ⊢
      exact sound.closed failed
    · rw [same]
      rfl
    · rw [same] at failed
      cases unfailed.symm.trans failed
  · rcases authority with same | same | ⟨_, current, process, same⟩
    · rw [same]
      exact sound.process
    · rw [same]
      exact sound.process
    · rw [same]
      exact process.trans sound.process
  · rcases authority with same | same | ⟨_, current, _, same⟩
    · rw [same]
      exact sound.counted
    · rw [same]
      exact sound.counted
    · rw [same]
      exact sound.counted
  · have unfailed : controller.authority.failed = false := by
      rcases authority with same | same | ⟨unfailed, _⟩
      · rw [same] at up
        exact up
      · rw [same] at up
        cases up
      · exact unfailed
    have live := sound.live unfailed
    by_cases goes : outcome = .proceeds
    · subst goes
      have happens : controller.transition (.probe index .proceeds) = controller.happens probe := by
        change controller.probes[index]?.bind controller.happens = _
        rw [found]
        rfl
      rw [happens]
      exact live.proceeded found orderly.1 advance up
    · have silent : controller.transition (.probe index outcome) = none := by
        cases outcome with
        | proceeds => exact absurd rfl goes
        | _ => rfl
      rw [silent]
      exact live.awaited found goes advance

/-- Every step keeps it. -/
theorem Sound.step (sound : Sound inventory targetProcessID run)
    (step : Guarded (StepOf (next geometry)) Orderly run event run') :
    Sound inventory targetProcessID run' := by
  obtain ⟨step, orderly⟩ := step
  cases event with
  | primaryRelease => exact sound.released orderly step
  | stop =>
      cases step
      exact ⟨sound.closed, sound.process, sound.counted, fun up => { sound.live up with }⟩
  | authorityLost =>
      cases step
      exact ⟨fun _ => rfl, sound.process, sound.counted, fun no => by cases no⟩
  | probe index outcome => exact sound.probed orderly step

/-- An authority that has failed stays so. -/
theorem failed_step (step : Guarded (StepOf (next geometry)) Orderly run event run')
    (failed : run.controller.authority.failed = true) :
    run'.controller.authority.failed = true := by
  obtain ⟨controller, past⟩ := run
  obtain ⟨controller', next, rfl⟩ := map_eq_some_iff.mp step.1
  cases event with
  | primaryRelease =>
      cases next
      have closed : controller.authority.fenceForTransition = none := by
        refine if_neg fun free => ?_
        simp only [and_eq_true, not_eq_true'] at free
        cases free.2.symm.trans failed
      unfold afterPrimaryRelease
      rw [closed]
      exact failed
  | stop =>
      cases next
      exact failed
  | authorityLost =>
      cases next
      rfl
  | probe index outcome =>
      obtain ⟨probe, _, next⟩ := bind_eq_some_iff.mp next
      obtain ⟨⟨after, moved⟩, advance, next⟩ := bind_eq_some_iff.mp next
      cases next
      rcases advance_authority advance with same | same | ⟨unfailed, _⟩
      · exact (congrArg WindowTargetAuthority.failed same).trans failed
      · exact congrArg WindowTargetAuthority.failed same
      · cases unfailed.symm.trans failed

/-- An authority that is closed yields no target. -/
theorem yields_nothing {authority : WindowTargetAuthority Frame}
    (failed : authority.failed = true) :
    authority.snapshotForInput = none ∧ authority.snapshotForFrame = none := by
  unfold WindowTargetAuthority.snapshotForInput WindowTargetAuthority.snapshotForFrame
  simp [failed]

/-- The lineage of the target window, at every moment of every orderly run: the filter of the
stream is for the target that is yielded, which stays in its process; only windows of no inventory
are admitted; a return goes to the window that the current one came from; what has failed yields
nothing again; and no frame token outlives a transition. -/
theorem lineage_authority [BEq Frame] {targetWindowID : Option WindowID}
    {content lineageInventory : ShareableContent Frame}
    {controller : WindowLineageController Frame} {middle : LineageRun Frame}
    {before after : List (LineageEvent Frame)}
    (launched : launch geometry targetProcessID targetWindowID content lineageInventory =
      .ok controller)
    (run : Run (Guarded (StepOf (next geometry)) Orderly) ⟨controller, []⟩ before middle)
    (rest : Run (Guarded (StepOf (next geometry)) Orderly) middle after last) :
    (∀ target, middle.controller.authority.snapshotForInput = some target →
      middle.controller.filter.including = [target.windowID]) ∧
    (∀ token, middle.controller.authority.snapshotForFrame = some token →
      middle.controller.filter.including = [token.snapshot.windowID]) ∧
    middle.controller.authority.current.processID = targetProcessID ∧
    (∀ event previous successor,
      middle.controller.transition event = some (.admitted previous successor) →
        successor.windowID ∉ sameProcessWindowIDs lineageInventory targetProcessID ∧
          ∀ windowIDs, .remembered windowIDs ∈ middle.past → successor.windowID ∉ windowIDs) ∧
    (∀ event previous restored,
      middle.controller.transition event = some (.returned previous restored) →
        previous = middle.controller.authority.current ∧
          admittedFrom middle.past previous.windowID = some restored.windowID) ∧
    (middle.controller.authority.failed = true →
      last.controller.authority.snapshotForInput = none ∧
        last.controller.authority.snapshotForFrame = none) ∧
    (∀ token, middle.controller.authority.snapshotForFrame = some token →
      middle.begun < last.begun →
        last.controller.authority.frameTokenIsCurrent token = false) := by
  obtain ⟨live, unfailed, generation, process⟩ := launch_spec launched
  have start : Sound (sameProcessWindowIDs lineageInventory targetProcessID) targetProcessID
      ⟨controller, []⟩ :=
    ⟨fun failed => (by cases unfailed.symm.trans failed), process,
      (congrArg UInt64.toNat generation).trans rfl, fun _ => live⟩
  have sound := run.invariant (fun step held => held.step step) start
  have sound' := rest.invariant (fun step held => held.step step) sound
  have free {fenced failed : Bool} (yields : (!fenced && !failed) = true) :
      fenced = false ∧ failed = false := by
    simpa using yields
  refine ⟨?_, ?_, sound.process, ?_, ?_, ?_, ?_⟩
  · intro target yields
    obtain ⟨holds, same⟩ := Option.ite_none_right_eq_some.mp yields
    cases same
    obtain ⟨open', up⟩ := free holds
    exact ((sound.live up).idle open').2
  · intro token yields
    obtain ⟨holds, same⟩ := Option.ite_none_right_eq_some.mp yields
    cases same
    obtain ⟨open', up⟩ := free holds
    exact ((sound.live up).idle open').2
  · intro event previous successor admits
    have up := transition_unfailed admits (by rintro ⟨⟩) (fun _ => by rintro ⟨⟩)
    have unknown := (sound.live up).admits admits
    refine ⟨fun known => unknown ((sound.live up).initial _ known), ?_⟩
    exact fun windowIDs mem within => unknown ((sound.live up).remembered windowIDs mem _ within)
  · intro event previous restored returns
    have up := transition_unfailed returns (by rintro ⟨⟩) (fun _ => by rintro ⟨⟩)
    exact (sound.live up).returns returns
  · intro failed
    exact yields_nothing (rest.invariant (fun step held => failed_step step held) failed)
  · intro token yields later
    obtain ⟨_, same⟩ := Option.ite_none_right_eq_some.mp yields
    cases same
    have other : last.controller.authority.generation ≠ middle.controller.authority.generation := by
      intro same
      rw [← sound.counted, ← sound'.counted, same] at later
      exact Nat.lt_irrefl _ later
    unfold WindowTargetAuthority.frameTokenIsCurrent
    simp [other]

end LineageRun

/-! ## A sample -/

/-- A frame in whole points. -/
structure SampleFrame where
  x : Int
  y : Int
  width : Int
  height : Int
  deriving BEq

def SampleFrame.contains (outer inner : SampleFrame) : Bool :=
  outer.x ≤ inner.x && outer.y ≤ inner.y &&
    inner.x + inner.width ≤ outer.x + outer.width &&
    inner.y + inner.height ≤ outer.y + outer.height

def sampleGeometry : WindowGeometry SampleFrame where
  framesMatch left right :=
    [left.x - right.x, left.y - right.y, left.width - right.width, left.height - right.height].all
      (·.natAbs ≤ 2)
  spans frame width height := width ≤ frame.width && height ≤ frame.height
  contains := SampleFrame.contains
  cropFits display frame :=
    SampleFrame.contains ⟨0, 0, display.width, display.height⟩
      { frame with x := frame.x - display.x, y := frame.y - display.y }

def sampleWindow : SharedWindow SampleFrame := ⟨some 7, 10, ⟨0, 0, 800, 600⟩, true, 0⟩
def sampleDialog : SharedWindow SampleFrame := ⟨some 7, 20, ⟨100, 100, 400, 300⟩, true, 0⟩
def samplePalette : SharedWindow SampleFrame := ⟨some 7, 30, ⟨900, 50, 300, 200⟩, true, 0⟩

def sampleContent (windows : List (SharedWindow SampleFrame)) : ShareableContent SampleFrame :=
  ⟨windows, [⟨0, 0, 1600, 1000⟩]⟩

/-- The metadata of the windows of which one is focused. -/
def sampleMetadata (focused : WindowID) : List (AXWindowLineageMetadata SampleFrame) :=
  [sampleWindow, sampleDialog, samplePalette].map fun window =>
    ⟨window.frame, window.windowID == focused, false, false⟩

def sampleController : WindowLineageController SampleFrame where
  targetProcessID := 7
  authority := .initial ⟨7, 10, sampleWindow.frame, false⟩
  filter := ⟨⟨0, 0, 1600, 1000⟩, [10]⟩
  stopped := false
  knownWindowIDs := [10]
  predecessorStack := []
  probes := []

theorem sampleController_launched :
    WindowLineageController.launch sampleGeometry 7 none (sampleContent [sampleWindow])
      (sampleContent [sampleWindow]) = .ok sampleController := rfl

/-- The token of a frame taken before a release is not current once a probe is on its way. -/
theorem sampleRelease_expires :
    ∃ last : LineageRun SampleFrame,
      Run (Guarded (StepOf (LineageRun.next sampleGeometry)) LineageRun.Orderly)
        ⟨sampleController, []⟩ [.primaryRelease, .probe 0 .proceeds, .probe 0 .proceeds] last ∧
      sampleController.filter.including = [10] ∧
      last.controller.authority.frameTokenIsCurrent
        ⟨sampleController.authority.current, 0⟩ = false := by
  have starting : LineageRun.Orderly ⟨sampleController, []⟩ .primaryRelease :=
    ⟨trivial, fun _ _ => by decide⟩
  have run : Run (Guarded (StepOf (LineageRun.next sampleGeometry)) LineageRun.Orderly)
      ⟨sampleController, []⟩ [.primaryRelease, .probe 0 .proceeds, .probe 0 .proceeds] _ :=
    .step ⟨rfl, starting⟩ (.step
      ⟨rfl, LineageRun.orderly_probe rfl (fun _ no => by cases no)⟩ (.step
        ⟨rfl, LineageRun.orderly_probe rfl (fun _ no => by cases no)⟩ (.refl _)))
  have kept := LineageRun.lineage_authority sampleController_launched (.refl _) run
  exact ⟨_, run, kept.1 _ rfl, kept.2.2.2.2.2.2 _ rfl (by decide)⟩

/-- A release, and a probe up to the moment at which it has read the known windows. -/
def sampleReads (index : Nat) : List (LineageEvent SampleFrame) :=
  [.primaryRelease, .probe index .proceeds, .probe index .proceeds,
    .probe index (.lists (sampleContent [sampleWindow, sampleDialog, samplePalette])),
    .probe index .proceeds]

/-- The probe goes on to a window that is focused, up to the rotation. -/
def sampleMoves (index : Nat) (focused : WindowID) : List (LineageEvent SampleFrame) :=
  [.probe index (.reads (sampleMetadata focused) (sampleMetadata focused)),
    .probe index .proceeds, .probe index .proceeds]

/-- The dialog is admitted, and the Human releases the button again before that is recorded. -/
def sampleRace : List (LineageEvent SampleFrame) :=
  sampleReads 0 ++ sampleMoves 0 20 ++ [.probe 0 .proceeds] ++ sampleReads 1 ++
    [.probe 0 .proceeds, .probe 0 .proceeds] ++ sampleMoves 1 30

/-- Then a window is admitted that an inventory remembered before had in it. -/
theorem sampleRace_readmits :
    ∃ controller run event previous successor windowIDs,
      WindowLineageController.launch sampleGeometry 7 none (sampleContent [sampleWindow])
        (sampleContent [sampleWindow]) = .ok controller ∧
      Run (StepOf (LineageRun.next sampleGeometry)) ⟨controller, []⟩ sampleRace run ∧
      run.controller.transition event = some (.admitted previous successor) ∧
      .remembered windowIDs ∈ run.past ∧ successor.windowID ∈ windowIDs :=
  ⟨sampleController, _, .probe 1 .proceeds, _, _, _, sampleController_launched,
    (run_iff_execute _ _ _ _).mpr rfl, rfl, List.mem_cons_self,
    List.mem_cons_of_mem _ (List.mem_cons_of_mem _ List.mem_cons_self)⟩

end ExecutionHandoff.Host
