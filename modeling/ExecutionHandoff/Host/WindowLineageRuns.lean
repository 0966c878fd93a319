import ExecutionHandoff.Host.WindowLineage
import ExecutionHandoff.Library.AtMostOne
import Mathlib.Data.List.Chain

/-!
# What a lineage keeps to

While the authority has not failed, at most one probe moves the filter, and it
does so behind the fence.  The filter, the predecessors and the known windows
agree with the authority as long as no probe reads the known windows while
another one, whose target is current already, has yet to record its move.
-/

namespace ExecutionHandoff.Host

open Library List

variable {Frame : Type}

/-! ## Probes -/

namespace Probe

variable (probe : Probe Frame)

/-- The probe may still let the authority go on. -/
def Active : Prop :=
  match probe.stage with
  | .stacking _ | .remembering | .failing | .stopping | .done => False
  | _ => True

/-- The target of the probe is current, and the probe has yet to record it. -/
def Recording : Prop :=
  match probe.stage with
  | .stacking _ | .remembering => True
  | _ => False

/-- The probe relies on what it has read. -/
def Informed : Prop :=
  match probe.stage with
  | .readingPredecessor _ _ | .updatingFilter _ | .updatingConfiguration _ | .rotating _ => True
  | _ => False

variable {probe}

theorem recording_of_stacking {move : Move Frame} (stage : probe.stage = .stacking move) :
    probe.Recording := by
  unfold Recording
  rw [stage]
  trivial

theorem Informed.active (informed : probe.Informed) : probe.Active := by
  unfold Informed at informed
  unfold Active
  split
  all_goals first
    | trivial
    | rename_i same
      rw [same] at informed
      exact informed

end Probe

namespace WindowLineageController

variable (controller : WindowLineageController Frame)

/-- A move is one of the two that the lineage allows. -/
def Fits (probe : Probe Frame) (move : Move Frame) : Prop :=
  move.filter.including = [move.target.windowID] ∧
    match move.kind with
    | .admission => move.target.windowID ∉ controller.knownWindowIDs ∧
        move.target.windowID ∈ probe.lastObservedSameProcessIDs
    | .restore => ∃ predecessor rest, controller.predecessorStack = predecessor :: rest ∧
        predecessor.windowID = move.target.windowID

/-- The filter is still for the target that the probe has fenced. -/
def Before (probe : Probe Frame) : Prop :=
  probe.previous = controller.authority.current ∧
    controller.filter.including = [controller.authority.current.windowID]

/-- What holds of a probe that may still let the authority go on. -/
def Holds (probe : Probe Frame) : Prop :=
  match probe.stage with
  | .starting | .looping | .listing | .sleeping | .concluding | .resuming =>
      controller.Before probe
  | .readingKnown content => controller.Before probe ∧
      probe.lastObservedSameProcessIDs =
        sameProcessWindowIDs content controller.targetProcessID
  | .readingPredecessor content known => controller.Before probe ∧
      probe.lastObservedSameProcessIDs =
        sameProcessWindowIDs content controller.targetProcessID ∧
      known = controller.knownWindowIDs
  | .updatingFilter move => controller.Before probe ∧ controller.Fits probe move
  | .updatingConfiguration move | .rotating move =>
      probe.previous = controller.authority.current ∧
        controller.filter.including = [move.target.windowID] ∧ controller.Fits probe move
  | .stacking _ | .remembering | .failing | .stopping | .done => True

/-- From each window the next one below it had admitted it. -/
def Descends (past : List (Transition Frame)) (current : WindowTargetSnapshot Frame)
    (stack : List (WindowTargetSnapshot Frame)) : Prop :=
  (current.windowID :: stack.map (·.windowID)).IsChain fun window below =>
    admittedFrom past window = some below

/-- What holds while the authority has not failed; `inventory` is the initial one. -/
structure Live (inventory : List WindowID) (controller : WindowLineageController Frame)
    (past : List (Transition Frame)) : Prop where
  idle : controller.authority.fenced = false → (∀ probe ∈ controller.probes, ¬probe.Active) ∧
    controller.filter.including = [controller.authority.current.windowID]
  sole : AtMostOne Probe.Active controller.probes
  sound : ∀ probe ∈ controller.probes, controller.Holds probe
  recorder : AtMostOne Probe.Recording controller.probes
  apart : ∀ probe ∈ controller.probes, probe.Informed →
    ∀ other ∈ controller.probes, ¬other.Recording
  stacked : ∀ probe ∈ controller.probes, ∀ move, probe.stage = .stacking move →
    Descends past controller.authority.current
      (restack move probe.previous controller.predecessorStack)
  settled : (∀ probe ∈ controller.probes, ∀ move, probe.stage ≠ .stacking move) →
    Descends past controller.authority.current controller.predecessorStack
  initial : ∀ windowID ∈ inventory, windowID ∈ controller.knownWindowIDs
  remembered : ∀ windowIDs, .remembered windowIDs ∈ past →
    ∀ windowID ∈ windowIDs, windowID ∈ controller.knownWindowIDs
  admitted : ∀ windowID, admittedFrom past windowID ≠ none →
    windowID ∈ controller.knownWindowIDs ∨ ∃ probe ∈ controller.probes,
      probe.Recording ∧ windowID ∈ probe.lastObservedSameProcessIDs

variable {controller} {inventory : List WindowID} {past : List (Transition Frame)} {index : Nat}
  {probe moved : Probe Frame}

theorem holds_of_inactive (inactive : ¬probe.Active) : controller.Holds probe := by
  unfold Probe.Active at inactive
  unfold Holds
  split at inactive
  all_goals first
    | exact absurd trivial inactive
    | rename_i same
      rw [same]
      trivial

variable {controller' : WindowLineageController Frame}

/-- What a probe relies on that has read nothing is the target and the filter. -/
theorem holds_of_uninformed (holds : controller.Holds probe) (uninformed : ¬probe.Informed)
    (process : controller'.targetProcessID = controller.targetProcessID)
    (target : controller'.authority.current = controller.authority.current)
    (filter : controller'.filter = controller.filter) : controller'.Holds probe := by
  unfold Probe.Informed at uninformed
  unfold Holds Before at holds ⊢
  rw [process, target, filter]
  split at uninformed
  all_goals first
    | exact absurd trivial uninformed
    | split at holds <;> simp_all

/-! ## The steps of a probe -/

/-- While a probe is active the authority is fenced. -/
theorem Live.fenced (live : Live inventory controller past)
    (found : controller.probes[index]? = some probe) (active : probe.Active) :
    controller.authority.fenced = true := by
  by_contra open'
  exact (live.idle (Bool.not_eq_true _ ▸ open')).1 probe (mem_of_getElem? found) active

/-- A step of a probe that records nothing and keeps the target and what is known. -/
theorem Live.replaced
    (live : Live inventory controller past) (found : controller.probes[index]? = some probe)
    (target : controller'.authority.current = controller.authority.current)
    (stack : controller'.predecessorStack = controller.predecessorStack)
    (known : controller'.knownWindowIDs = controller.knownWindowIDs)
    (probes : controller'.probes = controller.probes.set index moved)
    (idle : controller'.authority.fenced = false →
      (∀ other ∈ controller'.probes, ¬other.Active) ∧
        controller'.filter.including = [controller.authority.current.windowID])
    (activates : moved.Active → probe.Active)
    (sound : ∀ other ∈ controller'.probes, controller'.Holds other)
    (silent : ¬moved.Recording) (silent' : ¬probe.Recording)
    (informs : moved.Informed → ∀ other ∈ controller.probes, ¬other.Recording) :
    Live inventory controller' past where
  idle := target ▸ idle
  sole := probes ▸ live.sole.set found activates
  sound := sound
  recorder := probes ▸ live.recorder.set found fun records => absurd records silent
  apart := fun other mem informed third mem' records => by
    rw [probes] at mem mem'
    have quiet : ∀ old ∈ controller.probes, ¬old.Recording := by
      rcases mem_set_cases mem with same | ⟨position, elsewhere, present⟩
      · exact informs (same ▸ informed)
      · exact live.apart other (mem_of_getElem? present) informed
    rcases mem_set_cases mem' with same | ⟨position, elsewhere, present⟩
    · exact silent (same ▸ records)
    · exact quiet third (mem_of_getElem? present) records
  stacked := fun other mem move stage => by
    rw [target, stack]
    rw [probes] at mem
    rcases mem_set_cases mem with same | ⟨position, elsewhere, present⟩
    · subst same
      exact absurd (Probe.recording_of_stacking stage) silent
    · exact live.stacked other (mem_of_getElem? present) move stage
  settled := fun none => by
    rw [target, stack]
    refine live.settled fun other mem move stage => ?_
    rcases mem_set_or_eq found mem with same | kept
    · subst same
      exact silent' (Probe.recording_of_stacking stage)
    · exact none other (probes ▸ kept) move stage
  initial := known ▸ live.initial
  remembered := known ▸ live.remembered
  admitted := fun windowID admitted => by
    rw [known, probes]
    refine (live.admitted windowID admitted).imp_right fun ⟨other, mem, records, observed⟩ => ?_
    rcases mem_set_or_eq found mem with same | kept
    · exact absurd (same ▸ records) silent'
    · exact ⟨other, kept, records, observed⟩

/-- A probe that is not active afterwards leaves an idle authority idle. -/
theorem Live.idle_set (live : Live inventory controller past) (inactive : ¬moved.Active)
    (open' : controller.authority.fenced = false) :
    (∀ other ∈ controller.probes.set index moved, ¬other.Active) ∧
      controller.filter.including = [controller.authority.current.windowID] := by
  refine ⟨fun other mem => ?_, (live.idle open').2⟩
  rcases mem_or_eq_of_mem_set mem with old | same
  · exact (live.idle open').1 other old
  · exact same ▸ inactive

/-- When the active probe takes a step, nothing is asked of the others. -/
theorem Live.sound_set
    (live : Live inventory controller past) (found : controller.probes[index]? = some probe)
    (active : probe.Active) (holds : controller'.Holds moved) :
    ∀ other ∈ controller.probes.set index moved, controller'.Holds other := by
  intro other mem
  rcases mem_set_cases mem with same | ⟨position, elsewhere, present⟩
  · exact same ▸ holds
  · exact holds_of_inactive (live.sole.others found active elsewhere present)

/-- When the active probe retires, no probe is active. -/
theorem Live.inactive_set (live : Live inventory controller past)
    (found : controller.probes[index]? = some probe) (active : probe.Active)
    (inactive : ¬moved.Active) :
    ∀ other ∈ controller.probes.set index moved, ¬other.Active := by
  intro other mem
  rcases mem_set_cases mem with same | ⟨position, elsewhere, present⟩
  · exact same ▸ inactive
  · exact live.sole.others found active elsewhere present

/-- An active probe goes on, and may change the filter. -/
theorem Live.onward {filter : ContentFilter Frame} (live : Live inventory controller past)
    (found : controller.probes[index]? = some probe) (active : probe.Active)
    (silent' : ¬probe.Recording) (holds : { controller with filter := filter }.Holds moved)
    (silent : ¬moved.Recording)
    (informs : moved.Informed → ∀ other ∈ controller.probes, ¬other.Recording) :
    Live inventory { controller with filter := filter, probes := controller.probes.set index moved }
      past := by
  refine live.replaced found rfl rfl rfl rfl (fun open' => ?_) (fun _ => active)
    (live.sound_set found active holds) silent silent' informs
  have closed := live.fenced found active
  rw [open'] at closed
  cases closed

/-- The authority resumes with the target it was fenced for. -/
theorem Live.resumed {authority : WindowTargetAuthority Frame}
    (live : Live inventory controller past)
    (found : controller.probes[index]? = some probe) (stage : probe.stage = .resuming)
    (resumes : controller.authority.resume probe.previous = some authority) :
    Live inventory { controller with
      authority := authority
      probes := controller.probes.set index { probe with stage := .done } } past := by
  have active : probe.Active := by
    unfold Probe.Active
    rw [stage]
    trivial
  have holds := live.sound probe (mem_of_getElem? found)
  unfold Holds at holds
  rw [stage] at holds
  have same : authority.current = controller.authority.current := by
    unfold WindowTargetAuthority.resume at resumes
    split at resumes
    · cases resumes
      rfl
    · cases resumes
  exact live.replaced found same rfl rfl rfl
    (fun _ => ⟨live.inactive_set found active fun no => no, holds.2⟩)
    (fun _ => active) (live.sound_set found active trivial) (fun no => no)
    (by unfold Probe.Recording; rw [stage]; exact fun no => no) (fun no => no.elim)

/-- A probe that has failed stops the host. -/
theorem Live.halted (live : Live inventory controller past)
    (found : controller.probes[index]? = some probe) (stage : probe.stage = .stopping) :
    Live inventory { controller with
      stopped := true
      probes := controller.probes.set index { probe with stage := .done } } past := by
  refine live.replaced found rfl rfl rfl rfl (live.idle_set fun no => no)
    (fun no => no.elim) (fun other mem => ?_) (fun no => no)
    (by unfold Probe.Recording; rw [stage]; exact fun no => no) (fun no => no.elim)
  rcases mem_set_cases mem with same | ⟨position, elsewhere, present⟩
  · rw [same]
    trivial
  · exact live.sound other (mem_of_getElem? present)

/-! ## The rotation -/

variable {previous target : WindowTargetSnapshot Frame}
  {stack : List (WindowTargetSnapshot Frame)}

/-- The admitted window stands above the one it was admitted from. -/
theorem Descends.admitted (descends : Descends past previous stack)
    (fresh : admittedFrom past target.windowID = none) :
    Descends (.admitted previous target :: past) target (previous :: stack) := by
  refine isChain_cons_cons.mpr ⟨if_pos (beq_self_eq_true _), ?_⟩
  refine descends.imp fun window below came => ?_
  refine (if_neg fun same => ?_).trans came
  rw [eq_of_beq same, came] at fresh
  cases fresh

/-- A return goes to the window below. -/
theorem Descends.returned {predecessor : WindowTargetSnapshot Frame}
    (descends : Descends past previous (predecessor :: stack))
    (same : predecessor.windowID = target.windowID) :
    Descends (.returned previous target :: past) target stack := by
  have below := (isChain_cons_cons.mp descends).2
  dsimp only at below
  rw [same] at below
  exact below

/-- What a probe that rotates relies on. -/
theorem Live.rotating (live : Live inventory controller past)
    (found : controller.probes[index]? = some probe) {move : Move Frame}
    (stage : probe.stage = .rotating move) :
    probe.previous = controller.authority.current ∧
      controller.filter.including = [move.target.windowID] ∧ controller.Fits probe move ∧
      Descends past probe.previous controller.predecessorStack ∧
      ∀ other ∈ controller.probes, ¬other.Recording := by
  have mem := mem_of_getElem? found
  have holds := live.sound probe mem
  unfold Holds at holds
  rw [stage] at holds
  have quiet := live.apart probe mem (by unfold Probe.Informed; rw [stage]; trivial)
  refine ⟨holds.1, holds.2.1, holds.2.2, ?_, quiet⟩
  rw [holds.1]
  exact live.settled fun other mem' move' stage' =>
    quiet other mem' (Probe.recording_of_stacking stage')

/-- Once nothing is left to record, every admitted window is known. -/
theorem Live.admitted_known (live : Live inventory controller past)
    (quiet : ∀ other ∈ controller.probes, ¬other.Recording) {windowID : WindowID}
    (admitted : admittedFrom past windowID ≠ none) : windowID ∈ controller.knownWindowIDs :=
  (live.admitted windowID admitted).elim id
    fun ⟨other, mem, records, _⟩ => absurd records (quiet other mem)

theorem Live.rotated (live : Live inventory controller past)
    (found : controller.probes[index]? = some probe) {move : Move Frame}
    (stage : probe.stage = .rotating move) :
    Live inventory { controller with
      authority := { controller.authority with current := move.target, fenced := false }
      probes := controller.probes.set index { probe with stage := .stacking move } }
      (move.transition probe.previous :: past) := by
  obtain ⟨current, filter, fits, descends, quiet⟩ := live.rotating found stage
  have active : probe.Active := by
    unfold Probe.Active
    rw [stage]
    trivial
  have here : ({ probe with stage := .stacking move } : Probe Frame) ∈
      controller.probes.set index { probe with stage := .stacking move } :=
    mem_iff_getElem?.mpr
      ⟨index, getElem?_set_self (List.getElem?_eq_some_iff.mp found).1⟩
  have descends' : Descends (move.transition probe.previous :: past) move.target
      (restack move probe.previous controller.predecessorStack) := by
    unfold Fits at fits
    unfold Move.transition restack
    cases kind : move.kind with
    | admission =>
        rw [kind] at fits
        refine descends.admitted ?_
        by_contra known
        exact fits.2.1 (live.admitted_known quiet known)
    | restore =>
        rw [kind] at fits
        obtain ⟨predecessor, rest, stack, same⟩ := fits.2
        rw [stack] at descends ⊢
        exact descends.returned same
  exact {
    idle := fun _ => ⟨live.inactive_set found active fun no => no, filter⟩
    sole := live.sole.set found fun _ => active
    sound := live.sound_set found active trivial
    recorder := AtMostOne.set_of_none fun _ old _ present =>
      quiet old (mem_of_getElem? present)
    apart := fun other mem informed => by
      rcases mem_set_cases mem with same | ⟨position, elsewhere, present⟩
      · exact (same ▸ informed : Probe.Informed { probe with stage := .stacking move }).elim
      · exact absurd informed.active (live.sole.others found active elsewhere present)
    stacked := fun other mem move' stage' => by
      rcases mem_set_cases mem with same | ⟨position, elsewhere, present⟩
      · subst same
        cases stage'
        exact descends'
      · exact absurd (Probe.recording_of_stacking stage') (quiet other (mem_of_getElem? present))
    settled := fun none => absurd rfl (none _ here move)
    initial := live.initial
    remembered := fun windowIDs mem => by
      rcases mem_cons.mp mem with same | old
      · unfold Move.transition at same
        split at same <;> cases same
      · exact live.remembered windowIDs old
    admitted := fun windowID admitted => by
      unfold Fits at fits
      unfold Move.transition at admitted
      cases kind : move.kind with
      | admission =>
          rw [kind] at fits admitted
          by_cases new : move.target.windowID = windowID
          · exact .inr ⟨_, here, trivial, new ▸ fits.2.2⟩
          · refine .inl (live.admitted_known quiet fun unknown => admitted ?_)
            exact (if_neg fun same => new (eq_of_beq same)).trans unknown
      | restore =>
          rw [kind] at admitted
          exact .inl (live.admitted_known quiet admitted) }

/-! ## The record of a move -/

/-- What is left of the record is not what the others rely on. -/
theorem Live.recording_others (live : Live inventory controller past)
    (found : controller.probes[index]? = some probe) (records : probe.Recording)
    (process : controller'.targetProcessID = controller.targetProcessID)
    (target : controller'.authority.current = controller.authority.current)
    (filter : controller'.filter = controller.filter) (holds : controller'.Holds moved) :
    ∀ other ∈ controller.probes.set index moved, controller'.Holds other := by
  intro other mem
  rcases mem_set_cases mem with same | ⟨position, elsewhere, present⟩
  · exact same ▸ holds
  · have mem' := mem_of_getElem? present
    refine holds_of_uninformed (live.sound other mem') (fun informed => ?_) process target filter
    exact live.apart other mem' informed probe (mem_of_getElem? found) records

/-- While a probe records, the stack is about to be changed by no other. -/
theorem Live.not_stacking (live : Live inventory controller past)
    (found : controller.probes[index]? = some probe) (records : probe.Recording)
    {other : Probe Frame} {position : Nat} (elsewhere : position ≠ index)
    (present : controller.probes[position]? = some other) (move : Move Frame) :
    other.stage ≠ .stacking move := fun stage =>
  live.recorder.others found records elsewhere present (Probe.recording_of_stacking stage)

/-- While a probe records, no other relies on what it has read. -/
theorem Live.uninformed_set (live : Live inventory controller past)
    (found : controller.probes[index]? = some probe) (records : probe.Recording)
    (ignorant : ¬moved.Informed) :
    ∀ other ∈ controller.probes.set index moved, ¬other.Informed := by
  intro other mem informed
  rcases mem_or_eq_of_mem_set mem with old | same
  · exact live.apart other old informed probe (mem_of_getElem? found) records
  · exact ignorant (same ▸ informed)

theorem Live.stacks (live : Live inventory controller past)
    (found : controller.probes[index]? = some probe) {move : Move Frame}
    (stage : probe.stage = .stacking move) :
    Live inventory { controller with
      predecessorStack := restack move probe.previous controller.predecessorStack
      probes := controller.probes.set index { probe with stage := .remembering } } past := by
  have records := Probe.recording_of_stacking stage
  have mem := mem_of_getElem? found
  have ignorant : ¬Probe.Informed { probe with stage := .remembering } := fun no => no
  exact {
    idle := live.idle_set fun no => no
    sole := live.sole.set found fun no => no.elim
    sound := live.recording_others found records rfl rfl rfl trivial
    recorder := live.recorder.set found fun _ => records
    apart := fun other mem' informed =>
      absurd informed (live.uninformed_set found records ignorant other mem')
    stacked := fun other mem' move' stage' => by
      rcases mem_set_cases mem' with same | ⟨position, elsewhere, present⟩
      · subst same
        cases stage'
      · exact absurd stage' (live.not_stacking found records elsewhere present move')
    settled := fun _ => live.stacked probe mem move stage
    initial := live.initial
    remembered := live.remembered
    admitted := fun windowID admitted => by
      refine (live.admitted windowID admitted).imp_right fun ⟨other, mem', records', observed⟩ => ?_
      rcases mem_set_or_eq found mem' with same | kept
      · subst same
        exact ⟨_, mem_iff_getElem?.mpr
          ⟨index, getElem?_set_self (List.getElem?_eq_some_iff.mp found).1⟩, trivial, observed⟩
      · exact ⟨other, kept, records', observed⟩ }

theorem Live.remembers (live : Live inventory controller past)
    (found : controller.probes[index]? = some probe) (stage : probe.stage = .remembering) :
    Live inventory { controller with
      knownWindowIDs := controller.knownWindowIDs ++ probe.lastObservedSameProcessIDs
      probes := controller.probes.set index { probe with stage := .done } }
      (.remembered probe.lastObservedSameProcessIDs :: past) := by
  have records : probe.Recording := by
    unfold Probe.Recording
    rw [stage]
    trivial
  have mem := mem_of_getElem? found
  have ignorant : ¬Probe.Informed { probe with stage := .done } := fun no => no
  have settled : Descends past controller.authority.current controller.predecessorStack := by
    refine live.settled fun other mem' move stage' => ?_
    obtain ⟨position, present⟩ := mem_iff_getElem?.mp mem'
    by_cases here : position = index
    · subst here
      cases found.symm.trans present
      rw [stage] at stage'
      cases stage'
    · exact live.not_stacking found records here present move stage'
  exact {
    idle := live.idle_set fun no => no
    sole := live.sole.set found fun no => no.elim
    sound := live.recording_others found records rfl rfl rfl trivial
    recorder := live.recorder.set found fun no => no.elim
    apart := fun other mem' informed =>
      absurd informed (live.uninformed_set found records ignorant other mem')
    stacked := fun other mem' move' stage' => by
      rcases mem_set_cases mem' with same | ⟨position, elsewhere, present⟩
      · subst same
        cases stage'
      · exact absurd stage' (live.not_stacking found records elsewhere present move')
    settled := fun _ => settled
    initial := fun windowID old => mem_append_left _ (live.initial windowID old)
    remembered := fun windowIDs mem' windowID within => by
      rcases mem_cons.mp mem' with same | old
      · cases same
        exact mem_append_right _ within
      · exact mem_append_left _ (live.remembered windowIDs old windowID within)
    admitted := fun windowID admitted => by
      refine .inl (mem_append.mpr ?_)
      refine (live.admitted windowID admitted).imp_right fun ⟨other, mem', records', observed⟩ => ?_
      obtain ⟨position, present⟩ := mem_iff_getElem?.mp mem'
      by_cases here : position = index
      · subst here
        cases found.symm.trans present
        exact observed
      · exact absurd records' (live.recorder.others found records here present) }

/-! ## A release -/

theorem Live.released (live : Live inventory controller past)
    {authority : WindowTargetAuthority Frame}
    (fences : controller.authority.fenceForTransition = some authority) :
    Live inventory { controller with
      authority := authority
      probes := controller.probes ++ [⟨controller.authority.current, [], .starting⟩] }
      (.began :: past) := by
  unfold WindowTargetAuthority.fenceForTransition at fences
  split at fences
  · rename_i free
    cases fences
    simp only [Bool.and_eq_true, Bool.not_eq_true'] at free
    obtain ⟨inactive, filter⟩ := live.idle free.1
    have old {other : Probe Frame} {P : Probe Frame → Prop}
        (mem : other ∈ controller.probes ++ [⟨controller.authority.current, [], .starting⟩])
        (holds : P other) (fresh : ¬P ⟨controller.authority.current, [], .starting⟩) :
        other ∈ controller.probes := by
      rcases mem_append.mp mem with within | last
      · exact within
      · cases mem_singleton.mp last
        exact absurd holds fresh
    exact {
      idle := fun no => by cases no
      sole := AtMostOne.concat inactive
      sound := fun other mem => by
        rcases mem_append.mp mem with within | last
        · exact holds_of_inactive (inactive other within)
        · cases mem_singleton.mp last
          exact ⟨rfl, filter⟩
      recorder := live.recorder.concat_of_not fun no => no
      apart := fun other mem informed => by
        have mem' := old mem informed fun no => no
        exact absurd informed.active (inactive other mem')
      stacked := fun other mem move stage => live.stacked other
        (old mem (Probe.recording_of_stacking stage) fun no => no) move stage
      settled := fun none => live.settled fun other mem => none other (mem_append_left _ mem)
      initial := live.initial
      remembered := fun windowIDs mem => by
        rcases mem_cons.mp mem with same | old
        · cases same
        · exact live.remembered windowIDs old
      admitted := fun windowID admitted => (live.admitted windowID admitted).imp_right
        fun ⟨other, mem, records, observed⟩ =>
          ⟨other, mem_append_left _ mem, records, observed⟩ }
  · cases fences

/-! ## Any step -/

/-- What a probe chooses is a return to its predecessor or an unknown window it has observed. -/
theorem choose_spec (geometry : WindowGeometry Frame) (targetProcessID : ProcessID)
    (content : ShareableContent Frame) (known : List WindowID)
    (predecessor : Option (WindowTargetSnapshot Frame))
    (first second : List (AXWindowLineageMetadata Frame)) :
    choose geometry targetProcessID previous content known predecessor first second = .failing ∨
      choose geometry targetProcessID previous content known predecessor first second =
        .sleeping ∨
      ∃ move, choose geometry targetProcessID previous content known predecessor first second =
          .updatingFilter move ∧ move.filter.including = [move.target.windowID] ∧
        (move.kind = .admission ∧ move.target.windowID ∉ known ∧
            move.target.windowID ∈ sameProcessWindowIDs content targetProcessID ∨
          move.kind = .restore ∧ ∃ below, predecessor = some below ∧
            below.windowID = move.target.windowID) := by
  unfold choose
  dsimp only
  split
  · rename_i below returns
    split
    · exact .inl rfl
    · rename_i surface selected
      obtain ⟨windowID, _, filter, same⟩ := selectedCaptureSurface_target selected
      refine .inr (.inr ⟨_, rfl, ?_, .inr ⟨rfl, below, ?_, rfl⟩⟩)
      · exact filter.trans (congrArg (fun windowID => [windowID]) (same _ rfl))
      · exact (Option.filter_eq_some_iff.mp returns).1
  · split
    · exact .inr (.inl rfl)
    · exact .inl rfl
    · rename_i resolution resolved
      split
      · exact .inl rfl
      · rename_i surface selected
        obtain ⟨filter, observed⟩ := selectedLineageCaptureSurface_target selected
        split
        · exact .inr (.inr ⟨_, rfl, filter, .inl
            ⟨rfl, resolveSuccessor_unknown resolved, observed⟩⟩)
        · exact .inl rfl

/-- A probe reads the known windows only while no other has a move to record. -/
def Settled (controller : WindowLineageController Frame) : LineageEvent Frame → Prop
  | .probe index _ => ∀ probe content, controller.probes[index]? = some probe →
      probe.stage = .readingKnown content → ∀ other ∈ controller.probes, ¬other.Recording
  | _ => True

variable {geometry : WindowGeometry Frame} {after : WindowLineageController Frame}
  {outcome : ProbeOutcome Frame}

theorem rotate_eq {authority authority' : WindowTargetAuthority Frame}
    (rotates : authority.rotate previous target = some authority') :
    authority' = { authority with current := target, fenced := false } ∧
      target.processID = authority.current.processID ∧ authority.failed = false := by
  unfold WindowTargetAuthority.rotate at rotates
  split at rotates
  · rename_i allowed
    simp only [Bool.and_eq_true, Bool.not_eq_true', beq_iff_eq] at allowed
    cases rotates
    exact ⟨rfl, allowed.2, allowed.1.1.1⟩
  · cases rotates

/-- A step of a probe that awaits something. -/
theorem Live.awaited (live : Live inventory controller past)
    (found : controller.probes[index]? = some probe) (awaits : outcome ≠ .proceeds)
    (step : controller.advance geometry probe outcome = some (after, moved)) :
    Live inventory { after with probes := after.probes.set index moved } past := by
  have mem := mem_of_getElem? found
  have holds := live.sound probe mem
  have informs := live.apart probe mem
  obtain ⟨previous, observed, stage⟩ := probe
  cases outcome with
  | proceeds => exact absurd rfl awaits
  | expired =>
      cases stage <;> cases step
      exact live.onward found trivial (fun no => no) holds (fun no => no) (fun no => no.elim)
  | lists content =>
      cases stage <;> cases step
      exact live.onward found trivial (fun no => no) ⟨holds, rfl⟩ (fun no => no)
        (fun no => no.elim)
  | reads first second =>
      cases stage <;> cases step
      rename_i content known
      obtain ⟨before, observed, rfl⟩ := holds
      obtain same | same | ⟨move, same, filter, fits⟩ := choose_spec geometry
        controller.targetProcessID content controller.knownWindowIDs
        controller.predecessorStack.head? first second
      · dsimp only
        rw [same]
        exact live.onward found trivial (fun no => no) trivial (fun no => no) (fun no => no.elim)
      · dsimp only
        rw [same]
        exact live.onward found trivial (fun no => no) before (fun no => no) (fun no => no.elim)
      · dsimp only
        rw [same]
        refine live.onward found trivial (fun no => no) ⟨before, filter, ?_⟩ (fun no => no)
          (fun _ => informs trivial)
        rcases fits with ⟨kind, fresh, seen⟩ | ⟨kind, below, top, named⟩
        · rw [kind]
          exact ⟨fresh, observed ▸ seen⟩
        · rw [kind]
          obtain ⟨rest, stack⟩ := head?_eq_some_iff.mp top
          exact ⟨below, rest, stack, named⟩
  | throws applied =>
      cases stage <;> cases step
      case' updatingFilter.refl => split
      all_goals
        exact live.onward found trivial (fun no => no) trivial (fun no => no) (fun no => no.elim)

/-- A step of a probe that goes on by itself. -/
theorem Live.proceeded (live : Live inventory controller past)
    (found : controller.probes[index]? = some probe)
    (settled : Settled controller (.probe index .proceeds))
    (step : controller.advance geometry probe .proceeds = some (after, moved))
    (unfailed : after.authority.failed = false) :
    Live inventory { after with probes := after.probes.set index moved }
      ((controller.happens probe).toList ++ past) := by
  have mem := mem_of_getElem? found
  have holds := live.sound probe mem
  have informs := live.apart probe mem
  obtain ⟨previous, observed, stage⟩ := probe
  cases stage with
  | starting =>
      cases step
      dsimp only
      split
      · exact live.onward found trivial (fun no => no) trivial (fun no => no) (fun no => no.elim)
      · exact live.onward found trivial (fun no => no) holds (fun no => no) (fun no => no.elim)
  | looping =>
      cases step
      dsimp only
      split
      · exact live.onward found trivial (fun no => no) holds (fun no => no) (fun no => no.elim)
      · exact live.onward found trivial (fun no => no) holds (fun no => no) (fun no => no.elim)
  | listing => cases step
  | readingKnown content =>
      cases step
      exact live.onward found trivial (fun no => no) ⟨holds.1, holds.2, rfl⟩ (fun no => no)
        (fun _ => settled _ content found rfl)
  | readingPredecessor => cases step
  | updatingFilter move =>
      cases step
      exact live.onward found trivial (fun no => no) ⟨holds.1.1, holds.2.1, holds.2⟩
        (fun no => no) (fun _ => informs trivial)
  | updatingConfiguration move =>
      cases step
      exact live.onward found trivial (fun no => no) holds (fun no => no) (fun _ => informs trivial)
  | rotating move =>
      cases rotates : controller.authority.rotate previous move.target with
      | none =>
          unfold advance happens at *
          dsimp only at *
          rw [rotates] at step ⊢
          cases step
          exact live.onward found trivial (fun no => no) trivial (fun no => no)
            (fun no => no.elim)
      | some authority =>
          have rotated := live.rotated found rfl
          unfold advance happens at *
          dsimp only at *
          rw [rotates] at step ⊢
          cases step
          rw [(rotate_eq rotates).1]
          exact rotated
  | stacking move =>
      cases step
      exact live.stacks found rfl
  | remembering =>
      cases step
      exact live.remembers found rfl
  | sleeping =>
      cases step
      exact live.onward found trivial (fun no => no) holds (fun no => no) (fun no => no.elim)
  | concluding =>
      unfold advance at step
      dsimp only at step
      split at step
      · cases step
        exact live.onward found trivial (fun no => no) trivial (fun no => no) (fun no => no.elim)
      · cases step
        exact live.onward found trivial (fun no => no) holds (fun no => no) (fun no => no.elim)
  | resuming =>
      unfold advance at step
      dsimp only at step
      split at step
      · cases step
        exact live.onward found trivial (fun no => no) trivial (fun no => no) (fun no => no.elim)
      · rename_i resumes
        cases step
        exact live.resumed found rfl resumes
  | failing =>
      cases step
      cases unfailed
  | stopping =>
      cases step
      exact live.halted found rfl
  | done => cases step

end WindowLineageController

end ExecutionHandoff.Host
