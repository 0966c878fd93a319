import ExecutionHandoff.Library.Custody
import ExecutionHandoff.Surface.WindowSurface

/-!
# Closing an exact-window surface

Each process that was started is part of the active helper, or in the hands of
the transition or of a `close`, until it has exited or its wait is over.
-/

namespace ExecutionHandoff.Surface

open Library Option List

namespace WindowSurface

variable (kind : WindowSurfaceKind) (surface : WindowSurface)

/-! ## Replacements after the close -/

/-- A call of `#ensure` for this target begins a replacement. -/
def ensureBegins (target : TakeoverHostTarget) : Bool :=
  kind.valid target && !(kind.fenced && surface.lost) && (surface.ready? target).isNone &&
    surface.transition.isNone

def begins : SurfaceEvent → Bool
  | .capture target | .input target => surface.ensureBegins kind target
  | .resumed call false .resolved => surface.ensureBegins kind call.target
  | .retried call => surface.ensureBegins kind call.target
  | _ => false

/-- The host could not be spawned, and its authority helper stays behind. -/
def leaks : SurfaceEvent → Bool
  | .throws => surface.transition.any fun
    | (_, .spawning _) => true
    | _ => false
  | _ => false

/-- No replacement begins after `close` was called, and none leaves its authority helper behind. -/
def Orderly (surface : WindowSurface) (event : SurfaceEvent) : Prop :=
  (surface.closed = true → surface.begins kind event = false) ∧ surface.leaks event = false

/-! ## Who has a process in hand -/

variable {kind : WindowSurfaceKind} {surface surface' : WindowSurface}

/-- A process is part of the active helper, or the transition or a `close` deals with it. -/
def Holds (surface : WindowSurface) (process : Nat) (_ : HelperProcess) : Prop :=
  (∃ active ∈ surface.active, process ∈ active.processes) ∨
    (∃ transition ∈ surface.transition, process ∈ transition.2.processes) ∨
    ∃ stage ∈ surface.closes, process ∈ stage.processes

/-- While a transition goes on a call has begun it, and nothing is active before the first frame is
awaited.  Once `close` was called, some `close` has yet to look at what is active, or nothing is
active any more. -/
structure Sound (surface : WindowSurface) : Prop where
  accounted : Accounted surface.processes (surface.exited ++ surface.killed) surface.Holds
  vacant : ∀ transition ∈ surface.transition, transition.2 = .framing ∨ surface.active = none
  begun : ∀ transition ∈ surface.transition, ∃ call ∈ surface.calls, call.stage = .initiated
  called : ∀ stage ∈ surface.closes, surface.closed = true
  idle : .settled ∈ surface.closes → surface.transition = none
  final : surface.closed = true → (.awaiting ∈ surface.closes ∨ .settled ∈ surface.closes) ∨
    (surface.active = none ∧ surface.transition = none)

theorem initial_sound : Sound initial where
  accounted := .empty _
  vacant := fun _ no => by cases no
  begun := fun _ no => by cases no
  called := fun _ no => by cases no
  idle := fun no => by cases no
  final := fun no => by cases no

/-! ## Calls -/

theorem sound_calls {calls : List SurfaceCall} (sound : Sound surface)
    (kept : ∀ call ∈ surface.calls, call.stage = .initiated → call ∈ calls) :
    Sound { surface with calls } := by
  refine ⟨sound.accounted, sound.vacant, fun transition held => ?_, sound.called, sound.idle,
    sound.final⟩
  obtain ⟨call, mem, begun⟩ := sound.begun transition held
  exact ⟨call, kept call mem begun, begun⟩

theorem sound_addCall (sound : Sound surface) (call : SurfaceCall) (stage : CallStage) :
    Sound (surface.addCall call stage) :=
  sound_calls sound fun _ mem _ => mem_cons_of_mem _ mem

theorem sound_dropCall {call : SurfaceCall} (sound : Sound surface)
    (other : call.stage ≠ .initiated) : Sound (surface.dropCall call) := by
  refine sound_calls sound fun call' mem begun => (mem_erase_of_ne ?_).mpr mem
  rintro rfl
  exact other begun

theorem sound_reject (sound : Sound surface) (call : SurfaceCall) (boundary : Bool) :
    Sound (surface.reject kind call boundary) := by
  unfold reject
  split
  · exact sound_addCall sound _ _
  · exact sound

theorem sound_failActive (sound : Sound surface) (host : Nat) :
    Sound (surface.failActive host) := by
  refine ⟨sound.accounted.moved ?_, fun transition held => ?_, sound.begun, sound.called,
    sound.idle, fun closed => ?_⟩
  · rintro process owner (⟨active, held, mem⟩ | other)
    · refine .inl ⟨_, mem_map_of_mem _ held, ?_⟩
      split
      · exact mem
      · exact mem
    · exact .inr other
  · rcases sound.vacant transition held with framing | vacant
    · exact .inl framing
    · exact .inr (congrArg (Option.map _) vacant)
  · rcases sound.final closed with pending | ⟨vacant, free⟩
    · exact .inl pending
    · exact .inr ⟨congrArg (Option.map _) vacant, free⟩

/-! ## The transition -/

/-- A replacement begins where there is none, before any `close`. -/
theorem sound_replace (sound : Sound surface) (free : surface.transition = none)
    (opened : surface.closed = false) (call : SurfaceCall) :
    Sound ((surface.replace call.target).addCall call .initiated) := by
  have uncalled (stage : CloseStage) : stage ∉ surface.closes := by
    intro mem
    have closed := sound.called stage mem
    rw [opened] at closed
    cases closed
  unfold replace
  split
  · rename_i vacant
    refine ⟨sound.accounted.moved ?_, fun _ _ => .inr vacant,
      fun _ _ => ⟨_, mem_cons_self, rfl⟩, sound.called,
      fun settled => absurd settled (uncalled _), fun closed => ?_⟩
    · rintro process owner (active | ⟨transition, held, _⟩ | closing)
      · exact .inl active
      · rw [free] at held
        cases held
      · exact .inr (.inr closing)
    · cases opened.symm.trans closed
  · rename_i previous active
    refine ⟨sound.accounted.moved ?_, fun _ _ => .inr rfl,
      fun _ _ => ⟨_, mem_cons_self, rfl⟩, sound.called,
      fun settled => absurd settled (uncalled _), fun closed => ?_⟩
    · rintro process owner (⟨other, held, mem⟩ | ⟨transition, held, _⟩ | closing)
      · cases active.symm.trans held
        exact .inr (.inl ⟨_, rfl, mem⟩)
      · rw [free] at held
        cases held
      · exact .inr (.inr closing)
    · cases opened.symm.trans closed

theorem sound_ensure (sound : Sound surface) (call : SurfaceCall)
    (orderly : surface.closed = true → surface.ensureBegins kind call.target = false) :
    Sound (surface.ensure kind call) := by
  unfold ensure
  split
  · exact sound_reject sound call false
  · rename_i allowed
    split
    · exact sound_addCall sound call _
    · rename_i unready
      split
      · exact sound_addCall sound call _
      · rename_i free
        refine sound_replace sound free ?_ call
        cases opened : surface.closed with
        | false => rfl
        | true =>
            have begun : surface.ensureBegins kind call.target = true := by
              unfold ensureBegins
              rw [unready, free]
              revert allowed
              cases kind.valid call.target <;> cases kind.fenced <;> cases surface.lost <;> simp
            rw [orderly opened] at begun
            cases begun

variable {target : TakeoverHostTarget}

/-- A stage of the transition gives way to another, or to its end. -/
theorem sound_atStage {killed : List Nat} {stage stage' : ReplaceStage} (sound : Sound surface)
    (held : surface.transition = some (target, stage)) (early : stage ≠ .framing)
    (kept : ∀ process ∈ surface.killed, process ∈ killed)
    (passes : ∀ process ∈ stage.processes,
      process ∈ surface.exited ++ killed ∨ process ∈ stage'.processes) :
    Sound ({ surface with killed }.atStage target stage') := by
  refine ⟨sound.accounted.passed (fun process gone => ?_) ?_, fun _ _ => .inr ?_,
    fun _ _ => sound.begun _ held, sound.called, fun settled => ?_, fun closed => ?_⟩
  · rcases mem_append.mp gone with exited | killed
    · exact mem_append_left _ exited
    · exact mem_append_right _ (kept process killed)
  · rintro process owner (active | ⟨transition, held', mem⟩ | closing)
    · exact .inr (.inl active)
    · cases held.symm.trans held'
      rcases passes process mem with gone | mem
      · exact .inl gone
      · exact .inr (.inr (.inl ⟨_, rfl, mem⟩))
    · exact .inr (.inr (.inr closing))
  · exact (sound.vacant _ held).resolve_left early
  · cases held.symm.trans (sound.idle settled)
  · rcases sound.final closed with pending | ⟨_, free⟩
    · exact .inl pending
    · cases held.symm.trans free

theorem settle_pending {stages : List CloseStage}
    (pending : .awaiting ∈ stages ∨ .settled ∈ stages) :
    .settled ∈ stages.map CloseStage.settle := by
  rcases pending with mem | mem
  · exact mem_map.mpr ⟨_, mem, rfl⟩
  · exact mem_map.mpr ⟨_, mem, rfl⟩

theorem settle_processes (stage : CloseStage) : stage.settle.processes = stage.processes := by
  cases stage <;> rfl

/-- The transition settles, with no process left in its hands. -/
theorem sound_settle {killed : List Nat} {stage : ReplaceStage}
    (sound : Sound surface) (held : surface.transition = some (target, stage))
    (kept : ∀ process ∈ surface.killed, process ∈ killed)
    (over' : ∀ process ∈ stage.processes, process ∈ surface.exited ++ killed)
    (settlement : Settlement) : Sound ({ surface with killed }.settle settlement) := by
  refine ⟨sound.accounted.passed (fun process gone => ?_) ?_, fun _ no => ?_, fun _ no => ?_,
    fun stage mem => ?_, fun _ => rfl, fun closed => ?_⟩
  · rcases mem_append.mp gone with exited | killed
    · exact mem_append_left _ exited
    · exact mem_append_right _ (kept process killed)
  · rintro process owner (active | ⟨transition, held', mem⟩ | ⟨stage, closing, mem⟩)
    · exact .inr (.inl active)
    · cases held.symm.trans held'
      exact .inl (over' process mem)
    · refine .inr (.inr (.inr ⟨_, mem_map.mpr ⟨stage, closing, rfl⟩, ?_⟩))
      rw [settle_processes]
      exact mem
  · cases no
  · cases no
  · obtain ⟨stage, mem, _⟩ := mem_map.mp mem
    exact sound.called stage mem
  · rcases sound.final closed with pending | ⟨_, free⟩
    · exact .inl (.inr (settle_pending pending))
    · cases held.symm.trans free

theorem sound_startAuthority (sound : Sound surface)
    (held : surface.transition = some (target, .launching)) :
    Sound (surface.startAuthority target) := by
  refine ⟨sound.accounted.issue ?_ ?_, fun _ _ => .inr ?_, fun _ _ => sound.begun _ held,
    sound.called, fun settled => ?_, fun closed => ?_⟩
  · exact .inr (.inl ⟨_, rfl, mem_cons_self⟩)
  · rintro process owner (active | ⟨transition, held', mem⟩ | closing)
    · exact .inl active
    · cases held.symm.trans held'
      cases mem
    · exact .inr (.inr closing)
  · exact (sound.vacant _ held).resolve_left (by simp)
  · cases held.symm.trans (sound.idle settled)
  · rcases sound.final closed with pending | ⟨_, free⟩
    · exact .inl pending
    · cases held.symm.trans free

theorem sound_startHost {stage : ReplaceStage} {authority : Option Nat} (sound : Sound surface)
    (held : surface.transition = some (target, stage)) (early : stage ≠ .framing)
    (joins : stage.processes = authority.toList) : Sound (surface.startHost target authority) := by
  have vacant := (sound.vacant _ held).resolve_left early
  refine ⟨sound.accounted.issue ?_ ?_, fun transition held' => .inl ?_,
    fun _ _ => sound.begun _ held, sound.called, fun settled => ?_, fun closed => ?_⟩
  · exact .inl ⟨_, rfl, mem_cons_self⟩
  · rintro process owner (⟨active, held', _⟩ | ⟨transition, held', mem⟩ | closing)
    · cases vacant.symm.trans held'
    · cases held.symm.trans held'
      rw [joins] at mem
      exact .inl ⟨_, rfl, mem_cons_of_mem _ mem⟩
    · exact .inr (.inr closing)
  · cases held'
    rfl
  · cases held.symm.trans (sound.idle settled)
  · rcases sound.final closed with pending | ⟨_, free⟩
    · exact .inl pending
    · cases held.symm.trans free

/-- A wait is over when the process has exited or has been sent a signal. -/
theorem waitOver_spec {process : Nat} {outlived : Bool}
    (waited : surface.waitOver process outlived = some surface') :
    ∃ killed, surface' = { surface with killed } ∧ (∀ other ∈ surface.killed, other ∈ killed) ∧
      process ∈ surface.exited ++ killed := by
  unfold waitOver at waited
  split at waited
  · cases waited
    exact ⟨_, rfl, fun _ mem => mem_cons_of_mem _ mem,
      mem_append_right _ mem_cons_self⟩
  · split at waited
    · rename_i exited
      cases waited
      exact ⟨surface.killed, rfl, fun _ mem => mem, mem_append_left _ exited⟩
    · cases waited

theorem advance_sound {event : SurfaceEvent} {stage : ReplaceStage}
    (step : surface.advance kind event target stage = some surface')
    (held : surface.transition = some (target, stage)) (orderly : surface.leaks event = false)
    (sound : Sound surface) : Sound surface' := by
  have kept : ∀ process ∈ surface.killed, process ∈ surface.killed := fun _ mem => mem
  unfold advance at step
  split at step
  · rename_i outlived target process rest
    obtain ⟨waited, over', rfl⟩ := map_eq_some_iff.mp step
    obtain ⟨killed, rfl, kept, gone⟩ := waitOver_spec over'
    refine sound_atStage sound held (by simp) kept fun other mem => ?_
    rcases mem_cons.mp mem with rfl | mem
    · exact .inl gone
    · refine .inr ?_
      rw [if_neg (ne_nil_of_mem mem)]
      exact mem
  · obtain ⟨waited, over', rfl⟩ := map_eq_some_iff.mp step
    obtain ⟨killed, rfl, kept, gone⟩ := waitOver_spec over'
    refine sound_settle sound held kept (fun other mem => ?_) _
    cases mem_singleton.mp mem
    exact gone
  · split at step
    · cases step
      exact sound_startAuthority sound held
    · cases step
      exact sound_startHost sound held (by simp) rfl
  · cases step
    exact sound_startHost sound held (by simp) rfl
  · cases step
    exact sound_settle sound held kept (fun _ no => by cases no) _
  · unfold leaks at orderly
    rw [held] at orderly
    cases orderly
  · cases step
    exact sound_atStage sound held (by simp) kept fun _ mem => .inr mem
  · cases step
    exact sound_atStage sound held (by simp) kept fun _ mem => .inr mem
  · cases step
    exact sound_atStage sound held (by simp) kept fun _ mem => .inr mem
  · cases step
    exact sound_atStage sound held (by simp) kept fun _ mem => .inr mem
  · cases step
    exact sound_settle sound held kept (fun _ no => by cases no) _
  · cases step
    exact sound_settle sound held kept (fun _ no => by cases no) _
  · cases step

/-! ## `close` -/

/-- Once no transition is in its way, `close` takes what is active into its hands. -/
theorem sound_stopCurrent
    (accounted : Accounted surface.processes (surface.exited ++ surface.killed) surface.Holds)
    (free : surface.transition = none) (closed : surface.closed = true) :
    Sound surface.stopCurrent := by
  unfold stopCurrent
  split
  · rename_i vacant
    refine ⟨accounted, fun _ held => ?_, fun _ held => ?_, fun _ _ => closed, fun _ => free,
      fun _ => .inr ⟨vacant, free⟩⟩
    · cases free.symm.trans held
    · cases free.symm.trans held
  · rename_i active running
    refine ⟨accounted.moved ?_, fun _ held => ?_, fun _ held => ?_, fun _ _ => closed,
      fun _ => free, fun _ => .inr ⟨rfl, free⟩⟩
    · rintro process owner (⟨other, held, mem⟩ | transition | ⟨stage, closing, mem⟩)
      · cases running.symm.trans held
        exact .inr (.inr ⟨_, mem_cons_self, mem⟩)
      · exact .inr (.inl transition)
      · exact .inr (.inr ⟨stage, mem_cons_of_mem _ closing, mem⟩)
    · cases free.symm.trans held
    · cases free.symm.trans held

theorem sound_close (sound : Sound surface) : Sound surface.close := by
  unfold close
  split
  · rename_i transition held
    refine ⟨sound.accounted.moved ?_, sound.vacant, sound.begun, fun _ _ => rfl,
      fun settled => ?_, fun _ => .inl (.inl mem_cons_self)⟩
    · rintro process owner (active | transition | ⟨stage, closing, mem⟩)
      · exact .inl active
      · exact .inr (.inl transition)
      · exact .inr (.inr ⟨stage, mem_cons_of_mem _ closing, mem⟩)
    · rcases mem_cons.mp settled with no | settled
      · cases no
      · exact sound.idle settled
  · rename_i free
    exact sound_stopCurrent sound.accounted free rfl

theorem sound_closeResumed (sound : Sound surface) (settled : .settled ∈ surface.closes) :
    Sound (surface.dropClose .settled).stopCurrent := by
  refine sound_stopCurrent (sound.accounted.moved ?_) (sound.idle settled)
    (sound.called _ settled)
  rintro process owner (active | transition | ⟨stage, closing, mem⟩)
  · exact .inl active
  · exact .inr (.inl transition)
  · refine .inr (.inr ⟨stage, (mem_erase_of_ne ?_).mpr closing, mem⟩)
    rintro rfl
    cases mem

theorem afterCloseStop_spec (rest : List Nat) :
    ∃ closes, surface.afterCloseStop rest = { surface with closes } ∧
      (∀ stage ∈ surface.closes, stage ∈ closes) ∧
      (∀ process ∈ rest, .stopping rest ∈ closes) ∧
      (.settled ∈ closes → .settled ∈ surface.closes) := by
  unfold afterCloseStop
  split
  · rename_i last
    subst last
    exact ⟨surface.closes, rfl, fun _ mem => mem, fun _ no => (by cases no), fun mem => mem⟩
  · refine ⟨_, rfl, fun _ mem => mem_cons_of_mem _ mem, fun _ _ => mem_cons_self,
      fun mem => ?_⟩
    rcases mem_cons.mp mem with no | mem
    · cases no
    · exact mem

/-- One process of the helper that a `close` stops is done with. -/
theorem sound_closeWaited {process : Nat} {rest : List Nat} {outlived : Bool}
    (sound : Sound surface) (stopping : .stopping (process :: rest) ∈ surface.closes)
    (waited : (surface.dropClose (.stopping (process :: rest))).waitOver process outlived =
      some surface') : Sound (surface'.afterCloseStop rest) := by
  obtain ⟨killed, rfl, kept, gone⟩ := waitOver_spec waited
  obtain ⟨closes, same, others, stops, unsettled⟩ :=
    @afterCloseStop_spec { surface.dropClose (.stopping (process :: rest)) with killed } rest
  rw [same]
  have left {stage : CloseStage} (mem : stage ∈ surface.closes)
      (other : stage ≠ .stopping (process :: rest)) : stage ∈ closes :=
    others stage ((mem_erase_of_ne other).mpr mem)
  refine ⟨sound.accounted.passed (fun process gone => ?_) ?_, sound.vacant, sound.begun,
    fun _ _ => sound.called _ stopping, fun settled => ?_, fun closed => ?_⟩
  · rcases mem_append.mp gone with exited | killed
    · exact mem_append_left _ exited
    · exact mem_append_right _ (kept process killed)
  · rintro other owner (active | transition | ⟨stage, closing, mem⟩)
    · exact .inr (.inl active)
    · exact .inr (.inr (.inl transition))
    · by_cases here : stage = .stopping (process :: rest)
      · subst here
        rcases mem_cons.mp mem with rfl | mem
        · exact .inl gone
        · exact .inr (.inr (.inr ⟨_, stops other mem, mem⟩))
      · exact .inr (.inr (.inr ⟨stage, left closing here, mem⟩))
  · exact sound.idle (mem_of_mem_erase (unsettled settled))
  · rcases sound.final closed with (awaiting | settled) | none
    · exact .inl (.inl (left awaiting (by simp)))
    · exact .inl (.inr (left settled (by simp)))
    · exact .inr none

/-! ## Steps -/

theorem sound_exited (sound : Sound surface) (process : Nat) :
    Sound { surface with exited := process :: surface.exited } :=
  ⟨sound.accounted.passed (fun _ gone => mem_cons_of_mem _ gone) fun _ _ holds => .inr holds,
    sound.vacant, sound.begun, sound.called, sound.idle, sound.final⟩

theorem step_sound {event : SurfaceEvent} (step : Step kind surface event surface')
    (orderly : Orderly kind surface event) (sound : Sound surface) : Sound surface' := by
  change next kind surface event = some surface' at step
  cases event with
  | capture target =>
      cases step
      exact sound_ensure sound _ orderly.1
  | input target =>
      cases step
      exact sound_ensure sound _ orderly.1
  | close =>
      cases step
      exact sound_close sound
  | resumed call initiated settlement =>
      change (if _ then _ else _) = some surface' at step
      split at step
      · rename_i met
        cases step
        have sound := sound_dropCall sound (met.2 ▸ (by simp) : call.stage ≠ .initiated)
        unfold resume
        split
        · exact sound_reject sound call _
        · exact sound_ensure sound call orderly.1
        · split
          · exact sound_addCall sound call _
          · exact sound_reject sound call false
      · cases step
  | retried call =>
      change (if _ then _ else _) = some surface' at step
      split at step
      · rename_i met
        cases step
        have sound := sound_dropCall sound (met.2 ▸ (by simp) : call.stage ≠ .initiated)
        exact sound_ensure sound call orderly.1
      · cases step
  | served call host =>
      change (if _ then _ else _) = some surface' at step
      split at step
      · rename_i met
        cases step
        exact sound_dropCall sound (met.2 ▸ (by simp) : call.stage ≠ .initiated)
      · cases step
  | stalled call host =>
      change (if _ then _ else _) = some surface' at step
      split at step
      · rename_i met
        cases step
        have sound := sound_dropCall sound (met.2.1 ▸ (by simp) : call.stage ≠ .initiated)
        exact sound_reject (sound_failActive sound host) call false
      · cases step
  | closeResumed =>
      change (if _ then _ else _) = some surface' at step
      split at step
      · rename_i settled
        cases step
        exact sound_closeResumed sound settled
      · cases step
  | closeWaited process rest outlived =>
      change (if _ then _ else _) = some surface' at step
      split at step
      · rename_i stopping
        obtain ⟨waited, through, rfl⟩ := map_eq_some_iff.mp step
        exact sound_closeWaited sound stopping through
      · cases step
  | helperFailed host =>
      cases step
      exact sound_failActive sound host
  | exited process =>
      change (if _ then _ else _) = some surface' at step
      split at step
      · cases step
        exact sound_exited sound process
      · cases step
  | authorityLost =>
      cases step
      exact ⟨sound.accounted, sound.vacant, sound.begun, sound.called, sound.idle, sound.final⟩
  | waited | started | throws | ready | unready | revalidated | invalid | framed | unframed =>
      obtain ⟨⟨target, stage⟩, held, step⟩ := bind_eq_some_iff.mp step
      exact advance_sound step held orderly.2 sound

/-! ## Runs -/

/-- Captures and inputs. -/
def isCall : SurfaceEvent → Bool
  | .capture _ | .input _ => true
  | _ => false

/-- Nothing is pending but what a `close` still stops. -/
structure AtRest (surface : WindowSurface) : Prop where
  calls : surface.calls = []
  free : surface.transition = none

theorem stopCurrent_keeps : surface.stopCurrent.calls = surface.calls ∧
    surface.stopCurrent.transition = surface.transition ∧
    surface.stopCurrent.processes = surface.processes := by
  unfold stopCurrent
  split
  · exact ⟨rfl, rfl, rfl⟩
  · exact ⟨rfl, rfl, rfl⟩

theorem atRest_step {event : SurfaceEvent} (step : Step kind surface event surface')
    (uncalled : isCall event = false) (rest : AtRest surface) :
    AtRest surface' ∧ surface'.processes = surface.processes := by
  change next kind surface event = some surface' at step
  have none' (call : SurfaceCall) : call ∉ surface.calls := by
    rw [rest.calls]
    exact not_mem_nil
  cases event with
  | capture | input => cases uncalled
  | close =>
      cases step
      have stops : surface.close = { surface with closed := true }.stopCurrent := by
        unfold close
        rw [rest.free]
      obtain ⟨calls, free, same⟩ := @stopCurrent_keeps { surface with closed := true }
      rw [stops]
      exact ⟨⟨calls.trans rest.calls, free.trans rest.free⟩, same⟩
  | resumed call =>
      change (if _ then _ else _) = some surface' at step
      rw [if_neg fun met => none' call met.1] at step
      cases step
  | retried call =>
      change (if _ then _ else _) = some surface' at step
      rw [if_neg fun met => none' call met.1] at step
      cases step
  | served call =>
      change (if _ then _ else _) = some surface' at step
      rw [if_neg fun met => none' call met.1] at step
      cases step
  | stalled call =>
      change (if _ then _ else _) = some surface' at step
      rw [if_neg fun met => none' call met.1] at step
      cases step
  | closeResumed =>
      change (if _ then _ else _) = some surface' at step
      split at step
      · cases step
        obtain ⟨calls, free, same⟩ := @stopCurrent_keeps (surface.dropClose .settled)
        exact ⟨⟨calls.trans rest.calls, free.trans rest.free⟩, same⟩
      · cases step
  | closeWaited process others outlived =>
      change (if _ then _ else _) = some surface' at step
      split at step
      · obtain ⟨waited, through, rfl⟩ := map_eq_some_iff.mp step
        obtain ⟨killed, rfl, _⟩ := waitOver_spec through
        obtain ⟨closes, same, _⟩ := @afterCloseStop_spec
          { surface.dropClose (.stopping (process :: others)) with killed } others
        rw [same]
        exact ⟨⟨rest.calls, rest.free⟩, rfl⟩
      · cases step
  | helperFailed host =>
      cases step
      exact ⟨⟨rest.calls, rest.free⟩, rfl⟩
  | exited process =>
      change (if _ then _ else _) = some surface' at step
      split at step
      · cases step
        exact ⟨⟨rest.calls, rest.free⟩, rfl⟩
      · cases step
  | authorityLost =>
      cases step
      exact ⟨⟨rest.calls, rest.free⟩, rfl⟩
  | waited | started | throws | ready | unready | revalidated | invalid | framed | unframed =>
      obtain ⟨transition, held, _⟩ := bind_eq_some_iff.mp step
      cases rest.free.symm.trans held

/-- With no new call, nothing is started from rest. -/
theorem atRest_run {events : List SurfaceEvent} (run : Run (Step kind) surface events surface')
    (uncalled : ∀ event ∈ events, isCall event = false) (rest : AtRest surface) :
    surface'.processes = surface.processes := by
  induction run with
  | refl => rfl
  | step head _ ih =>
      obtain ⟨rest, same⟩ := atRest_step head (uncalled _ mem_cons_self) rest
      exact (ih (fun event mem => uncalled event (mem_cons_of_mem _ mem)) rest).trans same

/-- When no replacement begins after `close` was called, then once every call and every `close` has
settled each helper process has exited or was sent a signal after the wait for it, and without a
new call none is started any more. -/
theorem run_final {events : List SurfaceEvent} {last : WindowSurface}
    (run : Run (Guarded (Step kind) (Orderly kind)) initial events last)
    (closed : last.closed = true) (closes : last.closes = []) (calls : last.calls = []) :
    (∀ process < last.processes.length, process ∈ last.exited ∨ process ∈ last.killed) ∧
    ∀ later after, Run (Step kind) last later after → (∀ event ∈ later, isCall event = false) →
      after.processes = last.processes := by
  have sound : Sound last := by
    refine run.invariant ?_ initial_sound
    exact fun step sound => step_sound step.1 step.2 sound
  obtain ⟨vacant, free⟩ : last.active = none ∧ last.transition = none := by
    refine (sound.final closed).resolve_left ?_
    rw [closes]
    exact fun pending => pending.elim (List.not_mem_nil) (List.not_mem_nil)
  refine ⟨fun process within => ?_, fun later after run uncalled =>
    atRest_run run uncalled ⟨calls, free⟩⟩
  refine List.mem_append.mp (sound.accounted.all_released ?_ (List.getElem?_eq_getElem within))
  rintro process (⟨active, held, _⟩ | ⟨transition, held, _⟩ | ⟨stage, closing, _⟩)
  · cases vacant.symm.trans held
  · cases free.symm.trans held
  · rw [closes] at closing
    cases closing

/-! ## Sample helpers -/

instance (surface : WindowSurface) (event : SurfaceEvent) :
    Decidable (Orderly kind surface event) :=
  inferInstanceAs (Decidable (_ ∧ _))

def sampleTarget (window : Int) : TakeoverHostTarget := ⟨100, some window⟩

def sampleCall (window : Int) (attempt : Nat) (stage : CallStage) : SurfaceCall :=
  ⟨sampleTarget window, true, attempt, stage⟩

/-- A helper is started, and the capture has it in hand. -/
def sampleCapture : List SurfaceEvent :=
  [.capture (sampleTarget 7), .started, .ready, .revalidated, .started, .framed,
    .resumed (sampleCall 7 0 (.settled true .resolved)) true .resolved]

/-- `close` stops the helper. -/
def sampleClose : List SurfaceEvent :=
  [.close, .exited 1, .closeWaited 1 [0] false, .exited 0, .closeWaited 0 [] false]

def sampleClosed : WindowSurface :=
  ⟨none, false, none, [], [], true, [.authority, .host], [0, 1], []⟩

theorem sampleClosed_final :
    (∀ process < sampleClosed.processes.length,
      process ∈ sampleClosed.exited ∨ process ∈ sampleClosed.killed) ∧
    ∀ later after, Run (Step linuxWindowSurface) sampleClosed later after →
      (∀ event ∈ later, isCall event = false) → after.processes = sampleClosed.processes :=
  @run_final linuxWindowSurface
    (sampleCapture ++ .served (sampleCall 7 0 (.using 1)) 1 :: sampleClose) sampleClosed
    (run_guarded_of_execute (by decide +kernel)) rfl rfl rfl

/-- A capture on Linux waits for its second attempt while the surface is closed, and a call for
another window on macOS waits for the same transition as `close`: both start a helper that is left
running. -/
theorem sampleLate_running :
    (∃ last, Run (Step linuxWindowSurface) initial
      (sampleCapture ++ .stalled (sampleCall 7 0 (.using 1)) 1 :: sampleClose ++
        [.retried (sampleCall 7 1 .delayed), .started, .ready, .revalidated, .started, .framed,
          .resumed (sampleCall 7 1 (.settled true .resolved)) true .resolved,
          .served (sampleCall 7 1 (.using 3)) 3]) last ∧
      last.closed = true ∧ last.closes = [] ∧ last.calls = [] ∧
      last.processes[3]? = some .host ∧ 3 ∉ last.exited ∧ 3 ∉ last.killed) ∧
    ∃ last, Run (Step (macOSWindowSurface false)) initial
      [.capture (sampleTarget 7), .capture (sampleTarget 8), .close, .started, .framed,
        .resumed (sampleCall 7 0 (.settled true .resolved)) true .resolved,
        .resumed (sampleCall 8 0 (.settled false .resolved)) false .resolved, .closeResumed,
        .served (sampleCall 7 0 (.using 0)) 0, .exited 0, .waited false, .started, .framed,
        .resumed (sampleCall 8 0 (.settled true .resolved)) true .resolved,
        .served (sampleCall 8 0 (.using 1)) 1] last ∧
      last.closed = true ∧ last.closes = [] ∧ last.calls = [] ∧
      last.processes[1]? = some .host ∧ 1 ∉ last.exited ∧ 1 ∉ last.killed :=
  ⟨⟨_, (run_iff_execute _ _ _ _).mpr rfl, rfl, rfl, rfl, rfl, by decide, by decide⟩,
    ⟨_, (run_iff_execute _ _ _ _).mpr rfl, rfl, rfl, rfl, rfl, by decide, by decide⟩⟩

end WindowSurface

end ExecutionHandoff.Surface
