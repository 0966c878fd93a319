import ExecutionHandoff.Surface.InputChain

/-!
# Inputs one after another

Every input of a helper that the helper can serve is revalidated and written in
its turn.  On Linux this takes that no recoverable failure of a revalidation
has another input behind it.
-/

namespace ExecutionHandoff.Surface

open Library List
open WebSocket (WebSocketTakeoverHumanInput)
open InputLink (phase)
open Option (map_eq_some_iff bind_eq_some_iff)

/-! ## Who is available -/

namespace WindowSurface

variable {kind : WindowSurfaceKind} {surface surface' surface'' : WindowSurface}

/-- No helper becomes available. -/
def Narrows (surface surface' : WindowSurface) : Prop :=
  ∀ host, surface'.available host = true → surface.available host = true

theorem Narrows.of_active (same : surface'.active = surface.active) : Narrows surface surface' :=
  fun _ now => by
    unfold available at now ⊢
    rwa [same] at now

theorem Narrows.of_vacant (vacant : surface'.active = none) : Narrows surface surface' :=
  fun _ now => by
    unfold available at now
    rw [vacant] at now
    cases now

theorem Narrows.trans (left : Narrows surface surface') (right : Narrows surface' surface'') :
    Narrows surface surface'' := fun host now => left host (right host now)

theorem failActive_available (surface : WindowSurface) (host other : Nat) :
    (surface.failActive host).available other =
      (surface.available other && decide (other ≠ host)) := by
  unfold available failActive
  cases surface.active with
  | none => rfl
  | some active =>
      by_cases same : active.host = host
      · by_cases here : active.host = other
        · simp [same, ← here]
        · simp [same, show host ≠ other from same ▸ here]
      · by_cases here : active.host = other
        · simp [same, ← here]
        · simp [same, here]

theorem Narrows.failActive (surface : WindowSurface) (host : Nat) :
    Narrows surface (surface.failActive host) := fun other now => by
  rw [failActive_available] at now
  exact (Bool.and_eq_true_iff.mp now).1

theorem reject_active (surface : WindowSurface) (call : SurfaceCall) (boundary : Bool) :
    (surface.reject kind call boundary).active = surface.active := by
  unfold reject
  split
  · rfl
  · rfl

theorem Narrows.replace (surface : WindowSurface) (target : TakeoverHostTarget) :
    Narrows surface (surface.replace target) := by
  unfold WindowSurface.replace
  split
  · exact .of_active rfl
  · exact .of_vacant rfl

theorem Narrows.ensure (surface : WindowSurface) (call : SurfaceCall) :
    Narrows surface (surface.ensure kind call) := by
  unfold WindowSurface.ensure
  split
  · exact .of_active (reject_active surface call false)
  · split
    · exact .of_active rfl
    · split
      · exact .of_active rfl
      · exact (Narrows.replace surface call.target).trans (.of_active rfl)

theorem Narrows.resume (surface : WindowSurface) (call : SurfaceCall) (initiated : Bool)
    (settlement : Settlement) : Narrows surface (surface.resume kind call initiated settlement) := by
  unfold WindowSurface.resume
  split
  · exact .of_active (reject_active surface call _)
  · exact Narrows.ensure surface call
  · split
    · exact .of_active rfl
    · exact .of_active (reject_active surface call _)

theorem Narrows.stopCurrent (surface : WindowSurface) : Narrows surface surface.stopCurrent := by
  unfold WindowSurface.stopCurrent
  split
  · exact .of_active rfl
  · exact .of_vacant rfl

theorem Narrows.close (surface : WindowSurface) : Narrows surface surface.close := by
  unfold WindowSurface.close
  split
  · exact .of_active rfl
  · exact Narrows.trans (.of_active rfl) (Narrows.stopCurrent _)

theorem waitOver_active {process : Nat} {outlived : Bool}
    (ended : surface.waitOver process outlived = some surface') :
    surface'.active = surface.active := by
  unfold waitOver at ended
  split at ended
  · cases ended
    rfl
  · split at ended
    · cases ended
      rfl
    · cases ended

/-- The helper that is available was so before, or has just been started. -/
def Succeeds (surface surface' : WindowSurface) : Prop :=
  ∀ host, surface'.available host = true → surface.available host = true ∨
    (host = surface.processes.length ∧ surface.processes.length < surface'.processes.length)

theorem Narrows.succeeds (narrows : Narrows surface surface') : Succeeds surface surface' :=
  fun host now => .inl (narrows host now)

theorem succeeds_startHost (surface : WindowSurface) (target : TakeoverHostTarget)
    (authority : Option Nat) : Succeeds surface (surface.startHost target authority) := by
  intro host now
  refine .inr ⟨?_, ?_⟩
  · unfold available startHost at now
    have same := (Bool.and_eq_true_iff.mp now).1
    exact (beq_iff_eq.mp same).symm
  · change surface.processes.length < (surface.processes ++ [HelperProcess.host]).length
    rw [length_append]
    exact Nat.lt_succ_self _

theorem advance_succeeds {event : SurfaceEvent} {target : TakeoverHostTarget}
    {stage : ReplaceStage} (step : surface.advance kind event target stage = some surface') :
    Succeeds surface surface' := by
  unfold advance at step
  split at step
  · obtain ⟨waited, ended, rfl⟩ := map_eq_some_iff.mp step
    exact (Narrows.of_active (waitOver_active ended)).succeeds
  · obtain ⟨waited, ended, rfl⟩ := map_eq_some_iff.mp step
    exact (Narrows.of_active (waitOver_active ended)).succeeds
  · split at step
    · cases step
      exact Narrows.succeeds (.of_active rfl)
    · cases step
      exact succeeds_startHost _ _ _
  · cases step
    exact succeeds_startHost _ _ _
  all_goals first
    | cases step; exact Narrows.succeeds (.of_active rfl)
    | cases step

theorem next_succeeds {event : SurfaceEvent} (step : surface.next kind event = some surface') :
    Succeeds surface surface' := by
  unfold next at step
  split at step
  · cases step
    exact (Narrows.ensure surface _).succeeds
  · cases step
    exact (Narrows.ensure surface _).succeeds
  · cases step
    exact (Narrows.close surface).succeeds
  · split at step
    · cases step
      exact ((Narrows.of_active rfl).trans (Narrows.resume _ _ _ _)).succeeds
    · cases step
  · split at step
    · cases step
      exact ((Narrows.of_active rfl).trans (Narrows.ensure _ _)).succeeds
    · cases step
  · split at step
    · cases step
      exact Narrows.succeeds (.of_active rfl)
    · cases step
  · split at step
    · cases step
      refine Narrows.succeeds (Narrows.trans ?_ (.of_active (reject_active _ _ _)))
      exact Narrows.trans (.of_active rfl) (Narrows.failActive _ _)
    · cases step
  · split at step
    · cases step
      exact ((Narrows.of_active rfl).trans (Narrows.stopCurrent _)).succeeds
    · cases step
  · split at step
    · obtain ⟨waited, ended, rfl⟩ := map_eq_some_iff.mp step
      refine (Narrows.of_active ?_).succeeds
      rw [show (waited.afterCloseStop _).active = waited.active by unfold afterCloseStop; split <;> rfl]
      exact (waitOver_active ended).trans rfl
    · cases step
  · cases step
    exact (Narrows.failActive surface _).succeeds
  · split at step
    · cases step
      exact Narrows.succeeds (.of_active rfl)
    · cases step
  · cases step
    exact Narrows.succeeds (.of_active rfl)
  · obtain ⟨transition, _, advanced⟩ := bind_eq_some_iff.mp step
    exact advance_succeeds advanced

end WindowSurface

namespace InputSurface

/-! ## What may not happen on Linux -/

section Conditions

variable (platform : WindowPlatform) (state : InputSurface)

/-- On Linux, while the helper is the active one and has not failed: a revalidation that fails with
an error other than the exact-window boundary errors has no input waiting behind it, and no input
is submitted after it. -/
def Clear (state : InputSurface) : InputEvent → Prop
  | .submitted _ host _ => platform = .linux → state.available host = true →
      ∀ link ∈ state.chains host, ∀ error ∈ link.stage.failure?,
        isExactWindowBoundaryError error = true
  | .revalidated host index alive query => platform = .linux → state.available host = true →
      ∀ error ∈ revalidate alive query, isExactWindowBoundaryError error = true ∨
        index + 1 = (state.chains host).length
  | _ => True

/-- The helper can serve the input, and what went wrong with the inputs before it is recoverable. -/
def Entitled (host index : Nat) : Prop :=
  state.available host = true ∧ ¬ (platform.window.fenced = true ∧ state.surface.lost = true) ∧
    ∀ before link, before < index → (state.chains host)[before]? = some link →
      ∀ error ∈ link.stage.error?, platform.inputFailureDisposition error = .recoverable

end Conditions

variable {platform : WindowPlatform} {state state' : InputSurface}

/-- The chain of an available helper on Linux: only a boundary error was ever handed down, and a
link that others come after has no other error. -/
structure Unspoilt (links : List InputLink) : Prop where
  own : ∀ link ∈ links, ∀ error, link.stage = .refused error ∨ link.stage = .inherited error →
    isExactWindowBoundaryError error = true
  front : ∀ (before after : Nat) (first second : InputLink) (error : SurfaceError),
    before < after → links[before]? = some first → links[after]? = some second →
    first.stage.error? = some error → isExactWindowBoundaryError error = true

namespace Unspoilt

variable {links : List InputLink}

theorem nil : Unspoilt [] where
  own := fun _ no => by cases no
  front := fun _ _ _ _ _ _ no => by cases no

theorem concat (unspoilt : Unspoilt links) (input : WebSocketTakeoverHumanInput)
    (clear : ∀ link ∈ links, ∀ error ∈ link.stage.failure?,
      isExactWindowBoundaryError error = true) :
    Unspoilt (links ++ [⟨input, .waiting⟩]) := by
  constructor
  · intro link mem error stage
    rcases mem_append.mp mem with old | new
    · exact unspoilt.own link old error stage
    · cases mem_singleton.mp new
      rcases stage with no | no <;> cases no
  · intro before after first second error earlier here there wrong
    have old : links[before]? = some first := by
      have inside := (List.getElem?_eq_some_iff.mp there).1
      rw [length_append, length_singleton] at inside
      rwa [getElem?_append_left (by omega)] at here
    have mem := mem_of_getElem? old
    unfold LinkStage.error? at wrong
    split at wrong
    · rename_i error' stage
      cases wrong
      exact clear first mem error (by rw [stage]; rfl)
    · rename_i error' stage
      cases wrong
      exact unspoilt.own first mem error (.inl stage)
    · rename_i error' stage
      cases wrong
      exact unspoilt.own first mem error (.inr stage)
    · cases wrong

theorem set {index : Nat} {link : InputLink} {stage : LinkStage} (unspoilt : Unspoilt links)
    (own : ∀ error, stage = .refused error ∨ stage = .inherited error →
      isExactWindowBoundaryError error = true)
    (front : ∀ error, stage.error? = some error →
      isExactWindowBoundaryError error = true ∨ index + 1 = links.length) :
    Unspoilt (links.set index { link with stage }) := by
  constructor
  · intro other mem error wrong
    rcases mem_or_eq_of_mem_set mem with old | rfl
    · exact unspoilt.own other old error wrong
    · exact own error wrong
  · intro before after first second error earlier one other wrong
    have inside := (List.getElem?_eq_some_iff.mp other).1
    rw [length_set] at inside
    rw [getElem?_set] at one
    split at one
    · rename_i same
      have set : first = { link with stage } := by
        split at one
        · exact (Option.some.inj one).symm
        · cases one
      subst set
      exact (front error wrong).resolve_right (by omega)
    · exact unspoilt.front before after first links[after] error earlier one
        (getElem?_eq_getElem inside) wrong

theorem settle (unspoilt : Unspoilt links) :
    Unspoilt (links.map (InputLink.settle .resolved)) := by
  have kept (link : InputLink) (error : SurfaceError)
      (wrong : (link.settle .resolved).stage.error? = some error) :
      link.stage.error? = some error := by
    unfold InputLink.settle at wrong
    split at wrong
    · cases wrong
    · exact wrong
  constructor
  · intro link mem error stage
    obtain ⟨old, there, rfl⟩ := mem_map.mp mem
    refine unspoilt.own old there error ?_
    unfold InputLink.settle at stage
    split at stage
    · rcases stage with no | no <;> cases no
    · exact stage
  · intro before after first second error earlier one other wrong
    rw [getElem?_map] at one other
    obtain ⟨first', here, rfl⟩ := map_eq_some_iff.mp one
    obtain ⟨second', there, rfl⟩ := map_eq_some_iff.mp other
    exact unspoilt.front before after first' second' error earlier here there (kept _ _ wrong)

end Unspoilt

/-- The links of each helper run one at a time and in their order. -/
structure Sound (platform : WindowPlatform) (state : InputSurface) : Prop where
  serial : ∀ host, Serial InputLink.phase (state.chains host)
  failed : ∀ host ∈ state.failed, state.available host = false
  unspoilt : platform = .linux → ∀ host, state.available host = true → Unspoilt (state.chains host)

theorem initial_sound : Sound platform initial where
  serial := fun _ => .nil
  failed := fun _ no => by cases no
  unspoilt := fun _ _ no => by cases no

theorem setChain_chains (host other : Nat) (links : List InputLink) :
    (state.setChain host links).chains other =
      if other = host then links else state.chains other := by
  unfold setChain
  by_cases same : other = host
  · subst same
    exact (Function.update_self _ _ _).trans (if_pos rfl).symm
  · exact (Function.update_of_ne same _ _).trans (if_neg same).symm

/-! ## Settling -/

theorem settle_serial {links : List InputLink} (stage : LinkStage)
    (serial : Serial phase links) :
    Serial phase (links.map (InputLink.settle stage)) := by
  refine serial.map (fun link waits => ?_) (fun link settled => ?_)
  · unfold InputLink.settle
    rw [if_neg (fun written => by rw [phase, written] at waits; cases waits)]
    exact waits
  · unfold InputLink.settle
    rw [if_neg (fun written => by rw [phase, written] at settled; cases settled)]
    exact settled

theorem settleInput_serial (serial : ∀ host, Serial phase (state.chains host))
    (host : Nat) (stage : LinkStage) (other : Nat) : Serial phase ((state.settleInput host stage).chains other) := by
  unfold settleInput
  rw [setChain_chains]
  split
  · exact settle_serial stage (serial host)
  · exact serial other

/-- What a link is settled with matters on Linux only while its helper is available. -/
theorem sound_settleInput (sound : Sound platform state) (host : Nat) (stage : LinkStage)
    (fine : platform = .linux → state.available host = true → stage = .resolved) :
    Sound platform (state.settleInput host stage) := by
  refine ⟨settleInput_serial sound.serial host stage, sound.failed, fun linux other now => ?_⟩
  unfold settleInput
  rw [setChain_chains]
  split
  · rename_i same
    subst same
    rw [fine linux now]
    exact (sound.unspoilt linux other now).settle
  · exact sound.unspoilt linux other now

/-- What happened to the inputs of a helper that fails is of no account. -/
theorem sound_failActive_of (host : Nat) (message : String)
    (serial : ∀ other, Serial phase (state.chains other))
    (failed : ∀ other ∈ state.failed, state.available other = false)
    (unspoilt : platform = .linux → ∀ other, other ≠ host → state.available other = true →
      Unspoilt (state.chains other)) :
    Sound platform (state.failActive platform host message) := by
  unfold failActive
  split
  · rename_i already
    refine ⟨serial, failed, fun linux other now => unspoilt linux other ?_ now⟩
    rintro rfl
    exact absurd ((failed other already).symm.trans now) (by decide)
  · refine ⟨fun other => ?_, fun other mem => ?_, fun linux other now => ?_⟩
    · change Serial _ ((state.settleInput _ _).chains other)
      exact settleInput_serial serial host _ other
    · change (state.surface.failActive host).available other = false
      rw [WindowSurface.failActive_available]
      rcases mem_cons.mp mem with rfl | old
      · rw [decide_eq_false (fun no => no rfl), Bool.and_false]
      · rw [show state.surface.available other = false from failed other old, Bool.false_and]
    · change (state.surface.failActive host).available other = true at now
      rw [WindowSurface.failActive_available] at now
      obtain ⟨before, apart⟩ := Bool.and_eq_true_iff.mp now
      change Unspoilt ((state.settleInput host _).chains other)
      unfold settleInput
      rw [setChain_chains, if_neg (of_decide_eq_true apart)]
      exact unspoilt linux other (of_decide_eq_true apart) before

theorem sound_failActive (sound : Sound platform state) (host : Nat) (message : String) :
    Sound platform (state.failActive platform host message) :=
  sound_failActive_of host message sound.serial sound.failed
    (fun linux other _ now => sound.unspoilt linux other now)

/-- Where no helper becomes available, nothing is asked of the chains. -/
theorem sound_narrows (sound : Sound platform state) {after : WindowSurface}
    (narrows : state.surface.Narrows after) : Sound platform { state with surface := after } where
  serial := sound.serial
  failed := fun host mem => Bool.eq_false_iff.mpr fun now =>
    absurd ((sound.failed host mem).symm.trans (narrows host now)) (by decide)
  unspoilt := fun linux host now => sound.unspoilt linux host (narrows host now)

/-! ## One step -/

variable {index host : Nat} {link : InputLink}

/-- While a link is not settled and all before it are, its helper waits for no acknowledgement but
its own. -/
theorem pendingInputAck_false (serial : Serial phase (state.chains host))
    (here : (state.chains host)[index]? = some link) (unsettled : link.phase ≠ .settled)
    (unwritten : link.stage ≠ .written)
    (front : SettledBefore phase (state.chains host) index) :
    state.pendingInputAck host = false := by
  unfold pendingInputAck
  rw [any_eq_false]
  intro other mem written
  have running : other.stage = .written := eq_of_beq written
  obtain ⟨place, there⟩ := mem_iff_getElem?.mp mem
  rcases Nat.lt_trichotomy place index with earlier | same | later
  · have settled := front place other earlier there
    rw [phase, running] at settled
    cases settled
  · subst same
    rw [there] at here
    exact unwritten (Option.some.inj here ▸ running)
  · have waits := serial.waiting_after here unsettled later there
    rw [phase, running] at waits
    cases waits

/-- A link whose turn has come, with all those before it settled. -/
theorem turn_spec {after : InputSurface}
    (step : next platform state (.turn host index) = some after)
    (serial : Serial phase (state.chains host)) :
    ∃ link, (state.chains host)[index]? = some link ∧ link.stage = .waiting ∧
      SettledBefore phase (state.chains host) index ∧
      after = state.setStage host index link (state.turnStage platform host index) := by
  unfold next at step
  dsimp only at step
  split at step
  · cases step
  · rename_i link here
    split at step
    · rename_i ready
      cases step
      refine ⟨link, here, ready.1, ?_, rfl⟩
      refine serial.settledBefore_turn (fun before nonzero there => ?_)
        (List.getElem?_eq_some_iff.mp here).1
      have settled := ready.2
      unfold previous at settled
      rw [if_neg nonzero, there] at settled
      exact eq_of_beq settled
    · cases step

theorem beginStage_available (now : state.available host = true)
    (free : state.pendingInputAck host = false)
    (open' : ¬ (platform.window.fenced = true ∧ state.surface.lost = true)) :
    state.beginStage platform host =
      if platform.window.authority then .revalidating else .written := by
  unfold beginStage
  rw [if_neg open', if_neg (by rw [now]; decide)]
  unfold writeStage
  rw [free]
  rfl

theorem sound_setStage {stage : LinkStage}
    (sound : Sound platform state) (here : (state.chains host)[index]? = some link)
    (unsettled : link.phase ≠ .settled)
    (front : SettledBefore phase (state.chains host) index)
    (own : platform = .linux → state.available host = true → ∀ error,
      stage = .refused error ∨ stage = .inherited error → isExactWindowBoundaryError error = true)
    (last : platform = .linux → state.available host = true → ∀ error,
      stage.error? = some error → isExactWindowBoundaryError error = true ∨
        index + 1 = (state.chains host).length) :
    Sound platform (state.setStage host index link stage) := by
  refine ⟨fun other => ?_, sound.failed, fun linux other now => ?_⟩
  · unfold setStage
    rw [setChain_chains]
    split
    · exact (sound.serial host).set _ here unsettled front
    · exact sound.serial other
  · unfold setStage
    rw [setChain_chains]
    split
    · rename_i same
      subst same
      exact (sound.unspoilt linux other now).set (own linux now) (last linux now)
    · exact sound.unspoilt linux other now

/-- On Linux an available helper that takes ended a rejection takes ended a boundary error. -/
theorem turnStage_error (sound : Sound platform state)
    (here : (state.chains host)[index]? = some link) (waits : link.stage = .waiting)
    (front : SettledBefore phase (state.chains host) index)
    (linux : platform = .linux) (now : state.available host = true) (error : SurfaceError)
    (wrong : (state.turnStage platform host index).error? = some error) :
    isExactWindowBoundaryError error = true := by
  have free : state.pendingInputAck host = false :=
    pendingInputAck_false (sound.serial host) here (by rw [phase, waits]; decide)
      (by rw [waits]; decide) front
  subst linux
  have begins : (state.beginStage .linux host).error? = none := by
    rw [beginStage_available now free (by rintro ⟨no, _⟩; cases no)]
    rfl
  unfold turnStage at wrong
  split at wrong
  · rw [begins] at wrong
    cases wrong
  · rename_i error' before
    cases wrong
    obtain ⟨link', there, bad⟩ := bind_eq_some_iff.mp before
    unfold previous at there
    split at there
    · cases there
    · exact (sound.unspoilt rfl host now).front _ index link' link error (by omega) there here bad

theorem sound_turn (sound : Sound platform state)
    (step : next platform state (.turn host index) = some state') : Sound platform state' := by
  obtain ⟨link, here, waits, front, rfl⟩ := turn_spec step (sound.serial host)
  have fine := turnStage_error sound here waits front
  refine sound_setStage sound here (by rw [phase, waits]; decide) front ?_ ?_
  · intro linux now error wrong
    refine fine linux now error ?_
    rcases wrong with refused | inherited
    · rw [refused]
      rfl
    · rw [inherited]
      rfl
  · exact fun linux now error wrong => .inl (fine linux now error wrong)

theorem sound_revalidated (sound : Sound platform state) {alive : Bool}
    {query : Except SurfaceError LinuxWindowAuthorityResult}
    (step : next platform state (.revalidated host index alive query) = some state')
    (clear : Clear platform state (.revalidated host index alive query)) :
    Sound platform state' := by
  unfold next at step
  dsimp only at step
  split at step
  · cases step
  · rename_i link here
    split at step
    · rename_i running
      have phase : link.phase = .running := by rw [InputLink.phase, running]; rfl
      have front := (sound.serial host).settledBefore here (by rw [phase]; decide)
      have free := pendingInputAck_false (sound.serial host) here (by rw [phase]; decide)
        (by rw [running]; decide) front
      cases step
      refine sound_setStage sound here (by rw [phase]; decide) front ?_ ?_
      · intro _ _ error wrong
        split at wrong
        · rcases wrong with no | no <;> cases no
        · unfold writeStage at wrong
          rw [free] at wrong
          rcases wrong with no | no <;> cases no
      · intro linux now error wrong
        split at wrong
        · rename_i error' failed
          cases wrong
          exact clear linux now error failed
        · unfold writeStage at wrong
          rw [free] at wrong
          cases wrong
    · cases step

theorem startChain_chains (after : WindowSurface) (host : Nat) :
    (state.startChain after).chains host =
      if state.surface.processes.length < after.processes.length ∧
          host = state.surface.processes.length then []
      else state.chains host := by
  unfold startChain
  split
  · rename_i started
    change (state.setChain _ _).chains host = _
    rw [setChain_chains]
    by_cases same : host = state.surface.processes.length
    · rw [if_pos same, if_pos ⟨started, same⟩]
    · rw [if_neg same, if_neg (fun both => same both.2)]
  · rename_i idle
    rw [if_neg (fun both => idle both.1)]

theorem startChain_failed {after : WindowSurface}
    (mem : host ∈ (state.startChain after).failed) : host ∈ state.failed ∧
      ¬ (host = state.surface.processes.length ∧
        state.surface.processes.length < after.processes.length) := by
  unfold startChain at mem
  split at mem
  · obtain ⟨old, apart⟩ := mem_filter.mp mem
    refine ⟨old, fun both => ?_⟩
    rw [both.1, bne_self_eq_false] at apart
    cases apart
  · rename_i idle
    exact ⟨mem, fun both => idle both.2⟩

theorem sound_startChain (sound : Sound platform state) {after : WindowSurface}
    (succeeds : state.surface.Succeeds after) :
    Sound platform { state.startChain after with surface := after } := by
  refine ⟨fun host => ?_, fun host mem => ?_, fun linux host now => ?_⟩
  · change Serial _ ((state.startChain after).chains host)
    rw [startChain_chains]
    split
    · exact .nil
    · exact sound.serial host
  · obtain ⟨old, apart⟩ := startChain_failed mem
    refine Bool.eq_false_iff.mpr fun now => ?_
    rcases succeeds host now with before | started
    · exact absurd ((sound.failed host old).symm.trans before) (by decide)
    · exact apart started
  · change Unspoilt ((state.startChain after).chains host)
    rw [startChain_chains]
    split
    · exact .nil
    · rename_i old
      rcases succeeds host now with before | started
      · exact sound.unspoilt linux host before
      · exact absurd started.symm old

theorem stopPrevious_surface (after : WindowSurface) :
    (state.stopPrevious platform after).surface = state.surface := by
  unfold stopPrevious
  split
  · split
    · rfl
    · rfl
  · rfl

theorem sound_stopPrevious (sound : Sound platform state) (after : WindowSurface) :
    Sound platform (state.stopPrevious platform after) := by
  unfold stopPrevious
  split
  · split
    · exact sound_settleInput sound _ _ (fun no => by cases no)
    · exact sound
  · exact sound

theorem sound_submitted (sound : Sound platform state) {call : SurfaceCall}
    (input : WebSocketTakeoverHumanInput)
    (clear : Clear platform state (.submitted call host input)) :
    Sound platform { state.setChain host (state.chains host ++ [⟨input, .waiting⟩]) with
      surface := state.surface.dropCall call } := by
  refine ⟨fun other => ?_, sound.failed, fun linux other now => ?_⟩
  · change Serial _ ((state.setChain _ _).chains other)
    rw [setChain_chains]
    split
    · exact (sound.serial host).concat rfl
    · exact sound.serial other
  · change Unspoilt ((state.setChain _ _).chains other)
    rw [setChain_chains]
    split
    · rename_i same
      subst same
      exact (sound.unspoilt linux other now).concat input (clear linux now)
    · exact sound.unspoilt linux other now

/-- The helper that a capture gave up on is not available to its inputs. -/
theorem stalled_narrows {call : SurfaceCall} {message : String} {after : WindowSurface}
    (moved : state.surface.next platform.window (.stalled call host) = some after) :
    (state.failActive platform host message).surface.Narrows after := by
  have same : after.active = (state.surface.failActive host).active := by
    change (if _ then _ else _) = some after at moved
    split at moved
    · cases moved
      exact WindowSurface.reject_active _ _ _
    · cases moved
  unfold failActive
  split
  · exact (WindowSurface.Narrows.failActive state.surface host).trans (.of_active same)
  · exact .of_active same

theorem linux_report {line : List Char} (linux : platform = .linux) :
    platform.report line ≠ some .rejected ∧ platform.report line ≠ some .lost := by
  subst linux
  unfold WindowPlatform.report
  constructor
  all_goals
    dsimp only
    split
    · decide
    · split
      · decide
      · decide

theorem step_sound {event : InputEvent} (step : Step platform state event state')
    (clear : Clear platform state event) (sound : Sound platform state) :
    Sound platform state' := by
  change next platform state event = some state' at step
  cases event with
  | surface event =>
      change (if _ then _ else _) = some state' at step
      split at step
      · obtain ⟨after, moved, rfl⟩ := map_eq_some_iff.mp step
        refine sound_startChain (sound_stopPrevious sound after) ?_
        rw [stopPrevious_surface]
        exact WindowSurface.next_succeeds moved
      · split at step
        · obtain ⟨after, moved, rfl⟩ := map_eq_some_iff.mp step
          exact sound_narrows (sound_failActive sound _ _) (stalled_narrows moved)
        · cases step
  | submitted call host input =>
      change (if _ then _ else _) = some state' at step
      split at step
      · cases step
        exact sound_submitted sound input clear
      · cases step
  | turn host index => exact sound_turn sound step
  | revalidated host index alive query => exact sound_revalidated sound step clear
  | reported host line =>
      change (if _ then _ else _) = some state' at step
      split at step
      · cases step
        exact sound
      · split at step
        · cases step
          exact sound
        · cases step
          exact sound_settleInput sound host _ (fun _ _ => rfl)
        · rename_i rejected
          cases step
          exact sound_settleInput sound host _ (fun linux => absurd rejected (linux_report linux).1)
        · rename_i lost
          cases step
          have settled := sound_settleInput sound host (.failed .authorityLost)
            (fun linux => absurd lost (linux_report linux).2)
          exact ⟨settled.serial, settled.failed, settled.unspoilt⟩
        · cases step
          exact sound_failActive sound host _
  | timedOut host =>
      change (if _ then _ else _) = some state' at step
      split at step
      · split at step
        · cases step
          refine sound_failActive_of host _ (settleInput_serial sound.serial host _) sound.failed
            (fun linux other apart now => ?_)
          unfold settleInput
          rw [setChain_chains, if_neg apart]
          exact sound.unspoilt linux other now
        · cases step
          exact sound_settleInput sound host _ (fun no => by cases no)
      · cases step
  | writeFailed host =>
      cases platform with
      | linux => cases step
      | macOS secureWindow lineage =>
          cases step
          exact sound_settleInput sound host _ (fun no => by cases no)
  | failed host message =>
      cases step
      exact sound_failActive sound host message

/-! ## Every input has its turn -/

/-- An input that is entitled to it is revalidated or written when its turn comes. -/
theorem turn_attempted (sound : Sound platform state) {after : InputSurface}
    (step : next platform state (.turn host index) = some after)
    (entitled : Entitled platform state host index) :
    ∃ link, (after.chains host)[index]? = some link ∧ link.stage.attempted = true := by
  obtain ⟨link, here, waits, front, rfl⟩ := turn_spec step (sound.serial host)
  obtain ⟨now, unfenced, recoverable⟩ := entitled
  have unsettled : link.phase ≠ .settled := by
    rw [phase, waits]
    decide
  have free := pendingInputAck_false (sound.serial host) here unsettled (by rw [waits]; decide) front
  have begins : (state.beginStage platform host).attempted = true := by
    rw [beginStage_available now free unfenced]
    split
    · rfl
    · rfl
  refine ⟨{ link with stage := state.turnStage platform host index }, ?_, ?_⟩
  · unfold setStage
    rw [setChain_chains, if_pos rfl, getElem?_set_self (List.getElem?_eq_some_iff.mp here).1]
  · change (state.turnStage platform host index).attempted = true
    unfold turnStage
    split
    · exact begins
    · rename_i error before
      split
      · exact begins
      · rename_i uncaught
        have linux : platform = .linux := by
          cases platform with
          | linux => rfl
          | macOS _ _ => exact absurd rfl uncaught
        obtain ⟨link', there, bad⟩ := bind_eq_some_iff.mp before
        unfold previous at there
        split at there
        · cases there
        · have mild := recoverable _ link' (by omega) there error bad
          have hard := (sound.unspoilt linux host now).front _ index link' link error (by omega)
            there here bad
          subst linux
          change (if isExactWindowBoundaryError error then _ else _) = _ at mild
          rw [if_pos hard] at mild
          cases mild

theorem turnStage_begun (host index : Nat) : (state.turnStage platform host index).rank ≠ 0 := by
  have begins : (state.beginStage platform host).rank ≠ 0 := by
    unfold beginStage writeStage
    split
    · decide
    · split
      · exact (by decide : 3 ≠ 0)
      · split
        · decide
        · split
          · exact (by decide : 3 ≠ 0)
          · decide
  unfold turnStage
  split
  · exact begins
  · split
    · exact begins
    · exact (by decide : 3 ≠ 0)

theorem settleInput_written (stage : LinkStage)
    (here : (state.chains host)[index]? = some link) (written : link.stage = .written) :
    ((state.settleInput host stage).chains host)[index]? = some { link with stage } := by
  unfold settleInput
  rw [setChain_chains, if_pos rfl, getElem?_map, here]
  change some (link.settle stage) = _
  unfold InputLink.settle
  rw [if_pos written]

theorem settleInput_unwritten (stage : LinkStage)
    (here : (state.chains host)[index]? = some link) (unwritten : link.stage ≠ .written) :
    ((state.settleInput host stage).chains host)[index]? = some link := by
  unfold settleInput
  rw [setChain_chains, if_pos rfl, getElem?_map, here]
  change some (link.settle stage) = _
  unfold InputLink.settle
  rw [if_neg unwritten]

/-- The link that comes first among those not settled can always move on. -/
theorem first_advances (sound : Sound platform state)
    (here : (state.chains host)[index]? = some link) (unsettled : link.phase ≠ .settled)
    (front : SettledBefore phase (state.chains host) index) :
    ∃ event after, Guarded (Step platform) (Clear platform) state event after ∧
      ∃ link', (after.chains host)[index]? = some link' ∧ link.stage.rank < link'.stage.rank := by
  have inside := (List.getElem?_eq_some_iff.mp here).1
  have moved (stage : LinkStage) :
      ((state.setStage host index link stage).chains host)[index]? = some { link with stage } := by
    unfold setStage
    rw [setChain_chains, if_pos rfl, getElem?_set_self inside]
  cases begun : link.stage with
  | waiting =>
      have ready : (state.previous host index).all (fun link => link.phase == .settled) = true := by
        unfold previous
        split
        · rfl
        · rename_i nonzero
          have before := getElem?_eq_getElem (show index - 1 < (state.chains host).length by omega)
          rw [before]
          exact beq_iff_eq.mpr (front (index - 1) _ (by omega) before)
      refine ⟨.turn host index, state.setStage host index link (state.turnStage platform host index),
        ⟨?_, trivial⟩, _, moved _, Nat.pos_of_ne_zero (turnStage_begun host index)⟩
      change next platform state _ = some _
      unfold next
      dsimp only
      rw [here]
      exact if_pos ⟨begun, ready⟩
  | revalidating =>
      refine ⟨.revalidated host index true (.ok .visibleOwnerGeometryValid),
        state.setStage host index link (state.writeStage platform host), ⟨?_, ?_⟩, _, moved _, ?_⟩
      · change next platform state _ = some _
        unfold next
        dsimp only
        rw [here]
        exact if_pos begun
      · intro _ _ error no
        cases no
      · unfold writeStage
        split
        · exact (by decide : 1 < 3)
        · exact (by decide : 1 < 2)
  | written =>
      have pending : state.pendingInputAck host = true := by
        unfold pendingInputAck
        exact any_eq_true.mpr ⟨link, mem_of_getElem? here, by rw [begun]; rfl⟩
      have settled := settleInput_written (.failed platform.timedOut) here begun
      cases platform with
      | linux =>
          have kept (message : String) : (((state.settleInput host
              (.failed WindowPlatform.linux.timedOut)).failActive .linux host message).chains
              host)[index]? = some { link with stage := .failed WindowPlatform.linux.timedOut } := by
            unfold failActive
            split
            · exact settled
            · exact settleInput_unwritten _ settled (fun no => by cases no)
          exact ⟨.timedOut host, _, ⟨if_pos pending, trivial⟩, _, kept _, (by decide : 2 < 3)⟩
      | macOS secureWindow lineage =>
          exact ⟨.timedOut host, _, ⟨if_pos pending, trivial⟩, _, settled, (by decide : 2 < 3)⟩
  | resolved | failed _ | refused _ | inherited _ =>
      exact absurd (by rw [phase, begun]; rfl) unsettled

theorem run_sound {events : List InputEvent} {last : InputSurface}
    (run : Run (Guarded (Step platform) (Clear platform)) initial events last) :
    Sound platform last := by
  refine run.invariant ?_ initial_sound
  exact fun step sound => step_sound step.1 step.2 sound

/-- The inputs of a helper are attempted one at a time and in the order of their submission.  An
input that its helper can serve is attempted when its turn comes, whatever recoverable failures came
before it, and the turn of every input comes. -/
theorem run_attempted {events : List InputEvent} {last : InputSurface}
    (run : Run (Guarded (Step platform) (Clear platform)) initial events last) :
    (∀ host, Serial InputLink.phase (last.chains host)) ∧
    (∀ host index after, Step platform last (.turn host index) after →
      Entitled platform last host index →
      ∃ link, (after.chains host)[index]? = some link ∧ link.stage.attempted = true) ∧
    ∀ host, (∃ link ∈ last.chains host, link.phase ≠ .settled) →
      ∃ index link, (last.chains host)[index]? = some link ∧ link.phase ≠ .settled ∧
        SettledBefore InputLink.phase (last.chains host) index ∧
        ∃ event after, Guarded (Step platform) (Clear platform) last event after ∧
          ∃ link', (after.chains host)[index]? = some link' ∧
            link.stage.rank < link'.stage.rank := by
  have sound := run_sound run
  refine ⟨sound.serial, fun host index after step => turn_attempted sound step, ?_⟩
  rintro host ⟨link, mem, unsettled⟩
  obtain ⟨place, there⟩ := List.mem_iff_getElem?.mp mem
  obtain ⟨index, first, here, open', front⟩ := exists_first_unsettled there unsettled
  exact ⟨index, first, here, open', front, first_advances sound here open' front⟩

/-! ## Sample inputs -/

instance clearDecidable (platform : WindowPlatform) (state : InputSurface) :
    (event : InputEvent) → Decidable (Clear platform state event)
  | .submitted _ _ _ => inferInstanceAs (Decidable (_ → _ → _))
  | .revalidated _ _ _ _ => inferInstanceAs (Decidable (_ → _ → _))
  | .surface _ | .turn _ _ | .reported _ _ | .timedOut _ | .writeFailed _ | .failed _ _ =>
    inferInstanceAs (Decidable True)

def sampleTarget : TakeoverHostTarget := ⟨100, some 7⟩

def sampleCall (stage : CallStage) : SurfaceCall := ⟨sampleTarget, false, 0, stage⟩

/-- A Linux helper is started for an input, and another input comes for the same window. -/
def sampleInputs : List InputEvent :=
  [.surface (.input sampleTarget), .surface .started, .surface .ready, .surface .revalidated,
    .surface .started, .surface .framed,
    .surface (.resumed (sampleCall (.settled true .resolved)) true .resolved),
    .submitted (sampleCall (.using 1)) 1 (.tap 10 20), .surface (.input sampleTarget),
    .submitted (sampleCall (.using 1)) 1 (.key "Enter"), .turn 1 0]

/-- The first input is applied before the second one begins. -/
def sampleApplied : List InputEvent :=
  sampleInputs ++ [.revalidated 1 0 true (.ok .visibleOwnerGeometryValid),
    .reported 1 (linuxStageLine "input_applied")]

theorem sampleApplied_attempted :
    ∃ last, last.chains 1 = [⟨.tap 10 20, .resolved⟩, ⟨.key "Enter", .waiting⟩] ∧
      (∀ host, Serial InputLink.phase (last.chains host)) ∧
      (∀ host index after, Step .linux last (.turn host index) after →
        Entitled .linux last host index →
        ∃ link, (after.chains host)[index]? = some link ∧ link.stage.attempted = true) ∧
      ∀ host, (∃ link ∈ last.chains host, link.phase ≠ .settled) →
        ∃ index link, (last.chains host)[index]? = some link ∧ link.phase ≠ .settled ∧
          SettledBefore InputLink.phase (last.chains host) index ∧
          ∃ event after, Guarded (Step .linux) (Clear .linux) last event after ∧
            ∃ link', (after.chains host)[index]? = some link' ∧
              link.stage.rank < link'.stage.rank := by
  have seen : (execute (permitted (next .linux) (Clear .linux)) initial sampleApplied).map
      (fun last => last.chains 1) =
      some [⟨.tap 10 20, .resolved⟩, ⟨.key "Enter", .waiting⟩] := by decide +kernel
  obtain ⟨last, executed, chain⟩ := Option.map_eq_some_iff.mp seen
  exact ⟨last, chain, run_attempted (run_guarded_of_execute executed)⟩

def sampleQuery : SurfaceError := .plain "Linux WSS authority helper query timed out"

/-- The query of the first input is not answered in time. -/
def sampleUnanswered : List InputEvent := sampleInputs ++ [.revalidated 1 0 true (.error sampleQuery)]

/-- The second input is rejected with what went wrong with the first one, and the helper is still
there. -/
theorem sampleUnanswered_inherited :
    ∃ last after, Run (Step .linux) initial sampleUnanswered last ∧
      WindowPlatform.linux.inputFailureDisposition sampleQuery = .recoverable ∧
      last.chains 1 = [⟨.tap 10 20, .failed sampleQuery⟩, ⟨.key "Enter", .waiting⟩] ∧
      Entitled .linux last 1 1 ∧ Step .linux last (.turn 1 1) after ∧
      after.available 1 = true ∧
      after.chains 1 = [⟨.tap 10 20, .failed sampleQuery⟩, ⟨.key "Enter", .inherited sampleQuery⟩] ∧
      ¬ ∃ link, (after.chains 1)[1]? = some link ∧ link.stage.attempted = true := by
  have seen : (execute (next .linux) initial sampleUnanswered).map
      (fun last => (last.chains 1, last.available 1,
        (next .linux last (.turn 1 1)).map fun after => (after.chains 1, after.available 1))) =
      some ([⟨.tap 10 20, .failed sampleQuery⟩, ⟨.key "Enter", .waiting⟩], true,
        some ([⟨.tap 10 20, .failed sampleQuery⟩, ⟨.key "Enter", .inherited sampleQuery⟩],
          true)) := by
    decide +kernel
  obtain ⟨last, executed, view⟩ := Option.map_eq_some_iff.mp seen
  obtain ⟨chain, rest⟩ := Prod.mk.inj view
  obtain ⟨now, turned⟩ := Prod.mk.inj rest
  obtain ⟨after, step, view'⟩ := Option.map_eq_some_iff.mp turned
  obtain ⟨chain', now'⟩ := Prod.mk.inj view'
  refine ⟨last, after, (run_iff_execute _ _ _ _).mpr executed, by decide +kernel, chain,
    ⟨now, ?_, ?_⟩, step, now', chain', ?_⟩
  · rintro ⟨no, _⟩
    cases no
  · intro before link earlier there error wrong
    obtain rfl : before = 0 := by omega
    rw [chain] at there
    cases there
    cases wrong
    decide +kernel
  · rintro ⟨link, there, attempted⟩
    rw [chain'] at there
    cases there
    cases attempted

end InputSurface

end ExecutionHandoff.Surface
