import ExecutionHandoff.Library.Custody
import ExecutionHandoff.Experimental.TransportSteps

/-!
# Revocation of the terminal transport

Every ICE session issued for a takeover session is revoked, prepared, used by
the active runtime or taken over by a revocation under way.  `prepare` and
`start` store what they have created without looking again, so this lasts only
while nothing is stored for a session that has ended or over what another
request has stored.
-/

namespace ExecutionHandoff.Experimental

open Library List Option
open StateExcept hiding read update
open Takeover
open OrderedMap (get?_delete get?_set)
open Ensures (reading updating)

/-! ## The runtime's maps -/

namespace TerminalDataChannelRuntime

variable {runtime : TerminalDataChannelRuntime}

/-- The ICE session of a runtime. -/
def iceOf (runtime : TerminalDataChannelRuntime) (key : Nat) : Option Nat :=
  (runtime.runtimes[key]?).map ActiveRuntime.ice

/-- Nothing that custody depends on differs. -/
structure SameCustody (runtime runtime' : TerminalDataChannelRuntime) : Prop where
  prepared : runtime'.prepared = runtime.prepared
  active : runtime'.active = runtime.active
  iceOf : ∀ key, runtime'.iceOf key = runtime.iceOf key
  issued : runtime'.iceSessions = runtime.iceSessions
  revoked : runtime'.iceRevoked = runtime.iceRevoked

theorem SameCustody.refl (runtime : TerminalDataChannelRuntime) : SameCustody runtime runtime :=
  ⟨rfl, rfl, fun _ => rfl, rfl, rfl⟩

theorem iceOf_modify (key : Nat) {f : ActiveRuntime → ActiveRuntime}
    (ice : ∀ active, (f active).ice = active.ice) (other : Nat) :
    (runtime.modify key f).iceOf other = runtime.iceOf other := by
  unfold iceOf modify
  rw [getElem?_modify]
  cases runtime.runtimes[other]? with
  | none => rfl
  | some active =>
      by_cases same : key = other
      · simp [same, ice]
      · simp [same]

theorem sameCustody_modify (key : Nat) {f : ActiveRuntime → ActiveRuntime}
    (ice : ∀ active, (f active).ice = active.ice) :
    SameCustody runtime (runtime.modify key f) :=
  ⟨rfl, rfl, iceOf_modify key ice, rfl, rfl⟩

theorem sameCustody_fence (id : String) : SameCustody runtime (runtime.fence id) := by
  unfold fence
  split
  · exact .refl runtime
  · exact sameCustody_modify _ fun _ => rfl

theorem sameCustody_activate {id : String} {generation : Nat} {after : TerminalDataChannelRuntime}
    (activated : runtime.activate id generation = some after) : SameCustody runtime after := by
  obtain ⟨found, _, enabled⟩ := bind_eq_some_iff.mp activated
  split at enabled
  · cases enabled
    exact sameCustody_modify _ fun _ => rfl
  · cases enabled

/-! What taking a prepared ICE session or an active runtime out of its map leaves. -/

theorem revokePrepared_get? (id other : String) :
    (runtime.revokePrepared id).prepared.get? other =
      if other = id then none else runtime.prepared.get? other := by
  unfold revokePrepared
  split
  · rename_i absent
    split
    · rename_i same
      rw [same, absent]
    · rfl
  · exact get?_delete runtime.prepared id other

theorem revokePrepared_released (id : String) {prepared : PreparedRuntime}
    (stored : runtime.prepared.get? id = some prepared) :
    (runtime.revokePrepared id).iceRevoked = prepared.ice :: runtime.iceRevoked := by
  unfold revokePrepared
  rw [stored]
  rfl

theorem revokePrepared_keeps (id : String) :
    (runtime.revokePrepared id).active = runtime.active ∧
      (∀ key, (runtime.revokePrepared id).iceOf key = runtime.iceOf key) ∧
      (runtime.revokePrepared id).iceSessions = runtime.iceSessions ∧
      ∀ ice ∈ runtime.iceRevoked, ice ∈ (runtime.revokePrepared id).iceRevoked := by
  unfold revokePrepared
  split
  · exact ⟨rfl, fun _ => rfl, rfl, fun _ revoked => revoked⟩
  · exact ⟨rfl, fun _ => rfl, rfl, fun _ revoked => mem_cons_of_mem _ revoked⟩

theorem revokeActive_get? (id other : String) :
    (runtime.revokeActive id).active.get? other =
      if other = id then none else runtime.active.get? other := by
  unfold revokeActive
  split
  · rename_i absent
    split
    · rename_i same
      rw [same, absent]
    · rfl
  · rename_i key running
    split <;> exact get?_delete runtime.active id other

theorem revokeActive_keeps (id : String) :
    (runtime.revokeActive id).prepared = runtime.prepared ∧
      (∀ key, (runtime.revokeActive id).iceOf key = runtime.iceOf key) ∧
      (runtime.revokeActive id).iceSessions = runtime.iceSessions ∧
      (runtime.revokeActive id).iceRevoked = runtime.iceRevoked := by
  unfold revokeActive
  split
  · exact ⟨rfl, fun _ => rfl, rfl, rfl⟩
  · rename_i key _
    have ices : ∀ other, (runtime.modify key fun active =>
        { active with closing := true, inputEnabled := false }).iceOf other = runtime.iceOf other :=
      iceOf_modify key fun _ => rfl
    split
    · exact ⟨rfl, ices, rfl, rfl⟩
    · exact ⟨rfl, ices, rfl, rfl⟩

end TerminalDataChannelRuntime

open TerminalDataChannelRuntime (SameCustody)

/-! ## The invariant -/

/-- The takeover session a revocation is for and what it waits for. -/
def Work.revocation : Work → Option (String × RevokePhase)
  | .start attempt phase => some (attempt.binding.id, phase)
  | .abandon attempt phase => some (attempt.binding.id, phase)
  | .refuse attempt phase => some (attempt.id, phase)
  | .revoke id phase => some (id, phase)
  | .ending _ id phase => some (id, phase)
  | .prepare _ | .issue _ | .connect .. | .startPrepare _ | .startPrepared _
  | .negotiate _ _ => none

namespace ExperimentalTerminalWebRtcTakeover

variable {config : TerminalWebRtcConfig} {takeover takeover' : ExperimentalTerminalWebRtcTakeover}

/-- A revocation of the session is under way. -/
def Revoking (takeover : ExperimentalTerminalWebRtcTakeover) (id : String) (phase : RevokePhase) :
    Prop :=
  ∃ work ∈ takeover.pending, work.revocation = some (id, phase)

/-- Who has an ICE session that was issued for the takeover session. -/
inductive Holds (takeover : ExperimentalTerminalWebRtcTakeover) (ice : Nat) (id : String) : Prop
  | prepared (stored : (takeover.runtime.prepared.get? id).map PreparedRuntime.ice = some ice)
  | active {key : Nat} (running : takeover.runtime.active.get? id = some key)
      (uses : takeover.runtime.iceOf key = some ice)
  | closing {key : Nat} (taken : takeover.Revoking id (.closing (some key)))
      (uses : takeover.runtime.iceOf key = some ice)

/-- Every ICE session is revoked or somebody has it. -/
def InCustody (takeover : ExperimentalTerminalWebRtcTakeover) : Prop :=
  Accounted takeover.runtime.iceSessions takeover.runtime.iceRevoked takeover.Holds

structure Sound (takeover : ExperimentalTerminalWebRtcTakeover) : Prop where
  accounted : takeover.InCustody
  unprepared : ∀ id ∈ takeover.ended, takeover.runtime.prepared.get? id = none
  inactive : ∀ id ∈ takeover.ended,
    takeover.runtime.active.get? id = none ∨ takeover.Revoking id .prepared

theorem initial_sound : Sound initial := by
  refine ⟨Accounted.empty _, ?_, ?_⟩
  · intro id ended
    cases ended
  · intro id ended
    cases ended

/-- The revocations that still have something to take or to release go on. -/
structure StillRevoking (takeover takeover' : ExperimentalTerminalWebRtcTakeover) : Prop where
  preparing : ∀ id, takeover.Revoking id .prepared → takeover'.Revoking id .prepared
  closing : ∀ id key, takeover.Revoking id (.closing (some key)) →
    takeover'.Revoking id (.closing (some key))

theorem stillRevoking_of_pending
    (pending : ∀ work ∈ takeover.pending, work ∈ takeover'.pending) :
    StillRevoking takeover takeover' :=
  ⟨fun _ ⟨work, mem, under⟩ => ⟨work, pending work mem, under⟩,
    fun _ _ ⟨work, mem, under⟩ => ⟨work, pending work mem, under⟩⟩

theorem InCustody.keep (custody : takeover.InCustody)
    (runtime : SameCustody takeover.runtime takeover'.runtime)
    (still : StillRevoking takeover takeover') : takeover'.InCustody := by
  unfold InCustody
  rw [runtime.issued, runtime.revoked]
  apply custody.moved
  intro ice id held
  cases held with
  | prepared stored => exact .prepared (runtime.prepared ▸ stored)
  | active running uses => exact .active (runtime.active ▸ running) ((runtime.iceOf _).trans uses)
  | closing taken uses => exact .closing (still.closing _ _ taken) ((runtime.iceOf _).trans uses)

/-- The takeover may change everything but the custody of ICE sessions. -/
theorem Sound.keep (sound : Sound takeover)
    (runtime : SameCustody takeover.runtime takeover'.runtime)
    (ended : takeover'.ended = takeover.ended) (still : StillRevoking takeover takeover') :
    Sound takeover' := by
  refine ⟨sound.accounted.keep runtime still, ?_, ?_⟩
  · rw [ended, runtime.prepared]
    exact sound.unprepared
  · rw [ended, runtime.active]
    intro id finished
    exact (sound.inactive id finished).imp_right (still.preparing id)

/-! ## Moves -/

theorem Sound.await (sound : Sound takeover) (work : Work) : Sound (takeover.await work) :=
  sound.keep (.refl _) rfl (stillRevoking_of_pending fun _ mem => mem_cons_of_mem _ mem)

theorem Sound.onSessions {α : Type} (sound : Sound takeover) (action : SessionM α) :
    Sound (takeover.onSessions action) :=
  sound.keep (.refl _) rfl (stillRevoking_of_pending fun _ mem => mem)

theorem Sound.modify (sound : Sound takeover) (key : Nat) (f : TerminalSession → TerminalSession) :
    Sound (takeover.modify key f) :=
  sound.keep (.refl _) rfl (stillRevoking_of_pending fun _ mem => mem)

theorem Sound.withRuntime {runtime : TerminalDataChannelRuntime} (sound : Sound takeover)
    (same : SameCustody takeover.runtime runtime) : Sound (takeover.withRuntime runtime) :=
  sound.keep same rfl (stillRevoking_of_pending fun _ mem => mem)

/-- A prepared ICE session goes from its map to its `revoke`. -/
theorem Sound.revokePrepared (sound : Sound takeover) (id : String) :
    Sound (takeover.withRuntime (takeover.runtime.revokePrepared id)) := by
  obtain ⟨active, ices, issued, revoked⟩ :=
    @TerminalDataChannelRuntime.revokePrepared_keeps takeover.runtime id
  have stored := @TerminalDataChannelRuntime.revokePrepared_get? takeover.runtime id
  refine ⟨?_, ?_, ?_⟩
  · change Accounted (takeover.runtime.revokePrepared id).iceSessions _ _
    rw [issued]
    apply sound.accounted.passed revoked
    intro ice owner held
    cases held with
    | prepared held =>
        by_cases same : owner = id
        · subst same
          obtain ⟨prepared, found, rfl⟩ := map_eq_some_iff.mp held
          refine .inl ?_
          change _ ∈ (takeover.runtime.revokePrepared owner).iceRevoked
          rw [TerminalDataChannelRuntime.revokePrepared_released owner found]
          exact mem_cons_self
        · refine .inr (.prepared ?_)
          exact (congrArg _ ((stored owner).trans (if_neg same))).trans held
    | active running uses => exact .inr (.active (active ▸ running) ((ices _).trans uses))
    | closing taken uses => exact .inr (.closing taken ((ices _).trans uses))
  · intro other finished
    refine (stored other).trans ?_
    split
    · rfl
    · exact sound.unprepared other finished
  · intro other finished
    change (takeover.runtime.revokePrepared id).active.get? other = none ∨ _
    rw [active]
    exact sound.inactive other finished

theorem Sound.beginRevoke (sound : Sound takeover) (id : String) (work : RevokePhase → Work) :
    Sound (takeover.beginRevoke id work) :=
  (sound.revokePrepared id).await (work .prepared)

/-- A session ends by beginning its revocation. -/
theorem Sound.finish {id : String} {work : RevokePhase → Work} (sound : Sound takeover)
    (names : (work .prepared).revocation = some (id, .prepared)) :
    Sound ((takeover.markEnded id).beginRevoke id work) := by
  have begun := sound.beginRevoke id work
  refine ⟨begun.accounted.keep (.refl _) (stillRevoking_of_pending fun _ mem => mem), ?_, ?_⟩
  · intro other finished
    rcases mem_cons.mp finished with rfl | earlier
    · exact (TerminalDataChannelRuntime.revokePrepared_get? other other).trans (if_pos rfl)
    · exact begun.unprepared other earlier
  · intro other finished
    rcases mem_cons.mp finished with rfl | earlier
    · exact .inr ⟨work .prepared, mem_cons_self, names⟩
    · exact begun.inactive other earlier

/-- An active runtime goes from its map to the revocation that closes it. -/
theorem Sound.revokeActive {id : String} {work : Work} (sound : Sound takeover)
    (names : work.revocation = some (id, .closing (takeover.runtime.active.get? id))) :
    Sound ((takeover.withRuntime (takeover.runtime.revokeActive id)).await work) := by
  obtain ⟨prepared, ices, issued, revoked⟩ :=
    @TerminalDataChannelRuntime.revokeActive_keeps takeover.runtime id
  have running := @TerminalDataChannelRuntime.revokeActive_get? takeover.runtime id
  have later : ∀ {other phase}, takeover.Revoking other phase →
      ((takeover.withRuntime (takeover.runtime.revokeActive id)).await work).Revoking other phase :=
    fun ⟨work, mem, under⟩ => ⟨work, mem_cons_of_mem _ mem, under⟩
  refine ⟨?_, ?_, ?_⟩
  · change Accounted (takeover.runtime.revokeActive id).iceSessions
      (takeover.runtime.revokeActive id).iceRevoked _
    rw [issued, revoked]
    apply sound.accounted.moved
    intro ice owner held
    cases held with
    | prepared stored => exact .prepared (prepared ▸ stored)
    | active held uses =>
        by_cases same : owner = id
        · subst same
          rw [held] at names
          exact .closing ⟨work, mem_cons_self, names⟩ ((ices _).trans uses)
        · exact .active (((running owner).trans (if_neg same)).trans held) ((ices _).trans uses)
    | closing taken uses => exact .closing (later taken) ((ices _).trans uses)
  · intro other finished
    change (takeover.runtime.revokeActive id).prepared.get? other = none
    rw [prepared]
    exact sound.unprepared other finished
  · intro other finished
    rcases sound.inactive other finished with idle | under
    · refine .inl ((running other).trans ?_)
      split
      · rfl
      · exact idle
    · exact .inr (later under)

/-- A new ICE session is stored where none is, for a session that has not ended. -/
theorem Sound.store {binding : RuntimeBinding} (sound : Sound takeover)
    (alive : binding.id ∉ takeover.ended)
    (free : takeover.runtime.prepared.get? binding.id = none) :
    Sound (takeover.withRuntime (takeover.runtime.store binding)) := by
  have stored : ∀ id, (takeover.runtime.store binding).prepared.get? id =
      if id = binding.id then
        some ⟨binding, takeover.runtime.iceSessions.length, takeover.runtime.timersSet⟩
      else takeover.runtime.prepared.get? id :=
    fun id => get?_set _ _ _ _
  refine ⟨?_, ?_, fun id finished => sound.inactive id finished⟩
  · apply sound.accounted.issue
    · exact .prepared (congrArg _ ((stored binding.id).trans (if_pos rfl)))
    · intro ice owner held
      cases held with
      | prepared held =>
          have ne : owner ≠ binding.id := by
            rintro rfl
            rw [free] at held
            cases held
          exact .prepared ((congrArg _ ((stored owner).trans (if_neg ne))).trans held)
      | active running uses => exact .active running uses
      | closing taken uses => exact .closing taken uses
  · intro id finished
    have ne : id ≠ binding.id := fun same => alive (same ▸ finished)
    exact ((stored id).trans (if_neg ne)).trans (sound.unprepared id finished)

/-- `start` moves a prepared ICE session to a runtime of its own, where none is active. -/
theorem Sound.take {binding : RuntimeBinding} {prepared : PreparedRuntime}
    (sound : Sound takeover) (session : Nat)
    (found : takeover.runtime.prepared.get? binding.id = some prepared)
    (free : takeover.runtime.active.get? binding.id = none) :
    Sound (takeover.withRuntime (takeover.runtime.take binding session prepared)) := by
  let taken := takeover.runtime.take binding session prepared
  have stored : ∀ id, taken.prepared.get? id =
      if id = binding.id then none else takeover.runtime.prepared.get? id :=
    fun id => get?_delete _ _ _
  have running : ∀ id, taken.active.get? id =
      if id = binding.id then some takeover.runtime.runtimes.length
      else takeover.runtime.active.get? id :=
    fun id => get?_set _ _ _ _
  have own : taken.iceOf takeover.runtime.runtimes.length = some prepared.ice := by
    change (((takeover.runtime.runtimes ++ [_])[takeover.runtime.runtimes.length]?).map
      ActiveRuntime.ice) = _
    rw [getElem?_concat_length]
    rfl
  have others : ∀ {key ice}, takeover.runtime.iceOf key = some ice → taken.iceOf key = some ice := by
    intro key ice uses
    obtain ⟨active, at', same⟩ := map_eq_some_iff.mp uses
    obtain ⟨lt, _⟩ := List.getElem?_eq_some_iff.mp at'
    exact (congrArg _ (getElem?_append_left lt)).trans uses
  refine ⟨?_, ?_, ?_⟩
  · apply sound.accounted.moved
    intro ice owner held
    cases held with
    | prepared held =>
        by_cases same : owner = binding.id
        · subst same
          rw [found] at held
          cases held
          exact .active ((running _).trans (if_pos rfl)) own
        · exact .prepared ((congrArg _ ((stored owner).trans (if_neg same))).trans held)
    | active held uses =>
        have ne : owner ≠ binding.id := by
          rintro rfl
          rw [free] at held
          cases held
        exact .active (((running owner).trans (if_neg ne)).trans held) (others uses)
    | closing taken uses => exact .closing taken (others uses)
  · intro id finished
    refine (stored id).trans ?_
    split
    · rfl
    · exact sound.unprepared id finished
  · intro id finished
    have ne : id ≠ binding.id := by
      rintro rfl
      rw [sound.unprepared _ finished] at found
      cases found
    exact (sound.inactive id finished).imp_left ((running id).trans (if_neg ne)).trans

/-! ## Work that goes on -/

/-- Work that has settled, taken out of what is pending. -/
def without (takeover : ExperimentalTerminalWebRtcTakeover) (work : Work) :
    ExperimentalTerminalWebRtcTakeover :=
  { takeover with pending := takeover.pending.erase work }

theorem revoking_without {work : Work} {id : String} {phase : RevokePhase}
    (under : takeover.Revoking id phase) (other : work.revocation ≠ some (id, phase)) :
    (takeover.without work).Revoking id phase := by
  obtain ⟨work', mem, under⟩ := under
  refine ⟨work', (mem_erase_of_ne ?_).mpr mem, under⟩
  rintro rfl
  exact other under

/-- Work that neither prepares a revocation nor closes a runtime leaves no trace. -/
theorem Sound.without {work : Work} (sound : Sound takeover)
    (prepares : ∀ id, work.revocation ≠ some (id, .prepared))
    (closes : ∀ id key, work.revocation ≠ some (id, .closing (some key))) :
    Sound (takeover.without work) :=
  sound.keep (.refl _) rfl
    ⟨fun id under => revoking_without under (prepares id),
      fun id key under => revoking_without under (closes id key)⟩

/-- The second step of a revocation takes the active runtime. -/
theorem Sound.advance_prepared {id : String} {work work' : Work} (sound : Sound takeover)
    (names : work.revocation = some (id, .prepared))
    (names' : work'.revocation = some (id, .closing (takeover.runtime.active.get? id))) :
    Sound (((takeover.without work).withRuntime (takeover.runtime.revokeActive id)).await work') := by
  have moved := sound.revokeActive names'
  have still : ∀ {other phase}, (other, phase) ≠ (id, RevokePhase.prepared) →
      ((takeover.withRuntime (takeover.runtime.revokeActive id)).await work').Revoking other phase →
      (((takeover.without work).withRuntime (takeover.runtime.revokeActive id)).await
        work').Revoking other phase := by
    rintro other phase ne ⟨pending, mem, under⟩
    rcases mem_cons.mp mem with rfl | mem
    · exact ⟨pending, mem_cons_self, under⟩
    · have later := @revoking_without takeover work other phase ⟨pending, mem, under⟩ fun same =>
        ne (Option.some.inj (same.symm.trans names))
      obtain ⟨pending, mem, under⟩ := later
      exact ⟨pending, mem_cons_of_mem _ mem, under⟩
  refine ⟨?_, moved.unprepared, ?_⟩
  · apply moved.accounted.moved
    intro ice owner held
    cases held with
    | prepared stored => exact .prepared stored
    | active running uses => exact .active running uses
    | closing taken uses =>
        refine .closing (still ?_ taken) uses
        rintro ⟨⟩
  · intro other finished
    by_cases same : other = id
    · subst same
      exact .inl ((TerminalDataChannelRuntime.revokeActive_get? other other).trans (if_pos rfl))
    · refine (moved.inactive other finished).imp_right (still ?_)
      rintro ⟨⟩
      exact same rfl

/-- Once the peer is closed the runtime's ICE session is revoked. -/
theorem Sound.advance_closing {id : String} {key : Nat} {work : Work} (sound : Sound takeover)
    (names : work.revocation = some (id, .closing (some key))) :
    Sound ((takeover.without work).withRuntime (takeover.runtime.revokeIceOf key)) := by
  have released : ∀ ice, ice ∈ takeover.runtime.iceRevoked ∨
      takeover.runtime.iceOf key = some ice →
      ice ∈ (takeover.runtime.revokeIceOf key).iceRevoked := by
    intro ice gone
    unfold TerminalDataChannelRuntime.revokeIceOf
    unfold TerminalDataChannelRuntime.iceOf at gone
    cases found : takeover.runtime.runtimes[key]? with
    | none =>
        rw [found] at gone
        exact gone.resolve_right (by simp)
    | some active =>
        rw [found] at gone
        rcases gone with earlier | now
        · exact mem_cons_of_mem _ earlier
        · cases now
          exact mem_cons_self
  have same : (takeover.runtime.revokeIceOf key).prepared = takeover.runtime.prepared ∧
      (takeover.runtime.revokeIceOf key).active = takeover.runtime.active ∧
      (takeover.runtime.revokeIceOf key).runtimes = takeover.runtime.runtimes ∧
      (takeover.runtime.revokeIceOf key).iceSessions = takeover.runtime.iceSessions := by
    unfold TerminalDataChannelRuntime.revokeIceOf
    split <;> exact ⟨rfl, rfl, rfl, rfl⟩
  obtain ⟨prepared, active, runtimes, issued⟩ := same
  have ices : ∀ key', (takeover.runtime.revokeIceOf key).iceOf key' =
      takeover.runtime.iceOf key' :=
    fun key' => congrArg (fun list : List ActiveRuntime => (list[key']?).map ActiveRuntime.ice)
      runtimes
  refine ⟨?_, ?_, ?_⟩
  · change Accounted (takeover.runtime.revokeIceOf key).iceSessions
      (takeover.runtime.revokeIceOf key).iceRevoked _
    rw [issued]
    apply sound.accounted.passed fun ice earlier => released ice (.inl earlier)
    intro ice owner held
    cases held with
    | prepared stored => exact .inr (.prepared (prepared ▸ stored))
    | active running uses => exact .inr (.active (active ▸ running) ((ices _).trans uses))
    | @closing key' taken uses =>
        by_cases here : work.revocation = some (owner, .closing (some key'))
        · cases here.symm.trans names
          exact .inl (released ice (.inr uses))
        · exact .inr (.closing (revoking_without taken here) ((ices _).trans uses))
  · change ∀ other ∈ takeover.ended, (takeover.runtime.revokeIceOf key).prepared.get? other = none
    rw [prepared]
    exact sound.unprepared
  · change ∀ other ∈ takeover.ended,
      (takeover.runtime.revokeIceOf key).active.get? other = none ∨ _
    rw [active]
    intro other finished
    refine (sound.inactive other finished).imp_right fun under => revoking_without under ?_
    rw [names]
    rintro ⟨⟩

/-- A revocation goes on; `after` follows once it is through and changes nothing before. -/
theorem Sound.advance {id : String} {phase : RevokePhase} {make : RevokePhase → Work}
    {after : ExperimentalTerminalWebRtcTakeover → ExperimentalTerminalWebRtcTakeover}
    (sound : Sound takeover)
    (names : ∀ phase, (make phase).revocation = some (id, phase))
    (goesOn : (phase = .ice ∨ phase = .closing none) → Sound (takeover.without (make phase)) →
      Sound (after (takeover.without (make phase)))) :
    Sound ((takeover.without (make phase)).advance id phase make after) := by
  cases phase with
  | prepared => exact sound.advance_prepared (names _) (names _)
  | closing taken =>
      cases taken with
      | some key => exact (sound.advance_closing (names _)).await _
      | none =>
          apply goesOn (.inr rfl)
          apply sound.without
          · intro other same
            cases (names _).symm.trans same
          · intro other key same
            cases (names _).symm.trans same
  | ice =>
      apply goesOn (.inl rfl)
      apply sound.without
      · intro other same
        cases (names _).symm.trans same
      · intro other key same
        cases (names _).symm.trans same

/-! ## Messages and hooks -/

theorem Sound.faultSession (sound : Sound takeover) (key : Nat) (session : TerminalSession) :
    Sound (takeover.faultSession key session) :=
  ((sound.modify key _).withRuntime
    (TerminalDataChannelRuntime.sameCustody_fence session.id)).beginRevoke _ _

theorem Sound.queueEvent (sound : Sound takeover) (key : Nat) (session : TerminalSession)
    (event : TerminalWebRtcEvent) : Sound (takeover.queueEvent key session event) := by
  unfold ExperimentalTerminalWebRtcTakeover.queueEvent
  have queued := sound.modify key fun session =>
    { session with
      queue := session.queue ++ [event]
      queuedBytes := session.queuedBytes + terminalEventCost event }
  dsimp only
  split
  · have done := (queued.modify key fun session =>
      { session with humanActive := false, completed := true }).withRuntime
        (TerminalDataChannelRuntime.sameCustody_fence session.id)
    exact (done.onSessions _).finish rfl
  · exact queued

theorem Sound.acceptMessage (sound : Sound takeover) (key generation : Nat) (message : String) :
    Sound (takeover.acceptMessage config key generation message) := by
  unfold ExperimentalTerminalWebRtcTakeover.acceptMessage
  split
  · exact sound
  · split
    · exact sound
    · split
      · exact sound.faultSession key _
      · split
        · exact sound
        · exact sound.faultSession key _
        · split
          · exact sound.faultSession key _
          · exact sound.queueEvent key _ _

theorem Sound.noteTransportDisconnect (sound : Sound takeover) (interventionId : String)
    (epoch generation : Int) :
    Sound (takeover.noteTransportDisconnect interventionId epoch generation) := by
  unfold ExperimentalTerminalWebRtcTakeover.noteTransportDisconnect
  split
  · exact sound
  · split
    · exact sound
    · exact sound.modify _ _

theorem Sound.hookDisconnected (sound : Sound takeover) (key generation : Nat) :
    Sound (takeover.hookDisconnected key generation) := by
  unfold ExperimentalTerminalWebRtcTakeover.hookDisconnected
  split
  · exact sound
  · exact sound.noteTransportDisconnect _ _ _

theorem Sound.setChannel (sound : Sound takeover) (key : Nat) (state : ChannelState) :
    Sound (takeover.setChannel key state) :=
  sound.withRuntime (TerminalDataChannelRuntime.sameCustody_modify key fun _ => rfl)

theorem Sound.disableInput (sound : Sound takeover) (key : Nat) :
    Sound (takeover.withRuntime (takeover.runtime.modify key fun active =>
      { active with inputEnabled := false })) :=
  sound.withRuntime (TerminalDataChannelRuntime.sameCustody_modify key fun _ => rfl)

theorem Sound.onPeer (sound : Sound takeover) (key : Nat) (active : ActiveRuntime)
    (event : PeerEvent) : Sound (takeover.onPeer config key active event) := by
  cases event with
  | announced =>
      unfold ExperimentalTerminalWebRtcTakeover.onPeer
      dsimp only
      split
      · exact sound.setChannel key _
      · exact sound
  | opened =>
      unfold ExperimentalTerminalWebRtcTakeover.onPeer
      dsimp only
      split
      · exact sound
      · exact (sound.setChannel key _).modify _ _
  | closed =>
      unfold ExperimentalTerminalWebRtcTakeover.onPeer
      dsimp only
      split
      · exact sound
      · split
        · exact sound.setChannel key _
        · exact (sound.setChannel key _).hookDisconnected _ _
  | lost =>
      unfold ExperimentalTerminalWebRtcTakeover.onPeer
      dsimp only
      split
      · exact sound
      · exact (sound.disableInput key).hookDisconnected _ _
  | message text =>
      unfold ExperimentalTerminalWebRtcTakeover.onPeer
      dsimp only
      split
      · exact sound
      · split
        · exact ((sound.disableInput key).modify _ _).beginRevoke _ _
        · exact sound.acceptMessage _ _ _

/-! ## Requests -/

theorem Sound.refuse (sound : Sound takeover) (connect : Connect) :
    Sound (takeover.refuse config connect) :=
  (sound.onSessions _).beginRevoke _ _

/-- `start` finds no prepared ICE session of its binding, or no runtime that uses another. -/
def Room (takeover : ExperimentalTerminalWebRtcTakeover) (binding : RuntimeBinding) : Prop :=
  (∃ prepared ∈ takeover.runtime.prepared.get? binding.id, prepared.binding = binding) →
    takeover.runtime.active.get? binding.id = none

theorem Sound.startTake {connect : Connect} (sound : Sound takeover)
    (room : takeover.Room connect.binding) : Sound (takeover.startTake config connect) := by
  unfold ExperimentalTerminalWebRtcTakeover.startTake
  split
  · exact sound.refuse connect
  · rename_i prepared found
    split
    · rename_i same
      exact (sound.take _ found (room ⟨prepared, found, same⟩)).await _
    · exact sound.refuse connect

theorem Sound.startWith {connect : Connect} (sound : Sound takeover)
    (room : takeover.Room connect.binding) : Sound (takeover.startWith config connect) := by
  unfold ExperimentalTerminalWebRtcTakeover.startWith
  split
  · exact sound.await _
  · exact sound.startTake room

theorem Sound.startRuntime (sound : Sound takeover) (connect : Connect) :
    Sound (takeover.startRuntime config connect) := by
  unfold ExperimentalTerminalWebRtcTakeover.startRuntime
  split
  · rename_i idle
    exact sound.startWith fun _ => idle
  · rename_i key running
    split
    · exact sound.refuse connect
    · exact sound.revokeActive (congrArg (fun taken => some (connect.binding.id,
        RevokePhase.closing taken)) running.symm)

theorem Sound.verifyConnect (sound : Sound takeover) (key : Nat)
    (id capability principalBinding clientBinding : String) :
    Sound (takeover.verifyConnect config key id capability principalBinding clientBinding) := by
  have verified := sound.onSessions
    (TakeoverSessionManager.verify config.sessions id capability principalBinding clientBinding)
  unfold ExperimentalTerminalWebRtcTakeover.verifyConnect
  unfold ExperimentalTerminalWebRtcTakeover.onSessions at verified
  split
  · rename_i outcome
    rw [outcome] at verified
    exact verified
  · rename_i outcome
    rw [outcome] at verified
    exact verified.startRuntime _

theorem Sound.handlePrepare (sound : Sound takeover) (session : TerminalSession)
    (clientBinding : String) : Sound (takeover.handlePrepare config session clientBinding) := by
  have claimed := sound.onSessions (TakeoverSessionManager.claimClient config.sessions session.id
    session.principalBinding clientBinding)
  unfold ExperimentalTerminalWebRtcTakeover.handlePrepare
  unfold ExperimentalTerminalWebRtcTakeover.onSessions at claimed
  split
  · exact sound
  · split
    · rename_i outcome
      rw [outcome] at claimed
      exact claimed
    · rename_i outcome
      rw [outcome] at claimed
      exact (claimed.revokePrepared _).await _

theorem Sound.handle (sound : Sound takeover) (request : TerminalRequest) :
    Sound (takeover.handle config request) := by
  unfold ExperimentalTerminalWebRtcTakeover.handle
  split
  · exact sound
  · split
    · exact sound
    · split
      · split
        · exact sound
        · exact sound.onSessions _
      · split
        · split
          · exact sound.handlePrepare _ _
          · exact sound
        · exact sound
      · split
        · split
          · exact sound.await _
          · exact sound
        · exact sound

/-! ## What settles -/

end ExperimentalTerminalWebRtcTakeover

/-- The work stores a prepared ICE session when it goes on. -/
def Work.stores (config : TerminalWebRtcConfig) : Work → Option String
  | .prepare binding => if config.iceProvider then none else some binding.id
  | .issue binding => some binding.id
  | .startPrepare attempt => some attempt.binding.id
  | _ => none

/-- The work may take a prepared ICE session for a runtime without another look at the active
one. -/
def Work.takes : Work → Option RuntimeBinding
  | .start attempt .ice => some attempt.binding
  | .start attempt (.closing none) => some attempt.binding
  | .startPrepared attempt => some attempt.binding
  | _ => none

namespace ExperimentalTerminalWebRtcTakeover

/-- Nothing is stored for a session that has ended or in the place of what another request
stored. -/
def Unraced (config : TerminalWebRtcConfig) (takeover : ExperimentalTerminalWebRtcTakeover) :
    TransportEvent → Prop
  | .network (.settle work _) =>
      (∀ id ∈ work.stores config,
        id ∉ takeover.ended ∧ takeover.runtime.prepared.get? id = none) ∧
      ∀ binding ∈ work.takes, takeover.Room binding
  | _ => True

theorem Sound.settle {work : Work} {succeeded : Bool} (sound : Sound takeover)
    (unraced : takeover.Unraced config (.network (.settle work succeeded))) :
    Sound (takeover.settle config work succeeded) := by
  obtain ⟨stores, takes⟩ := unraced
  have quiet : work.revocation = none → Sound (takeover.without work) := fun none =>
    sound.without (fun id same => by cases none.symm.trans same)
      fun id key same => by cases none.symm.trans same
  cases work with
  | prepare binding =>
      unfold ExperimentalTerminalWebRtcTakeover.settle
      dsimp only
      split
      · exact (quiet rfl).await _
      · rename_i direct
        obtain ⟨alive, free⟩ := stores binding.id (if_neg direct)
        exact (quiet rfl).store alive free
  | issue binding =>
      obtain ⟨alive, free⟩ := stores binding.id rfl
      exact (quiet rfl).store alive free
  | connect key id capability principalBinding clientBinding =>
      unfold ExperimentalTerminalWebRtcTakeover.settle
      dsimp only
      split
      · exact (quiet rfl).verifyConnect _ _ _ _ _
      · exact quiet rfl
  | start connect phase =>
      unfold ExperimentalTerminalWebRtcTakeover.settle
      dsimp only
      apply sound.advance fun _ => rfl
      intro through resumed
      rcases through with rfl | rfl
      · exact resumed.startWith (takes connect.binding rfl)
      · exact resumed.startWith (takes connect.binding rfl)
  | startPrepare connect =>
      obtain ⟨alive, free⟩ := stores connect.binding.id rfl
      exact ((quiet rfl).store alive free).await _
  | startPrepared connect => exact (quiet rfl).startTake (takes connect.binding rfl)
  | negotiate connect runtime =>
      unfold ExperimentalTerminalWebRtcTakeover.settle
      dsimp only
      split
      · exact quiet rfl
      · exact (quiet rfl).revokeActive rfl
  | abandon connect phase =>
      unfold ExperimentalTerminalWebRtcTakeover.settle
      dsimp only
      exact sound.advance (fun _ => rfl) fun _ resumed => resumed.refuse connect
  | refuse connect phase =>
      unfold ExperimentalTerminalWebRtcTakeover.settle
      dsimp only
      exact sound.advance (fun _ => rfl) fun _ resumed => resumed
  | revoke id phase =>
      unfold ExperimentalTerminalWebRtcTakeover.settle
      dsimp only
      exact sound.advance (fun _ => rfl) fun _ resumed => resumed
  | ending key id phase =>
      unfold ExperimentalTerminalWebRtcTakeover.settle
      dsimp only
      apply sound.advance fun _ => rfl
      intro _ resumed
      have told := resumed.onSessions (TakeoverSessionManager.revoke id)
      exact told.keep (.refl _) rfl (stillRevoking_of_pending fun _ mem => mem)

/-! ## Calls -/

/-- The call keeps custody, whether it throws or not. -/
abbrev Keeps {α : Type} : Except String α → ExperimentalTerminalWebRtcTakeover → Prop :=
  fun _ after => Sound after

theorem start_keeps (sound : Sound takeover) (interventionId : String) (epoch : Int)
    (principalBinding : String) :
    Ensures (start config interventionId epoch principalBinding) takeover Keeps := by
  apply Ensures.require fun _ => sound
  intro _
  apply reading
  apply Ensures.require fun _ => sound
  intro _
  split
  · apply updating
    exact .throwing (sound.keep (.refl _) rfl (stillRevoking_of_pending fun _ mem => mem))
  · apply updating
    exact .pure (sound.keep (.refl _) rfl (stillRevoking_of_pending fun _ mem => mem))

theorem activateHuman_keeps (sound : Sound takeover) (interventionId : String) (epoch : Int) :
    Ensures (activateHuman interventionId epoch) takeover Keeps := by
  apply ensures_requireIntervention fun _ => sound
  intro key session _
  apply Ensures.require fun _ => sound
  intro _
  split
  · exact .throwing sound
  · apply reading
    split
    · exact .throwing sound
    · rename_i activated
      apply Ensures.update
      exact (sound.withRuntime
        (TerminalDataChannelRuntime.sameCustody_activate activated)).modify _ _

theorem fenceHuman_keeps (sound : Sound takeover) (interventionId : String) (epoch : Int) :
    Ensures (fenceHuman interventionId epoch) takeover Keeps := by
  apply ensures_requireIntervention fun _ => sound
  intro key session _
  apply Ensures.update
  exact (sound.modify key _).withRuntime (TerminalDataChannelRuntime.sameCustody_fence _)

theorem drainEvents_keeps (sound : Sound takeover) (interventionId : String) (epoch : Int) :
    Ensures (drainEvents interventionId epoch) takeover Keeps := by
  apply ensures_requireIntervention fun _ => sound
  intro key session _
  apply updating
  exact .pure (sound.modify key _)

theorem nextEvent_keeps (sound : Sound takeover) (interventionId : String) (epoch : Int) :
    Ensures (nextEvent interventionId epoch) takeover Keeps := by
  apply ensures_requireIntervention fun _ => sound
  intro key session _
  dsimp only
  split
  · exact .pure sound
  · apply updating
    exact .pure (sound.modify key _)

theorem releaseCompleted_keeps (sound : Sound takeover) (interventionId : String) (epoch : Int) :
    Ensures (releaseCompleted interventionId epoch) takeover Keeps := by
  apply ensures_requireIntervention fun _ => sound
  intro key session _
  apply Ensures.require fun _ => sound
  intro _
  apply Ensures.update
  exact sound.keep (.refl _) rfl (stillRevoking_of_pending fun _ mem => mem)

theorem revoke_keeps (sound : Sound takeover) (interventionId : String) (epoch : Int) :
    Ensures (revoke interventionId epoch) takeover Keeps := by
  apply ensures_requireIntervention fun _ => sound
  intro key session _
  apply Ensures.update
  exact (sound.modify key _).finish rfl

theorem status_keeps (sound : Sound takeover) (interventionId : String) (epoch : Int) :
    Ensures (status interventionId epoch) takeover Keeps := by
  apply ensures_requireIntervention fun _ => sound
  intro key session _
  exact .pure sound

theorem call_sound (sound : Sound takeover) (op : TransportOp) :
    Sound (takeover.call config op) := by
  cases op with
  | start interventionId epoch principalBinding =>
      exact start_keeps sound interventionId epoch principalBinding
  | status interventionId epoch => exact status_keeps sound interventionId epoch
  | activateHuman interventionId epoch => exact activateHuman_keeps sound interventionId epoch
  | fenceHuman interventionId epoch => exact fenceHuman_keeps sound interventionId epoch
  | noteTransportDisconnect interventionId epoch generation =>
      exact sound.noteTransportDisconnect interventionId epoch generation
  | drainEvents interventionId epoch => exact drainEvents_keeps sound interventionId epoch
  | nextEvent interventionId epoch => exact nextEvent_keeps sound interventionId epoch
  | releaseCompleted interventionId epoch =>
      exact releaseCompleted_keeps sound interventionId epoch
  | revoke interventionId epoch => exact revoke_keeps sound interventionId epoch

/-! ## Runs -/

theorem Step.sound {event : TransportEvent}
    (step : Guarded (Step config) (Unraced config) takeover event takeover')
    (sound : Sound takeover) : Sound takeover' := by
  obtain ⟨step, unraced⟩ := step
  cases event with
  | call op =>
      cases step
      exact call_sound sound op
  | network event =>
      cases event with
      | request request =>
          cases step
          exact sound.handle request
      | settle work succeeded =>
          change (if work ∈ takeover.pending then _ else none) = some takeover' at step
          split at step
          · cases step
            exact sound.settle unraced
          · cases step
      | peer key event =>
          obtain ⟨active, _, rfl⟩ := map_eq_some_iff.mp step
          exact sound.onPeer key active event
      | expire timer =>
          obtain ⟨id, _, rfl⟩ := map_eq_some_iff.mp step
          have cleared := @Sound.withRuntime takeover (takeover.runtime.clearTimer timer) sound
            ⟨rfl, rfl, fun _ => rfl, rfl, rfl⟩
          exact cleared.finish rfl

/-- The runtime has nothing left of the takeover session. -/
structure Cleared (takeover : ExperimentalTerminalWebRtcTakeover) (id : String) : Prop where
  unprepared : takeover.runtime.prepared.get? id = none
  inactive : takeover.runtime.active.get? id = none
  revoked : ∀ ice, takeover.runtime.iceSessions[ice]? = some id →
    ice ∈ takeover.runtime.iceRevoked

theorem Sound.cleared {id : String} (sound : Sound takeover) (ended : id ∈ takeover.ended)
    (settled : ∀ phase, ¬ takeover.Revoking id phase) : takeover.Cleared id := by
  have unprepared := sound.unprepared id ended
  have inactive := (sound.inactive id ended).resolve_right (settled _)
  refine ⟨unprepared, inactive, fun ice issued => sound.accounted.all_released ?_ issued⟩
  intro ice held
  cases held with
  | prepared stored =>
      rw [unprepared] at stored
      cases stored
  | active running uses => cases inactive.symm.trans running
  | closing taken uses => exact settled _ taken

/-- In every run in which nothing is stored for an ended session or over what is stored already,
a session that has ended and has no revocation under way has left nothing behind. -/
theorem run_revocation_cleared {events : List TransportEvent} {id : String}
    (run : Run (Guarded (Step config) (Unraced config)) initial events takeover)
    (ended : id ∈ takeover.ended) (settled : ∀ phase, ¬ takeover.Revoking id phase) :
    takeover.Cleared id :=
  (run.invariant Step.sound initial_sound).cleared ended settled

/-! ## A sample revocation -/

instance (takeover : ExperimentalTerminalWebRtcTakeover) (binding : RuntimeBinding) :
    Decidable (takeover.Room binding) :=
  inferInstanceAs (Decidable ((∃ prepared ∈ takeover.runtime.prepared.get? binding.id,
    prepared.binding = binding) → takeover.runtime.active.get? binding.id = none))

instance (config : TerminalWebRtcConfig) (takeover : ExperimentalTerminalWebRtcTakeover) :
    (event : TransportEvent) → Decidable (takeover.Unraced config event)
  | .network (.settle work _) =>
      inferInstanceAs (Decidable ((∀ id ∈ work.stores config,
        id ∉ takeover.ended ∧ takeover.runtime.prepared.get? id = none) ∧
        ∀ binding ∈ work.takes, takeover.Room binding))
  | .call _ | .network (.request _) | .network (.peer _ _) | .network (.expire _) =>
      .isTrue trivial

/-- The sample page asks for ICE credentials. -/
def samplePrepare : List TransportEvent :=
  [.call (.start "intervention" 1 samplePrincipal), .network (.request (sampleRequest .prepare)),
    .network (.settle (.prepare sampleBinding) true)]

def sampleIssued : TransportEvent := .network (.settle (.issue sampleBinding) true)

/-- The transport is revoked and the revocation resolves. -/
def sampleRevoke : List TransportEvent :=
  [.call (.revoke "intervention" 1),
    .network (.settle (.ending 0 "takeover-0" .prepared) true),
    .network (.settle (.ending 0 "takeover-0" (.closing none)) true)]

theorem sampleRevoked_cleared :
    ∃ takeover, Run (Step sampleTransport) initial (samplePrepare ++ sampleIssued :: sampleRevoke)
      takeover ∧ takeover.Cleared "takeover-0" := by
  obtain ⟨takeover, executed, ended, settled⟩ : ∃ takeover,
      execute (permitted (next sampleTransport) (Unraced sampleTransport)) initial
        (samplePrepare ++ sampleIssued :: sampleRevoke) = some takeover ∧
      "takeover-0" ∈ takeover.ended ∧ takeover.pending = [] := by
    refine ⟨_, rfl, ?_, ?_⟩ <;> decide +kernel
  have run := run_guarded_of_execute executed
  refine ⟨takeover, run.of_guarded, run_revocation_cleared run ended ?_⟩
  rintro phase ⟨work, mem, _⟩
  rw [settled] at mem
  cases mem

/-- The credentials arrive after the revocation has resolved, and a prepared ICE session is
left that nothing revokes. -/
theorem sampleRaced_prepared :
    ∃ takeover, Run (Step sampleTransport) initial (samplePrepare ++ sampleRevoke ++ [sampleIssued])
      takeover ∧ "takeover-0" ∈ takeover.ended ∧ takeover.pending = [] ∧
      ¬ takeover.Cleared "takeover-0" := by
  obtain ⟨takeover, executed, ended, settled, left⟩ : ∃ takeover,
      execute (next sampleTransport) initial (samplePrepare ++ sampleRevoke ++ [sampleIssued]) =
        some takeover ∧
      "takeover-0" ∈ takeover.ended ∧ takeover.pending = [] ∧
      (takeover.runtime.prepared.get? "takeover-0").isSome = true := by
    refine ⟨_, rfl, ?_, ?_, ?_⟩ <;> decide +kernel
  refine ⟨takeover, (run_iff_execute _ _ _ _).mpr executed, ended, settled, fun cleared => ?_⟩
  rw [cleared.unprepared] at left
  cases left

end ExperimentalTerminalWebRtcTakeover

end ExecutionHandoff.Experimental
