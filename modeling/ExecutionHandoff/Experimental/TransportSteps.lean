import Mathlib.Data.Option.Basic
import ExecutionHandoff.Experimental.TerminalWebRtc

/-!
# What the network does to the transport

Requests, callbacks, timers and settled work change much of a transport but
little that its owner relies on: they never make a Human active or enable input,
they queue events only for messages of an enabled peer, and they drop the
session only when a revocation the owner asked for is through.
-/

namespace ExecutionHandoff.Experimental

open Library List Option
open StateExcept hiding read update
open Takeover
open Ensures (reading updating running)

/-- The byte counter is the cost of what is queued. -/
def TerminalSession.Counted (session : TerminalSession) : Prop :=
  session.queuedBytes = (session.queue.map terminalEventCost).sum

theorem TerminalSession.Counted.of_same {session session' : TerminalSession}
    (queue : session'.queue = session.queue) (queuedBytes : session'.queuedBytes = session.queuedBytes)
    (counted : session.Counted) : session'.Counted := by
  unfold TerminalSession.Counted
  rw [queue, queuedBytes]
  exact counted

theorem TerminalSession.Counted.queued {session session' : TerminalSession}
    {event : TerminalWebRtcEvent} (queue : session'.queue = session.queue ++ [event])
    (queuedBytes : session'.queuedBytes = session.queuedBytes + terminalEventCost event)
    (counted : session.Counted) : session'.Counted := by
  unfold TerminalSession.Counted at counted ⊢
  rw [queue, queuedBytes, counted, map_append, sum_append]
  rfl

/-- A session object later; events are queued only if `heard`. -/
structure SessionDrift (heard : Prop) (session session' : TerminalSession) : Prop where
  interventionId : session'.interventionId = session.interventionId
  epoch : session'.epoch = session.epoch
  humanActive : session'.humanActive = true → session.humanActive = true
  completed : session.completed = true → session'.completed = true
  queue : ∃ events, session'.queue = session.queue ++ events ∧ (events ≠ [] → heard) ∧
    (.done ∈ events → session'.completed = true)
  counted : session.Counted → session'.Counted

namespace SessionDrift

variable {heard : Prop} {first middle last : TerminalSession}

theorem refl (heard : Prop) (session : TerminalSession) : SessionDrift heard session session where
  interventionId := rfl
  epoch := rfl
  humanActive := id
  completed := id
  queue := ⟨[], (append_nil _).symm, fun no => absurd rfl no, fun no => by cases no⟩
  counted := id

theorem trans (before : SessionDrift heard first middle) (after : SessionDrift heard middle last) :
    SessionDrift heard first last := by
  obtain ⟨events, queued, hears, done⟩ := before.queue
  obtain ⟨events', queued', hears', done'⟩ := after.queue
  refine ⟨after.interventionId.trans before.interventionId, after.epoch.trans before.epoch,
    fun active => before.humanActive (after.humanActive active),
    fun completed => after.completed (before.completed completed), ⟨events ++ events', ?_, ?_, ?_⟩,
    fun counted => after.counted (before.counted counted)⟩
  · rw [queued', queued, append_assoc]
  · intro more
    by_cases quiet : events = []
    · exact hears' fun quiet' => more (by rw [quiet, quiet', append_nil])
    · exact hears quiet
  · intro mem
    rcases mem_append.mp mem with mem | mem
    · exact after.completed (done mem)
    · exact done' mem

end SessionDrift

namespace TerminalDataChannelRuntime

variable {runtime runtime' : TerminalDataChannelRuntime}

/-- Input that is enabled later was enabled before, for the same binding. -/
def Enables (runtime runtime' : TerminalDataChannelRuntime) : Prop :=
  ∀ (key : Nat) (active' : ActiveRuntime), runtime'.runtimes[key]? = some active' →
    active'.inputEnabled = true →
    ∃ active, runtime.runtimes[key]? = some active ∧ active.inputEnabled = true ∧
      active.binding = active'.binding

theorem enables_of_runtimes (same : runtime'.runtimes = runtime.runtimes) :
    Enables runtime runtime' :=
  fun _ active' found enabled => ⟨active', same ▸ found, enabled, rfl⟩

theorem Enables.trans {runtime'' : TerminalDataChannelRuntime} (before : Enables runtime runtime')
    (after : Enables runtime' runtime'') : Enables runtime runtime'' := by
  intro key active'' found enabled
  obtain ⟨active', found', enabled', same'⟩ := after key active'' found enabled
  obtain ⟨active, at', enabled, same⟩ := before key active' found' enabled'
  exact ⟨active, at', enabled, same.trans same'⟩

theorem enables_modify (key : Nat) {f : ActiveRuntime → ActiveRuntime}
    (keeps : ∀ active, (f active).binding = active.binding ∧
      ((f active).inputEnabled = true → active.inputEnabled = true)) :
    Enables runtime (runtime.modify key f) := by
  intro other active' found enabled
  change (runtime.runtimes.modify key f)[other]? = some active' at found
  rw [getElem?_modify] at found
  obtain ⟨active, at', same⟩ := map_eq_some_iff.mp found
  refine ⟨active, at', ?_⟩
  split at same
  · subst same
    exact ⟨(keeps active).2 enabled, (keeps active).1.symm⟩
  · cases same
    exact ⟨enabled, rfl⟩

theorem enables_revokePrepared (id : String) : Enables runtime (runtime.revokePrepared id) := by
  unfold revokePrepared
  split <;> exact enables_of_runtimes rfl

theorem enables_revokeActive (id : String) : Enables runtime (runtime.revokeActive id) := by
  unfold revokeActive
  split
  · exact enables_of_runtimes rfl
  · rename_i key _
    have taken := @enables_modify runtime key
      (fun active => { active with closing := true, inputEnabled := false })
      fun _ => ⟨rfl, fun no => by cases no⟩
    dsimp only
    split
    · exact taken.trans (enables_of_runtimes rfl)
    · exact taken.trans (enables_of_runtimes rfl)

theorem enables_advance (id : String) (phase : RevokePhase) :
    Enables runtime (runtime.advance id phase) := by
  unfold advance
  split
  · exact enables_revokeActive id
  · unfold revokeIceOf
    split <;> exact enables_of_runtimes rfl
  · exact enables_of_runtimes rfl
  · exact enables_of_runtimes rfl

/-- A new runtime starts with its input disabled. -/
theorem enables_take (binding : RuntimeBinding) (session : Nat) (prepared : PreparedRuntime) :
    Enables runtime (runtime.take binding session prepared) := by
  intro key active' found enabled
  change (runtime.runtimes ++ [_])[key]? = some active' at found
  rw [getElem?_append] at found
  split at found
  · exact ⟨active', found, enabled, rfl⟩
  · rw [getElem?_singleton] at found
    split at found
    · cases found
      cases enabled
    · cases found

theorem enables_fence (id : String) : Enables runtime (runtime.fence id) := by
  unfold fence
  split
  · exact enables_of_runtimes rfl
  · exact enables_modify _ fun _ => ⟨rfl, fun no => by cases no⟩

end TerminalDataChannelRuntime

open TerminalDataChannelRuntime (Enables enables_of_runtimes)

namespace ExperimentalTerminalWebRtcTakeover

variable {config : TerminalWebRtcConfig}
  {takeover first middle last : ExperimentalTerminalWebRtcTakeover} {heard : Prop}

/-- A revocation that the owner asked for is under way. -/
def Ending (takeover : ExperimentalTerminalWebRtcTakeover) (key : Nat) : Prop :=
  ∃ id phase, Work.ending key id phase ∈ takeover.pending

structure Drift (heard : Prop) (first last : ExperimentalTerminalWebRtcTakeover) : Prop where
  objects : ∀ key : Nat, Option.Rel (SessionDrift heard) first.objects[key]? last.objects[key]?
  session : last.session = first.session ∨ last.session = none ∧ ∃ key, first.Ending key
  ending : ∀ key, last.Ending key → first.Ending key
  enables : Enables first.runtime last.runtime

theorem rel_refl (heard : Prop) (session : Option TerminalSession) :
    Option.Rel (SessionDrift heard) session session := by
  cases session with
  | none => exact .none
  | some session => exact .some (.refl heard session)

namespace Drift

theorem of_same (objects : last.objects = first.objects) (session : last.session = first.session)
    (ending : ∀ key, last.Ending key → first.Ending key)
    (enables : Enables first.runtime last.runtime) : Drift heard first last :=
  ⟨fun key => objects ▸ rel_refl heard first.objects[key]?, .inl session, ending, enables⟩

theorem refl (heard : Prop) (takeover : ExperimentalTerminalWebRtcTakeover) :
    Drift heard takeover takeover :=
  .of_same rfl rfl (fun _ ending => ending) (enables_of_runtimes rfl)

theorem trans (before : Drift heard first middle) (after : Drift heard middle last) :
    Drift heard first last := by
  refine ⟨fun key => ?_, ?_, fun key ending => before.ending key (after.ending key ending),
    before.enables.trans after.enables⟩
  · have left := before.objects key
    have right := after.objects key
    generalize first.objects[key]? = start at left
    generalize middle.objects[key]? = half at left right
    generalize last.objects[key]? = stop at right
    cases left with
    | none =>
        cases right
        exact .none
    | some drift =>
        cases right with
        | some drift' => exact .some (drift.trans drift')
  · rcases after.session with same | ⟨gone, key, ending⟩
    · rw [same]
      exact before.session
    · exact .inr ⟨gone, key, before.ending key ending⟩

theorem onSessions {α : Type} (before : Drift heard first last) (action : SessionM α) :
    Drift heard first (last.onSessions action) :=
  before.trans (.of_same rfl rfl (fun _ ending => ending) (enables_of_runtimes rfl))

theorem await {work : Work} (before : Drift heard first last)
    (still : ∀ key id phase, work = .ending key id phase → first.Ending key) :
    Drift heard first (last.await work) := by
  refine ⟨before.objects, before.session, ?_, before.enables⟩
  rintro key ⟨id, phase, mem⟩
  rcases mem_cons.mp mem with same | mem
  · exact still key id phase same.symm
  · exact before.ending key ⟨id, phase, mem⟩

theorem withRuntime {runtime : TerminalDataChannelRuntime} (before : Drift heard first last)
    (enables : Enables last.runtime runtime) : Drift heard first (last.withRuntime runtime) :=
  before.trans (.of_same rfl rfl (fun _ ending => ending) enables)

theorem modify (before : Drift heard first last) (key : Nat)
    {f : TerminalSession → TerminalSession}
    (drifts : ∀ session, last.objects[key]? = some session →
      SessionDrift heard session (f session)) :
    Drift heard first (last.modify key f) := by
  refine before.trans ⟨fun other => ?_, .inl rfl, fun _ ending => ending,
    enables_of_runtimes rfl⟩
  change Option.Rel _ last.objects[other]? (last.objects.modify key f)[other]?
  rw [getElem?_modify]
  cases found : last.objects[other]? with
  | none => exact .none
  | some session =>
      refine .some ?_
      split
      · rename_i same
        exact drifts session (same ▸ found)
      · exact .refl heard session

theorem markEnded (before : Drift heard first last) (id : String) :
    Drift heard first (last.markEnded id) :=
  before.trans (.of_same rfl rfl (fun _ ending => ending) (enables_of_runtimes rfl))

theorem beginRevoke {work : RevokePhase → Work} (before : Drift heard first last) (id : String)
    (other : ∀ key id phase, work .prepared ≠ .ending key id phase) :
    Drift heard first (last.beginRevoke id work) :=
  (before.withRuntime (TerminalDataChannelRuntime.enables_revokePrepared id)).await
    fun key id phase same => absurd same (other key id phase)

/-- A revocation goes on; `after` follows once it is through. -/
theorem advance {id : String} {phase : RevokePhase} {work : RevokePhase → Work}
    {after : ExperimentalTerminalWebRtcTakeover → ExperimentalTerminalWebRtcTakeover}
    (before : Drift heard first last)
    (still : ∀ phase key id' phase', work phase = .ending key id' phase' → first.Ending key)
    (follows : ∀ advanced, Drift heard first advanced → Drift heard first (after advanced)) :
    Drift heard first (last.advance id phase work after) := by
  have advanced := before.withRuntime
    (@TerminalDataChannelRuntime.enables_advance last.runtime id phase)
  unfold ExperimentalTerminalWebRtcTakeover.advance
  dsimp only
  split
  · exact advanced.await (still _)
  · exact follows _ advanced

end Drift

/-! ## Messages and hooks -/

variable {session : TerminalSession}

/-- A session that is no longer in a Human's hands. -/
theorem drift_fenced {session' : TerminalSession}
    (interventionId : session'.interventionId = session.interventionId)
    (epoch : session'.epoch = session.epoch) (queue : session'.queue = session.queue)
    (queuedBytes : session'.queuedBytes = session.queuedBytes)
    (completed : session'.completed = session.completed)
    (inactive : session'.humanActive = false) : SessionDrift heard session session' := by
  refine ⟨interventionId, epoch, fun active => ?_, fun done => completed.trans done, ⟨[], ?_, ?_, ?_⟩,
    .of_same queue queuedBytes⟩
  · rw [inactive] at active
    cases active
  · rw [queue, append_nil]
  · exact fun no => absurd rfl no
  · exact fun no => by cases no

theorem Drift.faultSession (before : Drift heard first last) (key : Nat)
    (session : TerminalSession) : Drift heard first (last.faultSession key session) := by
  refine Drift.beginRevoke (Drift.withRuntime (before.modify key fun _ _ => ?_)
    (TerminalDataChannelRuntime.enables_fence session.id)) session.id fun _ _ _ => by rintro ⟨⟩
  exact drift_fenced rfl rfl rfl rfl rfl rfl

theorem drift_queueEvent (key : Nat) (session : TerminalSession) (event : TerminalWebRtcEvent) :
    Drift True takeover (takeover.queueEvent key session event) := by
  unfold queueEvent
  dsimp only
  split
  · rename_i isDone
    subst isDone
    refine Drift.beginRevoke (Drift.markEnded (Drift.onSessions (Drift.withRuntime
      ?_ (TerminalDataChannelRuntime.enables_fence session.id)) _) session.id) session.id
      fun _ _ _ => by rintro ⟨⟩
    -- The two writes to the session object are one, which also completes it.
    refine ⟨fun other => ?_, .inl rfl, fun _ ending => ending, enables_of_runtimes rfl⟩
    change Option.Rel _ takeover.objects[other]?
      ((takeover.objects.modify key _).modify key _)[other]?
    rw [getElem?_modify, getElem?_modify]
    cases takeover.objects[other]? with
    | none => exact .none
    | some session =>
        refine .some ?_
        split
        · exact ⟨rfl, rfl, fun no => (by cases no), fun _ => rfl, ⟨[.done], rfl,
            fun _ => trivial, fun _ => rfl⟩, .queued rfl rfl⟩
        · exact .refl _ session
  · rename_i notDone
    refine (Drift.refl True takeover).modify key fun session _ => ?_
    refine ⟨rfl, rfl, id, id, ⟨[event], rfl, fun _ => trivial, fun done => ?_⟩, .queued rfl rfl⟩
    exact absurd (mem_singleton.mp done).symm notDone

theorem drift_acceptMessage (key generation : Nat) (message : String) :
    Drift True takeover (takeover.acceptMessage config key generation message) := by
  have same := Drift.refl True takeover
  unfold acceptMessage
  split
  · exact same
  · split
    · exact same
    · split
      · exact same.faultSession key _
      · split
        · exact same
        · exact same.faultSession key _
        · split
          · exact same.faultSession key _
          · exact drift_queueEvent key _ _

theorem Drift.hookReady (before : Drift heard first last) (key generation : Nat) :
    Drift heard first (last.hookReady key generation) := by
  refine before.modify key fun session _ => ?_
  split
  · exact ⟨rfl, rfl, id, id, ⟨[], (append_nil _).symm, fun no => absurd rfl no,
      fun no => by cases no⟩, .of_same rfl rfl⟩
  · exact .refl heard session

theorem Drift.hookFaulted (before : Drift heard first last) (key generation : Nat) :
    Drift heard first (last.hookFaulted key generation) := by
  refine before.modify key fun session _ => ?_
  split
  · exact drift_fenced rfl rfl rfl rfl rfl rfl
  · exact .refl heard session

theorem Drift.noteTransportDisconnect (before : Drift heard first last) (interventionId : String)
    (epoch generation : Int) :
    Drift heard first (last.noteTransportDisconnect interventionId epoch generation) := by
  unfold ExperimentalTerminalWebRtcTakeover.noteTransportDisconnect
  split
  · exact before
  · split
    · exact before
    · exact before.modify _ fun _ _ => drift_fenced rfl rfl rfl rfl rfl rfl

theorem Drift.hookDisconnected (before : Drift heard first last) (key generation : Nat) :
    Drift heard first (last.hookDisconnected key generation) := by
  unfold ExperimentalTerminalWebRtcTakeover.hookDisconnected
  split
  · exact before
  · exact before.noteTransportDisconnect _ _ _

theorem Drift.setChannel (before : Drift heard first last) (key : Nat) (state : ChannelState) :
    Drift heard first (last.setChannel key state) :=
  before.withRuntime (TerminalDataChannelRuntime.enables_modify key fun _ => ⟨rfl, id⟩)

theorem Drift.disableInput (before : Drift heard first last) (key : Nat) :
    Drift heard first (last.withRuntime (last.runtime.modify key fun active =>
      { active with inputEnabled := false })) :=
  before.withRuntime (TerminalDataChannelRuntime.enables_modify key fun _ =>
    ⟨rfl, fun no => by cases no⟩)

/-- Only a message of a peer whose input is enabled is heard. -/
theorem drift_onPeer (key : Nat) (active : ActiveRuntime) (event : PeerEvent) :
    Drift (active.inputEnabled = true ∧ ∃ text, event = .message text) takeover
      (takeover.onPeer config key active event) := by
  cases event with
  | announced =>
      unfold onPeer
      dsimp only
      split
      · exact (Drift.refl _ takeover).setChannel key _
      · exact .refl _ takeover
  | opened =>
      unfold onPeer
      dsimp only
      split
      · exact .refl _ takeover
      · exact ((Drift.refl _ takeover).setChannel key _).hookReady _ _
  | closed =>
      unfold onPeer
      dsimp only
      split
      · exact .refl _ takeover
      · split
        · exact (Drift.refl _ takeover).setChannel key _
        · exact ((Drift.refl _ takeover).setChannel key _).hookDisconnected _ _
  | lost =>
      unfold onPeer
      dsimp only
      split
      · exact .refl _ takeover
      · exact ((Drift.refl _ takeover).disableInput key).hookDisconnected _ _
  | message text =>
      unfold onPeer
      dsimp only
      split
      · exact .refl _ takeover
      · rename_i listens
        have enabled : active.inputEnabled = true := by
          by_contra disabled
          exact listens (.inr (.inl (Bool.eq_false_of_not_eq_true disabled)))
        have heard : (active.inputEnabled = true ∧ ∃ text', PeerEvent.message text = .message text') =
            True := eq_true ⟨enabled, text, rfl⟩
        rw [heard]
        split
        · exact (((Drift.refl _ takeover).disableInput key).hookFaulted _ _).beginRevoke _
            fun _ _ _ => by rintro ⟨⟩
        · exact drift_acceptMessage _ _ _

/-! ## Requests -/

theorem Drift.refuse (before : Drift heard first last) (connect : Connect) :
    Drift heard first (last.refuse config connect) :=
  (before.onSessions _).beginRevoke _ fun _ _ _ => by rintro ⟨⟩

theorem Drift.startTake (before : Drift heard first last) (connect : Connect) :
    Drift heard first (last.startTake config connect) := by
  unfold ExperimentalTerminalWebRtcTakeover.startTake
  split
  · exact before.refuse connect
  · split
    · exact (before.withRuntime (TerminalDataChannelRuntime.enables_take _ _ _)).await
        fun _ _ _ => by rintro ⟨⟩
    · exact before.refuse connect

theorem Drift.startWith (before : Drift heard first last) (connect : Connect) :
    Drift heard first (last.startWith config connect) := by
  unfold ExperimentalTerminalWebRtcTakeover.startWith
  split
  · exact before.await fun _ _ _ => by rintro ⟨⟩
  · exact before.startTake connect

theorem Drift.revokeActive {work : Work} (before : Drift heard first last) (id : String)
    (other : ∀ key id phase, work ≠ .ending key id phase) :
    Drift heard first ((last.withRuntime (last.runtime.revokeActive id)).await work) :=
  (before.withRuntime (TerminalDataChannelRuntime.enables_revokeActive id)).await
    fun key id phase same => absurd same (other key id phase)

theorem Drift.startRuntime (before : Drift heard first last) (connect : Connect) :
    Drift heard first (last.startRuntime config connect) := by
  unfold ExperimentalTerminalWebRtcTakeover.startRuntime
  split
  · exact before.startWith connect
  · split
    · exact before.refuse connect
    · exact before.revokeActive _ fun _ _ _ => by rintro ⟨⟩

theorem Drift.verifyConnect (before : Drift heard first last) (key : Nat)
    (id capability principalBinding clientBinding : String) :
    Drift heard first
      (last.verifyConnect config key id capability principalBinding clientBinding) := by
  have verified := before.onSessions
    (TakeoverSessionManager.verify config.sessions id capability principalBinding clientBinding)
  unfold ExperimentalTerminalWebRtcTakeover.verifyConnect
  unfold ExperimentalTerminalWebRtcTakeover.onSessions at verified
  split
  · rename_i outcome
    rw [outcome] at verified
    exact verified
  · rename_i outcome
    rw [outcome] at verified
    exact verified.startRuntime _

theorem drift_handlePrepare (session : TerminalSession) (clientBinding : String) :
    Drift heard takeover (takeover.handlePrepare config session clientBinding) := by
  have claimed := (Drift.refl heard takeover).onSessions (TakeoverSessionManager.claimClient
    config.sessions session.id session.principalBinding clientBinding)
  unfold handlePrepare
  unfold onSessions at claimed
  split
  · exact .refl heard takeover
  · split
    · rename_i outcome
      rw [outcome] at claimed
      exact claimed
    · rename_i outcome
      rw [outcome] at claimed
      exact (claimed.withRuntime (TerminalDataChannelRuntime.enables_revokePrepared _)).await
        fun _ _ _ => by rintro ⟨⟩

theorem drift_handle (request : TerminalRequest) :
    Drift heard takeover (takeover.handle config request) := by
  have same := Drift.refl heard takeover
  unfold handle
  split
  · exact same
  · split
    · exact same
    · split
      · split
        · exact same
        · exact same.onSessions _
      · split
        · split
          · exact drift_handlePrepare _ _
          · exact same
        · exact same
      · split
        · split
          · exact same.await fun _ _ _ => by rintro ⟨⟩
          · exact same
        · exact same

theorem drift_settle {work : Work} (succeeded : Bool) (mem : work ∈ takeover.pending) :
    Drift heard takeover (takeover.settle config work succeeded) := by
  have resumed : Drift heard takeover { takeover with pending := takeover.pending.erase work } :=
    .of_same rfl rfl (fun _ ⟨id, phase, left⟩ => ⟨id, phase, mem_of_mem_erase left⟩)
      (enables_of_runtimes rfl)
  have stored : ∀ binding, Drift heard takeover
      ({ takeover with pending := takeover.pending.erase work }.withRuntime
        (takeover.runtime.store binding)) :=
    fun _ => resumed.withRuntime (enables_of_runtimes rfl)
  unfold settle
  cases work with
  | prepare binding =>
      dsimp only
      split
      · exact resumed.await fun _ _ _ => by rintro ⟨⟩
      · exact stored binding
  | issue binding => exact stored binding
  | connect key id capability principalBinding clientBinding =>
      dsimp only
      split
      · exact resumed.verifyConnect _ _ _ _ _
      · exact resumed
  | start connect phase =>
      exact resumed.advance (fun _ _ _ _ => by rintro ⟨⟩) fun _ drift => drift.startWith connect
  | startPrepare connect => exact (stored connect.binding).await fun _ _ _ => by rintro ⟨⟩
  | startPrepared connect => exact resumed.startTake connect
  | negotiate connect runtime =>
      dsimp only
      split
      · exact resumed
      · exact resumed.revokeActive _ fun _ _ _ => by rintro ⟨⟩
  | abandon connect phase =>
      exact resumed.advance (fun _ _ _ _ => by rintro ⟨⟩) fun _ drift => drift.refuse connect
  | refuse connect phase =>
      exact resumed.advance (fun _ _ _ _ => by rintro ⟨⟩) fun _ drift => drift
  | revoke id phase =>
      exact resumed.advance (fun _ _ _ _ => by rintro ⟨⟩) fun _ drift => drift
  | ending key id phase =>
      have under : takeover.Ending key := ⟨id, phase, mem⟩
      refine resumed.advance ?_ fun advanced drift => ?_
      · rintro _ _ _ _ ⟨⟩
        exact under
      · have told := drift.onSessions (TakeoverSessionManager.revoke id)
        exact ⟨told.objects, .inr ⟨rfl, key, under⟩, told.ending, told.enables⟩

/-- The event is a message of a peer whose input is enabled. -/
def Hears (takeover : ExperimentalTerminalWebRtcTakeover) (event : NetworkEvent) : Prop :=
  ∃ key active text, event = .peer key (.message text) ∧
    takeover.runtime.runtimes[key]? = some active ∧ active.inputEnabled = true

theorem network_drift {event : NetworkEvent}
    (happens : first.network config event = some last) : Drift (first.Hears event) first last := by
  cases event with
  | request request =>
      cases happens
      exact drift_handle request
  | settle work succeeded =>
      change (if work ∈ first.pending then _ else none) = some last at happens
      split at happens
      · rename_i mem
        cases happens
        exact drift_settle succeeded mem
      · cases happens
  | peer key event =>
      obtain ⟨active, found, rfl⟩ := map_eq_some_iff.mp happens
      have same : first.Hears (.peer key event) =
          (active.inputEnabled = true ∧ ∃ text, event = .message text) := by
        refine propext ⟨?_, fun ⟨enabled, text, same⟩ => ?_⟩
        · rintro ⟨key', active', text, same, found', enabled⟩
          cases same
          cases found.symm.trans found'
          exact ⟨enabled, text, rfl⟩
        · exact ⟨key, active, text, by rw [same], found, enabled⟩
      rw [same]
      exact drift_onPeer key active event
  | expire timer =>
      obtain ⟨id, _, rfl⟩ := map_eq_some_iff.mp happens
      have cleared : Drift (first.Hears (.expire timer)) first
          (first.withRuntime (first.runtime.clearTimer timer)) :=
        (Drift.refl _ first).withRuntime (enables_of_runtimes rfl)
      exact (cleared.markEnded id).beginRevoke id fun _ _ _ => by rintro ⟨⟩

/-! ## Calls of the owner -/

theorem ensures_requireIntervention {β : Type} {interventionId : String} {epoch : Int}
    {next : Nat × TerminalSession → TransportM β}
    {post : Except String β → ExperimentalTerminalWebRtcTakeover → Prop}
    (failed : ∀ error, post (.error error) takeover)
    (passed : ∀ key session, takeover.current? interventionId epoch = some (key, session) →
      Ensures (next (key, session)) takeover post) :
    Ensures (requireIntervention interventionId epoch >>= next) takeover post := by
  have required : Ensures (requireIntervention interventionId epoch) takeover
      fun result after => after = takeover ∧ ∀ found, result = .ok found →
        takeover.current? interventionId epoch = some found := by
    apply reading
    split
    · rename_i found current
      exact .pure ⟨rfl, fun _ same => by cases same; exact current⟩
    · exact .throwing ⟨rfl, fun _ no => by cases no⟩
  apply required.bind
  · rintro error after ⟨rfl, _⟩
    exact failed error
  · rintro ⟨key, session⟩ after ⟨rfl, current⟩
    exact passed key session (current _ rfl)

theorem requireIntervention_ok {interventionId : String} {epoch : Int}
    {found : Nat × TerminalSession} (current : takeover.current? interventionId epoch = some found) :
    requireIntervention interventionId epoch takeover = (.ok found, takeover) := by
  have required : Ensures (requireIntervention interventionId epoch) takeover
      fun result after => result = .ok found ∧ after = takeover := by
    apply reading
    rw [current]
    exact .pure ⟨rfl, rfl⟩
  exact Prod.ext required.1 required.2

theorem current?_some {interventionId : String} {epoch : Int} {key : Nat}
    (current : takeover.current? interventionId epoch = some (key, session)) :
    takeover.session = some key ∧ takeover.objects[key]? = some session ∧
      session.interventionId = interventionId ∧ session.epoch = epoch := by
  unfold current? at current
  obtain ⟨key', chosen, current⟩ := bind_eq_some_iff.mp current
  obtain ⟨session', found, current⟩ := bind_eq_some_iff.mp current
  split at current
  · rename_i same
    cases current
    exact ⟨chosen, found, same⟩
  · cases current

theorem current?_of_found {interventionId : String} {epoch : Int} {key : Nat}
    (chosen : takeover.session = some key)
    (found : takeover.objects[key]? = some session)
    (names : session.interventionId = interventionId) (dates : session.epoch = epoch) :
    takeover.current? interventionId epoch = some (key, session) := by
  unfold current?
  rw [chosen]
  change (takeover.objects[key]?).bind _ = _
  rw [found]
  exact if_pos ⟨names, dates⟩

theorem current?_modify {interventionId : String} {epoch : Int} {key : Nat}
    {f : TerminalSession → TerminalSession}
    (current : takeover.current? interventionId epoch = some (key, session))
    (names : (f session).interventionId = session.interventionId)
    (dates : (f session).epoch = session.epoch) :
    (takeover.modify key f).current? interventionId epoch = some (key, f session) := by
  obtain ⟨chosen, found, id, epoch⟩ := current?_some current
  refine current?_of_found chosen ?_ (names.trans id) (dates.trans epoch)
  change (takeover.objects.modify key f)[key]? = _
  rw [getElem?_modify, found]
  exact congrArg some (if_pos rfl)

/-- A transport that was just started has a session object of its own. -/
structure Started (first last : ExperimentalTerminalWebRtcTakeover) (session : TerminalSession) :
    Prop where
  objects : last.objects = first.objects ++ [session]
  pending : last.pending = first.pending
  runtime : last.runtime = first.runtime
  idle : session.humanActive = false
  queue : session.queue = []
  queuedBytes : session.queuedBytes = 0
  session : last.session = some first.objects.length

theorem start_spec (interventionId : String) (epoch : Int) (principalBinding : String) :
    Ensures (start config interventionId epoch principalBinding) takeover
      fun result after =>
        match result with
        | .error _ => ∃ sessions, after = { takeover with sessions }
        | .ok _ => ∃ session, Started takeover after session ∧
            session.interventionId = interventionId ∧ session.epoch = epoch := by
  apply Ensures.require
  · exact fun _ => ⟨takeover.sessions, rfl⟩
  intro _
  apply reading
  apply Ensures.require
  · exact fun _ => ⟨takeover.sessions, rfl⟩
  intro _
  split
  · apply updating
    exact .throwing ⟨_, rfl⟩
  · apply updating
    apply Ensures.pure
    exact ⟨_, ⟨rfl, rfl, rfl, rfl, rfl, rfl, rfl⟩, rfl, rfl⟩

theorem status_spec (interventionId : String) (epoch : Int) :
    Ensures (status interventionId epoch) takeover fun _ after => after = takeover := by
  apply ensures_requireIntervention
  · exact fun _ => rfl
  intro key session _
  exact .pure rfl

theorem activateHuman_spec (interventionId : String) (epoch : Int) :
    Ensures (activateHuman interventionId epoch) takeover fun result after =>
      match result with
      | .error _ => after = takeover
      | .ok _ => ∃ key session runtime,
          takeover.current? interventionId epoch = some (key, session) ∧
          after = (takeover.withRuntime runtime).modify key fun session =>
            { session with humanActive := true } := by
  apply ensures_requireIntervention
  · exact fun _ => rfl
  intro key session current
  apply Ensures.require
  · exact fun _ => rfl
  intro _
  split
  · exact .throwing rfl
  · apply reading
    split
    · exact .throwing rfl
    · exact .update ⟨key, session, _, current, rfl⟩

/-- The transport with the Human's input fenced. -/
def fenced (takeover : ExperimentalTerminalWebRtcTakeover) (key : Nat) (id : String) :
    ExperimentalTerminalWebRtcTakeover :=
  (takeover.modify key fun session => { session with humanActive := false }).withRuntime
    (takeover.runtime.fence id)

theorem fenceHuman_spec (interventionId : String) (epoch : Int) :
    Ensures (fenceHuman interventionId epoch) takeover fun result after =>
      match result with
      | .error _ => after = takeover
      | .ok _ => ∃ key session, takeover.current? interventionId epoch = some (key, session) ∧
          after = takeover.fenced key session.id := by
  apply ensures_requireIntervention
  · exact fun _ => rfl
  intro key session current
  exact .update ⟨key, session, current, rfl⟩

theorem fenceHuman_ok {interventionId : String} {epoch : Int} {key : Nat}
    (current : takeover.current? interventionId epoch = some (key, session)) :
    Ensures (fenceHuman interventionId epoch) takeover fun result after =>
      result = .ok () ∧ after = takeover.fenced key session.id := by
  apply running (requireIntervention_ok current)
  exact .update ⟨rfl, rfl⟩

/-- The transport with the first event of a session's queue taken. -/
def popped (takeover : ExperimentalTerminalWebRtcTakeover) (key : Nat)
    (event : TerminalWebRtcEvent) (rest : List TerminalWebRtcEvent) :
    ExperimentalTerminalWebRtcTakeover :=
  takeover.modify key fun session =>
    { session with
      queue := rest
      queuedBytes := session.queuedBytes - terminalEventCost event }

theorem nextEvent_spec (interventionId : String) (epoch : Int) :
    Ensures (nextEvent interventionId epoch) takeover fun result after =>
      match result with
      | .error _ => after = takeover
      | .ok none => after = takeover
      | .ok (some event) => ∃ key session rest,
          takeover.current? interventionId epoch = some (key, session) ∧
          session.queue = event :: rest ∧ after = takeover.popped key event rest := by
  apply ensures_requireIntervention
  · exact fun _ => rfl
  intro key session current
  dsimp only
  split
  · exact .pure rfl
  · rename_i event rest queued
    apply updating
    exact .pure ⟨key, session, rest, current, queued, rfl⟩

theorem releaseCompleted_spec {interventionId : String} {epoch : Int} {key : Nat}
    {session : TerminalSession}
    (current : takeover.current? interventionId epoch = some (key, session))
    (completed : session.completed = true) (idle : session.humanActive = false) :
    Ensures (releaseCompleted interventionId epoch) takeover fun result after =>
      result = .ok () ∧ after = { takeover with session := none } := by
  apply running (requireIntervention_ok current)
  apply Ensures.require
  · rw [completed, idle]
    exact fun no => by cases no
  · exact fun _ => .update ⟨rfl, rfl⟩

/-- The transport with the revocation of its session begun. -/
def revoking (takeover : ExperimentalTerminalWebRtcTakeover) (key : Nat)
    (session : TerminalSession) : ExperimentalTerminalWebRtcTakeover :=
  ((takeover.modify key fun session => { session with humanActive := false }).markEnded
    session.id).beginRevoke session.id (.ending key session.id)

theorem revoke_spec (interventionId : String) (epoch : Int) :
    Ensures (revoke interventionId epoch) takeover fun result after =>
      match result with
      | .error _ => after = takeover
      | .ok _ => ∃ key session, takeover.current? interventionId epoch = some (key, session) ∧
          after = takeover.revoking key session := by
  apply ensures_requireIntervention
  · exact fun _ => rfl
  intro key session current
  exact .update ⟨key, session, current, rfl⟩

end ExperimentalTerminalWebRtcTakeover

end ExecutionHandoff.Experimental
