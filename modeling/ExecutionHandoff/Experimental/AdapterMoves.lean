import ExecutionHandoff.Experimental.TerminalCalls
import ExecutionHandoff.Experimental.TransportSteps
import ExecutionHandoff.Experimental.TerminalAdapter

/-!
# What a call of the terminal adapter does

Each call makes one of a few moves on the gate, the transport and the reference
between them.  The moves say everything a call can do, refusals half way
included.
-/

namespace ExecutionHandoff.Experimental

open ExecutionHandoff.Library ExecutionHandoff.Core Option
open StateExcept hiding read update
open TerminalPtyAuthority (assertHumanInput_spec noteHumanDisconnect_spec markHumanDoneFence
  assertAgent assertAgent_spec resumeAgent_spec acknowledge_spec)
open Ensures (reading updating)

/-! ## The transport under the adapter -/

namespace ExperimentalTerminalWebRtcTakeover

variable {takeover first last : ExperimentalTerminalWebRtcTakeover} {interventionId : String}
  {epoch : Int} {key : Nat} {session : TerminalSession}

/-- The Human's input is taken away from a session object and given to none. -/
structure Lowered (key : Nat) (first last : ExperimentalTerminalWebRtcTakeover) : Prop where
  objects : ∀ key : Nat, Option.Rel (SessionDrift False) first.objects[key]? last.objects[key]?
  lowered : ∀ session, last.objects[key]? = some session → session.humanActive = false
  session : last.session = first.session
  enables : TerminalDataChannelRuntime.Enables first.runtime last.runtime

theorem lowered_of_modify {runtime : TerminalDataChannelRuntime}
    (objects : last.objects = first.objects.modify key fun session =>
      { session with humanActive := false })
    (session : last.session = first.session) (same : last.runtime = runtime)
    (enables : TerminalDataChannelRuntime.Enables first.runtime runtime) :
    Lowered key first last := by
  refine ⟨fun other => ?_, fun session found => ?_, session, same ▸ enables⟩
  · rw [objects, List.getElem?_modify]
    cases first.objects[other]? with
    | none => exact .none
    | some session =>
        refine .some ?_
        split
        · exact drift_fenced rfl rfl rfl rfl rfl rfl
        · exact .refl False session
  · rw [objects, List.getElem?_modify] at found
    obtain ⟨old, _, same⟩ := map_eq_some_iff.mp found
    rw [if_pos rfl] at same
    exact same ▸ rfl

theorem lowered_fenced (takeover : ExperimentalTerminalWebRtcTakeover) (key : Nat) (id : String) :
    Lowered key takeover (takeover.fenced key id) :=
  lowered_of_modify rfl rfl rfl (TerminalDataChannelRuntime.enables_fence id)

theorem lowered_revoking (takeover : ExperimentalTerminalWebRtcTakeover) (key : Nat)
    (session : TerminalSession) : Lowered key takeover (takeover.revoking key session) :=
  lowered_of_modify rfl rfl rfl (TerminalDataChannelRuntime.enables_revokePrepared session.id)

theorem Lowered.trans {middle : ExperimentalTerminalWebRtcTakeover}
    (before : Lowered key first middle) (after : Lowered key middle last) :
    Lowered key first last := by
  refine ⟨fun other => ?_, after.lowered, after.session.trans before.session,
    before.enables.trans after.enables⟩
  have left := before.objects other
  have right := after.objects other
  generalize first.objects[other]? = start at left
  generalize middle.objects[other]? = half at left right
  generalize last.objects[other]? = stop at right
  cases left with
  | none =>
      cases right
      exact .none
  | some drift =>
      cases right with
      | some drift' => exact .some (drift.trans drift')

/-- A transport that is dropped is revoked, if it is still there. -/
inductive Drops (first : ExperimentalTerminalWebRtcTakeover) (ref : TerminalTransportRef) :
    ExperimentalTerminalWebRtcTakeover → Prop where
  | absent (current : first.current? ref.interventionId ref.epoch = none) : Drops first ref first
  | revoked {key : Nat} {session : TerminalSession} {last : ExperimentalTerminalWebRtcTakeover}
      (current : first.current? ref.interventionId ref.epoch = some (key, session))
      (lowered : Lowered key first last)
      (pending : last.pending = .ending key session.id .prepared :: first.pending) :
      Drops first ref last

theorem drops_of_fenced {ref : TerminalTransportRef} {key : Nat} {session : TerminalSession}
    (current : first.current? ref.interventionId ref.epoch = some (key, session))
    (drops : Drops (first.fenced key session.id) ref last) : Drops first ref last := by
  have fenced : (first.fenced key session.id).current? ref.interventionId ref.epoch =
      some (key, { session with humanActive := false }) :=
    @current?_modify first _ _ _ _ (fun session => { session with humanActive := false })
      current rfl rfl
  cases drops with
  | absent current' => cases fenced.symm.trans current'
  | revoked current' lowered pending =>
      cases fenced.symm.trans current'
      exact .revoked current ((lowered_fenced first key session.id).trans lowered) pending

theorem revoke_drops (ref : TerminalTransportRef) :
    Ensures (revoke ref.interventionId ref.epoch) takeover
      fun _ after => Drops takeover ref after := by
  cases current : takeover.current? ref.interventionId ref.epoch with
  | none =>
      apply ensures_requireIntervention
      · exact fun _ => .absent current
      · intro key session found
        cases current.symm.trans found
  | some found =>
      apply Ensures.running (requireIntervention_ok current)
      exact .update (.revoked current (lowered_revoking takeover found.1 found.2) rfl)

end ExperimentalTerminalWebRtcTakeover

open TerminalPtyAuthority
open ExperimentalTerminalWebRtcTakeover (Started Drops Lowered)

namespace TerminalHandoffAdapter

/-! ## Moves -/

/-- The call returns no event. -/
def Silent (outcome : Except TerminalHandoffError AdapterReply) : Prop :=
  ∀ event, outcome ≠ .ok (.event (some event))

/-- What a call does, by its outcome. -/
inductive Move (adapter : TerminalHandoffAdapter) :
    Except TerminalHandoffError AdapterReply → TerminalHandoffAdapter → Prop where
  | observed {outcome : Except TerminalHandoffError AdapterReply}
      {authority : TerminalPtyAuthority} (silent : Silent outcome)
      (same : SameStanding adapter.authority authority) :
      Move adapter outcome { adapter with authority }
  | begun {outcome : Except TerminalHandoffError AdapterReply} {authority : TerminalPtyAuthority}
      {transport : ExperimentalTerminalWebRtcTakeover} {active : TerminalIntervention}
      {session : TerminalSession} (silent : Silent outcome) (free : adapter.transportRef = none)
      (begun : Begun adapter.authority active authority)
      (started : Started adapter.transport transport session)
      (id : session.interventionId = active.id) (epoch : session.epoch = active.epoch) :
      Move adapter outcome
        { adapter with authority, transport, transportRef := some ⟨active.id, active.epoch⟩ }
  | unbegun {outcome : Except TerminalHandoffError AdapterReply}
      {middle authority : TerminalPtyAuthority} {active : TerminalIntervention}
      {sessions : Takeover.TakeoverSessionManager} (silent : Silent outcome)
      (begun : Begun adapter.authority active middle)
      (cancelled : Cancelled active.id active.epoch middle authority) :
      Move adapter outcome
        { adapter with authority, transport := { adapter.transport with sessions } }
  | claimed {outcome : Except TerminalHandoffError AdapterReply}
      {ref : TerminalTransportRef} {authority : TerminalPtyAuthority}
      {human : TerminalIntervention} {key : Nat} {session : TerminalSession}
      {runtime : TerminalDataChannelRuntime} (silent : Silent outcome)
      (tied : adapter.transportRef = some ref)
      (claimed : Claimed ref.interventionId ref.epoch adapter.authority human authority)
      (current : adapter.transport.current? ref.interventionId ref.epoch = some (key, session)) :
      Move adapter outcome
        { adapter with
          authority
          transport := (adapter.transport.withRuntime runtime).modify key fun session =>
            { session with humanActive := true } }
  | unclaimed {outcome : Except TerminalHandoffError AdapterReply} {ref : TerminalTransportRef}
      {middle authority : TerminalPtyAuthority} {human : TerminalIntervention}
      (silent : Silent outcome) (tied : adapter.transportRef = some ref)
      (claimed : Claimed ref.interventionId ref.epoch adapter.authority human middle)
      (same : SameStanding middle authority) :
      Move adapter outcome { adapter with authority }
  | heard {outcome : Except TerminalHandoffError AdapterReply} {ref : TerminalTransportRef}
      {key : Nat} {session : TerminalSession} {event : TerminalWebRtcEvent}
      {rest : List TerminalWebRtcEvent} (tied : adapter.transportRef = some ref)
      (current : adapter.transport.current? ref.interventionId ref.epoch = some (key, session))
      (queued : session.queue = event :: rest) (open' : event ≠ .done)
      (told : ∀ told, outcome = .ok (.event (some told)) →
        (∀ verifying, told ≠ .done verifying) ∧
        ∃ active, Names adapter.authority ref.interventionId ref.epoch .humanActive active) :
      Move adapter outcome
        { adapter with transport := adapter.transport.popped key event rest }
  | done {ref : TerminalTransportRef} {authority : TerminalPtyAuthority}
      {verifying : TerminalIntervention} {key : Nat} {session : TerminalSession}
      {rest : List TerminalWebRtcEvent} (tied : adapter.transportRef = some ref)
      (current : adapter.transport.current? ref.interventionId ref.epoch = some (key, session))
      (queued : session.queue = .done :: rest)
      (completed : Completed ref.interventionId ref.epoch adapter.authority verifying authority) :
      Move adapter (.ok (.event (some (.done (publicIntervention verifying)))))
        { adapter with
          authority
          transport :=
            { (adapter.transport.popped key .done rest).fenced key session.id with session := none }
          transportRef := none }
  | deaf {outcome : Except TerminalHandoffError AdapterReply} {ref : TerminalTransportRef}
      {authority : TerminalPtyAuthority} {key : Nat} {session : TerminalSession}
      {rest : List TerminalWebRtcEvent} (silent : Silent outcome)
      (tied : adapter.transportRef = some ref)
      (current : adapter.transport.current? ref.interventionId ref.epoch = some (key, session))
      (queued : session.queue = .done :: rest)
      (inactive : ¬ ∃ active, Names adapter.authority ref.interventionId ref.epoch .humanActive active)
      (same : SameStanding adapter.authority authority) :
      Move adapter outcome
        { adapter with
          authority
          transport := (adapter.transport.popped key .done rest).fenced key session.id }
  | verified {outcome : Except TerminalHandoffError AdapterReply}
      {authority : TerminalPtyAuthority} (silent : Silent outcome)
      (verified : Verified adapter.authority authority) :
      Move adapter outcome { adapter with authority }
  | fenced {outcome : Except TerminalHandoffError AdapterReply} {ref : TerminalTransportRef}
      {authority : TerminalPtyAuthority} {key : Nat} {session : TerminalSession}
      (silent : Silent outcome) (tied : adapter.transportRef = some ref)
      (current : adapter.transport.current? ref.interventionId ref.epoch = some (key, session))
      (same : SameStanding adapter.authority authority) :
      Move adapter outcome
        { adapter with authority, transport := adapter.transport.fenced key session.id }
  | dropped {outcome : Except TerminalHandoffError AdapterReply} {ref : TerminalTransportRef}
      {authority : TerminalPtyAuthority} {transport : ExperimentalTerminalWebRtcTakeover}
      (silent : Silent outcome) (tied : adapter.transportRef = some ref)
      (same : SameStanding adapter.authority authority)
      (drops : Drops adapter.transport ref transport) :
      Move adapter outcome { adapter with authority, transport, transportRef := none }
  | cancelling {outcome : Except TerminalHandoffError AdapterReply} {ref : TerminalTransportRef}
      {transport : ExperimentalTerminalWebRtcTakeover} {cancellation : Cancellation}
      (silent : Silent outcome) (tied : adapter.transportRef = some ref)
      (waiting : ∃ active, adapter.authority.state.active = some active ∧
        active.status = .awaitingHuman ∧ (active.epoch : Int) = ref.epoch)
      (awaiting : cancellation.awaiting.interventionId = ref.interventionId ∧
        cancellation.awaiting.epoch = ref.epoch)
      (session : cancellation.session =
        (adapter.transport.current? ref.interventionId ref.epoch).map Prod.fst)
      (drops : Drops adapter.transport ref transport) :
      Move adapter outcome
        { adapter with
          transport, transportRef := none, cancelling := cancellation :: adapter.cancelling }
  | exited {outcome : Except TerminalHandoffError AdapterReply} {authority : TerminalPtyAuthority}
      {transport : ExperimentalTerminalWebRtcTakeover} (silent : Silent outcome)
      (exited : Exited adapter.authority authority)
      (left : adapter.transportRef = none ∧ transport = adapter.transport ∨
        ∃ ref, adapter.transportRef = some ref ∧ Drops adapter.transport ref transport) :
      Move adapter outcome { adapter with authority, transport, transportRef := none }

/-! ## Rules -/

section Rules

variable {α β : Type} {adapter : TerminalHandoffAdapter}
  {post : Except TerminalHandoffError β → TerminalHandoffAdapter → Prop}

theorem ensures_onAuthority {action : TerminalM α} {next : α → AdapterM β}
    {held : Except TerminalPtyError α → TerminalPtyAuthority → Prop}
    (spec : Ensures action adapter.authority held)
    (failed : ∀ error authority, held (.error error) authority →
      post (.error (.pty error)) { adapter with authority })
    (passed : ∀ value authority, held (.ok value) authority →
      Ensures (next value) { adapter with authority } post) :
    Ensures (onAuthority action >>= next) adapter post := by
  have lifted : Ensures (onAuthority action) adapter fun result after =>
      (∃ error authority, result = .error (.pty error) ∧ held (.error error) authority ∧
        after = { adapter with authority }) ∨
      ∃ value authority, result = .ok value ∧ held (.ok value) authority ∧
        after = { adapter with authority } := by
    unfold Ensures onAuthority
    unfold Ensures at spec
    cases outcome : action adapter.authority with
    | mk result authority =>
        rw [outcome] at spec
        cases result with
        | error error => exact .inl ⟨error, authority, rfl, spec, rfl⟩
        | ok value => exact .inr ⟨value, authority, rfl, spec, rfl⟩
  apply lifted.bind
  · rintro _ _ (⟨error, authority, ⟨⟩, holds, rfl⟩ | ⟨_, _, ⟨⟩, _⟩)
    exact failed error authority holds
  · rintro _ _ (⟨_, _, ⟨⟩, _⟩ | ⟨value, authority, ⟨⟩, holds, rfl⟩)
    exact passed _ authority holds

theorem ensures_onTransport {action : TransportM α} {next : α → AdapterM β}
    {held : Except String α → ExperimentalTerminalWebRtcTakeover → Prop}
    (spec : Ensures action adapter.transport held)
    (failed : ∀ error transport, held (.error error) transport →
      post (.error (.transport error)) { adapter with transport })
    (passed : ∀ value transport, held (.ok value) transport →
      Ensures (next value) { adapter with transport } post) :
    Ensures (onTransport action >>= next) adapter post := by
  have lifted : Ensures (onTransport action) adapter fun result after =>
      (∃ error transport, result = .error (.transport error) ∧ held (.error error) transport ∧
        after = { adapter with transport }) ∨
      ∃ value transport, result = .ok value ∧ held (.ok value) transport ∧
        after = { adapter with transport } := by
    unfold Ensures onTransport
    unfold Ensures at spec
    cases outcome : action adapter.transport with
    | mk result transport =>
        rw [outcome] at spec
        cases result with
        | error error => exact .inl ⟨error, transport, rfl, spec, rfl⟩
        | ok value => exact .inr ⟨value, transport, rfl, spec, rfl⟩
  apply lifted.bind
  · rintro _ _ (⟨error, transport, ⟨⟩, holds, rfl⟩ | ⟨_, _, ⟨⟩, _⟩)
    exact failed error transport holds
  · rintro _ _ (⟨_, _, ⟨⟩, _⟩ | ⟨value, transport, ⟨⟩, holds, rfl⟩)
    exact passed _ transport holds

/-- A call of the transport inside `try` always goes on. -/
theorem ensures_caught {action : TransportM α} {next : Except TerminalHandoffError α → AdapterM β}
    {held : Except String α → ExperimentalTerminalWebRtcTakeover → Prop}
    (spec : Ensures action adapter.transport held)
    (passed : ∀ result transport, held result transport →
      Ensures (next (result.mapError .transport)) { adapter with transport } post) :
    Ensures (caught (onTransport action) >>= next) adapter post := by
  have lifted : Ensures (caught (onTransport action)) adapter fun result after =>
      ∃ inner transport, result = .ok (inner.mapError .transport) ∧ held inner transport ∧
        after = { adapter with transport } := by
    unfold Ensures caught onTransport
    unfold Ensures at spec
    cases outcome : action adapter.transport with
    | mk result transport =>
        rw [outcome] at spec
        cases result with
        | error error => exact ⟨.error error, transport, rfl, spec, rfl⟩
        | ok value => exact ⟨.ok value, transport, rfl, spec, rfl⟩
  apply lifted.bind
  · rintro _ _ ⟨_, _, ⟨⟩, _⟩
  · rintro _ _ ⟨inner, transport, ⟨⟩, holds, rfl⟩
    exact passed inner transport holds

theorem ensures_requireTransportRef {intervention : TerminalHandoffInterventionRef}
    {next : Unit → AdapterM β} (failed : ∀ error, post (.error error) adapter)
    (passed : adapter.transportRef = some ⟨intervention.interventionId, intervention.epoch⟩ →
      Ensures (next ()) adapter post) :
    Ensures (requireTransportRef intervention >>= next) adapter post := by
  have required : Ensures (requireTransportRef intervention) adapter
      fun result after => after = adapter ∧ ∀ value, result = .ok value →
        adapter.transportRef = some ⟨intervention.interventionId, intervention.epoch⟩ := by
    apply reading
    split
    · exact .throwing ⟨rfl, fun _ no => by cases no⟩
    · rename_i ref tied
      unfold StateExcept.require
      split
      · rename_i same
        simp only [Bool.and_eq_true, beq_iff_eq] at same
        refine ⟨rfl, fun _ _ => ?_⟩
        rw [tied, ← same.1, ← same.2]
      · exact ⟨rfl, fun _ no => by cases no⟩
  apply required.bind
  · rintro error _ ⟨rfl, _⟩
    exact failed error
  · rintro value _ ⟨rfl, tied⟩
    exact passed (tied value rfl)

end Rules

variable {config : TerminalHandoffAdapterConfig} {adapter : TerminalHandoffAdapter}

theorem matchesSession_binding (config : TerminalHandoffAdapterConfig) :
    matchesSession config.authority config.binding = true :=
  config.bound ▸ matchesSession_supplied config.authority

/-- A call that only looks. -/
def Watches {α : Type} (adapter : TerminalHandoffAdapter) :
    Except TerminalHandoffError α → TerminalHandoffAdapter → Prop :=
  fun _ after => ∃ authority, SameStanding adapter.authority authority ∧
    after = { adapter with authority }

theorem Watches.refl {α : Type} (result : Except TerminalHandoffError α) :
    Watches adapter result adapter :=
  ⟨adapter.authority, .refl _, rfl⟩

theorem onAuthority_watches {α : Type} {action : TerminalM α}
    (spec : Ensures action adapter.authority fun _ => SameStanding adapter.authority) :
    Ensures (onAuthority action) adapter (Watches adapter) := by
  unfold Ensures onAuthority
  unfold Ensures at spec
  cases outcome : action adapter.authority with
  | mk result authority =>
      rw [outcome] at spec
      cases result with
      | error error => exact ⟨authority, spec, rfl⟩
      | ok value => exact ⟨authority, spec, rfl⟩

theorem onTransport_watches {α : Type} {action : TransportM α}
    (spec : Ensures action adapter.transport fun _ after => after = adapter.transport) :
    Ensures (onTransport action) adapter (Watches adapter) := by
  unfold Ensures onTransport
  unfold Ensures at spec
  cases outcome : action adapter.transport with
  | mk result transport =>
      rw [outcome] at spec
      cases spec
      cases result with
      | error error => exact .refl _
      | ok value => exact .refl _

/-- A call that only looks and returns no event is a move. -/
theorem Watches.move {α : Type} {action : AdapterM α} {reply : α → AdapterReply}
    (silent : ∀ value event, reply value ≠ .event (some event))
    (spec : Ensures action adapter (Watches adapter)) :
    Ensures (action >>= fun value => pure (reply value)) adapter (Move adapter) := by
  apply spec.bind
  · rintro error _ ⟨authority, same, rfl⟩
    exact .observed (fun _ no => by cases no) same
  · rintro value _ ⟨authority, same, rfl⟩
    apply Ensures.pure
    exact .observed (fun event told => silent value event (Except.ok.inj told)) same

theorem getStatus_spec (authority : TerminalPtyAuthority) :
    Ensures (getStatus config.authority) authority fun result after =>
      after = authority ∧ ∀ status, result = .ok status →
        status.interventionStatus = authority.state.active.map (·.status) ∧
        status.interventionEpoch = authority.state.active.map (·.epoch) := by
  apply reading
  refine .pure ⟨rfl, ?_⟩
  rintro _ ⟨⟩
  exact ⟨rfl, rfl⟩

theorem status_watches : Ensures (status config) adapter (Watches adapter) := by
  apply ensures_onAuthority (getStatus_spec adapter.authority)
  · rintro error _ ⟨rfl, _⟩
    exact .refl _
  · rintro value _ ⟨rfl, _⟩
    apply reading
    split
    · exact .pure (.refl _)
    · apply ensures_onTransport (ExperimentalTerminalWebRtcTakeover.status_spec _ _)
      · rintro error _ rfl
        exact .refl _
      · rintro value _ rfl
        exact .pure (.refl _)

theorem transportStatus_watches (intervention : TerminalHandoffInterventionRef) :
    Ensures (transportStatus intervention) adapter (Watches adapter) := by
  apply ensures_requireTransportRef
  · exact fun _ => .refl _
  intro _
  apply ensures_onTransport (ExperimentalTerminalWebRtcTakeover.status_spec _ _)
  · rintro error _ rfl
    exact .refl _
  · rintro value _ rfl
    exact .pure (.refl _)

theorem assertHumanInput_watches (human : TerminalHandoffInterventionRef) :
    Ensures (assertHumanInput config human) adapter (Watches adapter) := by
  apply onAuthority_watches
  apply assertHumanInput_spec.mono
  rintro _ _ ⟨rfl, _⟩
  exact .refl _

theorem pushOutput_unchanged (transport : ExperimentalTerminalWebRtcTakeover)
    (interventionId : String) (epoch : Int) (room : Bool) :
    Ensures (pushOutput interventionId epoch room) transport
      fun _ after => after = transport := by
  apply ExperimentalTerminalWebRtcTakeover.ensures_requireIntervention
  · exact fun _ => rfl
  intro key session _
  dsimp only
  split
  · exact .throwing rfl
  · apply Ensures.require
    · exact fun _ => rfl
    intro _
    apply reading
    split
    · exact .throwing rfl
    · apply Ensures.require
      · exact fun _ => rfl
      intro _
      unfold StateExcept.require
      split <;> rfl

theorem pushHumanOutput_watches (human : TerminalHandoffInterventionRef) (byteLength : Nat)
    (room : Bool) :
    Ensures (pushHumanOutput config human byteLength room) adapter
      (Watches adapter) := by
  apply ensures_requireTransportRef
  · exact fun _ => .refl _
  intro _
  apply ensures_onAuthority assertHumanInput_spec
  · rintro error _ ⟨rfl, _⟩
    exact .refl _
  · rintro value _ ⟨rfl, _⟩
    apply Ensures.require
    · exact fun _ => .refl _
    intro _
    exact onTransport_watches (pushOutput_unchanged adapter.transport _ _ room)

theorem noteHumanDisconnect_watches (human : TerminalHandoffInterventionRef) :
    Ensures (noteHumanDisconnect config human) adapter (Watches adapter) := by
  apply ensures_requireTransportRef
  · exact fun _ => .refl _
  intro _
  apply ensures_onTransport (ExperimentalTerminalWebRtcTakeover.status_spec _ _)
  · rintro error _ rfl
    exact .refl _
  · rintro value _ rfl
    apply Ensures.require
    · exact fun _ => .refl _
    intro _
    apply ensures_onAuthority noteHumanDisconnect_spec
    · exact fun error authority same => ⟨authority, same, rfl⟩
    · intro _ authority same
      apply status_watches.mono
      rintro result _ ⟨authority', same', rfl⟩
      exact ⟨authority', ⟨same'.state.trans same.state, same'.alive.trans same.alive⟩, rfl⟩

/-! ## Calls that move -/

theorem silent_error (error : TerminalHandoffError) : Silent (.error error) :=
  fun _ no => by cases no

theorem begin_move :
    Ensures (begin config) adapter fun result after =>
      Move adapter (result.map fun begun => .begun begun.1 begun.2) after := by
  apply ensures_onAuthority (getStatus_spec adapter.authority)
  · rintro error _ ⟨rfl, _⟩
    exact .observed (silent_error _) (.refl _)
  rintro status _ ⟨rfl, facts⟩
  apply reading
  apply Ensures.require
  · exact fun _ => .observed (silent_error _) (.refl _)
  intro ready
  simp only [Bool.and_eq_true, isNone_iff_eq_none, decide_eq_true_eq] at ready
  obtain ⟨⟨⟨⟨free, _⟩, unstarted⟩, _⟩, _⟩ := ready
  have idle : adapter.authority.state.active = none := by
    rw [(facts status rfl).1] at unstarted
    exact map_eq_none_iff.mp unstarted
  apply ensures_onAuthority (beginFence_spec idle)
  · exact fun error authority outcome => .observed (silent_error _) (outcome.refused error rfl)
  intro active middle outcome
  have begun := outcome.accepted active rfl
  apply ensures_caught (ExperimentalTerminalWebRtcTakeover.start_spec _ _ _)
  rintro (error | locator) transport started
  · obtain ⟨sessions, rfl⟩ := started
    have named : Names middle active.id active.epoch .awaitingHuman active :=
      ⟨begun.held, rfl, rfl, begun.waits⟩
    have cancels : Ensures (TerminalPtyAuthority.cancelBeforeHuman config.authority
        config.binding active.id active.epoch) middle fun result authority =>
          ∃ status, result = .ok status ∧ Cancelled active.id active.epoch middle authority := by
      obtain ⟨status, accepted⟩ := TerminalPtyAuthority.cancelBeforeHuman_accepted
        (matchesSession_binding config) begun.living named
      exact ⟨status, accepted,
        TerminalPtyAuthority.cancelBeforeHuman_spec.accepted status accepted⟩
    apply ensures_onAuthority cancels
    · rintro _ _ ⟨_, ⟨⟩, _⟩
    · rintro _ authority ⟨_, _, cancelled⟩
      exact .throwing (.unbegun (silent_error _) begun cancelled)
  · obtain ⟨session, started, id, epoch⟩ := started
    apply updating
    apply Ensures.pure
    exact .begun (fun _ no => by cases no) free begun started id epoch

/-- The transport is dropped whatever it throws. -/
theorem dropTransport_spec (ref : TerminalTransportRef) :
    Ensures (dropTransport ref) adapter fun result after =>
      ∃ transport, result = .ok () ∧ Drops adapter.transport ref transport ∧
        after = { adapter with transport, transportRef := none } := by
  apply updating
  apply ensures_caught (ExperimentalTerminalWebRtcTakeover.revoke_drops ref)
  exact fun _ transport drops => .pure ⟨transport, rfl, drops, rfl⟩

theorem dropTransport_drops {α : Type} {ref : TerminalTransportRef} {next : Unit → AdapterM α}
    {post : Except TerminalHandoffError α → TerminalHandoffAdapter → Prop}
    (passed : ∀ transport, Drops adapter.transport ref transport →
      Ensures (next ()) { adapter with transport, transportRef := none } post) :
    Ensures (dropTransport ref >>= next) adapter post := by
  apply (dropTransport_spec ref).bind
  · rintro _ _ ⟨_, ⟨⟩, _⟩
  · rintro _ _ ⟨transport, _, drops, rfl⟩
    exact passed transport drops

theorem cancelBeforeHuman_move (awaiting : TerminalHandoffInterventionRef) :
    Ensures (cancelBeforeHuman config awaiting) adapter fun result after =>
      Move adapter (result.map fun _ => .done) after := by
  apply ensures_requireTransportRef
  · exact fun _ => .observed (silent_error _) (.refl _)
  intro tied
  apply ensures_onAuthority (getStatus_spec adapter.authority)
  · rintro error _ ⟨rfl, _⟩
    exact .observed (silent_error _) (.refl _)
  rintro status _ ⟨rfl, facts⟩
  apply Ensures.require
  · exact fun _ => .observed (silent_error _) (.refl _)
  intro waiting
  simp only [Bool.and_eq_true, decide_eq_true_eq, (facts status rfl).1, (facts status rfl).2,
    map_map] at waiting
  obtain ⟨active, held, waits⟩ := map_eq_some_iff.mp waiting.1
  have epoch : (active.epoch : Int) = awaiting.epoch := by
    have dated := waiting.2
    rw [held] at dated
    exact some.inj dated
  apply reading
  apply dropTransport_drops
  intro transport drops
  exact .update (.cancelling (fun _ no => by cases no) tied ⟨active, held, waits, epoch⟩
    ⟨rfl, rfl⟩ rfl drops)

theorem claimHumanAfterAgentDrain_move (intervention : TerminalHandoffInterventionRef) :
    Ensures (claimHumanAfterAgentDrain config intervention) adapter
      fun result after => Move adapter (result.map .intervention) after := by
  apply ensures_requireTransportRef
  · exact fun _ => .observed (silent_error _) (.refl _)
  intro tied
  apply ensures_onTransport (ExperimentalTerminalWebRtcTakeover.status_spec _ _)
  · rintro error _ rfl
    exact .observed (silent_error _) (.refl _)
  rintro status _ rfl
  apply Ensures.require
  · exact fun _ => .observed (silent_error _) (.refl _)
  intro _
  apply ensures_onAuthority TerminalPtyAuthority.claimHumanAfterAgentDrain_spec
  · exact fun error authority outcome => .observed (silent_error _) (outcome.refused error rfl)
  intro human middle outcome
  have claimed := outcome.accepted human rfl
  apply ensures_caught (ExperimentalTerminalWebRtcTakeover.activateHuman_spec _ _)
  rintro (error | _) transport activated
  · cases activated
    apply ensures_onAuthority noteHumanDisconnect_spec
    · exact fun _ authority same => .unclaimed (silent_error _) tied claimed same
    · exact fun _ authority same => .throwing (.unclaimed (silent_error _) tied claimed same)
  · obtain ⟨key, session, runtime, current, rfl⟩ := activated
    exact .pure (.claimed (fun _ no => by cases no) tied claimed current)

/-- A Human event that is not Done is told only after the gate has agreed. -/
theorem heard_move {human : TerminalHandoffInterventionRef} {key : Nat} {session : TerminalSession}
    {event : TerminalWebRtcEvent} {rest : List TerminalWebRtcEvent}
    {told : TerminalHandoffHumanEvent}
    (tied : adapter.transportRef = some ⟨human.interventionId, human.epoch⟩)
    (current : adapter.transport.current? human.interventionId human.epoch = some (key, session))
    (queued : session.queue = event :: rest) (ordinary : event ≠ .done)
    (undone : ∀ verifying, told ≠ .done verifying) :
    Ensures
      (assertHumanInput config human >>= fun _ => pure (some told))
      { adapter with transport := adapter.transport.popped key event rest }
      fun result after => Move adapter (result.map .event) after := by
  apply ensures_onAuthority assertHumanInput_spec
  · rintro error _ ⟨rfl, _⟩
    exact .heard tied current queued ordinary fun _ no => by cases no
  · rintro value _ ⟨rfl, human⟩
    apply Ensures.pure
    refine .heard tied current queued ordinary ?_
    rintro _ ⟨⟩
    exact ⟨undone, human value rfl⟩

theorem markHumanDoneFence_decides {authority : TerminalPtyAuthority}
    (human : TerminalHandoffInterventionRef) :
    Ensures (markHumanDoneFence config.authority config.binding
      human.interventionId human.epoch) authority fun result after =>
        Outcome authority (Completed human.interventionId human.epoch authority) result after ∧
        ((∃ active, Names authority human.interventionId human.epoch .humanActive active) →
          ∃ verifying, result = .ok verifying) :=
  ⟨TerminalPtyAuthority.markHumanDoneFence_spec, fun ⟨_, named⟩ =>
    TerminalPtyAuthority.markHumanDoneFence_accepted (matchesSession_binding config) named⟩

/-- A Done that was taken from the queue fences the transport, and then the gate. -/
theorem done_move {human : TerminalHandoffInterventionRef} {key : Nat} {session : TerminalSession}
    {rest : List TerminalWebRtcEvent}
    (tied : adapter.transportRef = some ⟨human.interventionId, human.epoch⟩)
    (current : adapter.transport.current? human.interventionId human.epoch = some (key, session))
    (queued : session.queue = .done :: rest) (completed : session.completed = true) :
    Ensures
      (do
        onTransport (ExperimentalTerminalWebRtcTakeover.fenceHuman human.interventionId
          human.epoch)
        let verifying ← onAuthority (markHumanDoneFence config.authority
          config.binding human.interventionId human.epoch)
        onTransport (ExperimentalTerminalWebRtcTakeover.releaseCompleted human.interventionId
          human.epoch)
        StateExcept.update fun adapter => { adapter with transportRef := none }
        return some (.done (publicIntervention verifying)))
      { adapter with transport := adapter.transport.popped key .done rest }
      fun result after => Move adapter (result.map .event) after := by
  let emptied : TerminalSession :=
    { session with
      queue := rest
      queuedBytes := session.queuedBytes - terminalEventCost .done }
  have left : (adapter.transport.popped key .done rest).current? human.interventionId
      human.epoch = some (key, emptied) :=
    ExperimentalTerminalWebRtcTakeover.current?_modify current rfl rfl
  have lowered : ((adapter.transport.popped key .done rest).fenced key session.id).current?
      human.interventionId human.epoch = some (key, { emptied with humanActive := false }) :=
    @ExperimentalTerminalWebRtcTakeover.current?_modify (adapter.transport.popped key .done rest)
      _ _ _ _ (fun session => { session with humanActive := false }) left rfl rfl
  apply ensures_onTransport (ExperimentalTerminalWebRtcTakeover.fenceHuman_ok left)
  · rintro _ _ ⟨⟨⟩, _⟩
  rintro _ _ ⟨_, rfl⟩
  apply ensures_onAuthority (markHumanDoneFence_decides human)
  · rintro error authority ⟨outcome, decided⟩
    have inactive : ¬ ∃ active, Names adapter.authority human.interventionId human.epoch
        .humanActive active := by
      intro named
      obtain ⟨_, accepted⟩ := decided named
      cases accepted
    exact @Move.deaf adapter _ _ authority key session rest (silent_error _) tied current queued
      inactive (outcome.refused error rfl)
  rintro verifying authority ⟨outcome, _⟩
  apply ensures_onTransport
    (@ExperimentalTerminalWebRtcTakeover.releaseCompleted_spec _ _ _ key
      { emptied with humanActive := false } lowered completed rfl)
  · rintro _ _ ⟨⟨⟩, _⟩
  rintro _ _ ⟨_, rfl⟩
  apply updating
  apply Ensures.pure
  exact @Move.done adapter _ authority verifying key session rest tied current queued
    (outcome.accepted verifying rfl)

theorem nextHumanEvent_move (human : TerminalHandoffInterventionRef)
    (completes : ∀ (key : Nat) (session : TerminalSession),
      adapter.transport.objects[key]? = some session →
      .done ∈ session.queue → session.completed = true) :
    Ensures (nextHumanEvent config human) adapter fun result after =>
      Move adapter (result.map .event) after := by
  apply ensures_requireTransportRef
  · exact fun _ => .observed (silent_error _) (.refl _)
  intro tied
  apply ensures_onTransport (ExperimentalTerminalWebRtcTakeover.nextEvent_spec _ _)
  · rintro error _ rfl
    exact .observed (silent_error _) (.refl _)
  rintro (_ | event) transport popped
  · cases popped
    refine .pure (.observed ?_ (.refl _))
    rintro event ⟨⟩
  obtain ⟨key, session, rest, current, queued, rfl⟩ := popped
  cases event with
  | input dataBase64 =>
      exact heard_move tied current queued (by rintro ⟨⟩) (by rintro _ ⟨⟩)
  | resize rows cols =>
      exact heard_move tied current queued (by rintro ⟨⟩) (by rintro _ ⟨⟩)
  | done =>
      obtain ⟨_, found, _⟩ := ExperimentalTerminalWebRtcTakeover.current?_some current
      have completed : session.completed = true :=
        completes key session found (queued ▸ List.mem_cons_self)
      exact done_move tied current queued completed

/-- A report to the gate, or its resumption, is a move. -/
theorem verified_move {α β : Type} {action : TerminalM α} {shown : α → β} {reply : β → AdapterReply}
    (silent : ∀ value event, reply value ≠ .event (some event))
    (spec : Ensures action adapter.authority fun _ after =>
      SameStanding adapter.authority after ∨ Verified adapter.authority after) :
    Ensures
      (do
        let value ← onAuthority action
        return shown value)
      adapter fun result after => Move adapter (result.map reply) after := by
  have moved {outcome : Except TerminalHandoffError AdapterReply} {authority : TerminalPtyAuthority}
      (quiet : Silent outcome)
      (verified : SameStanding adapter.authority authority ∨ Verified adapter.authority authority) :
      Move adapter outcome { adapter with authority } := by
    rcases verified with same | verified
    · exact .observed quiet same
    · exact .verified quiet verified
  apply ensures_onAuthority spec
  · exact fun error authority verified => moved (silent_error _) verified
  · intro value authority verified
    apply Ensures.pure
    exact moved (fun event told => silent _ event (Except.ok.inj told)) verified

theorem noteSessionExit_move :
    Ensures (noteSessionExit config) adapter fun result after =>
      Move adapter (result.map .status) after := by
  apply ensures_onAuthority TerminalPtyAuthority.noteSessionExit_spec
  · rintro error authority (⟨same, _⟩ | ⟨_, _, ⟨⟩⟩)
    exact .observed (silent_error _) same
  intro status authority exit
  apply reading
  split
  · rename_i free
    apply Ensures.pure
    rcases exit with ⟨same, _⟩ | ⟨exited, _⟩
    · exact .observed (fun _ no => by cases no) same
    · have left : { adapter with authority, transportRef := none } =
          { adapter with authority } := by
        rw [← free]
      exact left ▸ .exited (fun _ no => by cases no) exited (.inl ⟨free, rfl⟩)
  · rename_i ref tied
    apply dropTransport_drops
    intro transport drops
    apply Ensures.pure
    rcases exit with ⟨same, _⟩ | ⟨exited, _⟩
    · exact .dropped (fun _ no => by cases no) tied same drops
    · exact .exited (fun _ no => by cases no) exited (.inr ⟨ref, tied, drops⟩)

theorem revokeTransport_move :
    Ensures (revokeTransport config) adapter fun result after =>
      Move adapter (result.map fun _ => .done) after := by
  apply reading
  split
  · exact .pure (.observed (fun _ no => by cases no) (.refl _))
  rename_i ref tied
  apply ensures_onAuthority (getStatus_spec adapter.authority)
  · rintro error _ ⟨rfl, _⟩
    exact .observed (silent_error _) (.refl _)
  rintro status _ ⟨rfl, _⟩
  split
  · apply ensures_onTransport (ExperimentalTerminalWebRtcTakeover.fenceHuman_spec _ _)
    · rintro error transport fenced
      cases fenced
      exact .observed (silent_error _) (.refl _)
    rintro value transport ⟨key, session, current, rfl⟩
    apply ensures_onAuthority noteHumanDisconnect_spec
    · exact fun _ authority same => .fenced (silent_error _) tied current same
    intro _ authority same
    apply (dropTransport_spec ref).mono
    rintro _ _ ⟨transport, rfl, drops, rfl⟩
    exact .dropped (fun _ no => by cases no) tied same
      (ExperimentalTerminalWebRtcTakeover.drops_of_fenced current drops)
  · apply (dropTransport_spec ref).mono
    rintro _ _ ⟨transport, rfl, drops, rfl⟩
    exact .dropped (fun _ no => by cases no) tied (.refl _) drops

/-! ## Every call -/

/-- Every call makes one of the moves. -/
theorem perform_move (op : AdapterOp)
    (completes : ∀ (key : Nat) (session : TerminalSession),
      adapter.transport.objects[key]? = some session →
      .done ∈ session.queue → session.completed = true) :
    Ensures (perform config op) adapter (Move adapter) := by
  have agent {error : TerminalPtyError} :
      Ensures (onAuthority (assertAgent config.authority error
        config.binding)) adapter (Watches adapter) :=
    onAuthority_watches (assertAgent_spec error)
  cases op with
  | status => exact Watches.move (fun _ _ no => by cases no) status_watches
  | begin => exact begin_move.mapping
  | cancelBeforeHuman awaiting => exact (cancelBeforeHuman_move awaiting).mapping
  | transportStatus intervention =>
      exact Watches.move (fun _ _ no => by cases no) (transportStatus_watches intervention)
  | claimHumanAfterAgentDrain intervention =>
      exact (claimHumanAfterAgentDrain_move intervention).mapping
  | assertAgentInput => exact Watches.move (fun _ _ no => by cases no) agent
  | assertAgentObservation => exact Watches.move (fun _ _ no => by cases no) agent
  | assertAgentResize => exact Watches.move (fun _ _ no => by cases no) agent
  | assertHumanInput human =>
      exact Watches.move (fun _ _ no => by cases no) (assertHumanInput_watches human)
  | assertHumanObservation human =>
      exact Watches.move (fun _ _ no => by cases no) (assertHumanInput_watches human)
  | assertHumanResize human =>
      exact Watches.move (fun _ _ no => by cases no) (assertHumanInput_watches human)
  | nextHumanEvent human => exact (nextHumanEvent_move human completes).mapping
  | pushHumanOutput human byteLength room =>
      exact Watches.move (fun _ _ no => by cases no) (pushHumanOutput_watches human byteLength room)
  | noteHumanDisconnect human =>
      exact Watches.move (fun _ _ no => by cases no) (noteHumanDisconnect_watches human)
  | confirmHumanDrain verifying =>
      apply Ensures.mapping
      apply verified_move
      · exact fun _ _ no => by cases no
      · apply TerminalPtyAuthority.confirmHumanWritesDrained_spec.mono
        exact fun _ _ same => .inl same
  | reportVerification verifying satisfied =>
      exact (verified_move (fun _ _ no => by cases no)
        (TerminalPtyAuthority.reportVerification_spec satisfied)).mapping
  | resume ready =>
      exact (verified_move (fun _ _ no => by cases no)
        resumeAgent_spec).mapping
  | acknowledgeAgentStateSynchronization =>
      exact Watches.move (fun _ _ no => by cases no)
        (onAuthority_watches acknowledge_spec)
  | noteSessionExit => exact noteSessionExit_move.mapping
  | revokeTransport => exact revokeTransport_move.mapping

end TerminalHandoffAdapter

end ExecutionHandoff.Experimental
