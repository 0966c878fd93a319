import ExecutionHandoff.Experimental.TerminalHooks

/-!
# The events of a terminal session

What the peer's messages put into the queue of a session object, the owner takes
out of it, one by one or all at once.  A run is accounted for by the events it
accepted and the events it returned; the queue holds the difference, and the
byte counter its cost.
-/

namespace ExecutionHandoff.Experimental

open Library List
open StateExcept hiding read update
open WebSocket (utf8Length)

namespace ExperimentalTerminalWebRtcTakeover

/-! ## Accounts -/

section Accounts

variable (config : TerminalWebRtcConfig)

/-- The event that a message queues for its session object, if it is accepted. -/
def accepts (takeover : ExperimentalTerminalWebRtcTakeover) (key generation : Nat)
    (message : String) : Option TerminalWebRtcEvent :=
  (takeover.objects[key]?).bind fun session =>
    if takeover.listens key generation session = false then
      none
    else
      match (config.parse message).map parseTerminalEvent with
      | some (.ok (some event)) =>
          if maxEventQueueItems ≤ session.queue.length
              ∨ maxEventQueueBytes < session.queuedBytes + terminalEventCost event then
            none
          else
            some event
      | _ => none

/-- The runtime passes the message on. -/
def passes (active : ActiveRuntime) (message : String) : Prop :=
  ¬ (active.channel = none ∨ active.inputEnabled = false ∨ active.closing) ∧
    utf8Length message ≤ maxChannelMessageBytes

instance (active : ActiveRuntime) (message : String) : Decidable (passes active message) :=
  inferInstanceAs (Decidable (_ ∧ _))

/-- What a step accepts for a session object. -/
def accepted (takeover : ExperimentalTerminalWebRtcTakeover) (key : Nat) :
    TransportEvent → List TerminalWebRtcEvent
  | .network (.peer runtime (.message text)) =>
      match takeover.runtime.runtimes[runtime]? with
      | some active =>
          if active.session = key ∧ passes active text then
            (takeover.accepts config key active.binding.clientGeneration text).toList
          else
            []
      | none => []
  | _ => []

/-- What a step returns of the events of a session object. -/
def returned (takeover : ExperimentalTerminalWebRtcTakeover) (key : Nat) :
    TransportEvent → List TerminalWebRtcEvent
  | .call (.drainEvents interventionId epoch) =>
      if (takeover.current? interventionId epoch).map Prod.fst = some key then
        (drainEvents interventionId epoch takeover).1.toOption.getD []
      else
        []
  | .call (.nextEvent interventionId epoch) =>
      if (takeover.current? interventionId epoch).map Prod.fst = some key then
        ((nextEvent interventionId epoch takeover).1.toOption.getD none).toList
      else
        []
  | _ => []

/-- What a run has accepted for a session object and returned of it, each in order. -/
def accounts (key : Nat) : ExperimentalTerminalWebRtcTakeover → List TransportEvent →
    List TerminalWebRtcEvent × List TerminalWebRtcEvent
  | _, [] => ([], [])
  | takeover, event :: events =>
      match next config takeover event with
      | none => ([], [])
      | some after =>
          let rest := accounts key after events
          (takeover.accepted config key event ++ rest.1, takeover.returned key event ++ rest.2)

end Accounts

variable {config : TerminalWebRtcConfig}
  {takeover first last : ExperimentalTerminalWebRtcTakeover} {key generation : Nat}
  {message : String}

/-! ## The books of a session object -/

/-- A session object later whose queue was left alone. -/
structure QueueKept (session session' : TerminalSession) : Prop where
  queue : session'.queue = session.queue
  counted : session.Counted → session'.Counted
  completed : session.completed = true → session'.completed = true

/-- A session object with the events it was given and the ones it gave. -/
structure Booked (accepted returned : List TerminalWebRtcEvent) (session : TerminalSession) :
    Prop where
  balance : returned ++ session.queue = accepted
  last : ∀ before after, accepted = before ++ .done :: after → after = []
  completed : .done ∈ accepted → session.completed = true
  counted : session.Counted
  items : session.queue.length ≤ maxEventQueueItems
  size : session.queuedBytes ≤ maxEventQueueBytes
  /-- Counting an event once more never throws. -/
  counts : ∀ event ∈ accepted, eventCost event = .ok (terminalEventCost event)

namespace Booked

variable {given taken : List TerminalWebRtcEvent} {session session' : TerminalSession}

theorem kept (booked : Booked given taken session) (same : QueueKept session session') :
    Booked given taken session' := by
  have counted := same.counted booked.counted
  refine ⟨?_, booked.last, fun mem => same.completed (booked.completed mem), counted, ?_, ?_,
    booked.counts⟩
  · rw [same.queue]
    exact booked.balance
  · rw [same.queue]
    exact booked.items
  · have before : session.queuedBytes = (session.queue.map terminalEventCost).sum := booked.counted
    have after : session'.queuedBytes = (session'.queue.map terminalEventCost).sum := counted
    rw [after, same.queue, ← before]
    exact booked.size

theorem queued {event : TerminalWebRtcEvent} (booked : Booked given taken session)
    (going : session.completed = false) (room : session.queue.length < maxEventQueueItems)
    (fits : session.queuedBytes + terminalEventCost event ≤ maxEventQueueBytes)
    (queue : session'.queue = session.queue ++ [event])
    (queuedBytes : session'.queuedBytes = session.queuedBytes + terminalEventCost event)
    (completed : event = .done → session'.completed = true)
    (counts : eventCost event = .ok (terminalEventCost event)) :
    Booked (given ++ [event]) taken session' := by
  have undone : .done ∉ given := fun mem => by
    cases going.symm.trans (booked.completed mem)
  refine ⟨?_, fun before after same => ?_, fun mem => ?_, ?_, ?_, ?_, fun other mem => ?_⟩
  · rw [queue, ← append_assoc, booked.balance]
  · rcases eq_nil_or_concat after with none | ⟨after, final, rfl⟩
    · exact none
    · have same : given ++ [event] = (before ++ .done :: after) ++ [final] := by
        rw [same, concat_eq_append, append_assoc]
        rfl
      have inside := (append_inj' same rfl).1
      exact absurd (inside ▸ mem_append_right _ mem_cons_self) undone
  · rcases mem_append.mp mem with mem | mem
    · exact absurd mem undone
    · exact completed (mem_singleton.mp mem).symm
  · change session'.queuedBytes = (session'.queue.map terminalEventCost).sum
    have counted : session.queuedBytes = (session.queue.map terminalEventCost).sum := booked.counted
    rw [queuedBytes, queue, map_append, sum_append, counted]
    rfl
  · rw [queue, length_append]
    exact room
  · rw [queuedBytes]
    exact fits
  · rcases mem_append.mp mem with mem | mem
    · exact booked.counts other mem
    · cases mem_singleton.mp mem
      exact counts

theorem drained (booked : Booked given taken session) :
    Booked given (taken ++ session.queue) { session with queue := [], queuedBytes := 0 } :=
  ⟨by rw [append_nil]; exact booked.balance, booked.last, booked.completed, rfl,
    Nat.zero_le _, Nat.zero_le _, booked.counts⟩

theorem popped {event : TerminalWebRtcEvent} {rest : List TerminalWebRtcEvent}
    (booked : Booked given taken session) (queue : session.queue = event :: rest) :
    Booked given (taken ++ [event]) { session with
      queue := rest
      queuedBytes := session.queuedBytes - terminalEventCost event } := by
  have balance := booked.balance
  have items := booked.items
  have counted : session.queuedBytes = (session.queue.map terminalEventCost).sum := booked.counted
  have size := booked.size
  rw [queue] at balance items
  rw [queue, map_cons, sum_cons] at counted
  refine ⟨?_, booked.last, booked.completed, ?_, Nat.le_of_succ_le items, ?_, booked.counts⟩
  · rw [append_assoc]
    exact balance
  · change session.queuedBytes - terminalEventCost event = (rest.map terminalEventCost).sum
    omega
  · exact (Nat.sub_le _ _).trans size

end Booked

/-! ## What steps do to a queue -/

namespace QueueKept

theorem refl (session : TerminalSession) : QueueKept session session :=
  ⟨rfl, id, id⟩

theorem of_drift {heard : Prop} {session session' : TerminalSession}
    (drift : SessionDrift heard session session') (unheard : ¬ heard) :
    QueueKept session session' := by
  obtain ⟨events, queued, hears, _⟩ := drift.queue
  refine ⟨?_, drift.counted, drift.completed⟩
  have none : events = [] := by
    by_contra more
    exact unheard (hears more)
  rw [queued, none, append_nil]

end QueueKept

/-- The queues of all session objects are left alone, though new objects may come. -/
def Quiet (first last : ExperimentalTerminalWebRtcTakeover) : Prop :=
  ∀ key : Nat, Option.Rel QueueKept first.objects[key]? last.objects[key]?

theorem quiet_of_same (same : last.objects = first.objects) : Quiet first last := by
  intro key
  rw [same]
  cases first.objects[key]? with
  | none => exact .none
  | some session => exact .some (.refl session)

theorem quiet_of_drift {heard : Prop} (drift : Drift heard first last) (unheard : ¬ heard) :
    Quiet first last := by
  intro key
  have drifts := drift.objects key
  generalize first.objects[key]? = before at drifts
  generalize last.objects[key]? = after at drifts
  cases drifts with
  | none => exact .none
  | some drifts => exact .some (.of_drift drifts unheard)

theorem quiet_modify {f : TerminalSession → TerminalSession}
    (objects : last.objects = first.objects.modify key f)
    (keeps : ∀ session, QueueKept session (f session)) : Quiet first last := by
  intro other
  rw [objects, getElem?_modify]
  cases first.objects[other]? with
  | none => exact .none
  | some session =>
      refine .some ?_
      split
      · exact keeps session
      · exact .refl session

/-- The books of the session object with a key, or of none yet. -/
def Books (key : Nat) (given taken : List TerminalWebRtcEvent)
    (takeover : ExperimentalTerminalWebRtcTakeover) : Prop :=
  match takeover.objects[key]? with
  | none => given = [] ∧ taken = []
  | some session => Booked given taken session

section Books

variable {given taken : List TerminalWebRtcEvent}

theorem Books.quiet (books : Books key given taken first) (quiet : Quiet first last) :
    Books key given taken last := by
  have kept := quiet key
  unfold Books at books ⊢
  generalize first.objects[key]? = before at kept books
  generalize last.objects[key]? = after at kept
  cases kept with
  | none => exact books
  | some kept => exact Booked.kept books kept

/-- The books of a stored session object, before and after it is replaced. -/
theorem Books.set {given' taken' : List TerminalWebRtcEvent} {session session' : TerminalSession}
    (books : Books key given taken first) (found : first.objects[key]? = some session)
    (stored : last.objects = first.objects.set key session')
    (booked : Booked given taken session → Booked given' taken' session') :
    Books key given' taken' last := by
  unfold Books at books ⊢
  rw [found] at books
  have there : last.objects[key]? = some session' := by
    rw [stored, getElem?_set_self (List.getElem?_eq_some_iff.mp found).1]
  rw [there]
  exact booked books

/-- Another session object is replaced. -/
theorem Books.set_ne {other : Nat} {session' : TerminalSession} (books : Books key given taken first)
    (ne : other ≠ key) (stored : last.objects = first.objects.set other session') :
    Books key given taken last := by
  unfold Books at books ⊢
  rw [stored, getElem?_set_ne ne]
  exact books

end Books

/-! ## Messages -/

/-- The session object with an event more. -/
structure EventTaken (event : TerminalWebRtcEvent) (session session' : TerminalSession) : Prop where
  going : session.completed = false
  room : session.queue.length < maxEventQueueItems
  fits : session.queuedBytes + terminalEventCost event ≤ maxEventQueueBytes
  queue : session'.queue = session.queue ++ [event]
  queuedBytes : session'.queuedBytes = session.queuedBytes + terminalEventCost event
  completed : event = .done → session'.completed = true
  counts : eventCost event = .ok (terminalEventCost event)

theorem listens_going {session : TerminalSession}
    (listens : takeover.listens key generation session = true) : session.completed = false := by
  unfold ExperimentalTerminalWebRtcTakeover.listens at listens
  simp only [Bool.and_eq_true, Bool.not_eq_true'] at listens
  exact listens.1.1.1.1.2

/-- A message leaves every queue alone, or its event is taken by its session object. -/
theorem acceptMessage_taken :
    match takeover.accepts config key generation message with
    | none => Quiet takeover (takeover.acceptMessage config key generation message)
    | some event => ∃ session session', takeover.objects[key]? = some session ∧
        (takeover.acceptMessage config key generation message).objects =
          takeover.objects.set key session' ∧ EventTaken event session session' := by
  have faults : ∀ session : TerminalSession, Quiet takeover (takeover.faultSession key session) :=
    fun session => quiet_of_drift ((Drift.refl False takeover).faultSession key session) id
  unfold accepts acceptMessage
  cases found : takeover.objects[key]? with
  | none => exact quiet_of_same rfl
  | some session =>
      dsimp only [Option.bind]
      by_cases deaf : takeover.listens key generation session = false
      · rw [if_pos deaf, if_pos deaf]
        exact quiet_of_same rfl
      · rw [if_neg deaf, if_neg deaf]
        cases parsed : config.parse message with
        | none => exact faults session
        | some value =>
            dsimp only [Option.map]
            cases parse : parseTerminalEvent value with
            | error error => exact quiet_of_same rfl
            | ok event =>
                cases event with
                | none => exact faults session
                | some event =>
                    dsimp only
                    by_cases full : maxEventQueueItems ≤ session.queue.length
                        ∨ maxEventQueueBytes < session.queuedBytes + terminalEventCost event
                    · rw [if_pos full, if_pos full]
                      exact faults session
                    · rw [if_neg full, if_neg full]
                      obtain ⟨room, fits⟩ := not_or.mp full
                      obtain ⟨fields, rfl⟩ := parse_object fun none => (by cases parse.symm.trans none)
                      obtain ⟨session', stored, queue, queuedBytes, _, completed⟩ :=
                        queueEvent_stored event found
                      exact ⟨session, session', rfl, stored,
                        ⟨listens_going (Bool.eq_true_of_not_eq_false deaf), Nat.lt_of_not_le room,
                          Nat.le_of_not_lt fits, queue, queuedBytes, completed,
                          eventCost_eq (parse_event_iff.mp parse)⟩⟩

/-- A message of a runtime is booked for the session object of the runtime. -/
theorem Books.peer {given taken : List TerminalWebRtcEvent} {runtime : Nat}
    {active : ActiveRuntime} (books : Books key given taken takeover)
    (running : takeover.runtime.runtimes[runtime]? = some active) (text : String) :
    Books key (given ++ takeover.accepted config key (.network (.peer runtime (.message text)))) taken
      (takeover.onPeer config runtime active (.message text)) := by
  unfold accepted
  dsimp only
  rw [running]
  dsimp only
  unfold onPeer
  dsimp only
  by_cases quiet : active.channel = none ∨ active.inputEnabled = false ∨ active.closing
  · rw [if_pos quiet, if_neg fun passed => passed.2.1 quiet, append_nil]
    exact books
  · rw [if_neg quiet]
    by_cases large : maxChannelMessageBytes < utf8Length text
    · rw [if_pos large, if_neg fun passed => Nat.not_lt.mpr passed.2.2 large, append_nil]
      exact books.quiet (quiet_of_drift ((((Drift.refl False takeover).disableInput runtime).hookFaulted
        _ _).beginRevoke _ fun _ _ _ => by rintro ⟨⟩) id)
    · rw [if_neg large]
      have event := @acceptMessage_taken config takeover active.session
        active.binding.clientGeneration text
      by_cases same : active.session = key
      · subst same
        rw [if_pos ⟨rfl, quiet, Nat.le_of_not_lt large⟩]
        cases accepts : takeover.accepts config active.session active.binding.clientGeneration text
          with
        | none =>
            rw [accepts] at event
            rw [Option.toList_none, append_nil]
            exact books.quiet event
        | some event' =>
            rw [accepts] at event
            obtain ⟨session, session', found, stored, more⟩ := event
            exact books.set found stored fun booked => booked.queued more.going more.room more.fits
              more.queue more.queuedBytes more.completed more.counts
      · rw [if_neg fun passed => same passed.1, append_nil]
        cases accepts : takeover.accepts config active.session active.binding.clientGeneration text
          with
        | none =>
            rw [accepts] at event
            exact books.quiet event
        | some event' =>
            rw [accepts] at event
            obtain ⟨session, session', found, stored, _⟩ := event
            exact books.set_ne same stored

/-- Of what the network does, only a message touches a queue. -/
theorem Books.network {given taken : List TerminalWebRtcEvent} {event : NetworkEvent}
    (books : Books key given taken first) (happens : first.network config event = some last) :
    Books key (given ++ first.accepted config key (.network event)) taken last := by
  by_cases message : ∃ runtime text, event = .peer runtime (.message text)
  · obtain ⟨runtime, text, rfl⟩ := message
    obtain ⟨active, running, rfl⟩ := Option.map_eq_some_iff.mp happens
    exact books.peer running text
  · have nothing : first.accepted config key (.network event) = [] := by
      unfold accepted
      split
      · rename_i runtime text same
        cases same
        exact absurd ⟨runtime, text, rfl⟩ message
      · rfl
    rw [nothing, append_nil]
    exact books.quiet (quiet_of_drift (network_drift happens)
      fun ⟨runtime, _, text, same, _⟩ => message ⟨runtime, text, same⟩)

/-! ## Calls -/

theorem Books.started {given taken : List TerminalWebRtcEvent} {session : TerminalSession}
    (books : Books key given taken first) (started : Started first last session) :
    Books key given taken last := by
  unfold Books at books ⊢
  by_cases inside : key < first.objects.length
  · rw [started.objects, getElem?_append_left inside]
    exact books
  · have outside := Nat.le_of_not_lt inside
    rw [getElem?_eq_none outside] at books
    obtain ⟨rfl, rfl⟩ := books
    rw [started.objects, getElem?_append_right outside, getElem?_singleton]
    by_cases here : key - first.objects.length = 0
    · rw [if_pos here]
      -- A new session object has nothing to account for.
      refine ⟨started.queue, fun before after same => ?_, fun no => (by cases no), ?_, ?_, ?_,
        fun _ no => by cases no⟩
      · cases before <;> cases same
      · unfold TerminalSession.Counted
        rw [started.queue, started.queuedBytes]
        rfl
      · rw [started.queue]
        exact Nat.zero_le _
      · rw [started.queuedBytes]
        exact Nat.zero_le _
    · rw [if_neg here]
      exact ⟨rfl, rfl⟩

theorem drainEvents_spec (interventionId : String) (epoch : Int) :
    Ensures (drainEvents interventionId epoch) takeover fun result after =>
      match result with
      | .error _ => after = takeover
      | .ok events => ∃ key session, takeover.current? interventionId epoch = some (key, session) ∧
          events = session.queue ∧
          after = takeover.modify key fun session => { session with queue := [], queuedBytes := 0 } := by
  apply ensures_requireIntervention
  · exact fun _ => rfl
  intro key session current
  apply Ensures.updating
  exact .pure ⟨key, session, current, rfl, rfl⟩

theorem releaseCompleted_objects (interventionId : String) (epoch : Int) :
    Ensures (releaseCompleted interventionId epoch) takeover fun _ after =>
      after.objects = takeover.objects := by
  apply ensures_requireIntervention
  · exact fun _ => rfl
  intro key session current
  apply Ensures.require
  · exact fun _ => rfl
  · exact fun _ => .update rfl

/-- A call that neither starts a session nor takes events leaves every queue alone. -/
theorem call_quiet {op : TransportOp} (others : ∀ interventionId epoch,
      op ≠ .drainEvents interventionId epoch ∧ op ≠ .nextEvent interventionId epoch ∧
      ∀ principalBinding, op ≠ .start interventionId epoch principalBinding) :
    Quiet takeover (takeover.call config op) := by
  cases op with
  | start interventionId epoch principalBinding =>
      exact absurd rfl ((others interventionId epoch).2.2 principalBinding)
  | drainEvents interventionId epoch => exact absurd rfl (others interventionId epoch).1
  | nextEvent interventionId epoch => exact absurd rfl (others interventionId epoch).2.1
  | status interventionId epoch =>
      exact quiet_of_same (congrArg objects (status_spec interventionId epoch))
  | activateHuman interventionId epoch =>
      have quiet : Ensures (activateHuman interventionId epoch) takeover fun _ after =>
          Quiet takeover after := by
        apply (activateHuman_spec interventionId epoch).mono
        rintro (_ | _) after called
        · exact quiet_of_same (congrArg objects called)
        · obtain ⟨key, session, runtime, _, same⟩ := called
          exact quiet_modify (congrArg objects same) fun _ => ⟨rfl, .of_same rfl rfl, id⟩
      exact quiet
  | fenceHuman interventionId epoch =>
      have quiet : Ensures (fenceHuman interventionId epoch) takeover fun _ after =>
          Quiet takeover after := by
        apply (fenceHuman_spec interventionId epoch).mono
        rintro (_ | _) after called
        · exact quiet_of_same (congrArg objects called)
        · obtain ⟨key, session, _, same⟩ := called
          exact quiet_modify (congrArg objects same) fun _ => ⟨rfl, .of_same rfl rfl, id⟩
      exact quiet
  | noteTransportDisconnect interventionId epoch generation =>
      exact quiet_of_drift ((Drift.refl False takeover).noteTransportDisconnect _ _ _) id
  | releaseCompleted interventionId epoch =>
      exact quiet_of_same (releaseCompleted_objects interventionId epoch)
  | revoke interventionId epoch =>
      have quiet : Ensures (revoke interventionId epoch) takeover fun _ after =>
          Quiet takeover after := by
        apply (revoke_spec interventionId epoch).mono
        rintro (_ | _) after called
        · exact quiet_of_same (congrArg objects called)
        · obtain ⟨key, session, _, same⟩ := called
          exact quiet_modify (congrArg objects same) fun _ => ⟨rfl, .of_same rfl rfl, id⟩
      exact quiet

/-- What a call returns of a queue is booked as returned. -/
theorem Books.call {given taken : List TerminalWebRtcEvent} (books : Books key given taken takeover)
    (op : TransportOp) :
    Books key given (taken ++ takeover.returned key (.call op)) (takeover.call config op) := by
  cases op with
  | start interventionId epoch principalBinding =>
      have started : Ensures (start config interventionId epoch principalBinding) takeover
          fun _ after => Books key given taken after := by
        apply (start_spec interventionId epoch principalBinding).mono
        rintro (_ | _) after called
        · obtain ⟨sessions, rfl⟩ := called
          exact books
        · obtain ⟨session, started, _⟩ := called
          exact books.started started
      rw [show takeover.returned key (.call (.start interventionId epoch principalBinding)) = [] from rfl,
        append_nil]
      exact started
  | drainEvents interventionId epoch =>
      have drained : Ensures (drainEvents interventionId epoch) takeover
          fun result after => Books key given
            (taken ++ if (takeover.current? interventionId epoch).map Prod.fst = some key then
              result.toOption.getD [] else []) after := by
        apply (drainEvents_spec interventionId epoch).mono
        rintro (_ | events) after called
        · cases called
          rw [show (Except.error _ : Except String (List TerminalWebRtcEvent)).toOption.getD [] = []
            from rfl, ite_self, append_nil]
          exact books
        · obtain ⟨key', session, current, rfl, rfl⟩ := called
          have found := (current?_some current).2.1
          rw [current, Option.map_some]
          by_cases same : key' = key
          · subst same
            rw [if_pos rfl]
            exact books.set found (modify_at _ found) Booked.drained
          · rw [if_neg fun here => same (Option.some.inj here), append_nil]
            exact books.set_ne same (modify_at _ found)
      exact drained
  | nextEvent interventionId epoch =>
      have popped : Ensures (nextEvent interventionId epoch) takeover
          fun result after => Books key given
            (taken ++ if (takeover.current? interventionId epoch).map Prod.fst = some key then
              (result.toOption.getD none).toList else []) after := by
        apply (nextEvent_spec interventionId epoch).mono
        rintro (_ | _ | event) after called
        · cases called
          rw [show ((Except.error _ : Except String (Option TerminalWebRtcEvent)).toOption.getD
            none).toList = [] from rfl, ite_self, append_nil]
          exact books
        · cases called
          rw [show ((Except.ok none : Except String (Option TerminalWebRtcEvent)).toOption.getD
            none).toList = [] from rfl, ite_self, append_nil]
          exact books
        · obtain ⟨key', session, rest, current, queued, rfl⟩ := called
          have found := (current?_some current).2.1
          rw [current, Option.map_some]
          by_cases same : key' = key
          · subst same
            rw [if_pos rfl]
            exact books.set found (modify_at _ found) fun booked => booked.popped queued
          · rw [if_neg fun here => same (Option.some.inj here), append_nil]
            exact books.set_ne same (modify_at _ found)
      exact popped
  | status | activateHuman | fenceHuman | noteTransportDisconnect | releaseCompleted | revoke =>
      rw [show takeover.returned key _ = [] from rfl, append_nil]
      exact books.quiet (call_quiet fun _ _ => ⟨nofun, nofun, nofun⟩)

theorem step_books {given taken : List TerminalWebRtcEvent} {event : TransportEvent}
    (step : Step config first event last) (books : Books key given taken first) :
    Books key (given ++ first.accepted config key event) (taken ++ first.returned key event) last := by
  cases event with
  | call op =>
      cases step
      rw [show first.accepted config key (.call op) = [] from rfl, append_nil]
      exact books.call op
  | network event =>
      rw [show first.returned key (.network event) = [] from rfl, append_nil]
      exact books.network step

theorem run_books {given taken : List TerminalWebRtcEvent} {events : List TransportEvent}
    (run : Run (Step config) first events last) (books : Books key given taken first) :
    Books key (given ++ (accounts config key first events).1)
      (taken ++ (accounts config key first events).2) last := by
  induction run generalizing given taken with
  | refl takeover =>
      rw [show accounts config key takeover [] = ([], []) from rfl, append_nil, append_nil]
      exact books
  | step head _ ih =>
      unfold accounts
      rw [show next config _ _ = some _ from head]
      dsimp only
      rw [← append_assoc, ← append_assoc]
      exact ih (step_books head books)

/-- In every reached state, what was returned of a session's events and what is queued make up what
was accepted, in order; nothing was accepted after a Done; and the byte counter is the cost of a
queue that is within its limits. -/
theorem run_queue_accounted {events : List TransportEvent} {session : TerminalSession}
    (run : Run (Step config) initial events takeover)
    (found : takeover.objects[key]? = some session) :
    Booked (accounts config key initial events).1 (accounts config key initial events).2 session := by
  have books : Books key [] [] initial := ⟨rfl, rfl⟩
  have last := run_books run books
  unfold Books at last
  rw [found] at last
  exact last

/-! ## A sample queue -/

/-- The connected peer says Done, and the owner takes the event. -/
def sampleTaken : List TransportEvent :=
  sampleListening ++ [.network (.peer 0 (.message "\x7b\"kind\":\"done\"\x7d")),
    .call (.nextEvent "intervention" 1)]

theorem sampleTaken_accounted :
    ∃ takeover session, Run (Step sampleTransport) initial sampleTaken takeover ∧
      takeover.objects[0]? = some session ∧ Booked [.done] [.done] session := by
  have executed : (execute (next sampleTransport) initial sampleTaken).bind
      (fun takeover => takeover.objects[0]?.map TerminalSession.completed) = some true := by
    decide +kernel
  have accounted : accounts sampleTransport 0 initial sampleTaken = ([.done], [.done]) := by
    decide +kernel
  obtain ⟨takeover, executed, completed⟩ := Option.bind_eq_some_iff.mp executed
  obtain ⟨session, found, _⟩ := Option.map_eq_some_iff.mp completed
  have run := (run_iff_execute _ _ _ _).mpr executed
  have booked := run_queue_accounted run found
  rw [accounted] at booked
  exact ⟨takeover, session, run, found, booked⟩

end ExperimentalTerminalWebRtcTakeover

end ExecutionHandoff.Experimental
